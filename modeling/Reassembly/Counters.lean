/-!
# Counters

What a pool counts: a gauge of the messages in progress, finished messages by
what ended them, messages cut at the size cap, and captures that could not be
decoded.
-/

set_option autoImplicit false

namespace Reassembly

inductive Termination where
  /-- The size cap, the completion rule, or a FIN. -/
  | completed
  /-- An RST. -/
  | reset
  /-- The expiry. -/
  | timedOut
  deriving DecidableEq, Repr

def Termination.name : Termination → String
  | .completed => "completed"
  | .reset => "reset"
  | .timedOut => "timed_out"

inductive Tick where
  | opened
  | closed
  | dispatched (termination : Termination)
  | truncated
  | undecodable
  deriving DecidableEq, Repr

structure Counters where
  active : Int := 0
  completed : Nat := 0
  reset : Nat := 0
  timedOut : Nat := 0
  truncated : Nat := 0
  undecodable : Nat := 0
  deriving DecidableEq, Repr

namespace Counters

def activeName : String := "tcpstitch_flows_active"
def dispatchedName : String := "tcpstitch_messages_dispatched_total"
def truncatedName : String := "tcpstitch_messages_truncated_total"
def undecodableName : String := "tcpstitch_decode_errors_total"

def tick (counters : Counters) : Tick → Counters
  | .opened => { counters with active := counters.active + 1 }
  | .closed => { counters with active := counters.active - 1 }
  | .dispatched .completed => { counters with completed := counters.completed + 1 }
  | .dispatched .reset => { counters with reset := counters.reset + 1 }
  | .dispatched .timedOut => { counters with timedOut := counters.timedOut + 1 }
  | .truncated => { counters with truncated := counters.truncated + 1 }
  | .undecodable => { counters with undecodable := counters.undecodable + 1 }

def tickAll (counters : Counters) (ticks : List Tick) : Counters :=
  ticks.foldl tick counters

/-- The counters after each of a list of ticks. -/
def history (counters : Counters) : List Tick → List Counters
  | [] => []
  | next :: rest => counters.tick next :: history (counters.tick next) rest

theorem tickAll_append (counters : Counters) (first second : List Tick) :
    counters.tickAll (first ++ second) = (counters.tickAll first).tickAll second :=
  List.foldl_append

def dispatched (counters : Counters) : Termination → Nat
  | .completed => counters.completed
  | .reset => counters.reset
  | .timedOut => counters.timedOut

end Counters

end Reassembly
