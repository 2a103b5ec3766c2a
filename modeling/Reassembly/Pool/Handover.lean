import Reassembly.Pool.Intake

/-!
# Handing messages over

Every message that is opened gets a watcher, and a channel leads from the message's flow in the
registry to it.  A producer holds the registry while it takes a packet in.  It hands a message
that has ended over through the channel and keeps the registry until the watcher has
acknowledged.  A watcher whose deadline has passed queues for the registry to take the message
under its key out itself; as long as it queues, a parcel in its channel still comes first.

The steps of the producer and of all watchers are interleaved here in any order, and a producer
may open, extend and hand over whatever it finds.  A message is named by the number of its
opening, and so are its watcher and the channel that leads there.
-/

set_option autoImplicit false

namespace Reassembly

/-- A message that has left the registry on its way to a watcher. -/
structure Parcel where
  origin : Nat
  message : Message
  termination : Termination
  deriving DecidableEq

inductive Channel where
  | empty
  | holds (parcel : Parcel)
  /-- Nothing will come any more. -/
  | closed
  deriving DecidableEq

inductive Phase where
  | waiting
  | queueing
  /-- The watcher owns a message and passes it to the handler. -/
  | claimed
  | ended
  deriving DecidableEq

structure Watcher where
  key : SessionKey
  deadline : Nat
  phase : Phase
  channel : Channel
  deriving DecidableEq

namespace Watcher

/-- A watcher takes a parcel in while it waits and while it queues. -/
def Listens (watcher : Watcher) : Prop :=
  watcher.phase = .waiting ∨ watcher.phase = .queueing

instance (watcher : Watcher) : Decidable watcher.Listens :=
  inferInstanceAs (Decidable (_ ∨ _))

def queue (watcher : Watcher) : Watcher :=
  { watcher with phase := .queueing }

def receive (watcher : Watcher) (parcel : Parcel) : Watcher :=
  { watcher with channel := .holds parcel }

def claim (watcher : Watcher) : Watcher :=
  { watcher with phase := .claimed, channel := .closed }

def finish (watcher : Watcher) : Watcher :=
  { watcher with phase := .ended, channel := .closed }

def shut (watcher : Watcher) : Watcher :=
  match watcher.channel with
  | .empty => { watcher with channel := .closed }
  | _ => watcher

end Watcher

inductive Holder where
  | nobody
  | producer
  /-- A producer that has sent a parcel to a watcher and waits for its acknowledgement. -/
  | awaiting (number : Nat)
  | acknowledged (number : Nat)
  | watcher (number : Nat)
  deriving DecidableEq

namespace Holder

/-- A watcher that stops queueing gives the registry back if it has just got it. -/
def leave (number : Nat) : Holder → Holder
  | .watcher other => if other = number then .nobody else .watcher other
  | holder => holder

/-- A watcher acknowledges a parcel; nobody may be waiting for it. -/
def acknowledge (number : Nat) : Holder → Holder
  | .awaiting other => if other = number then .acknowledged number else .awaiting other
  | holder => holder.leave number

end Holder

structure Claim where
  watcher : Nat
  /-- The number of the message. -/
  origin : Nat
  key : SessionKey
  message : Message
  termination : Termination
  deriving DecidableEq

structure Handover where
  registry : Registry
  /-- The number of the message that is filed under a key, where there is one. -/
  filed : SessionKey → Nat
  watchers : List Watcher
  holder : Holder
  claims : List Claim

namespace Handover

def start : Handover :=
  ⟨.empty, fun _ => 0, [], .nobody, []⟩

inductive Step (pool : Pool) : Handover → Handover → Prop
  | passes (state : Handover) (nanos : Nat) :
      Step pool state
        { state with registry := { state.registry with clock := state.registry.clock + nanos } }
  | acquires (state : Handover) (free : state.holder = .nobody) :
      Step pool state { state with holder := .producer }
  /-- A packet that belongs to no message opens one, which gets a watcher. -/
  | opens (state : Handover) (direction : Direction) (packet : Packet) (deadline : Nat)
      (holds : state.holder = .producer)
      (unfiled : Pool.filedUnder? state.registry packet.src packet.dst = none)
      (named : deadlineAfter? state.registry.clock pool.limits.expiry = some deadline) :
      Step pool state
        { state with
          registry := state.registry.insert (.of direction packet.src packet.dst)
            ⟨.opened direction packet, some deadline⟩
          filed := fun key =>
            if key = .of direction packet.src packet.dst then state.watchers.length
            else state.filed key
          watchers := state.watchers ++
            [⟨.of direction packet.src packet.dst, deadline, .waiting, .empty⟩] }
  | grows (state : Handover) (key : SessionKey) (flow : Flow) (packet : Packet)
      (holds : state.holder = .producer) (found : state.registry.find? key = some flow) :
      Step pool state
        { state with
          registry := state.registry.insert key
            { flow with message := Pool.grown pool.limits.maxSize flow.message packet } }
  /-- The message under a key ends and goes to its watcher, which still holds its end of the
  channel. -/
  | sends (state : Handover) (key : SessionKey) (flow : Flow) (watcher : Watcher)
      (termination : Termination) (holds : state.holder = .producer)
      (found : state.registry.find? key = some flow)
      (there : state.watchers[state.filed key]? = some watcher) (alive : watcher.phase ≠ .ended) :
      Step pool state
        { state with
          registry := state.registry.erase key
          watchers := state.watchers.modify (state.filed key)
            (Watcher.receive · ⟨state.filed key, flow.message, termination⟩)
          holder := .awaiting (state.filed key) }
  /-- The watcher of an ended message is gone, and the message is lost. -/
  | loses (state : Handover) (key : SessionKey) (flow : Flow) (watcher : Watcher)
      (holds : state.holder = .producer) (found : state.registry.find? key = some flow)
      (there : state.watchers[state.filed key]? = some watcher) (gone : watcher.phase = .ended) :
      Step pool state { state with registry := state.registry.erase key }
  | resumes (state : Handover) (number : Nat) (acknowledged : state.holder = .acknowledged number) :
      Step pool state { state with holder := .producer }
  /-- The watcher is gone without an acknowledgement. -/
  | abandons (state : Handover) (number : Nat) (watcher : Watcher)
      (awaiting : state.holder = .awaiting number)
      (there : state.watchers[number]? = some watcher) (gone : watcher.phase = .ended) :
      Step pool state { state with holder := .producer }
  | releases (state : Handover) (holds : state.holder = .producer) :
      Step pool state { state with holder := .nobody }
  /-- The deadline of a watcher passes while nothing has come through its channel. -/
  | expires (state : Handover) (number : Nat) (watcher : Watcher)
      (there : state.watchers[number]? = some watcher) (waits : watcher.phase = .waiting)
      (quiet : watcher.channel = .empty)
      (due : dueTime watcher.deadline ≤ state.registry.clock) :
      Step pool state { state with watchers := state.watchers.modify number Watcher.queue }
  | grants (state : Handover) (number : Nat) (watcher : Watcher) (free : state.holder = .nobody)
      (there : state.watchers[number]? = some watcher) (queues : watcher.phase = .queueing) :
      Step pool state { state with holder := .watcher number }
  /-- A watcher takes what came through its channel, whether it still waits or queues. -/
  | claims (state : Handover) (number : Nat) (watcher : Watcher) (parcel : Parcel)
      (there : state.watchers[number]? = some watcher) (listens : watcher.Listens)
      (came : watcher.channel = .holds parcel) :
      Step pool state
        { state with
          watchers := state.watchers.modify number Watcher.claim
          holder := state.holder.acknowledge number
          claims := state.claims ++
            [⟨number, parcel.origin, watcher.key, parcel.message, parcel.termination⟩] }
  /-- A watcher whose channel has been closed has nothing to wait for. -/
  | misses (state : Handover) (number : Nat) (watcher : Watcher)
      (there : state.watchers[number]? = some watcher) (listens : watcher.Listens)
      (closed : watcher.channel = .closed) :
      Step pool state
        { state with
          watchers := state.watchers.modify number Watcher.finish
          holder := state.holder.leave number }
  /-- A watcher that has got the registry takes whatever message is filed under its key. -/
  | removes (state : Handover) (number : Nat) (watcher : Watcher) (flow : Flow)
      (holds : state.holder = .watcher number)
      (there : state.watchers[number]? = some watcher) (quiet : watcher.channel = .empty)
      (found : state.registry.find? watcher.key = some flow) :
      Step pool state
        { state with
          registry := state.registry.erase watcher.key
          watchers := (state.watchers.modify (state.filed watcher.key) Watcher.shut).modify number
            Watcher.claim
          holder := .nobody
          claims := state.claims ++
            [⟨number, state.filed watcher.key, watcher.key, flow.message.markTimedOut, .timedOut⟩] }
  | vanishes (state : Handover) (number : Nat) (watcher : Watcher)
      (holds : state.holder = .watcher number)
      (there : state.watchers[number]? = some watcher) (quiet : watcher.channel = .empty)
      (absent : state.registry.find? watcher.key = none) :
      Step pool state
        { state with
          watchers := state.watchers.modify number Watcher.finish
          holder := .nobody }
  | finishes (state : Handover) (number : Nat) (watcher : Watcher)
      (there : state.watchers[number]? = some watcher) (owns : watcher.phase = .claimed) :
      Step pool state { state with watchers := state.watchers.modify number Watcher.finish }

/-- The states that any order of steps leads to. -/
inductive Reachable (pool : Pool) : Handover → Prop
  | start : Reachable pool start
  | step {state next : Handover} (reached : Reachable pool state) (step : Step pool state next) :
      Reachable pool next

end Handover

end Reassembly
