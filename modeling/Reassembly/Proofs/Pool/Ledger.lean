import Reassembly.Proofs.Pool.Runs

/-!
# The ledger of a run

The ledger follows a run and keeps what a registry forgets.  Every message that was
ever opened has its life in it: the place in the run of the packet that opened it,
and every packet that was recorded in it, as it was given and with its place.  The
lives of tracked messages make up the registry (`ledger_registry`); the others have
ended, each in one way.
-/

set_option autoImplicit false

namespace Reassembly

/-- A message from its opening on. -/
structure Life where
  /-- The place in the run of the packet that opened the message. -/
  birth : Nat
  since : Nat
  direction : Direction
  opener : Packet
  /-- The recorded packets as they were given, each with its place in the run. -/
  given : List (Nat × Packet)
  deriving DecidableEq

namespace Life

def key (life : Life) : SessionKey :=
  .of life.direction life.opener.src life.opener.dst

def places (life : Life) : List Nat :=
  life.given.map Prod.fst

def packets (life : Life) : List Packet :=
  life.given.map Prod.snd

def message (maxSize : Nat) (life : Life) : Message :=
  life.packets.foldl (Pool.grown maxSize) (.opened life.direction life.opener)

def flow (pool : Pool) (life : Life) : Flow :=
  ⟨life.message pool.limits.maxSize, deadlineAfter? life.since pool.limits.expiry⟩

def entry (pool : Pool) (life : Life) : SessionKey × Flow :=
  (life.key, life.flow pool)

def add (life : Life) (place : Nat) (packet : Packet) : Life :=
  { life with given := life.given ++ [(place, packet)] }

end Life

/-- A life that is over: what ended it, at what time and at which place in the run. -/
structure Ended where
  life : Life
  termination : Termination
  time : Nat
  place : Nat
  deriving DecidableEq

namespace Ended

def message (maxSize : Nat) (ended : Ended) : Message :=
  match ended.termination with
  | .timedOut => (ended.life.message maxSize).markTimedOut
  | _ => ended.life.message maxSize

def delivery (pool : Pool) (ended : Ended) : Delivery :=
  ⟨ended.life.key, ended.message pool.limits.maxSize, ended.termination, ended.time⟩

/-- What the handler gets of an ended message, if a watcher was there to pass it on. -/
def delivery? (pool : Pool) (ended : Ended) : Option Delivery :=
  (ended.life.flow pool).deadline.map fun _ => ended.delivery pool

end Ended

structure Ledger where
  clock : Nat
  place : Nat
  live : List Life
  ended : List Ended
  deriving DecidableEq

namespace Ledger

def blank : Ledger := ⟨0, 0, [], []⟩

def lives (ledger : Ledger) : List Life :=
  ledger.live ++ ledger.ended.map Ended.life

def registry (pool : Pool) (ledger : Ledger) : Registry :=
  ⟨ledger.clock, ledger.live.map (Life.entry pool)⟩

def finish (ledger : Ledger) (test : Life → Bool) (termination : Termination)
    (time : Life → Nat) : Ledger :=
  { ledger with
    live := ledger.live.filter fun life => !test life
    ended := ledger.ended ++ (ledger.live.filter test).map fun life =>
      ⟨life, termination, time life, ledger.place⟩ }

def finishSide (pool : Pool) (ledger : Ledger) (src dst : Endpoint) : Ledger :=
  match Pool.filedUnder? (ledger.registry pool) src dst with
  | none => ledger
  | some key => ledger.finish (fun life => decide (life.key = key)) .reset fun _ => ledger.clock

def without (ledger : Ledger) (key : SessionKey) : List Life :=
  ledger.live.filter fun life => decide (life.key ≠ key)

def record (pool : Pool) (ledger : Ledger) (life : Life) (packet : Packet) : Ledger :=
  let longer := life.add ledger.place packet
  if pool.complete (life.message pool.limits.maxSize) packet = .ok true then
    { ledger with
      live := ledger.without life.key
      ended := ledger.ended ++ [⟨longer, .completed, ledger.clock, ledger.place⟩] }
  else { ledger with live := ledger.without life.key ++ [longer] }

def newborn (ledger : Ledger) (direction : Direction) (packet : Packet) : Life :=
  ⟨ledger.place, ledger.clock, direction, packet, []⟩

/-- Opens a life with a packet.  Where the deadline cannot be named, the packet is not
recorded. -/
def enroll (pool : Pool) (ledger : Ledger) (direction : Direction) (packet : Packet) : Ledger :=
  let life := ledger.newborn direction packet
  match (life.flow pool).deadline with
  | none => { ledger with live := ledger.without life.key ++ [life] }
  | some _ => ledger.record pool life packet

def takePacket (pool : Pool) (ledger : Ledger) (packet : Packet) : Ledger :=
  if packet.flags.rst then
    (ledger.finishSide pool packet.src packet.dst).finishSide pool packet.dst packet.src
  else
    match Pool.filedUnder? (ledger.registry pool) packet.src packet.dst with
    | some key =>
        match ledger.live.find? fun life => decide (life.key = key) with
        | some life => ledger.record pool life packet
        | none => ledger
    | none =>
        match pool.hooks.opens packet with
        | some direction => ledger.enroll pool direction packet
        | none => ledger

def expire (pool : Pool) (ledger : Ledger) (limit : Nat) : Ledger :=
  ledger.finish (fun life => (life.flow pool).dueBefore limit) .timedOut fun life =>
    dueTime ((life.flow pool).deadline.getD 0)

def turn (pool : Pool) (ledger : Ledger) : Pool.Action → Ledger
  | .take input =>
      match input.packet? with
      | some packet => ledger.takePacket pool packet
      | none => ledger
  | .elapse nanos =>
      { ledger.expire pool (ledger.clock + nanos) with clock := ledger.clock + nanos }
  | .settle => ledger.expire pool (ledger.clock + 1)

def act (pool : Pool) (ledger : Ledger) (action : Pool.Action) : Ledger :=
  { ledger.turn pool action with place := ledger.place + 1 }

end Ledger

def Pool.ledger (pool : Pool) (actions : List Pool.Action) : Ledger :=
  actions.foldl (Ledger.act pool) .blank

/-! ## Lives -/

namespace Life

@[simp] theorem key_add (life : Life) (place : Nat) (packet : Packet) :
    (life.add place packet).key = life.key := rfl

@[simp] theorem places_add (life : Life) (place : Nat) (packet : Packet) :
    (life.add place packet).places = life.places ++ [place] := by
  simp [places, add]

@[simp] theorem packets_add (life : Life) (place : Nat) (packet : Packet) :
    (life.add place packet).packets = life.packets ++ [packet] := by
  simp [packets, add]

theorem message_add (maxSize : Nat) (life : Life) (place : Nat) (packet : Packet) :
    (life.add place packet).message maxSize =
      Pool.grown maxSize (life.message maxSize) packet := by
  simp only [message, packets_add, List.foldl_append, List.foldl_cons, List.foldl_nil]
  rfl

theorem flow_add (pool : Pool) (life : Life) (place : Nat) (packet : Packet) :
    (life.add place packet).flow pool =
      { life.flow pool with
        message := Pool.grown pool.limits.maxSize (life.flow pool).message packet } := by
  simp only [flow, message_add]
  rfl

end Life

/-! ## The live messages make up the registry -/

namespace Ledger

theorem registry_without (pool : Pool) (ledger : Ledger) (key : SessionKey) :
    (ledger.without key).map (Life.entry pool) = ((ledger.registry pool).erase key).flows := by
  simp only [without, registry, Registry.erase, List.filter_map]
  rfl

theorem registry_find? (pool : Pool) (ledger : Ledger) (key : SessionKey) :
    (ledger.registry pool).find? key =
      (ledger.live.find? fun life => decide (life.key = key)).map (Life.flow pool) := by
  simp only [registry, Registry.find?]
  induction ledger.live with
  | nil => rfl
  | cons life rest ih =>
      by_cases same : life.key = key
      · simp [Registry.lookup, Life.entry, same]
      · simp [Registry.lookup, Life.entry, same, ih]

theorem live_of_find? {pool : Pool} {ledger : Ledger} {key : SessionKey} {flow : Flow}
    (found : (ledger.registry pool).find? key = some flow) :
    ∃ life, (ledger.live.find? fun life => decide (life.key = key)) = some life ∧
      life ∈ ledger.live ∧ life.key = key ∧ life.flow pool = flow := by
  rw [registry_find?] at found
  obtain ⟨life, first, own⟩ := Option.map_eq_some_iff.mp found
  have same : life.key = key := by simpa using List.find?_some first
  exact ⟨life, first, List.mem_of_find?_eq_some first, same, own⟩

theorem registry_finishSide (pool : Pool) (ledger : Ledger) (src dst : Endpoint) :
    (ledger.finishSide pool src dst).registry pool =
      (pool.resetSide (ledger.registry pool) src dst).registry := by
  unfold finishSide
  rcases pool.resetSide_cases (ledger.registry pool) src dst with
    ⟨unfiled, same⟩ | ⟨key, flow, filed, -, ended⟩
  · rw [same, unfiled]
  · rw [ended, filed]
    have others := registry_without pool ledger key
    simp only [without, decide_not] at others
    simp only [finish, registry, others]
    rfl

theorem record_of_complete {pool : Pool} {life : Life} {packet : Packet}
    (complete : pool.complete (life.flow pool).message packet = .ok true) (ledger : Ledger) :
    ledger.record pool life packet =
      { ledger with
        live := ledger.without life.key
        ended := ledger.ended ++
          [⟨life.add ledger.place packet, .completed, ledger.clock, ledger.place⟩] } :=
  if_pos complete

theorem record_of_incomplete {pool : Pool} {life : Life} {packet : Packet}
    (incomplete : pool.complete (life.flow pool).message packet ≠ .ok true) (ledger : Ledger) :
    ledger.record pool life packet =
      { ledger with live := ledger.without life.key ++ [life.add ledger.place packet] } :=
  if_neg incomplete

theorem registry_record (pool : Pool) (ledger : Ledger) (life : Life) (packet : Packet) :
    (ledger.record pool life packet).registry pool =
      (pool.append (ledger.registry pool) life.key (life.flow pool) packet).registry := by
  have others := registry_without pool ledger life.key
  by_cases complete : pool.complete (life.flow pool).message packet = .ok true
  · rw [record_of_complete complete, Pool.append_of_complete complete]
    simp only [registry, others]
    rfl
  · rw [record_of_incomplete complete, (Pool.append_of_incomplete complete _ life.key).1]
    simp only [registry, List.map_append, others, List.map_cons, List.map_nil, Life.entry,
      Life.key_add, Life.flow_add]
    rfl

theorem registry_enroll (pool : Pool) (ledger : Ledger) (direction : Direction)
    (packet : Packet) :
    (ledger.enroll pool direction packet).registry pool =
      (pool.openWith (ledger.registry pool) direction packet).registry := by
  have others := registry_without pool ledger (ledger.newborn direction packet).key
  have recorded := registry_record pool ledger (ledger.newborn direction packet) packet
  have own : (ledger.newborn direction packet).flow pool =
      ⟨.opened direction packet,
        deadlineAfter? (ledger.registry pool).clock pool.limits.expiry⟩ := rfl
  unfold enroll
  cases deadline : deadlineAfter? (ledger.registry pool).clock pool.limits.expiry with
  | none =>
      rw [Pool.openWith_of_overflow deadline]
      rw [deadline] at own
      simp only [own, registry, List.map_append, others, List.map_cons, List.map_nil, Life.entry]
      rfl
  | some time =>
      rw [Pool.openWith_of_deadline deadline]
      rw [deadline] at own
      rw [own] at recorded
      simp only [own, recorded]
      rfl

theorem registry_takePacket (pool : Pool) (ledger : Ledger) (packet : Packet) :
    (ledger.takePacket pool packet).registry pool =
      (pool.takePacket (ledger.registry pool) packet).registry := by
  have taken := pool.takes (ledger.registry pool) packet
  generalize pool.takePacket (ledger.registry pool) packet = outcome at taken
  unfold takePacket
  cases taken with
  | resets rst =>
      rw [if_pos rst, registry_finishSide, registry_finishSide]
      rfl
  | joins key flow plain filed found =>
      obtain ⟨life, first, -, own, rfl⟩ := live_of_find? found
      simp only [plain, Bool.false_eq_true, if_false, filed, first]
      rw [registry_record, own]
  | drops plain unfiled closed => simp only [plain, Bool.false_eq_true, if_false, unfiled, closed]
  | opens direction plain unfiled answer =>
      simp only [plain, Bool.false_eq_true, if_false, unfiled, answer]
      exact registry_enroll pool ledger direction packet

theorem registry_expire (pool : Pool) (ledger : Ledger) (limit : Nat) :
    (ledger.expire pool limit).registry pool =
      (pool.timeOutBefore (ledger.registry pool) limit).registry := by
  simp only [expire, finish, registry, Pool.timeOutBefore, List.filter_map]
  rfl

theorem registry_act (pool : Pool) (ledger : Ledger) (action : Pool.Action) :
    (ledger.act pool action).registry pool =
      (pool.act (ledger.registry pool) action).registry := by
  cases action with
  | take input =>
      cases brings : input.packet? with
      | none =>
          simp only [act, turn, Pool.act, brings, (Pool.take_of_packet?_eq_none brings _).1]
          rfl
      | some packet =>
          have taken := registry_takePacket pool ledger packet
          simp only [act, turn, Pool.act, brings, Pool.take_of_packet? brings, ← taken]
          rfl
  | elapse nanos =>
      have timed := registry_expire pool ledger (ledger.clock + nanos)
      exact congrArg (fun kept : Registry => { kept with clock := ledger.clock + nanos }) timed
  | settle => exact registry_expire pool ledger (ledger.clock + 1)

end Ledger

theorem Pool.ledger_concat (pool : Pool) (actions : List Pool.Action) (action : Pool.Action) :
    pool.ledger (actions ++ [action]) = (pool.ledger actions).act pool action := by
  simp [ledger]

/-- The live messages of a run's ledger are the ones that the pool tracks. -/
theorem Pool.ledger_registry (pool : Pool) (actions : List Pool.Action) :
    (pool.ledger actions).registry pool = pool.after actions := by
  induction actions using List.reverseRecOn with
  | nil => rfl
  | append_singleton actions action ih =>
      rw [ledger_concat, Ledger.registry_act, ih, after_concat]

end Reassembly
