import Mathlib.Data.List.Forall2
import Reassembly.Proofs.Pool.LedgerEndings

/-!
# The size cap

A message holds the first bytes of what its packets brought, up to the size cap, and is
marked as truncated if and only if they brought more.  The packet that reaches the cap is
the last: the call that takes it in dispatches the message as completed, so there is room
left under the cap whenever a packet is appended.
-/

set_option autoImplicit false

namespace Reassembly

/-- A packet as a message records it: nothing but the payload may be cut. -/
def Packet.RecordedAs (given recorded : Packet) : Prop :=
  ∃ room, recorded = { given with payload := given.payload.take room }

/-- A message holds what the given packets bring, cut at a size cap. -/
structure Message.CutAt (maxSize : Nat) (given : List Packet) (message : Message) : Prop where
  packets : List.Forall₂ Packet.RecordedAs given message.packets
  data : message.data = (given.flatMap Packet.payload).take maxSize
  length : message.length = message.data.length
  truncated : message.stats.truncated = true ↔
    maxSize < (given.flatMap Packet.payload).length

namespace Message.CutAt

variable {maxSize : Nat} {given : List Packet} {message : Message}

theorem opened (maxSize : Nat) (direction : Direction) (packet : Packet) :
    (Message.opened direction packet).CutAt maxSize [] where
  packets := .nil
  data := List.take_nil.symm
  length := rfl
  truncated := by simp [Message.opened, Message.empty]

theorem length_eq (cut : message.CutAt maxSize given) :
    message.length = min maxSize (given.flatMap Packet.payload).length := by
  rw [cut.length, cut.data, List.length_take]

theorem markTimedOut (cut : message.CutAt maxSize given) :
    message.markTimedOut.CutAt maxSize given where
  packets := cut.packets
  data := cut.data
  length := cut.length
  truncated := cut.truncated

theorem grown (cut : message.CutAt maxSize given) (packet : Packet) :
    (Pool.grown maxSize message packet).CutAt maxSize (given ++ [packet]) := by
  have filled := cut.length_eq
  have joined : (given ++ [packet]).flatMap Packet.payload =
      given.flatMap Packet.payload ++ packet.payload := by
    rw [List.flatMap_append, List.flatMap_singleton]
  constructor
  case packets =>
      rw [Pool.grown_packets]
      exact List.rel_append cut.packets (.cons ⟨_, rfl⟩ .nil)
  case data =>
      -- a message shorter than its payload has reached the cap: no room is left either way
      have room : maxSize - message.length =
          maxSize - (given.flatMap Packet.payload).length := by omega
      rw [Pool.grown_data, joined, List.take_append, cut.data, room]
  case length =>
      rw [Pool.grown_length, Pool.grown_data, List.length_append, cut.length]
  case truncated =>
      rw [Pool.grown_truncated, joined, List.length_append, Bool.or_eq_true, cut.truncated,
        decide_eq_true_eq]
      omega

theorem foldl_grown (cut : message.CutAt maxSize given) (packets : List Packet) :
    (packets.foldl (Pool.grown maxSize) message).CutAt maxSize (given ++ packets) := by
  induction packets generalizing message given with
  | nil => rwa [List.append_nil]
  | cons packet rest ih =>
      have longer := ih (cut.grown packet)
      rwa [List.append_assoc] at longer

end Message.CutAt

theorem Life.message_cutAt (maxSize : Nat) (life : Life) :
    (life.message maxSize).CutAt maxSize life.packets :=
  (Message.CutAt.opened maxSize life.direction life.opener).foldl_grown life.packets

theorem Ended.message_cutAt (maxSize : Nat) (ended : Ended) :
    (ended.message maxSize).CutAt maxSize ended.life.packets := by
  have cut := ended.life.message_cutAt maxSize
  obtain ⟨life, termination, time, place⟩ := ended
  cases termination with
  | completed => exact cut
  | reset => exact cut
  | timedOut => exact cut.markTimedOut

theorem Life.Open.hasRoom {pool : Pool} {life : Life} (stays : life.Open pool) :
    (life.message pool.limits.maxSize).HasRoom pool.limits.maxSize :=
  Message.hasRoom stays.length_lt (life.message_cutAt pool.limits.maxSize).length

theorem Ended.Lawful.completed_of_full {pool : Pool} {ended : Ended}
    (lawful : ended.Lawful pool) (full : pool.limits.maxSize ≤ ended.life.payload.length) :
    ended.termination = .completed := by
  have closed : ¬ended.life.Open pool := by
    intro stays
    exact Nat.not_lt.mpr full stays.payload_length_lt
  obtain ⟨life, termination, time, place⟩ := ended
  cases termination with
  | completed => rfl
  | reset => exact absurd lawful closed
  | timedOut => exact absurd lawful closed

namespace Pool

/-- Every message of a run is cut at the size cap and at no other place: a tracked message has
not reached it, a dispatched one reached it with its last packet or not at all, and with that
packet it was completed.  Whenever a packet is appended there is room under the cap. -/
structure Capped (pool : Pool) (actions : List Action) (ledger : Ledger) : Prop
    extends Traces pool actions ledger where
  live : ∀ life ∈ ledger.live,
    (life.message pool.limits.maxSize).CutAt pool.limits.maxSize life.packets ∧
      life.payload.length < pool.limits.maxSize
  ended : ∀ ended ∈ ledger.ended,
    (ended.delivery pool).message.CutAt pool.limits.maxSize ended.life.packets
  below : ∀ life ∈ ledger.lives, ∀ count, count < life.given.length →
    (life.upTo count).payload.length < pool.limits.maxSize
  full : ∀ ended ∈ ledger.ended, pool.limits.maxSize ≤ ended.life.payload.length →
    (ended.delivery pool).message.length = pool.limits.maxSize ∧
      ended.termination = .completed ∧ ended.life.places.getLast? = some ended.place
  room : ∀ life ∈ ledger.lives, ∀ count, count < life.given.length →
    ((life.upTo count).message pool.limits.maxSize).HasRoom pool.limits.maxSize

theorem ledger_capped (pool : Pool) (actions : List Action)
    (fits : pool.Schedulable (pool.after actions).clock) :
    pool.Capped actions (pool.ledger actions) := by
  have lawful := ledger_lawful fits
  have opens := ledger_upTo_open fits
  constructor
  case toTraces => exact ledger_traces fits
  case live =>
      intro life member
      exact ⟨life.message_cutAt _, (lawful.live life member).payload_length_lt⟩
  case ended =>
      intro ended _
      exact ended.message_cutAt _
  case below =>
      intro life member count inside
      exact (opens life member count inside).payload_length_lt
  case full =>
      intro ended member reached
      have completed := (lawful.ended ended member).completed_of_full reached
      obtain ⟨action, -, due⟩ := pool.ledger_due actions ended member
      rw [Ended.Due, completed] at due
      have length := (ended.message_cutAt pool.limits.maxSize).length_eq
      exact ⟨length.trans (Nat.min_eq_left reached), completed, due⟩
  case room =>
      intro life member count inside
      exact (opens life member count inside).hasRoom

theorem ledger_capped_varied :
    (hasty.ledger varied).ended.map (fun ended =>
        ((ended.delivery hasty).message.data, (ended.delivery hasty).message.stats.truncated)) =
      [([1, 2, 3, 4], true), ([1, 2, 3, 4], false), ([1, 9], false), ([1], false), ([2], false)] ∧
      hasty.Capped varied (hasty.ledger varied) := by
  refine ⟨by decide +kernel, ledger_capped hasty varied ?_⟩
  decide +kernel

end Pool

end Reassembly
