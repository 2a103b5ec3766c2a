import Mathlib.Data.List.Induction
import Reassembly.Conversation
import Reassembly.Proofs.Pool.IntakeCases

/-!
# Runs of a fresh pool

A run is followed action by action: `after_concat` and `effects_concat` give what
one more action adds.  An event is run as the list of its actions, so what holds
after every list of actions holds at every point of a run of events.  The clock never
goes back, so a pool whose expiry fits behind the last clock reading of a run had it fit
behind every earlier one.  No action files a key twice (`after_unambiguous`).
-/

set_option autoImplicit false

namespace Reassembly.Pool

def after (pool : Pool) (actions : List Action) : Registry :=
  (pool.perform .empty actions).registry

def effects (pool : Pool) (actions : List Action) : List Effect :=
  (pool.perform .empty actions).effects

theorem after_concat (pool : Pool) (actions : List Action) (action : Action) :
    pool.after (actions ++ [action]) = (pool.act (pool.after actions) action).registry := by
  simp [after, perform_append, perform]

theorem effects_concat (pool : Pool) (actions : List Action) (action : Action) :
    pool.effects (actions ++ [action]) =
      pool.effects actions ++ (pool.act (pool.after actions) action).effects := by
  simp [effects, after, perform_append, perform]

def Action.packet? : Action → Option Packet
  | .take input => input.packet?
  | .elapse _ => none
  | .settle => none

/-! ## The clock -/

theorem resetSide_clock (pool : Pool) (registry : Registry) (src dst : Endpoint) :
    (pool.resetSide registry src dst).registry.clock = registry.clock := by
  rcases pool.resetSide_cases registry src dst with ⟨-, same⟩ | ⟨key, flow, -, -, ended⟩
  · rw [same]
  · rw [ended]
    exact Registry.erase_clock registry key

theorem append_clock (pool : Pool) (registry : Registry) (key : SessionKey) (flow : Flow)
    (packet : Packet) : (pool.append registry key flow packet).registry.clock = registry.clock := by
  by_cases complete : pool.complete flow.message packet = .ok true
  · rw [append_of_complete complete]
    rfl
  · rw [(append_of_incomplete complete registry key).1]
    rfl

theorem openWith_clock (pool : Pool) (registry : Registry) (direction : Direction)
    (packet : Packet) : (pool.openWith registry direction packet).registry.clock = registry.clock := by
  cases deadline : deadlineAfter? registry.clock pool.limits.expiry with
  | none =>
      rw [openWith_of_overflow deadline]
      exact Registry.insert_clock registry _ _
  | some time =>
      rw [openWith_of_deadline deadline]
      exact pool.append_clock registry _ _ packet

theorem takePacket_clock (pool : Pool) (registry : Registry) (packet : Packet) :
    (pool.takePacket registry packet).registry.clock = registry.clock := by
  have taken := pool.takes registry packet
  generalize pool.takePacket registry packet = outcome at taken
  cases taken with
  | resets rst =>
      simp only [reset]
      rw [resetSide_clock, resetSide_clock]
  | joins key flow plain filed found => exact pool.append_clock registry key flow packet
  | drops plain unfiled closed => rfl
  | opens direction plain unfiled answer => exact pool.openWith_clock registry direction packet

theorem take_clock (pool : Pool) (registry : Registry) (input : Input) :
    (pool.take registry input).registry.clock = registry.clock := by
  cases brings : input.packet? with
  | none => rw [(take_of_packet?_eq_none brings registry).1]
  | some packet => rw [take_of_packet? brings, takePacket_clock]

theorem clock_le_act (pool : Pool) (registry : Registry) (action : Action) :
    registry.clock ≤ (pool.act registry action).registry.clock := by
  cases action with
  | take input => exact Nat.le_of_eq (pool.take_clock registry input).symm
  | elapse nanos => exact Nat.le_add_right registry.clock nanos
  | settle => exact Nat.le_refl registry.clock

/-- A message that is opened at a clock reading gets a deadline: the pool's expiry can be
added to the reading. -/
def Schedulable (pool : Pool) (clock : Nat) : Prop :=
  (deadlineAfter? clock pool.limits.expiry).isSome = true

instance (pool : Pool) (clock : Nat) : Decidable (pool.Schedulable clock) :=
  inferInstanceAs (Decidable (_ = true))

theorem Schedulable.of_le {pool : Pool} {earlier later : Nat} (order : earlier ≤ later)
    (fits : pool.Schedulable later) : pool.Schedulable earlier := by
  unfold Schedulable deadlineAfter? at *
  simp only at *
  split at fits
  · rename_i below
    have within : earlier + pool.limits.expiry.totalNanos < clockHorizon := by
      omega
    rw [if_pos within]
    rfl
  · cases fits

theorem Schedulable.of_concat {pool : Pool} {actions : List Action} {action : Action}
    (fits : pool.Schedulable (pool.after (actions ++ [action])).clock) :
    pool.Schedulable (pool.after actions).clock := by
  rw [after_concat] at fits
  exact fits.of_le (pool.clock_le_act (pool.after actions) action)

/-! ## No key is filed twice -/

theorem resetSide_unambiguous {registry : Registry} (unambiguous : registry.Unambiguous)
    (pool : Pool) (src dst : Endpoint) :
    (pool.resetSide registry src dst).registry.Unambiguous := by
  rcases pool.resetSide_cases registry src dst with ⟨-, same⟩ | ⟨key, flow, -, -, ended⟩
  · rw [same]
    exact unambiguous
  · rw [ended]
    exact Registry.erase_unambiguous unambiguous key

theorem append_unambiguous {registry : Registry} (unambiguous : registry.Unambiguous)
    (pool : Pool) (key : SessionKey) (flow : Flow) (packet : Packet) :
    (pool.append registry key flow packet).registry.Unambiguous := by
  by_cases complete : pool.complete flow.message packet = .ok true
  · rw [append_of_complete complete]
    exact Registry.erase_unambiguous unambiguous key
  · rw [(append_of_incomplete complete registry key).1]
    exact Registry.insert_unambiguous unambiguous key _

theorem openWith_unambiguous {registry : Registry} (unambiguous : registry.Unambiguous)
    (pool : Pool) (direction : Direction) (packet : Packet) :
    (pool.openWith registry direction packet).registry.Unambiguous := by
  cases deadline : deadlineAfter? registry.clock pool.limits.expiry with
  | none =>
      rw [openWith_of_overflow deadline]
      exact Registry.insert_unambiguous unambiguous _ _
  | some time =>
      rw [openWith_of_deadline deadline]
      exact append_unambiguous unambiguous pool _ _ packet

theorem takePacket_unambiguous {registry : Registry} (unambiguous : registry.Unambiguous)
    (pool : Pool) (packet : Packet) :
    (pool.takePacket registry packet).registry.Unambiguous := by
  have taken := pool.takes registry packet
  generalize pool.takePacket registry packet = outcome at taken
  cases taken with
  | resets rst =>
      exact resetSide_unambiguous (resetSide_unambiguous unambiguous pool _ _) pool _ _
  | joins key flow plain filed found => exact append_unambiguous unambiguous pool key flow packet
  | drops plain unfiled closed => exact unambiguous
  | opens direction plain unfiled answer =>
      exact openWith_unambiguous unambiguous pool direction packet

theorem act_unambiguous {registry : Registry} (unambiguous : registry.Unambiguous)
    (pool : Pool) (action : Action) : (pool.act registry action).registry.Unambiguous := by
  cases action with
  | take input =>
      simp only [act]
      cases brings : input.packet? with
      | none =>
          rw [(take_of_packet?_eq_none brings registry).1]
          exact unambiguous
      | some packet =>
          rw [take_of_packet? brings]
          exact takePacket_unambiguous unambiguous pool packet
  | elapse nanos => exact unambiguous.sublist (List.filter_sublist.map Prod.fst)
  | settle => exact unambiguous.sublist (List.filter_sublist.map Prod.fst)

theorem after_unambiguous (pool : Pool) (actions : List Action) :
    (pool.after actions).Unambiguous :=
  pool.perform_invariant Registry.Unambiguous
    (fun _ action unambiguous => act_unambiguous unambiguous pool action) .empty actions
    List.nodup_nil

/-! ## A pool and a run to try -/

/-- A pool whose completion rule fails on one message and whose handler on another. -/
def touchy : Pool :=
  let rule : EndDetector := fun message =>
    if message.data = [0] then .error .unreadable else .ok false
  (Builder.new.choose (.finish rule)).build fun message =>
    if message.length = 0 then some .unreadable else none

def nearby (host : UInt8) : Endpoint :=
  .v4 ⟨#v[10, 0, 0, host]⟩ 80

/-- A request that is completed, a response that times out, a straggler, a reset between
strangers, and a second request. -/
def brief : List Action :=
  let talk : Conversation := ⟨nearby 1, nearby 2⟩
  let strangers : Conversation := ⟨nearby 3, nearby 4⟩
  [.take (.packet (talk.packet [0] .requestSyn)), .take (.packet (talk.packet [1] .responseSyn)),
    .take (.packet (talk.packet [2] .requestFin)),
    .take (.packet (talk.packet [3] (.request .acknowledging 7))),
    .take (.packet (strangers.packet [] (.request .resetting 0))), .elapse 5000000000, .settle,
    .take (.packet (talk.packet [4] .requestSyn))]

/-- A pool with room for four bytes, whose messages are complete with a nine. -/
def hasty : Pool :=
  let rule : EndDetector := fun message => .ok (message.data.getLast? == some 9)
  ((Builder.new.choose (.maxSize 4)).choose (.finish rule)).build .keeping

/-- Requests that are cut, just full, complete by the rule, reset and timed out, and one under
way. -/
def varied : List Action :=
  let talk : Conversation := ⟨nearby 1, nearby 2⟩
  let more : Conversation.Turn := .request .acknowledging 7
  [.take (.packet (talk.packet [1] .requestSyn)), .take (.packet (talk.packet [2, 3] more)),
    .take (.packet (talk.packet [4, 5] more)),
    .take (.packet (talk.packet [1, 2, 3, 4] .requestSyn)),
    .take (.packet (talk.packet [1] .requestSyn)), .take (.packet (talk.packet [9] more)),
    .take (.packet (talk.packet [1] .requestSyn)),
    .take (.packet (talk.packet [] (.request .resetting 7))),
    .take (.packet (talk.packet [2] .requestSyn)), .elapse 5000000000, .settle,
    .take (.packet (talk.packet [] .requestSyn)), .take (.packet (talk.packet [3] more))]

end Reassembly.Pool
