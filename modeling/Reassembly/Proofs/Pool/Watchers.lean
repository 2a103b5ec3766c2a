import Reassembly.Proofs.Packet.Headers
import Reassembly.Proofs.Pool.Conservation
import Reassembly.Proofs.Pool.Faults
import Reassembly.Proofs.Pool.Representation

/-!
# Every message has a watcher

As long as a message that is opened gets a deadline, every tracked message has a watcher
that still waits for it, so no message that ends is lost, and no call fails in a pool
whose rules do not (`run_untroubled`).  A deadline that the clock cannot name fails the
call that opens the message and leaves the message without a watcher (`lasting_troubled`).
-/

set_option autoImplicit false

namespace Reassembly

/-! ## Watchers that still wait -/

def Flow.Attended (clock : Nat) (flow : Flow) : Prop :=
  ∃ deadline, flow.deadline = some deadline ∧ clock ≤ dueTime deadline

/-- Every flow has a watcher whose deadline has not been noticed. -/
def Registry.Attended (registry : Registry) : Prop :=
  ∀ entry ∈ registry.flows, entry.2.Attended registry.clock

/-- No message ended that no watcher waited for. -/
def NoneLost (effects : List Effect) : Prop :=
  ∀ key, Effect.note (.unwatched key) ∉ effects

def Outcome.Attended (outcome : Outcome) : Prop :=
  outcome.registry.Attended ∧ NoneLost outcome.effects

namespace Registry.Attended

variable {registry : Registry}

theorem erase (attended : registry.Attended) (key : SessionKey) :
    (registry.erase key).Attended := by
  intro entry member
  exact attended entry (Registry.mem_erase.mp member).1

theorem insert (attended : registry.Attended) {flow : Flow}
    (own : flow.Attended registry.clock) (key : SessionKey) :
    (registry.insert key flow).Attended := by
  intro entry member
  rcases Registry.mem_insert.mp member with ⟨earlier, -⟩ | rfl
  · exact attended entry earlier
  · exact own

end Registry.Attended

theorem clock_le_dueTime {clock deadline : Nat} {expiry : Duration}
    (named : deadlineAfter? clock expiry = some deadline) : clock ≤ dueTime deadline := by
  unfold deadlineAfter? at named
  dsimp only at named
  split at named
  · cases named
    have later := deadline_le_dueTime (clock + expiry.totalNanos)
    omega
  · cases named

theorem Flow.le_dueTime_of_patient {flow : Flow} {deadline limit : Nat}
    (watched : flow.deadline = some deadline) (patient : (!flow.dueBefore limit) = true) :
    limit ≤ dueTime deadline := by
  rw [dueBefore, watched, Option.any_some] at patient
  -- a due time is a quotient, which checking the next step would otherwise compute
  generalize dueTime deadline = due at patient ⊢
  simpa using patient

/-! ## Effects that lose nothing -/

namespace NoneLost

theorem nil : NoneLost [] := by
  intro key member
  cases member

theorem append {front back : List Effect} (first : NoneLost front) (second : NoneLost back) :
    NoneLost (front ++ back) := by
  intro key member
  cases List.mem_append.mp member with
  | inl early => exact first key early
  | inr late => exact second key late

theorem flatMap {α : Type} {items : List α} {effects : α → List Effect}
    (each : ∀ item, NoneLost (effects item)) : NoneLost (items.flatMap effects) := by
  intro key member
  obtain ⟨item, -, inside⟩ := List.mem_flatMap.mp member
  exact each item key inside

theorem dispatch (pool : Pool) (key : SessionKey) (message : Message)
    (termination : Termination) (time : Nat) :
    NoneLost (pool.dispatch key message termination time) := by
  intro other
  unfold Pool.dispatch
  cases pool.handler message <;> simp

theorem retire {flow : Flow} {clock : Nat} (own : flow.Attended clock) (pool : Pool)
    (key : SessionKey) (termination : Termination) (time : Nat) :
    NoneLost (pool.retire key flow termination time) := by
  obtain ⟨deadline, watched, -⟩ := own
  simp only [Pool.retire, watched]
  exact dispatch pool key flow.message termination time

theorem timeOut (pool : Pool) (entry : SessionKey × Flow) : NoneLost (pool.timeOut entry) := by
  unfold Pool.timeOut
  cases entry.2.deadline with
  | none => exact nil
  | some deadline =>
      intro key member
      cases List.mem_cons.mp member with
      | inl report => cases report
      | inr sent => exact dispatch pool entry.1 _ .timedOut _ key sent

theorem cutEffects (maxSize : Nat) (key : SessionKey) (message : Message) (packet : Packet) :
    NoneLost (Pool.cutEffects maxSize key message packet) := by
  intro other
  unfold Pool.cutEffects
  split <;> simp

end NoneLost

/-! ## What a step keeps -/

namespace Pool

variable {registry : Registry}

theorem append_attended (attended : registry.Attended) {flow : Flow}
    (own : flow.Attended registry.clock) (pool : Pool) (key : SessionKey) (packet : Packet) :
    (pool.append registry key flow packet).Attended := by
  have grows : Flow.Attended registry.clock
      { flow with message := grown pool.limits.maxSize flow.message packet } := own
  have cut := NoneLost.cutEffects pool.limits.maxSize key flow.message packet
  by_cases complete : pool.complete flow.message packet = .ok true
  · rw [append_of_complete complete]
    exact ⟨attended.erase key, cut.append (NoneLost.retire grows pool key .completed _)⟩
  · obtain ⟨filed, effects⟩ := append_of_incomplete complete registry key
    unfold Outcome.Attended
    rw [filed, effects]
    exact ⟨attended.insert grows key, cut⟩

theorem openWith_attended (attended : registry.Attended) {pool : Pool}
    (fits : pool.Schedulable registry.clock) (direction : Direction) (packet : Packet) :
    (pool.openWith registry direction packet).Attended := by
  obtain ⟨deadline, named⟩ := Option.isSome_iff_exists.mp fits
  have own : Flow.Attended registry.clock ⟨.opened direction packet, some deadline⟩ :=
    ⟨deadline, rfl, clock_le_dueTime named⟩
  obtain ⟨filed, kept⟩ := append_attended attended own pool
    (.of direction packet.src packet.dst) packet
  rw [openWith_of_deadline named]
  refine ⟨filed, ?_⟩
  intro key member
  cases List.mem_cons.mp member with
  | inl count => cases count
  | inr later => exact kept key later

theorem resetSide_attended (attended : registry.Attended) (pool : Pool) (src dst : Endpoint) :
    (pool.resetSide registry src dst).Attended := by
  rcases pool.resetSide_cases registry src dst with ⟨-, same⟩ | ⟨key, flow, -, found, ended⟩
  · rw [same]
    exact ⟨attended, NoneLost.nil⟩
  · rw [ended]
    have own := attended (key, flow) (Registry.mem_of_find? found)
    exact ⟨attended.erase key, NoneLost.retire own pool key .reset _⟩

theorem takePacket_attended (attended : registry.Attended) {pool : Pool}
    (fits : pool.Schedulable registry.clock) (packet : Packet) :
    (pool.takePacket registry packet).Attended := by
  have taken := pool.takes registry packet
  generalize pool.takePacket registry packet = outcome at taken
  cases taken with
  | resets rst =>
      have sender := resetSide_attended attended pool packet.src packet.dst
      have receiver := resetSide_attended sender.1 pool packet.dst packet.src
      have report : NoneLost [.say (.reset packet.src packet.dst packet.timestamp)] := by
        intro key
        simp
      exact ⟨receiver.1, (sender.2.append receiver.2).append report⟩
  | joins key flow plain filed found =>
      have own := attended (key, flow) (Registry.mem_of_find? found)
      exact append_attended attended own pool key packet
  | drops plain unfiled closed => exact ⟨attended, NoneLost.nil⟩
  | opens direction plain unfiled answer => exact openWith_attended attended fits direction packet

/-- Whoever is still tracked once the deadlines before a clock reading have been noticed has a
later one. -/
theorem timeOutBefore_attended (attended : registry.Attended) (pool : Pool) (limit : Nat) :
    (∀ entry ∈ (pool.timeOutBefore registry limit).registry.flows, entry.2.Attended limit) ∧
      NoneLost (pool.timeOutBefore registry limit).effects := by
  refine ⟨?_, NoneLost.flatMap (NoneLost.timeOut pool)⟩
  intro entry member
  obtain ⟨tracked, patient⟩ := List.mem_filter.mp member
  obtain ⟨deadline, watched, -⟩ := attended entry tracked
  exact ⟨deadline, watched, Flow.le_dueTime_of_patient watched patient⟩

theorem act_attended (attended : registry.Attended) {pool : Pool}
    (fits : pool.Schedulable registry.clock) (action : Action) :
    (pool.act registry action).registry.Attended ∧ NoneLost (pool.act registry action).effects := by
  cases action with
  | take input =>
      simp only [act]
      cases brings : input.packet? with
      | none =>
          obtain ⟨same, quiet | ⟨size, error, quiet⟩⟩ := take_of_packet?_eq_none brings registry
          · rw [same, quiet]
            exact ⟨attended, NoneLost.nil⟩
          · rw [same, quiet]
            refine ⟨attended, ?_⟩
            intro key
            simp
      | some packet =>
          rw [take_of_packet? brings]
          exact takePacket_attended attended fits packet
  | elapse nanos => exact timeOutBefore_attended attended pool (registry.clock + nanos)
  | settle =>
      obtain ⟨waiting, kept⟩ := timeOutBefore_attended attended pool (registry.clock + 1)
      refine ⟨?_, kept⟩
      intro entry member
      obtain ⟨deadline, watched, later⟩ := waiting entry member
      have now : registry.clock ≤ dueTime deadline := by omega
      exact ⟨deadline, watched, now⟩

theorem after_attended {pool : Pool} {actions : List Action}
    (fits : pool.Schedulable (pool.after actions).clock) :
    (pool.after actions).Attended ∧ NoneLost (pool.effects actions) := by
  induction actions using List.reverseRecOn with
  | nil =>
      refine ⟨?_, NoneLost.nil⟩
      intro entry member
      cases member
  | append_singleton actions action ih =>
      obtain ⟨before, kept⟩ := ih fits.of_concat
      obtain ⟨now, quiet⟩ := act_attended before fits.of_concat action
      rw [after_concat, effects_concat]
      exact ⟨now, kept.append quiet⟩

/-! ## Calls that go through -/

variable {pool : Pool}

theorem take_fault (calm : pool.hooks.Calm) {registry : Registry}
    (fits : pool.Schedulable registry.clock) (input : Input) :
    (pool.take registry input).fault = none ∨
      ∃ source timestamp lost fault, input = .datagram source timestamp lost ∧
        source.write = .error fault := by
  cases failed : (pool.take registry input).fault with
  | none => exact Or.inl rfl
  | some reason =>
      rcases take_faults fits failed with
        ⟨source, timestamp, lost, fault, unwritten, written, -⟩ |
          ⟨packet, key, flow, fault, -, -, -, asked⟩
      · exact Or.inr ⟨source, timestamp, lost, fault, unwritten, written⟩
      · obtain ⟨holds, answer⟩ := calm (flow.message.append packet)
        rw [answer] at asked
        cases asked

/-! ## Runs without trouble -/

/-- Nothing goes wrong in a run: no call fails, every tracked message has a watcher that still
waits for it, every message that ended was delivered, and no arithmetic leaves its bounds. -/
structure Untroubled (pool : Pool) (actions : List Action) : Prop where
  /-- A datagram that cannot be written fails before the pool is called. -/
  calls : ∀ place input, actions[place]? = some (.take input) →
    (pool.take (pool.registryAt actions place) input).fault = none ∨
      ∃ source timestamp lost fault, input = .datagram source timestamp lost ∧
        source.write = .error fault
  watched : ∀ entry ∈ (pool.after actions).flows, ∃ deadline,
    entry.2.deadline = some deadline ∧ (pool.after actions).clock ≤ dueTime deadline
  noneLost : ∀ key, Effect.note (.unwatched key) ∉ pool.effects actions
  delivered : deliveries (pool.effects actions) =
    (pool.ledger actions).ended.map (Ended.delivery pool)
  room : ∀ entry ∈ (pool.after actions).flows, entry.2.message.HasRoom pool.limits.maxSize
  openRoom : ∀ direction packet, (Message.opened direction packet).HasRoom pool.limits.maxSize
  losses : ∀ entry ∈ (pool.after actions).flows, entry.2.message.packets.length < 2 ^ 32 →
    entry.2.message.stats.lostData < 2 ^ 64
  headers : ∀ data : Bytes, data.HoldsHeaders

theorem run_untroubled (pool : Pool) (calm : pool.hooks.Calm) (actions : List Action)
    (fits : pool.Schedulable (pool.after actions).clock) : pool.Untroubled actions := by
  obtain ⟨attended, noneLost⟩ := after_attended fits
  have represents : ∀ entry ∈ (pool.after actions).flows,
      pool.Represents entry.1 entry.2.message := by
    intro entry member
    rw [← ledger_registry] at member
    obtain ⟨life, live, rfl⟩ := List.mem_map.mp member
    exact represents_of_live fits live
  constructor
  case calls =>
      intro place input here
      exact take_fault calm (fits.of_le (pool.registryAt_clock_le actions place)) input
  case watched => exact attended
  case noneLost => exact noneLost
  case delivered => exact ledger_delivered fits
  case room =>
      intro entry member
      have filed := represents entry member
      exact Message.hasRoom filed.below filed.length_data
  case openRoom =>
      intro direction packet
      exact Message.hasRoom pool.maxSize_pos rfl
  case losses =>
      intro entry member
      exact (represents entry member).lost_lt
  case headers => exact Bytes.holdsHeaders

/-- A pool whose messages may wait as long as a duration can be. -/
def lasting : Pool :=
  let longest : Duration := ⟨secsBound - 1, nanosPerSec - 1, by decide, by decide⟩
  (Builder.new.choose (.expiry longest)).build .keeping

def parting : List Action :=
  let talk : Conversation := ⟨nearby 1, nearby 2⟩
  [.take (.packet (talk.packet [1] .requestSyn)), .take (.packet (talk.packet [2] .requestFin))]

theorem run_untroubled_parting :
    (Builder.new.build .keeping).hooks.Calm ∧
      (Builder.new.build .keeping).Schedulable ((Builder.new.build .keeping).after brief).clock ∧
      (Builder.new.build .keeping).Untroubled brief := by
  have calm : (Builder.new.build .keeping).hooks.Calm := fun _ => ⟨false, rfl⟩
  have fits : (Builder.new.build .keeping).Schedulable
      ((Builder.new.build .keeping).after brief).clock := by decide +kernel
  exact ⟨calm, fits, run_untroubled (Builder.new.build .keeping) calm brief fits⟩

/-- With the longest expiry the first call fails and leaves a message without a watcher, and the
message is lost when it ends. -/
theorem lasting_troubled :
    lasting.hooks.Calm ∧
      (lasting.perform .empty parting).faults = [some .deadlineOverflow, none] ∧
      (lasting.after (parting.take 1)).flows.map (fun entry => entry.2.deadline) = [none] ∧
      Effect.note (.unwatched (.ofClient (nearby 1))) ∈ lasting.effects parting ∧
      deliveries (lasting.effects parting) = [] := by
  have calm : lasting.hooks.Calm := fun _ => ⟨false, rfl⟩
  exact ⟨calm, by decide +kernel⟩

end Pool

end Reassembly
