import Reassembly.Proofs.Pool.HandoverSafety
import Reassembly.Proofs.Pool.LedgerDeliveries

/-!
# Runs as orders of steps

A run takes each action as a whole.  Producers and watchers can take their steps in an order that
does the same: whoever hands a message over is answered at once, and watchers whose deadline is
noticed get the registry one after the other.  So what a run tracks and delivers is the registry
and the claims of a state that can be reached (`Pool.handover_after`), and all that holds of those
states holds of it.
-/

set_option autoImplicit false

namespace Reassembly

def Delivery.content (delivery : Delivery) : SessionKey × Message × Termination :=
  (delivery.key, delivery.message, delivery.termination)

def Claim.content (claim : Claim) : SessionKey × Message × Termination :=
  (claim.key, claim.message, claim.termination)

namespace Handover

/-- A state can be reached, with this registry and holder, in which the claims are what these
effects deliver. -/
def Follows (pool : Pool) (holder : Holder) (registry : Registry) (effects : List Effect) : Prop :=
  ∃ state, Reachable pool state ∧ state.holder = holder ∧ state.registry = registry ∧
    state.claims.map Claim.content = (deliveries effects).map Delivery.content

variable {pool : Pool} {registry : Registry} {effects : List Effect}

theorem Follows.start : Follows pool .nobody .empty [] :=
  ⟨_, .start, rfl, rfl, rfl⟩

/-- Effects without deliveries need no step. -/
theorem Follows.silently {holder : Holder} (follows : Follows pool holder registry effects)
    {more : List Effect} (silent : deliveries more = []) :
    Follows pool holder registry (effects ++ more) := by
  obtain ⟨state, reached, holds, same, claims⟩ := follows
  refine ⟨state, reached, holds, same, ?_⟩
  rw [deliveries_append, silent, List.append_nil]
  exact claims

theorem Follows.acquire (follows : Follows pool .nobody registry effects) :
    Follows pool .producer registry effects := by
  obtain ⟨state, reached, holds, same, claims⟩ := follows
  exact ⟨_, reached.step (.acquires state holds), rfl, same, claims⟩

theorem Follows.release (follows : Follows pool .producer registry effects) :
    Follows pool .nobody registry effects := by
  obtain ⟨state, reached, holds, same, claims⟩ := follows
  exact ⟨_, reached.step (.releases state holds), rfl, same, claims⟩

theorem Follows.pass {holder : Holder} (follows : Follows pool holder registry effects)
    (nanos : Nat) :
    Follows pool holder { registry with clock := registry.clock + nanos } effects := by
  obtain ⟨state, reached, holds, rfl, claims⟩ := follows
  exact ⟨_, reached.step (.passes state nanos), holds, rfl, claims⟩

theorem Follows.grow (follows : Follows pool .producer registry effects) {key : SessionKey}
    {flow : Flow} (found : registry.find? key = some flow) (packet : Packet) :
    Follows pool .producer
      (registry.insert key
        { flow with message := Pool.grown pool.limits.maxSize flow.message packet }) effects := by
  obtain ⟨state, reached, holds, rfl, claims⟩ := follows
  exact ⟨_, reached.step (.grows state key flow packet holds found), holds, rfl, claims⟩

/-- A message that ends is sent to its watcher, which claims it at once. -/
theorem Follows.retire (follows : Follows pool .producer registry effects) {key : SessionKey}
    {flow : Flow} (found : registry.find? key = some flow) (termination : Termination)
    (time : Nat) :
    Follows pool .producer (registry.erase key)
      (effects ++ pool.retire key flow termination time) := by
  obtain ⟨state, reached, holds, rfl, claims⟩ := follows
  have sound := reached.sound
  obtain ⟨watcher, there, named, listens, quiet⟩ := sound.heard key flow found
  have watched := sound.tracked_deadline found there
  have alive : watcher.phase ≠ .ended := fun gone => Watcher.not_listens_of_ended gone listens
  let parcel : Parcel := ⟨state.filed key, flow.message, termination⟩
  have sent := reached.step (.sends state key flow watcher termination holds found there alive)
  have here : (state.watchers.modify (state.filed key) (Watcher.receive · parcel))[state.filed key]? =
      some (watcher.receive parcel) := by
    rw [List.getElem?_modify_eq, there]
    rfl
  have claimed := sent.step
    (.claims _ (state.filed key) (watcher.receive parcel) parcel here listens rfl)
  have resumed := claimed.step (.resumes _ (state.filed key) (if_pos rfl))
  refine ⟨_, resumed, rfl, rfl, ?_⟩
  rw [deliveries_append, Pool.deliveries_retire, watched]
  simp only [List.map_append, claims, Option.map_some, Option.toList_some, List.map_cons,
    List.map_nil]
  rw [← named]
  rfl

theorem Follows.append (follows : Follows pool .producer registry effects) {key : SessionKey}
    {flow : Flow} (found : registry.find? key = some flow) (packet : Packet) :
    Follows pool .producer (pool.append registry key flow packet).registry
      (effects ++ (pool.append registry key flow packet).effects) := by
  have grown := follows.grow found packet
  have cut := Pool.deliveries_cutEffects pool.limits.maxSize key flow.message packet
  by_cases complete : pool.complete flow.message packet = .ok true
  · have retired := (grown.silently cut).retire (registry.find?_insert_self _ _) .completed
      registry.clock
    rw [Registry.erase_insert, List.append_assoc] at retired
    rw [Pool.append_of_complete complete]
    exact retired
  · obtain ⟨filed, same⟩ := Pool.append_of_incomplete complete registry key
    rw [filed, same]
    exact grown.silently cut

theorem Follows.openWith (follows : Follows pool .producer registry effects)
    (fits : pool.Schedulable registry.clock) (direction : Direction) {packet : Packet}
    (unfiled : Pool.filedUnder? registry packet.src packet.dst = none) :
    Follows pool .producer (pool.openWith registry direction packet).registry
      (effects ++ (pool.openWith registry direction packet).effects) := by
  obtain ⟨deadline, named⟩ := Option.isSome_iff_exists.mp fits
  obtain ⟨state, reached, holds, rfl, claims⟩ := follows
  have opened : Follows pool .producer
      (state.registry.insert (.of direction packet.src packet.dst)
        ⟨.opened direction packet, some deadline⟩) effects :=
    ⟨_, reached.step (.opens state direction packet deadline holds unfiled named), holds, rfl,
      claims⟩
  have counted : deliveries [.count .opened] = [] := rfl
  have appended := (opened.silently counted).append (state.registry.find?_insert_self _ _) packet
  rw [Pool.append_insert, List.append_assoc] at appended
  rw [Pool.openWith_of_deadline named]
  exact appended

theorem Follows.resetSide (follows : Follows pool .producer registry effects)
    (src dst : Endpoint) :
    Follows pool .producer (pool.resetSide registry src dst).registry
      (effects ++ (pool.resetSide registry src dst).effects) := by
  rcases pool.resetSide_cases registry src dst with ⟨-, same⟩ | ⟨key, flow, -, found, ended⟩
  · rw [same, List.append_nil]
    exact follows
  · rw [ended]
    exact follows.retire found .reset registry.clock

theorem Follows.takePacket (follows : Follows pool .nobody registry effects)
    (fits : pool.Schedulable registry.clock) (packet : Packet) :
    Follows pool .nobody (pool.takePacket registry packet).registry
      (effects ++ (pool.takePacket registry packet).effects) := by
  have taken := pool.takes registry packet
  generalize pool.takePacket registry packet = outcome at taken
  cases taken with
  | resets rst =>
      have front := follows.acquire.resetSide packet.src packet.dst
      have back := front.resetSide packet.dst packet.src
      have report : deliveries [.say (.reset packet.src packet.dst packet.timestamp)] = [] := rfl
      rw [List.append_assoc] at back
      have told := (back.silently report).release
      rw [List.append_assoc] at told
      exact told
  | joins key flow plain filed found => exact (follows.acquire.append found packet).release
  | drops plain unfiled closed =>
      rw [List.append_nil]
      exact follows
  | opens direction plain unfiled answer =>
      exact (follows.acquire.openWith fits direction unfiled).release

/-! ## Deadlines -/

theorem queues {state : Handover} (reached : Reachable pool state) {key : SessionKey}
    {flow : Flow} (found : state.registry.find? key = some flow) {deadline : Nat}
    (watched : flow.deadline = some deadline) (due : dueTime deadline ≤ state.registry.clock) :
    ∃ next watcher, Reachable pool next ∧ next.holder = state.holder ∧
      next.registry = state.registry ∧ next.claims = state.claims ∧
      next.watchers[state.filed key]? = some watcher ∧ watcher.key = key ∧
      watcher.phase = .queueing ∧ watcher.channel = .empty := by
  obtain ⟨watcher, there, named, listens, quiet⟩ := reached.sound.heard key flow found
  have own := reached.sound.tracked_deadline found there
  rw [watched] at own
  cases own
  rcases listens with waits | queues
  · have expired := reached.step (.expires state _ watcher there waits quiet due)
    refine ⟨_, watcher.queue, expired, rfl, rfl, rfl, ?_, named, rfl, quiet⟩
    rw [List.getElem?_modify_eq, there]
    rfl
  · exact ⟨state, watcher, reached, rfl, rfl, rfl, there, named, queues, quiet⟩

theorem Follows.timeOut (follows : Follows pool .nobody registry effects) {key : SessionKey}
    {flow : Flow} (found : registry.find? key = some flow)
    (due : flow.dueBefore (registry.clock + 1) = true) :
    Follows pool .nobody (registry.erase key) (effects ++ pool.timeOut (key, flow)) := by
  obtain ⟨state, reached, holds, rfl, claims⟩ := follows
  obtain ⟨deadline, watched, noticed⟩ := Flow.dueBefore_iff.mp due
  have reading : dueTime deadline ≤ state.registry.clock := Nat.le_of_lt_succ noticed
  obtain ⟨next, watcher, later, free, same, told, there, rfl, waits, quiet⟩ :=
    queues reached found watched reading
  have granted := later.step (.grants next _ watcher (free.trans holds) there waits)
  have removed := granted.step (.removes _ _ watcher flow rfl there quiet (same ▸ found))
  refine ⟨_, removed, rfl, congrArg (Registry.erase · watcher.key) same, ?_⟩
  rw [deliveries_append, Pool.deliveries_timeOut, watched]
  simp only [List.map_append, told, claims]
  rfl

theorem Follows.timeOutAll (follows : Follows pool .nobody registry effects)
    {entries : List (SessionKey × Flow)} (distinct : (entries.map Prod.fst).Nodup)
    (found : ∀ entry ∈ entries, registry.find? entry.1 = some entry.2)
    (due : ∀ entry ∈ entries, entry.2.dueBefore (registry.clock + 1) = true) :
    Follows pool .nobody
      { registry with
        flows := registry.flows.filter fun entry => decide (entry.1 ∉ entries.map Prod.fst) }
      (effects ++ entries.flatMap pool.timeOut) := by
  induction entries generalizing registry effects with
  | nil => simpa using follows
  | cons entry rest ih =>
      obtain ⟨fresh, distinct⟩ := List.nodup_cons.mp distinct
      have first := follows.timeOut (found entry List.mem_cons_self) (due entry List.mem_cons_self)
      have others : ∀ other ∈ rest, (registry.erase entry.1).find? other.1 = some other.2 := by
        intro other member
        have differs : other.1 ≠ entry.1 := by
          intro same
          exact fresh (same ▸ List.mem_map_of_mem member)
        rw [registry.find?_erase_other differs]
        exact found other (List.mem_cons_of_mem _ member)
      have later := ih first distinct others fun other member =>
        due other (List.mem_cons_of_mem _ member)
      rw [List.append_assoc] at later
      have flows : (registry.erase entry.1).flows.filter
          (fun other => decide (other.1 ∉ rest.map Prod.fst)) =
            registry.flows.filter fun other =>
              decide (other.1 ∉ (entry :: rest).map Prod.fst) := by
        simp only [Registry.erase, List.filter_filter, List.map_cons, List.mem_cons, not_or,
          Bool.decide_and, Bool.and_comm, ne_eq]
      rw [flows] at later
      exact later

theorem Follows.timeOutBefore (follows : Follows pool .nobody registry effects)
    (unambiguous : registry.Unambiguous) {limit : Nat} (reached : limit ≤ registry.clock + 1) :
    Follows pool .nobody (pool.timeOutBefore registry limit).registry
      (effects ++ (pool.timeOutBefore registry limit).effects) := by
  have found : ∀ entry ∈ registry.flows.filter fun entry => entry.2.dueBefore limit,
      registry.find? entry.1 = some entry.2 := by
    intro entry member
    exact (Registry.find?_eq_some_iff unambiguous).mpr (List.mem_filter.mp member).1
  have due : ∀ entry ∈ registry.flows.filter fun entry => entry.2.dueBefore limit,
      entry.2.dueBefore (registry.clock + 1) = true := by
    intro entry member
    obtain ⟨deadline, watched, before⟩ := Flow.dueBefore_iff.mp (List.mem_filter.mp member).2
    exact Flow.dueBefore_iff.mpr ⟨deadline, watched, Nat.lt_of_lt_of_le before reached⟩
  have distinct : ((registry.flows.filter fun entry => entry.2.dueBefore limit).map
      Prod.fst).Nodup := unambiguous.sublist (List.filter_sublist.map Prod.fst)
  have later := follows.timeOutAll distinct found due
  have others : (registry.flows.filter fun entry =>
      decide (entry.1 ∉ (registry.flows.filter fun entry => entry.2.dueBefore limit).map Prod.fst)) =
        registry.flows.filter fun entry => !entry.2.dueBefore limit := by
    apply List.filter_congr
    intro entry member
    cases falls : entry.2.dueBefore limit with
    | true =>
        have listed : entry.1 ∈
            (registry.flows.filter fun entry => entry.2.dueBefore limit).map Prod.fst :=
          List.mem_map_of_mem (List.mem_filter.mpr ⟨member, falls⟩)
        rw [decide_eq_false (not_not.mpr listed)]
        rfl
    | false =>
        have unlisted : entry.1 ∉
            (registry.flows.filter fun entry => entry.2.dueBefore limit).map Prod.fst := by
          intro listed
          obtain ⟨other, inside, same⟩ := List.mem_map.mp listed
          have own := (Registry.find?_eq_some_iff unambiguous).mpr member
          rw [← same, found other inside] at own
          have noticed := (List.mem_filter.mp inside).2
          rw [Option.some.inj own, falls] at noticed
          cases noticed
        rw [decide_eq_true unlisted]
        rfl
  rw [others] at later
  exact later

end Handover

namespace Pool

open Handover

theorem act_follows {pool : Pool} {registry : Registry} {effects : List Effect}
    (follows : Follows pool .nobody registry effects) (unambiguous : registry.Unambiguous)
    (fits : pool.Schedulable registry.clock) (action : Action) :
    Follows pool .nobody (pool.act registry action).registry
      (effects ++ (pool.act registry action).effects) := by
  cases action with
  | take input =>
      cases brings : input.packet? with
      | none =>
          simp only [act]
          rw [(take_of_packet?_eq_none brings registry).1]
          exact follows.silently (pool.deliveries_take_of_packet?_eq_none brings registry)
      | some packet =>
          simp only [act]
          rw [take_of_packet? brings]
          exact follows.takePacket fits packet
  | elapse nanos =>
      have later := (follows.pass nanos).timeOutBefore unambiguous
        (Nat.le_succ (registry.clock + nanos))
      exact later
  | settle => exact follows.timeOutBefore unambiguous (Nat.le_refl _)

theorem handover_after {pool : Pool} {actions : List Action}
    (fits : pool.Schedulable (pool.after actions).clock) :
    Follows pool .nobody (pool.after actions) (pool.effects actions) := by
  induction actions using List.reverseRecOn with
  | nil => exact Follows.start
  | append_singleton actions action ih =>
      rw [after_concat, effects_concat]
      exact act_follows (ih fits.of_concat) (pool.after_unambiguous actions) fits.of_concat action

/-- Handing over is safe in whatever order the parties take their steps, and every run is one of
these orders. -/
theorem handover_safe (pool : Pool) :
    (∀ state, Reachable pool state → state.Safe pool) ∧
      ∀ actions, pool.Schedulable (pool.after actions).clock →
        Follows pool .nobody (pool.after actions) (pool.effects actions) :=
  ⟨fun _ reached => reached.safe, fun _ fits => handover_after fits⟩

/-- The deadline of a message passes while the producer that ends it holds the registry, and the
next message takes its key at once and expires in its turn. -/
theorem handover_safe_contested :
    (∃ state, Reachable touchy state ∧ state.holder = .awaiting 0 ∧
      state.watchers.map Watcher.phase = [.queueing] ∧ state.Safe touchy) ∧
    (∃ state, Reachable touchy state ∧ state.holder = .watcher 1 ∧
      state.watchers.map Watcher.key = [.ofClient (nearby 1), .ofClient (nearby 1)] ∧
      state.claims.map Claim.watcher = [0] ∧ state.Safe touchy) ∧
    touchy.Schedulable (touchy.after brief).clock ∧
      Follows touchy .nobody (touchy.after brief) (touchy.effects brief) := by
  let packet := (⟨nearby 1, nearby 2⟩ : Conversation).packet [1] .requestSyn
  let key := SessionKey.ofClient (nearby 1)
  let flow : Flow := ⟨.opened .incoming packet, some 2000000000⟩
  let parcel : Parcel := ⟨0, flow.message, .completed⟩
  have begun : Reachable touchy Handover.start := .start
  have opened := (begun.step (.acquires _ rfl)).step
    (.opens _ .incoming packet 2000000000 rfl (by decide +kernel) (by decide +kernel))
  have expired := (opened.step (.passes _ 2000000000)).step
    (.expires _ 0 ⟨key, 2000000000, .waiting, .empty⟩ rfl rfl rfl (by decide +kernel))
  have sent := expired.step
    (.sends _ key flow ⟨key, 2000000000, .queueing, .empty⟩ .completed rfl (by decide +kernel)
      (by decide +kernel) (by decide))
  have claimed := (sent.step
    (.claims _ 0 ⟨key, 2000000000, .queueing, .holds parcel⟩ parcel (by decide +kernel)
      (Or.inr rfl) rfl)).step (.resumes _ 0 (by decide +kernel))
  have reopened := (claimed.step
    (.opens _ .incoming packet 4000000000 rfl (by decide +kernel) (by decide +kernel))).step
    (.releases _ rfl)
  have granted := ((reopened.step (.passes _ 2000000000)).step
    (.expires _ 1 ⟨key, 4000000000, .waiting, .empty⟩ (by decide +kernel) rfl rfl
      (by decide +kernel))).step
    (.grants _ 1 ⟨key, 4000000000, .queueing, .empty⟩ rfl (by decide +kernel) rfl)
  obtain ⟨safe, follows⟩ := handover_safe touchy
  have fits : touchy.Schedulable (touchy.after brief).clock := by decide +kernel
  exact ⟨⟨_, sent, by decide +kernel, by decide +kernel, safe _ sent⟩,
    ⟨_, granted, rfl, by decide +kernel, by decide +kernel, safe _ granted⟩,
    fits, follows brief fits⟩

end Pool

end Reassembly
