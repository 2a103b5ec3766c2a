import Reassembly.Proofs.Pool.Accounts
import Reassembly.Proofs.Pool.Expiry

/-!
# A completion rule that fails

A completion rule that fails stops the call halfway: the packet has been appended, and for a new
message the entry, its count and its watcher are there.  What has happened by then is what an
ordinary packet does that leaves its message open (`Pool.ledger_joined`), so the message goes on
like any other, and with it its deadline (`Pool.interruption_contained`).
-/

set_option autoImplicit false

namespace Reassembly

namespace Pool

variable {pool : Pool}

/-! ## The call -/

/-- A call that the completion rule interrupted touched one entry: the packet is the last of its
message, which has not reached the cap, and its deadline is the one it had or was given as it was
opened.  All other entries are as they were, and nothing was dispatched, cut or reported. -/
structure Contained (pool : Pool) (registry : Registry) (outcome : Outcome) (packet : Packet)
    (key : SessionKey) (flow : Flow) : Prop where
  belongs : pool.Belongs registry packet key flow
  own : outcome.registry.find? key = some { flow with message := flow.message.append packet }
  last : (flow.message.append packet).packets.getLast? = some packet
  below : (flow.message.append packet).length < pool.limits.maxSize
  others : ∀ other, other ≠ key → outcome.registry.find? other = registry.find? other
  distinct : outcome.registry.Unambiguous
  clock : outcome.registry.clock = registry.clock
  effects : outcome.effects = if (registry.find? key).isSome then [] else [.count .opened]
  delivered : deliveries outcome.effects = []
  uncut : outcome.effects.count (.count .truncated) = 0
  medium : told .medium outcome.effects = 0

theorem interrupted_contained {registry : Registry} (unambiguous : registry.Unambiguous)
    {packet : Packet} {key : SessionKey} {flow : Flow}
    (belongs : pool.Belongs registry packet key flow)
    (below : flow.message.length + packet.payload.length < pool.limits.maxSize) (fault : Fault) :
    pool.Contained registry (interrupted registry key flow packet fault) packet key flow where
  belongs := belongs
  own := registry.find?_insert_self key _
  last := List.getLast?_concat
  below := below
  others := fun _ distinct => registry.find?_insert_other distinct _
  distinct := Registry.insert_unambiguous unambiguous key _
  clock := rfl
  effects := rfl
  delivered := by
    unfold interrupted
    cases (registry.find? key).isSome <;> rfl
  uncut := by
    unfold interrupted
    cases (registry.find? key).isSome <;> rfl
  medium := by
    unfold interrupted
    cases (registry.find? key).isSome <;> rfl

/-! ## The rest of the run -/

variable {actions : List Action}

theorem ledger_joined {action : Action} {packet : Packet} {key : SessionKey} {flow : Flow}
    (fits : pool.Schedulable (pool.after (actions ++ [action])).clock)
    (brings : action.packet? = some packet) (plain : packet.flags.rst = false)
    (belongs : pool.Belongs (pool.after actions) packet key flow)
    (incomplete : pool.complete flow.message packet ≠ .ok true) :
    ∃ life : Life, life.key = key ∧ life.flow pool = flow ∧
      life.add actions.length packet ∈ (pool.ledger (actions ++ [action])).live := by
  have registry := pool.ledger_registry actions
  have place := pool.ledger_place actions
  obtain ⟨next, turned, now⟩ := ledger_turns fits
  rw [now]
  rw [← registry] at belongs
  cases turned with
  | rests _ idle sheds accounted =>
      have claimed : pool.records ((pool.ledger actions).registry pool) packet = true := by
        cases belongs with
        | filed _ _ filed found => simp [records, plain, filed]
        | opened direction deadline unfiled answer named => simp [records, plain, answer]
      rw [brings, Option.any_some, claimed] at idle
      cases idle
  | joins life own brought _ member filed accounted =>
      cases brings.symm.trans brought
      cases belongs with
      | filed _ _ also found =>
          cases filed.symm.trans also
          have tracked : (life.key, life.flow pool) ∈
              ((pool.ledger actions).registry pool).flows := List.mem_map_of_mem member
          have same := (Registry.find?_eq_some_iff (pool.ledger_unambiguous actions)).mpr tracked
          cases found.symm.trans same
          refine ⟨life, rfl, rfl, ?_⟩
          rw [Ledger.record_of_incomplete incomplete, place]
          exact List.mem_append_right _ List.mem_cons_self
      | opened direction deadline unfiled answer named => cases unfiled.symm.trans filed
  | opens direction own brought _ unfiled answer accounted =>
      cases brings.symm.trans brought
      cases belongs with
      | filed _ _ filed found => cases unfiled.symm.trans filed
      | opened chosen deadline _ also named =>
          cases answer.symm.trans also
          have flow : ((pool.ledger actions).newborn direction packet).flow pool =
              ⟨.opened direction packet, some deadline⟩ :=
            congrArg (Flow.mk (.opened direction packet)) named
          rw [← flow] at incomplete
          refine ⟨(pool.ledger actions).newborn direction packet, rfl, flow, ?_⟩
          rw [Ledger.record_of_incomplete incomplete, place]
          exact List.mem_append_right _ List.mem_cons_self

theorem ledger_grows {first later : List Action}
    (fits : pool.Schedulable (pool.after (first ++ later)).clock) {life : Life}
    (member : life ∈ (pool.ledger first).lives) :
    ∃ more, { life with given := life.given ++ more } ∈ (pool.ledger (first ++ later)).lives := by
  induction later using List.reverseRecOn with
  | nil =>
      refine ⟨[], ?_⟩
      rw [List.append_nil, List.append_nil]
      exact member
  | append_singleton later action ih =>
      rw [← List.append_assoc] at fits ⊢
      obtain ⟨more, before⟩ := ih fits.of_concat
      have unambiguous := pool.ledger_unambiguous (first ++ later)
      obtain ⟨next, turned, now⟩ := ledger_turns fits
      rw [now]
      cases turned with
      | rests _ idle sheds accounted => exact ⟨more, sheds.lives.mem_iff.mpr before⟩
      | joins joined packet brings plain tracked filed accounted =>
          obtain ⟨others, split, recorded⟩ := Ledger.lives_joins unambiguous tracked packet
          rcases List.mem_cons.mp (split.mem_iff.mp before) with same | other
          · refine ⟨more ++ [((pool.ledger (first ++ later)).place, packet)], ?_⟩
            rw [← List.append_assoc]
            refine recorded.mem_iff.mpr ?_
            rw [← same]
            exact List.mem_cons_self
          · exact ⟨more, recorded.mem_iff.mpr (List.mem_cons_of_mem _ other)⟩
      | opens direction packet brings plain unfiled answer accounted =>
          have recorded := Ledger.lives_opens direction unfiled
          exact ⟨more, recorded.mem_iff.mpr (List.mem_cons_of_mem _ before)⟩

theorem ledger_lives_nodup (fits : pool.Schedulable (pool.after actions).clock) :
    (pool.ledger actions).lives.Nodup := by
  have births := (ledger_births fits).nodup_iff.mpr (placesWhere_nodup pool _ actions)
  exact births.of_map Life.birth

theorem ledger_places_le (fits : pool.Schedulable (pool.after actions).clock) :
    ∀ ended ∈ (pool.ledger actions).ended, ∀ place ∈ ended.life.places, place ≤ ended.place := by
  intro ended member
  obtain ⟨last, action, here, own, ends⟩ := pool.ledger_ends actions ended member
  have inside : last ≤ actions.length := Nat.le_of_lt (List.getElem?_eq_some_iff.mp here).1
  have past : ∀ life ∈ (pool.ledger (actions.take last)).live, ∀ place ∈ life.places,
      place < last := fun _ tracked => ledger_places_lt fits inside tracked
  rw [own]
  intro place recorded
  cases ends with
  | completes life packet brings origin =>
      rw [ledger_place_take pool inside, Life.places_add] at recorded
      rcases List.mem_append.mp recorded with earlier | now
      · rcases origin with tracked | ⟨direction, rfl⟩
        · exact Nat.le_of_lt (past life tracked place earlier)
        · cases earlier
      · exact Nat.le_of_eq (List.mem_singleton.mp now)
  | resets life packet brings rst tracked => exact Nat.le_of_lt (past life tracked place recorded)
  | expires life deadline idle tracked watched reached =>
      exact Nat.le_of_lt (past life tracked place recorded)

theorem mem_packets_of_earlier {ended : Ended} (lawful : ended.Lawful pool) {action : Action}
    (due : ended.Due action) {place : Nat} {packet : Packet}
    (given : (place, packet) ∈ ended.life.given) (earlier : place < ended.place) :
    packet ∈ (ended.delivery pool).message.packets := by
  have member : packet ∈ ended.life.packets := List.mem_map_of_mem given
  obtain ⟨life, termination, time, last⟩ := ended
  cases termination with
  | completed =>
      obtain ⟨before, final, own, rfl, stays, -⟩ := lawful
      simp only [Ended.Due, Life.places_add, List.getLast?_concat, Option.some.injEq] at due
      have inside : (place, packet) ∈ before.given := by
        rcases List.mem_append.mp given with early | now
        · exact early
        · cases List.mem_singleton.mp now
          exact absurd due (Nat.ne_of_lt earlier)
      have kept : packet ∈ before.packets := List.mem_map_of_mem inside
      simp only [Ended.delivery, Ended.message, Life.message_add, grown_packets]
      rw [stays.packets_eq]
      exact List.mem_append_left _ kept
  | reset =>
      rw [← Life.Open.packets_eq lawful] at member
      exact member
  | timedOut =>
      rw [← Life.Open.packets_eq lawful] at member
      exact member

/-- A run in which a message was given a packet, and was tracked after it, treats the message like
any other: it is tracked with its own deadline until it ends, it ends later and once, by a later
packet or by that deadline, and it holds the packet then.  Other calls go through unless they fail
on their own account, and every later packet that belongs in a message is recorded. -/
structure Resumes (pool : Pool) (actions : List Action) (place : Nat) (packet : Packet)
    (life : Life) (ledger : Ledger) : Prop extends Traces pool actions ledger where
  holds : (place, packet) ∈ life.given
  /-- It is tracked, or it was dispatched once. -/
  once : ledger.live.count life + (ledger.ended.map Ended.life).count life = 1
  kept : ∀ later, place < later → later ≤ actions.length →
    (∀ ended ∈ ledger.ended, ended.life = life → later ≤ ended.place) →
      (pool.registryAt actions later).find? life.key =
        some ⟨(life.before later).message pool.limits.maxSize, some (life.deadline pool)⟩
  ended : ∀ ended ∈ ledger.ended, ended.life = life →
    place < ended.place ∧ packet ∈ (ended.delivery pool).message.packets ∧ ended.Lawful pool ∧
      ∃ action, actions[ended.place]? = some action ∧ ended.Due action
  timedOut : ∀ ended ∈ ledger.ended, ended.life = life → ended.termination = .timedOut →
    pool.TimedOut actions ended
  noticed : ∀ later, place < later → actions[later]? = some .settle →
    life.due pool ≤ (pool.registryAt actions later).clock →
      ∃ ended ∈ ledger.ended, ended.life = life ∧ ended.place ≤ later
  calls : ∀ later input reason, actions[later]? = some (.take input) →
    (pool.take (pool.registryAt actions later) input).fault = some reason →
      (∃ source timestamp lost fault, input = .datagram source timestamp lost ∧
        source.write = .error fault ∧ reason = .datagram fault) ∨
      ∃ own key flow fault, input.packet? = some own ∧ reason = .endDetector fault ∧
        pool.Belongs (pool.registryAt actions later) own key flow ∧
        pool.hooks.completes (flow.message.append own) = .error fault
  accepts : ∀ later own, packetAt? actions later = some own →
    pool.records (pool.registryAt actions later) own = true →
      (ledger.lives.flatMap Life.places).count later = 1

theorem ledger_resumes (fits : pool.Schedulable (pool.after actions).clock) {life : Life}
    (member : life ∈ (pool.ledger actions).lives) {place : Nat} {packet : Packet}
    (given : (place, packet) ∈ life.given)
    (silent : deliveries (pool.effectsAt actions place) = []) :
    pool.Resumes actions place packet life (pool.ledger actions) := by
  have genuine := ledger_genuine fits life member
  have traces := ledger_traces fits
  have born : life.birth ≤ place := genuine.birth_le (List.mem_map_of_mem given)
  have later : ∀ ended ∈ (pool.ledger actions).ended, ended.life = life →
      place < ended.place := by
    intro ended listed own
    have recorded : place ∈ ended.life.places := by
      rw [own]
      exact List.mem_map_of_mem given
    have reached := ledger_places_le fits ended listed place recorded
    refine Nat.lt_of_le_of_ne reached ?_
    intro same
    -- the action at its own place would have delivered it
    have called := traces.called place
    rw [silent] at called
    have chosen : ended ∈ (pool.ledger actions).ended.filter
        fun ended => decide (ended.place = place) :=
      List.mem_filter.mpr ⟨listed, decide_eq_true same.symm⟩
    rw [List.map_eq_nil_iff.mp called.symm] at chosen
    cases chosen
  constructor
  case toTraces => exact traces
  case holds => exact given
  case once =>
      have once := List.count_eq_one_of_mem (ledger_lives_nodup fits) member
      rwa [Ledger.lives, List.count_append] at once
  case kept =>
      intro after early inside stands
      exact ledger_kept fits member (Nat.lt_of_le_of_lt born early) inside stands
  case ended =>
      intro ended listed own
      have lawful := (ledger_lawful fits).ended ended listed
      obtain ⟨action, here, due⟩ := pool.ledger_due actions ended listed
      have early := later ended listed own
      exact ⟨early, mem_packets_of_earlier lawful due (own ▸ given) early, lawful, action, here,
        due⟩
  case timedOut =>
      intro ended listed _ termination
      exact ledger_timedOut fits listed termination
  case noticed =>
      intro after early here due
      exact ledger_noticed fits member (Nat.lt_of_le_of_lt born early) here due
  case calls =>
      intro after input reason _ failed
      exact take_faults (fits.of_le (pool.registryAt_clock_le actions after)) failed
  case accepts =>
      intro after own brought belongs
      rw [(ledger_places fits).count_eq]
      exact List.count_eq_one_of_mem (placesWhere_nodup pool _ actions)
        ((mem_recordings_iff brought).mpr belongs)

/-- A completion rule that fails does no harm: the call touches the entry that its packet belongs
to and nothing else, and the message goes on with its packet and its deadline. -/
theorem interruption_contained (pool : Pool) {actions : List Action} {input : Input}
    {packet : Packet} {fault : Fault} (brings : input.packet? = some packet)
    (fits : pool.Schedulable (pool.after actions).clock)
    (failed : (pool.take (pool.after actions) input).fault = some (.endDetector fault)) :
    ∃ key flow, pool.Contained (pool.after actions) (pool.take (pool.after actions) input) packet
        key flow ∧
      ∀ later, pool.Schedulable (pool.after (actions ++ .take input :: later)).clock →
        ∃ life : Life, life.key = key ∧ flow.deadline = some (life.deadline pool) ∧
          pool.Resumes (actions ++ .take input :: later) actions.length packet life
            (pool.ledger (actions ++ .take input :: later)) := by
  rw [take_of_packet? brings] at failed ⊢
  obtain ⟨key, flow, own, -, plain, belongs, below, asked, outcome⟩ := interrupts_of_fault fits failed
  have contained := interrupted_contained (pool.after_unambiguous actions) belongs below own
  rw [outcome]
  refine ⟨key, flow, contained, ?_⟩
  intro later fitting
  have split : actions ++ .take input :: later = (actions ++ [.take input]) ++ later := by simp
  have acts : Action.packet? (.take input) = some packet := brings
  have earlier : pool.Schedulable (pool.after (actions ++ [.take input])).clock := by
    rw [split] at fitting
    exact fitting.of_le (pool.clock_le_after_append _ later)
  have incomplete : pool.complete flow.message packet ≠ .ok true := by
    rw [complete, if_neg (Nat.not_le_of_lt below), grown_of_fits (Nat.le_of_lt below), asked]
    intro same
    cases same
  obtain ⟨life, rfl, rfl, tracked⟩ := ledger_joined earlier acts plain belongs incomplete
  have listed := List.mem_append_left ((pool.ledger (actions ++ [.take input])).ended.map
    Ended.life) tracked
  have deadline := ledger_deadline earlier _ listed
  rw [split] at fitting ⊢
  obtain ⟨more, grown⟩ := ledger_grows fitting listed
  have given : (actions.length, packet) ∈ (life.add actions.length packet).given ++ more :=
    List.mem_append_left _ (List.mem_append_right _ List.mem_cons_self)
  have silent : deliveries (pool.effectsAt ((actions ++ [.take input]) ++ later)
      actions.length) = [] := by
    rw [pool.effectsAt_append (by simp), effectsAt_last]
    simp only [act, take_of_packet? brings, outcome]
    exact contained.delivered
  have resumes := ledger_resumes fitting grown given silent
  refine ⟨_, ?_, ?_, resumes⟩
  · rfl
  · exact deadline

def opening : List Action :=
  [.take (.packet ((⟨nearby 1, nearby 2⟩ : Conversation).packet [] .requestSyn))]

/-- It closes the message with a packet on which the completion rule fails. -/
def stumble : Packet :=
  (⟨nearby 1, nearby 2⟩ : Conversation).packet [0] .requestFin

/-- The message outlives the FIN, and ends with the next one or by its deadline. -/
theorem interruption_contained_stumble :
    (touchy.take (touchy.after opening) (.packet stumble)).fault =
        some (.endDetector .unreadable) ∧
      (deliveries (touchy.effects (opening ++
          [.take (.packet stumble), .take (.packet { stumble with payload := [7] })]))).map
            (fun delivery => (delivery.message.data, delivery.termination)) =
        [([0, 7], .completed)] ∧
      (deliveries (touchy.effects (opening ++ [.take (.packet stumble), .elapse 5000000000, .settle]))).map
            (fun delivery => (delivery.message.data, delivery.termination)) =
        [([0], .timedOut)] ∧
      ∃ key flow, touchy.Contained (touchy.after opening)
          (touchy.take (touchy.after opening) (.packet stumble)) stumble key flow ∧
        ∃ life : Life, life.key = key ∧ flow.deadline = some (life.deadline touchy) ∧
          touchy.Resumes (opening ++ [.take (.packet stumble), .elapse 5000000000, .settle])
            opening.length stumble life
            (touchy.ledger (opening ++ [.take (.packet stumble), .elapse 5000000000, .settle])) := by
  have brings : Input.packet? (.packet stumble) = some stumble := rfl
  have fits : touchy.Schedulable (touchy.after opening).clock := by decide +kernel
  have failed : (touchy.take (touchy.after opening) (.packet stumble)).fault =
      some (.endDetector .unreadable) := by decide +kernel
  obtain ⟨key, flow, contained, resumes⟩ := interruption_contained touchy brings fits failed
  refine ⟨failed, by decide +kernel, by decide +kernel, key, flow, contained, ?_⟩
  apply resumes
  decide +kernel

end Pool

end Reassembly
