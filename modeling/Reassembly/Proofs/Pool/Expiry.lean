import Reassembly.Proofs.Pool.Fates
import Reassembly.Proofs.Pool.LedgerEndings
import Reassembly.Proofs.Pool.Watchers

/-!
# Deadlines are kept

The deadline of a message is the time of the call that opened it and the expiry of the pool,
whoever was filed under its key before, and nothing moves it: at every place between its
opening and its ending the pool tracks the message with that deadline and with the packets
recorded by then (`Life.Dwells`).  A message that times out does so at the due time of its
deadline, and none is tracked once the deadlines of that time have been noticed.
-/

set_option autoImplicit false

namespace Reassembly

namespace Life

/-- The time at which a life's watcher gives up waiting. -/
def deadline (pool : Pool) (life : Life) : Nat :=
  life.since + pool.limits.effectiveExpiry.totalNanos

/-- The clock reading at which a life's watcher is woken. -/
def due (pool : Pool) (life : Life) : Nat :=
  dueTime (life.deadline pool)

def before (life : Life) (place : Nat) : Life :=
  { life with given := life.given.filter fun entry => decide (entry.1 < place) }

theorem before_eq_self {life : Life} {place : Nat} (earlier : ∀ other ∈ life.places, other < place) :
    life.before place = life := by
  have all : (life.given.filter fun entry => decide (entry.1 < place)) = life.given := by
    apply List.filter_eq_self.mpr
    intro entry member
    exact decide_eq_true (earlier entry.1 (List.mem_map_of_mem member))
  rw [before, all]

theorem before_add {life : Life} {place later : Nat} (inside : place ≤ later) (packet : Packet) :
    (life.add later packet).before place = life.before place := by
  have past : ¬later < place := Nat.not_lt_of_le inside
  simp [before, add, past]

/-- From its opening up to a place, a life is tracked with the packets recorded by then. -/
def Dwells (pool : Pool) (actions : List Pool.Action) (last : Nat) (life : Life) : Prop :=
  ∀ place, life.birth < place → place ≤ last →
    (life.before place).entry pool ∈ (pool.registryAt actions place).flows

theorem Dwells.concat {pool : Pool} {actions : List Pool.Action} {life : Life} {last : Nat}
    (dwells : life.Dwells pool actions last) (inside : last ≤ actions.length)
    (action : Pool.Action) : life.Dwells pool (actions ++ [action]) last := by
  intro place born early
  rw [pool.registryAt_concat (Nat.le_trans early inside)]
  exact dwells place born early

theorem Dwells.add {pool : Pool} {actions : List Pool.Action} {life : Life} {last : Nat}
    (dwells : life.Dwells pool actions last) (packet : Packet) :
    (life.add last packet).Dwells pool actions last := by
  intro place born early
  rw [before_add early]
  exact dwells place born early

end Life

theorem Ledger.mem_live_record {pool : Pool} {ledger : Ledger} {first life : Life}
    {packet : Packet} (member : life ∈ (ledger.record pool first packet).live) :
    life = first.add ledger.place packet ∨ life ∈ ledger.live := by
  have kept : life ∈ ledger.without first.key → life ∈ ledger.live := by
    intro other
    exact (List.mem_filter.mp other).1
  by_cases complete : pool.complete (first.flow pool).message packet = .ok true
  · rw [record_of_complete complete] at member
    exact Or.inr (kept member)
  · rw [record_of_incomplete complete] at member
    rcases List.mem_append.mp member with other | longer
    · exact Or.inr (kept other)
    · exact Or.inl (List.mem_singleton.mp longer)

namespace Pool

theorem effectiveExpiry_eq (pool : Pool) : pool.limits.effectiveExpiry = pool.limits.expiry :=
  congrArg Limits.expiry pool.inForce

theorem Schedulable.deadlineAfter? {pool : Pool} {clock : Nat} (fits : pool.Schedulable clock) :
    deadlineAfter? clock pool.limits.expiry =
      some (clock + pool.limits.effectiveExpiry.totalNanos) := by
  rw [effectiveExpiry_eq]
  unfold Schedulable at fits
  unfold Reassembly.deadlineAfter? at *
  dsimp only at *
  split at fits
  · rename_i below
    rw [if_pos below]
  · cases fits

/-! ## Tracked from the opening on -/

variable {pool : Pool} {actions : List Action}

theorem dwells_last (fits : pool.Schedulable (pool.after actions).clock) {life : Life}
    (member : life ∈ (pool.ledger actions).live) :
    (life.before actions.length).entry pool ∈ (pool.registryAt actions actions.length).flows := by
  have genuine := ledger_genuine fits life (List.mem_append_left _ member)
  rw [life.before_eq_self fun _ => genuine.places_lt, registryAt, List.take_length,
    ← ledger_registry]
  exact List.mem_map_of_mem member

theorem ledger_dwells (fits : pool.Schedulable (pool.after actions).clock) :
    ∀ life ∈ (pool.ledger actions).live, life.Dwells pool actions actions.length := by
  induction actions using List.reverseRecOn with
  | nil =>
      intro life member
      cases member
  | append_singleton actions action ih =>
      intro life member place born inside
      have last := dwells_last fits member
      have before := ih fits.of_concat
      have earlier : ∀ older ∈ (pool.ledger actions).live,
          older.Dwells pool (actions ++ [action]) actions.length := by
        intro older tracked
        exact (before older tracked).concat (Nat.le_refl _) action
      by_cases now : place = (actions ++ [action]).length
      · rw [now]
        exact last
      · have early : place ≤ actions.length := by
          simp only [List.length_append, List.length_singleton] at inside now
          omega
        obtain ⟨next, turned, result⟩ := ledger_turns fits
        rw [result] at member
        cases turned with
        | rests _ idle sheds accounted =>
            exact earlier life (sheds.live.subset member) place born early
        | joins first packet brings plain tracked filed accounted =>
            rcases Ledger.mem_live_record member with rfl | other
            · rw [ledger_place]
              exact (earlier first tracked).add packet place born early
            · exact earlier life other place born early
        | opens direction packet brings plain unfiled answer accounted =>
            rcases Ledger.mem_live_record member with rfl | other
            · -- it was opened just now
              have born : actions.length < place := pool.ledger_place actions ▸ born
              exact absurd early (Nat.not_le_of_lt born)
            · exact earlier life other place born early

theorem registryAt_take (pool : Pool) (actions : List Action) {place later : Nat}
    (inside : place ≤ later) :
    pool.registryAt (actions.take later) place = pool.registryAt actions place := by
  rw [registryAt, registryAt, List.take_take, Nat.min_eq_left inside]

theorem ledger_places_lt (fits : pool.Schedulable (pool.after actions).clock) {place : Nat}
    (inside : place ≤ actions.length) {life : Life}
    (tracked : life ∈ (pool.ledger (actions.take place)).live) :
    ∀ other ∈ life.places, other < place := by
  intro other recorded
  have earlier := fits.of_le (pool.registryAt_clock_le actions place)
  have genuine := ledger_genuine earlier life (List.mem_append_left _ tracked)
  have early := genuine.places_lt recorded
  rwa [List.length_take, Nat.min_eq_left inside] at early

theorem ledger_dwells_ended (fits : pool.Schedulable (pool.after actions).clock) :
    ∀ ended ∈ (pool.ledger actions).ended, ended.life.Dwells pool actions ended.place := by
  intro ended member
  obtain ⟨place, action, here, own, ends⟩ := pool.ledger_ends actions ended member
  have inside : place ≤ actions.length := Nat.le_of_lt (List.getElem?_eq_some_iff.mp here).1
  have all : (actions.take place).length = place := by
    rw [List.length_take, Nat.min_eq_left inside]
  have dwelt : ∀ life ∈ (pool.ledger (actions.take place)).live,
      life.Dwells pool actions place := by
    intro life tracked earlier born early
    have stands := ledger_dwells (fits.of_le (pool.registryAt_clock_le actions place)) life tracked
      earlier born (all.symm ▸ early)
    rwa [registryAt_take pool actions early] at stands
  rw [own]
  cases ends with
  | completes life packet brings origin =>
      rw [ledger_place_take pool inside]
      rcases origin with tracked | ⟨direction, rfl⟩
      · exact (dwelt life tracked).add packet
      · -- it was opened at the place where it ended
        intro earlier born early
        have born : place < earlier := ledger_place_take pool inside ▸ born
        exact absurd early (Nat.not_le_of_lt born)
  | resets life packet brings rst tracked => exact dwelt life tracked
  | expires life deadline idle tracked watched reached => exact dwelt life tracked

/-! ## Every message has its own deadline -/

theorem ledger_deadline (fits : pool.Schedulable (pool.after actions).clock) :
    ∀ life ∈ (pool.ledger actions).lives,
      (life.flow pool).deadline = some (life.deadline pool) := by
  intro life member
  have since := (ledger_genuine fits life member).since
  have opened : pool.Schedulable life.since := by
    rw [since]
    exact fits.of_le (pool.registryAt_clock_le actions life.birth)
  exact opened.deadlineAfter?

theorem ledger_kept (fits : pool.Schedulable (pool.after actions).clock) {life : Life}
    (member : life ∈ (pool.ledger actions).lives) {place : Nat} (born : life.birth < place)
    (inside : place ≤ actions.length)
    (stands : ∀ ended ∈ (pool.ledger actions).ended, ended.life = life → place ≤ ended.place) :
    (pool.registryAt actions place).find? life.key =
      some ⟨(life.before place).message pool.limits.maxSize, some (life.deadline pool)⟩ := by
  have tracked : (life.before place).entry pool ∈ (pool.registryAt actions place).flows := by
    rcases List.mem_append.mp member with live | gone
    · exact ledger_dwells fits life live place born inside
    · obtain ⟨ended, listed, rfl⟩ := List.mem_map.mp gone
      exact ledger_dwells_ended fits ended listed place born (stands ended listed rfl)
  have found := (Registry.find?_eq_some_iff (pool.after_unambiguous _)).mpr tracked
  rw [← ledger_deadline fits life member]
  exact found

theorem ledger_live_due (fits : pool.Schedulable (pool.after actions).clock) :
    ∀ life ∈ (pool.ledger actions).live, (pool.after actions).clock ≤ life.due pool := by
  intro life member
  have tracked : life.entry pool ∈ (pool.after actions).flows := by
    rw [← ledger_registry]
    exact List.mem_map_of_mem member
  obtain ⟨deadline, watched, later⟩ := (after_attended fits).1 _ tracked
  have own := ledger_deadline fits life (List.mem_append_left _ member)
  rw [Life.entry] at watched
  rw [watched] at own
  cases own
  exact later

theorem ledger_punctual (fits : pool.Schedulable (pool.after actions).clock) :
    ∀ ended ∈ (pool.ledger actions).ended, ended.time ≤ ended.life.due pool := by
  intro ended member
  have watched := ledger_deadline fits ended.life
    (List.mem_append_right _ (List.mem_map_of_mem member))
  obtain ⟨place, action, here, own, ends⟩ := pool.ledger_ends actions ended member
  have earlier := fits.of_le (pool.registryAt_clock_le actions place)
  have clock := pool.ledger_clock (actions.take place)
  cases ends with
  | completes life packet brings origin =>
      rcases origin with tracked | ⟨direction, rfl⟩
      · rw [clock]
        exact ledger_live_due earlier life tracked
      · exact clock_le_dueTime watched
  | resets life packet brings rst tracked =>
      rw [clock]
      exact ledger_live_due earlier life tracked
  | expires life deadline idle tracked expected reached =>
      have same : deadline = life.deadline pool := Option.some.inj (expected.symm.trans watched)
      rw [same]
      exact Nat.le_refl _

/-- A life that ended by its deadline: not before it and within a millisecond, at the due time,
which the action at the place of the ending reaches, and with all packets that were recorded by
then. -/
structure TimedOut (pool : Pool) (actions : List Action) (ended : Ended) : Prop where
  patient : ended.life.deadline pool ≤ ended.time
  prompt : ended.time < ended.life.deadline pool + nanosPerMilli
  time : ended.time = ended.life.due pool
  reached : (pool.registryAt actions ended.place).clock ≤ ended.time ∧
    ended.time ≤ (pool.registryAt actions (ended.place + 1)).clock
  born : ended.life.birth < ended.place
  whole : ended.life.before ended.place = ended.life
  packets : (ended.delivery pool).message.packets = ended.life.packets

theorem ledger_timedOut (fits : pool.Schedulable (pool.after actions).clock) {ended : Ended}
    (member : ended ∈ (pool.ledger actions).ended) (termination : ended.termination = .timedOut) :
    pool.TimedOut actions ended := by
  have watched := ledger_deadline fits ended.life
    (List.mem_append_right _ (List.mem_map_of_mem member))
  have lawful := (ledger_lawful fits).ended ended member
  obtain ⟨place, action, here, own, ends⟩ := pool.ledger_ends actions ended member
  have inside : place ≤ actions.length := Nat.le_of_lt (List.getElem?_eq_some_iff.mp here).1
  have earlier := fits.of_le (pool.registryAt_clock_le actions place)
  cases ends with
  | completes life packet brings origin => cases termination
  | resets life packet brings rst tracked => cases termination
  | expires life deadline idle tracked expected reached =>
      have same : deadline = life.deadline pool := Option.some.inj (expected.symm.trans watched)
      have genuine := ledger_genuine earlier life (List.mem_append_left _ tracked)
      have lower := ledger_live_due earlier life tracked
      have past := ledger_places_lt fits inside tracked
      have first : life.birth ∈ life.places :=
        List.mem_map_of_mem (List.mem_of_head? genuine.first)
      have after : ((pool.ledger (actions.take place)).act pool action).clock =
          (pool.registryAt actions (place + 1)).clock := by
        rw [← ledger_concat, ledger_clock, registryAt, List.take_add_one, here]
        rfl
      subst same
      constructor
      case patient => exact deadline_le_dueTime _
      case prompt => exact dueTime_lt _
      case time => rfl
      case reached =>
          rw [own, ← after]
          exact ⟨lower, reached⟩
      case born =>
          rw [own]
          exact past _ first
      case whole =>
          rw [own]
          exact Life.before_eq_self past
      case packets => exact Life.Open.packets_eq lawful

/-- Once the deadlines of its due time have been noticed, a message has ended. -/
theorem ledger_noticed (fits : pool.Schedulable (pool.after actions).clock) {life : Life}
    (member : life ∈ (pool.ledger actions).lives) {place : Nat} (born : life.birth < place)
    (here : actions[place]? = some .settle)
    (due : life.due pool ≤ (pool.registryAt actions place).clock) :
    ∃ ended ∈ (pool.ledger actions).ended, ended.life = life ∧ ended.place ≤ place := by
  by_contra unended
  have inside : place < actions.length := (List.getElem?_eq_some_iff.mp here).1
  -- it would still be tracked after its deadline was noticed
  have stands : ∀ ended ∈ (pool.ledger actions).ended, ended.life = life →
      place + 1 ≤ ended.place := by
    intro ended listed own
    by_contra early
    exact unended ⟨ended, listed, own, by omega⟩
  have found := ledger_kept fits member (Nat.lt_succ_of_lt born) inside stands
  rw [pool.registryAt_succ here] at found
  have patient := (List.mem_filter.mp (Registry.mem_of_find? found)).2
  have later := Flow.le_dueTime_of_patient rfl patient
  exact absurd due (Nat.not_le_of_lt later)

/-- Every message of a run has one deadline, which is its own: it is set by the call that opens the
message, it is not moved as long as the message is tracked, the message does not time out before
it, and the message is not tracked beyond it. -/
structure Expires (pool : Pool) (actions : List Action) (ledger : Ledger) : Prop
    extends Traces pool actions ledger where
  /-- Time runs from the call that opened the message. -/
  since : ∀ life ∈ ledger.lives, life.since = (pool.registryAt actions life.birth).clock
  /-- From its opening to its ending a message is tracked with the packets recorded by then, and
  with one deadline. -/
  kept : ∀ life ∈ ledger.lives, ∀ place, life.birth < place → place ≤ actions.length →
    (∀ ended ∈ ledger.ended, ended.life = life → place ≤ ended.place) →
      (pool.registryAt actions place).find? life.key =
        some ⟨(life.before place).message pool.limits.maxSize, some (life.deadline pool)⟩
  timedOut : ∀ ended ∈ ledger.ended, ended.termination = .timedOut → pool.TimedOut actions ended
  /-- No message ends late. -/
  punctual : ∀ ended ∈ ledger.ended, ended.time ≤ ended.life.due pool
  live : ∀ life ∈ ledger.live, (pool.after actions).clock ≤ life.due pool
  /-- A message has ended once the deadlines of its due time or a later one have been noticed. -/
  noticed : ∀ life ∈ ledger.lives, ∀ place, life.birth < place → actions[place]? = some .settle →
    life.due pool ≤ (pool.registryAt actions place).clock →
      ∃ ended ∈ ledger.ended, ended.life = life ∧ ended.place ≤ place

theorem ledger_expires (pool : Pool) (actions : List Action)
    (fits : pool.Schedulable (pool.after actions).clock) :
    pool.Expires actions (pool.ledger actions) := by
  constructor
  case toTraces => exact ledger_traces fits
  case since =>
      intro life member
      exact (ledger_genuine fits life member).since
  case kept =>
      intro life member place born inside stands
      exact ledger_kept fits member born inside stands
  case timedOut =>
      intro ended member termination
      exact ledger_timedOut fits member termination
  case punctual => exact ledger_punctual fits
  case live => exact ledger_live_due fits
  case noticed =>
      intro life member place born here due
      exact ledger_noticed fits member born here due

/-- A message that is closed before its time, one that is opened under its key at once and lasts
beyond the first one's deadline, and one that is opened a quarter of a millisecond later and
noticed at the next whole millisecond behind its deadline. -/
def renewal : List Action :=
  let talk : Conversation := ⟨nearby 1, nearby 2⟩
  let other : Conversation := ⟨nearby 3, nearby 2⟩
  [.take (.packet (talk.packet [1] .requestSyn)), .elapse 1500000000,
    .take (.packet (talk.packet [2] .requestFin)), .take (.packet (talk.packet [3] .requestSyn)),
    .elapse 250000, .take (.packet (other.packet [4] .requestSyn)), .elapse 499750000, .settle,
    .elapse 1500000000, .take (.packet (talk.packet [5] (.request .acknowledging 7))), .settle,
    .elapse 500000, .settle, .elapse 500000, .settle]

theorem ledger_expires_renewal :
    touchy.Schedulable (touchy.after renewal).clock ∧
      (touchy.ledger renewal).ended.map (fun ended =>
          (ended.life.key, ended.life.since, ended.termination, ended.time, ended.place)) =
        [(.ofClient (nearby 1), 0, .completed, 1500000000, 2),
          (.ofClient (nearby 1), 1500000000, .timedOut, 3500000000, 10),
          (.ofClient (nearby 3), 1500250000, .timedOut, 3501000000, 14)] ∧
      touchy.Expires renewal (touchy.ledger renewal) := by
  have fits : touchy.Schedulable (touchy.after renewal).clock := by decide +kernel
  exact ⟨fits, by decide +kernel, ledger_expires touchy renewal fits⟩

end Pool

end Reassembly
