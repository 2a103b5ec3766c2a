import Reassembly.Proofs.Pool.Conservation
import Reassembly.Proofs.Pool.LedgerOrigins

/-!
# Where lives end

An ended life names the place in the run where it ended.  The action at that place is
one that ends lives in this way (`Pool.ledger_due`), and it delivers the lives that
ended there and nothing else (`Pool.ledger_delivers`).  `Pool.Traces` gathers what ties
a ledger to its run.
-/

set_option autoImplicit false

namespace Reassembly

/-- An action gives a reason for an ending: the packet that a completed message gained last
came in at the place of its ending, a reset message met a packet with RST, and a message
timed out while no input was taken in. -/
def Ended.Due (action : Pool.Action) (ended : Ended) : Prop :=
  match ended.termination with
  | .completed => ended.life.places.getLast? = some ended.place
  | .reset => ∃ packet, action.packet? = some packet ∧ packet.flags.rst = true
  | .timedOut => ∀ input, action ≠ .take input

namespace Ledger

def EndsOnly (test : Ended → Prop) (before after : Ledger) : Prop :=
  ∃ gone, after.ended = before.ended ++ gone ∧ ∀ ended ∈ gone, test ended

theorem EndsOnly.refl (test : Ended → Prop) (ledger : Ledger) : EndsOnly test ledger ledger := by
  refine ⟨[], (List.append_nil _).symm, ?_⟩
  intro ended member
  cases member

theorem EndsOnly.trans {test : Ended → Prop} {first second third : Ledger}
    (before : EndsOnly test first second) (after : EndsOnly test second third) :
    EndsOnly test first third := by
  obtain ⟨early, joinedEarly, passEarly⟩ := before
  obtain ⟨late, joinedLate, passLate⟩ := after
  refine ⟨early ++ late, ?_, ?_⟩
  · rw [joinedLate, joinedEarly, List.append_assoc]
  · intro ended member
    cases List.mem_append.mp member with
    | inl first => exact passEarly ended first
    | inr second => exact passLate ended second

/-- How a life ends in an action: its packet completes the life, or resets it, or its watcher
gives up waiting at a time that the action reaches. -/
inductive Ends (pool : Pool) (ledger : Ledger) (action : Pool.Action) : Ended → Prop
  | completes (life : Life) (packet : Packet) (brings : action.packet? = some packet)
      (origin : life ∈ ledger.live ∨ ∃ direction, life = ledger.newborn direction packet) :
      Ends pool ledger action
        ⟨life.add ledger.place packet, .completed, ledger.clock, ledger.place⟩
  | resets (life : Life) (packet : Packet) (brings : action.packet? = some packet)
      (rst : packet.flags.rst = true) (member : life ∈ ledger.live) :
      Ends pool ledger action ⟨life, .reset, ledger.clock, ledger.place⟩
  | expires (life : Life) (deadline : Nat) (idle : ∀ input, action ≠ .take input)
      (member : life ∈ ledger.live) (watched : (life.flow pool).deadline = some deadline)
      (reached : dueTime deadline ≤ (ledger.act pool action).clock) :
      Ends pool ledger action ⟨life, .timedOut, dueTime deadline, ledger.place⟩

variable {pool : Pool} {ledger : Ledger}

theorem Ends.place {action : Pool.Action} {ended : Ended} (ends : Ends pool ledger action ended) :
    ended.place = ledger.place := by
  cases ends <;> rfl

theorem Ends.due {action : Pool.Action} {ended : Ended} (ends : Ends pool ledger action ended) :
    ended.Due action := by
  cases ends with
  | completes life packet brings origin =>
      simp only [Ended.Due, Life.places_add, List.getLast?_concat]
  | resets life packet brings rst member => exact ⟨packet, brings, rst⟩
  | expires life deadline idle member watched reached => exact idle

theorem finish_endsOnly {test : Ended → Prop} {choice : Life → Bool} {termination : Termination}
    {time : Life → Nat}
    (passes : ∀ life ∈ ledger.live, choice life = true →
      test ⟨life, termination, time life, ledger.place⟩) :
    EndsOnly test ledger (ledger.finish choice termination time) := by
  refine ⟨_, rfl, ?_⟩
  intro ended member
  obtain ⟨life, inside, rfl⟩ := List.mem_map.mp member
  obtain ⟨live, chosen⟩ := List.mem_filter.mp inside
  exact passes life live chosen

theorem finishSide_endsOnly {test : Ended → Prop}
    (passes : ∀ life ∈ ledger.live, test ⟨life, .reset, ledger.clock, ledger.place⟩)
    (src dst : Endpoint) : EndsOnly test ledger (ledger.finishSide pool src dst) := by
  unfold finishSide
  split
  · exact EndsOnly.refl _ ledger
  · apply finish_endsOnly
    intro life member chosen
    exact passes life member

theorem finishSide_stands (pool : Pool) (ledger : Ledger) (src dst : Endpoint) :
    (ledger.finishSide pool src dst).clock = ledger.clock ∧
      (ledger.finishSide pool src dst).place = ledger.place := by
  unfold finishSide
  split <;> exact ⟨rfl, rfl⟩

theorem record_endsOnly {action : Pool.Action} {life : Life} {packet : Packet}
    (brings : action.packet? = some packet)
    (origin : life ∈ ledger.live ∨ ∃ direction, life = ledger.newborn direction packet) :
    EndsOnly (Ends pool ledger action) ledger (ledger.record pool life packet) := by
  by_cases complete : pool.complete (life.flow pool).message packet = .ok true
  · rw [record_of_complete complete]
    refine ⟨_, rfl, ?_⟩
    intro ended member
    rw [List.mem_singleton.mp member]
    exact .completes life packet brings origin
  · rw [record_of_incomplete complete]
    exact EndsOnly.refl _ ledger

theorem enroll_endsOnly {action : Pool.Action} {packet : Packet}
    (brings : action.packet? = some packet) (direction : Direction) :
    EndsOnly (Ends pool ledger action) ledger (ledger.enroll pool direction packet) := by
  unfold enroll
  dsimp only
  split
  · exact EndsOnly.refl _ ledger
  · exact record_endsOnly brings (Or.inr ⟨direction, rfl⟩)

theorem takePacket_endsOnly (pool : Pool) (ledger : Ledger) {action : Pool.Action}
    {packet : Packet} (brings : action.packet? = some packet) :
    EndsOnly (Ends pool ledger action) ledger (ledger.takePacket pool packet) := by
  have taken := pool.takes (ledger.registry pool) packet
  generalize pool.takePacket (ledger.registry pool) packet = outcome at taken
  unfold takePacket
  cases taken with
  | resets rst =>
      rw [if_pos rst]
      have ends : ∀ life ∈ ledger.live,
          Ends pool ledger action ⟨life, .reset, ledger.clock, ledger.place⟩ := by
        intro life member
        exact .resets life packet brings rst member
      refine (finishSide_endsOnly ends packet.src packet.dst).trans (finishSide_endsOnly ?_ _ _)
      intro life member
      obtain ⟨clock, place⟩ := finishSide_stands pool ledger packet.src packet.dst
      have sheds := finishSide_sheds pool ledger packet.src packet.dst
      rw [clock, place]
      exact ends life (sheds.live.subset member)
  | joins key flow plain filed found =>
      obtain ⟨life, own, live, rfl, rfl⟩ := live_of_find? found
      simp only [plain, Bool.false_eq_true, if_false, filed, own]
      exact record_endsOnly brings (Or.inl live)
  | drops plain unfiled closed =>
      simp only [plain, Bool.false_eq_true, if_false, unfiled, closed]
      exact EndsOnly.refl _ ledger
  | opens direction plain unfiled answer =>
      simp only [plain, Bool.false_eq_true, if_false, unfiled, answer]
      exact enroll_endsOnly brings direction

theorem expire_endsOnly {action : Pool.Action} {limit : Nat}
    (idle : ∀ input, action ≠ .take input) (reached : limit ≤ (ledger.act pool action).clock + 1) :
    EndsOnly (Ends pool ledger action) ledger (ledger.expire pool limit) := by
  apply finish_endsOnly
  intro life member chosen
  obtain ⟨deadline, watched, below⟩ := Flow.dueBefore_iff.mp chosen
  have noticed : dueTime deadline ≤ (ledger.act pool action).clock := by omega
  rw [watched, Option.getD_some]
  exact .expires life deadline idle member watched noticed

theorem act_endsOnly (pool : Pool) (ledger : Ledger) (action : Pool.Action) :
    EndsOnly (Ends pool ledger action) ledger (ledger.act pool action) := by
  cases action with
  | take input =>
      cases brings : input.packet? with
      | none =>
          simp only [act, turn, brings]
          exact EndsOnly.refl _ ledger
      | some packet =>
          have acts : Pool.Action.packet? (.take input) = some packet := brings
          have ends := takePacket_endsOnly pool ledger acts
          simp only [act, turn, brings]
          exact ends
  | elapse nanos =>
      have idle : ∀ input, Pool.Action.elapse nanos ≠ .take input := by
        intro input same
        cases same
      exact expire_endsOnly idle (Nat.le_succ (ledger.clock + nanos))
  | settle =>
      have idle : ∀ input, Pool.Action.settle ≠ .take input := by
        intro input same
        cases same
      exact expire_endsOnly idle (Nat.le_refl (ledger.clock + 1))

end Ledger

namespace Pool

theorem ledger_place_take (pool : Pool) {actions : List Action} {place : Nat}
    (inside : place ≤ actions.length) : (pool.ledger (actions.take place)).place = place := by
  rw [ledger_place, List.length_take, Nat.min_eq_left inside]

theorem ledger_ends (pool : Pool) (actions : List Action) :
    ∀ ended ∈ (pool.ledger actions).ended, ∃ place action, actions[place]? = some action ∧
      ended.place = place ∧ Ledger.Ends pool (pool.ledger (actions.take place)) action ended := by
  induction actions using List.reverseRecOn with
  | nil =>
      intro ended member
      cases member
  | append_singleton actions action ih =>
      intro ended member
      obtain ⟨gone, joined, ends⟩ := Ledger.act_endsOnly pool (pool.ledger actions) action
      rw [ledger_concat, joined] at member
      cases List.mem_append.mp member with
      | inl before =>
          obtain ⟨place, earlier, here, own, reason⟩ := ih ended before
          have inside : place < actions.length := (List.getElem?_eq_some_iff.mp here).1
          refine ⟨place, earlier, by rw [List.getElem?_append_left inside, here], own, ?_⟩
          rw [List.take_append_of_le_length (Nat.le_of_lt inside)]
          exact reason
      | inr now =>
          have reason := ends ended now
          refine ⟨actions.length, action, List.getElem?_concat_length,
            reason.place.trans (pool.ledger_place actions), ?_⟩
          rw [List.take_left]
          exact reason

theorem ledger_due (pool : Pool) (actions : List Action) :
    ∀ ended ∈ (pool.ledger actions).ended,
      ∃ action, actions[ended.place]? = some action ∧ ended.Due action := by
  intro ended member
  obtain ⟨place, action, here, own, ends⟩ := pool.ledger_ends actions ended member
  exact ⟨action, own ▸ here, ends.due⟩

theorem ledger_ended_place_lt (pool : Pool) (actions : List Action) :
    ∀ ended ∈ (pool.ledger actions).ended, ended.place < actions.length := by
  intro ended member
  obtain ⟨action, here, -⟩ := pool.ledger_due actions ended member
  exact (List.getElem?_eq_some_iff.mp here).1

/-! ## What the action at a place does -/

def effectsAt (pool : Pool) (actions : List Action) (place : Nat) : List Effect :=
  match actions[place]? with
  | some action => (pool.act (pool.registryAt actions place) action).effects
  | none => []

theorem effectsAt_append (pool : Pool) {first : List Action} {place : Nat}
    (inside : place < first.length) (later : List Action) :
    pool.effectsAt (first ++ later) place = pool.effectsAt first place := by
  unfold effectsAt
  rw [List.getElem?_append_left inside, pool.registryAt_append (Nat.le_of_lt inside)]

theorem effectsAt_last (pool : Pool) (actions : List Action) (action : Action) :
    pool.effectsAt (actions ++ [action]) actions.length =
      (pool.act (pool.after actions) action).effects := by
  simp [effectsAt, registryAt]

theorem ledger_delivers (pool : Pool) (actions : List Action) (place : Nat) :
    deliveries (pool.effectsAt actions place) =
      ((pool.ledger actions).ended.filter fun ended => decide (ended.place = place)).filterMap
        (Ended.delivery? pool) := by
  induction actions using List.reverseRecOn with
  | nil => rfl
  | append_singleton actions action ih =>
      obtain ⟨gone, joined, ends⟩ := Ledger.act_endsOnly pool (pool.ledger actions) action
      rw [ledger_concat, joined, List.filter_append, List.filterMap_append]
      -- the new action delivers at its own place only, and leaves the earlier places alone
      by_cases here : place = actions.length
      · subst here
        have unambiguous := pool.ledger_unambiguous actions
        have delivered := Ledger.deliveries_act unambiguous action
        rw [Ledger.deliveries, joined, List.filterMap_append, Ledger.deliveries,
          List.append_cancel_left_eq, ledger_registry] at delivered
        have before : (pool.ledger actions).ended.filter
            (fun ended => decide (ended.place = actions.length)) = [] := by
          apply List.filter_eq_nil_iff.mpr
          intro ended member
          have earlier := pool.ledger_ended_place_lt actions ended member
          rw [decide_eq_true_eq]
          omega
        have now : gone.filter (fun ended => decide (ended.place = actions.length)) = gone := by
          apply List.filter_eq_self.mpr
          intro ended member
          rw [decide_eq_true_eq, (ends ended member).place, ledger_place]
        rw [before, now, effectsAt_last, ← delivered]
        rfl
      · have now : gone.filter (fun ended => decide (ended.place = place)) = [] := by
          apply List.filter_eq_nil_iff.mpr
          intro ended member
          rw [decide_eq_true_eq, (ends ended member).place, ledger_place]
          exact Ne.symm here
        rw [now, List.filterMap_nil, List.append_nil, ← ih]
        by_cases inside : place < actions.length
        · rw [pool.effectsAt_append inside]
        · have beyond : (actions ++ [action]).length ≤ place := by
            simp only [List.length_append, List.length_singleton]
            omega
          have past : actions.length ≤ place := Nat.le_of_not_lt inside
          simp only [effectsAt, List.getElem?_eq_none beyond, List.getElem?_eq_none past]

/-! ## Ledger and run -/

/-- A ledger is what happened in a run: its live messages are the tracked ones, its ended
messages are those that the action at their place delivered, every message began with its
opener, and a packet that joined one found it in the registry with its earlier packets. -/
structure Traces (pool : Pool) (actions : List Action) (ledger : Ledger) : Prop where
  tracked : (pool.after actions).flows = ledger.live.map (Life.entry pool)
  dispatched : deliveries (pool.effects actions) = ledger.ended.map (Ended.delivery pool)
  called : ∀ place, deliveries (pool.effectsAt actions place) =
    (ledger.ended.filter fun ended => decide (ended.place = place)).map (Ended.delivery pool)
  begun : ∀ life ∈ ledger.lives, life.given.head? = some (life.birth, life.opener)
  given : ∀ life ∈ ledger.lives, ∀ entry ∈ life.given, packetAt? actions entry.1 = some entry.2
  ordered : ∀ life ∈ ledger.lives, life.places.Pairwise (· < ·)
  stood : ∀ life ∈ ledger.lives, ∀ count entry, 0 < count → life.given[count]? = some entry →
    (life.upTo count).entry pool ∈ (pool.registryAt actions entry.1).flows

theorem ledger_traces {pool : Pool} {actions : List Action}
    (fits : pool.Schedulable (pool.after actions).clock) :
    pool.Traces actions (pool.ledger actions) := by
  have genuine := ledger_genuine fits
  constructor
  case tracked =>
      rw [← ledger_registry]
      rfl
  case dispatched => exact ledger_delivered fits
  case called =>
      intro place
      rw [ledger_delivers]
      apply List.filterMap_eq_map_iff_forall_eq_some.mpr
      intro ended member
      exact ledger_delivery? fits (List.mem_filter.mp member).1
  case begun =>
      intro life member
      exact (genuine life member).first
  case given =>
      intro life member entry inside
      exact ((genuine life member).taken entry inside).1
  case ordered =>
      intro life member
      exact (genuine life member).ordered
  case stood =>
      intro life member count entry later here
      exact (pool.ledger_stood actions life member count entry later here).2

end Pool

end Reassembly
