import Reassembly.Proofs.Pool.LedgerLives

/-!
# Where lives come from

After an action a life was in the ledger before it, or it gained the action's packet,
or it was begun by it (`Ledger.comes`), whether or not messages get a deadline.  So
whenever a packet joined a message, the registry held that message with the packets
that it had by then (`Pool.ledger_stood`).
-/

set_option autoImplicit false

namespace Reassembly

namespace Life

/-- A life as it stood after its first packets. -/
def upTo (life : Life) (count : Nat) : Life :=
  { life with given := life.given.take count }

theorem upTo_add {life : Life} {count : Nat} (inside : count ≤ life.given.length) (place : Nat)
    (packet : Packet) : (life.add place packet).upTo count = life.upTo count := by
  simp only [upTo, add, List.take_append_of_le_length inside]

theorem upTo_length (life : Life) : life.upTo life.given.length = life := by
  simp only [upTo, List.take_length]

theorem upTo_succ {life : Life} {count : Nat} {entry : Nat × Packet}
    (here : life.given[count]? = some entry) :
    life.upTo (count + 1) = (life.upTo count).add entry.1 entry.2 := by
  simp only [upTo, add, List.take_add_one, here, Option.toList_some]

def payload (life : Life) : Bytes :=
  life.packets.flatMap Packet.payload

theorem payload_add (life : Life) (place : Nat) (packet : Packet) :
    (life.add place packet).payload = life.payload ++ packet.payload := by
  simp only [payload, packets_add, List.flatMap_append, List.flatMap_singleton]

theorem Open.of_add {pool : Pool} {life : Life} {place : Nat} {packet : Packet}
    (stays : (life.add place packet).Open pool) :
    life.Open pool ∧ pool.complete (life.flow pool).message packet ≠ .ok true := by
  unfold Open at stays
  rw [packets_add] at stays
  exact Pool.staysOpen_concat.mp stays

theorem Open.upTo {pool : Pool} {life : Life} (stays : life.Open pool) (count : Nat) :
    (life.upTo count).Open pool := by
  have parts : (life.upTo count).packets ++ (life.given.drop count).map Prod.snd =
      life.packets := by
    simp only [Life.upTo, packets, ← List.map_append, List.take_append_drop]
  unfold Open at stays
  rw [← parts] at stays
  exact stays.of_append

theorem Open.length_eq {pool : Pool} {life : Life} (stays : life.Open pool) :
    (life.message pool.limits.maxSize).length = life.payload.length := by
  rw [stays.message_eq, Message.gather_eq]
  simp [Message.opened, Message.empty, Message.length, payload, List.length_flatMap]

theorem Open.payload_length_lt {pool : Pool} {life : Life} (stays : life.Open pool) :
    life.payload.length < pool.limits.maxSize := by
  rw [← stays.length_eq]
  exact stays.length_lt

end Life

/-- Until its last packet an ended message had not been completed, and it was completed by that
packet or not at all. -/
theorem Ended.Lawful.upTo_open {pool : Pool} {ended : Ended} (lawful : ended.Lawful pool)
    {count : Nat} (earlier : count < ended.life.given.length) :
    (ended.life.upTo count).Open pool := by
  obtain ⟨life, termination, time, place⟩ := ended
  cases termination with
  | completed =>
      obtain ⟨before, last, packet, rfl, stays, -⟩ := lawful
      have inside : count ≤ before.given.length := by
        simp only [Life.add, List.length_append, List.length_singleton] at earlier
        omega
      rw [Life.upTo_add inside]
      exact stays.upTo count
  | reset => exact Life.Open.upTo lawful count
  | timedOut => exact Life.Open.upTo lawful count

theorem Pool.ledger_upTo_open {pool : Pool} {actions : List Action}
    (fits : pool.Schedulable (pool.after actions).clock) :
    ∀ life ∈ (pool.ledger actions).lives, ∀ count, count < life.given.length →
      (life.upTo count).Open pool := by
  have lawful := ledger_lawful fits
  intro life member count earlier
  cases List.mem_append.mp member with
  | inl live => exact (lawful.live life live).upTo count
  | inr gone =>
      obtain ⟨ended, inside, rfl⟩ := List.mem_map.mp gone
      exact (lawful.ended ended inside).upTo_open earlier

namespace Ledger

inductive Comes (pool : Pool) (ledger : Ledger) (action : Pool.Action) : Life → Prop
  | stays (life : Life) (member : life ∈ ledger.lives) : Comes pool ledger action life
  | gains (life : Life) (packet : Packet) (brings : action.packet? = some packet)
      (filed : Pool.filedUnder? (ledger.registry pool) packet.src packet.dst = some life.key)
      (member : life ∈ ledger.live) : Comes pool ledger action (life.add ledger.place packet)
  | begins (direction : Direction) (packet : Packet) (brings : action.packet? = some packet) :
      Comes pool ledger action ((ledger.newborn direction packet).add ledger.place packet)
  | strands (direction : Direction) (packet : Packet) (brings : action.packet? = some packet)
      (unwatched : ((ledger.newborn direction packet).flow pool).deadline = none) :
      Comes pool ledger action (ledger.newborn direction packet)

variable {pool : Pool} {ledger : Ledger}

theorem mem_lives_record {first life : Life} {packet : Packet}
    (member : life ∈ (ledger.record pool first packet).lives) :
    life = first.add ledger.place packet ∨ life ∈ ledger.lives := by
  have recorded := (lives_record pool ledger first packet).mem_iff.mp member
  rcases List.mem_cons.mp recorded with longer | other
  · exact Or.inl longer
  · rcases List.mem_append.mp other with live | ended
    · exact Or.inr (List.mem_append_left _ (List.mem_filter.mp live).1)
    · exact Or.inr (List.mem_append_right _ ended)

theorem mem_lives_enroll {direction : Direction} {life : Life} {packet : Packet}
    (member : life ∈ (ledger.enroll pool direction packet).lives) :
    life ∈ ledger.lives ∨ life = (ledger.newborn direction packet).add ledger.place packet ∨
      (life = ledger.newborn direction packet ∧
        ((ledger.newborn direction packet).flow pool).deadline = none) := by
  unfold enroll at member
  cases deadline : ((ledger.newborn direction packet).flow pool).deadline with
  | none =>
      simp only [deadline] at member
      rcases List.mem_append.mp member with live | ended
      · rcases List.mem_append.mp live with earlier | fresh
        · exact Or.inl (List.mem_append_left _ (List.mem_filter.mp earlier).1)
        · exact Or.inr (Or.inr ⟨List.mem_singleton.mp fresh, rfl⟩)
      · exact Or.inl (List.mem_append_right _ ended)
  | some time =>
      simp only [deadline] at member
      rcases mem_lives_record member with first | earlier
      · exact Or.inr (Or.inl first)
      · exact Or.inl earlier

theorem comes_takePacket {action : Pool.Action} {packet : Packet}
    (brings : action.packet? = some packet) {life : Life}
    (member : life ∈ (ledger.takePacket pool packet).lives) : Comes pool ledger action life := by
  have taken := pool.takes (ledger.registry pool) packet
  generalize pool.takePacket (ledger.registry pool) packet = outcome at taken
  unfold takePacket at member
  cases taken with
  | resets rst =>
      rw [if_pos rst] at member
      have sheds := (finishSide_sheds pool ledger packet.src packet.dst).trans
        (finishSide_sheds pool _ packet.dst packet.src)
      exact .stays life (sheds.lives.mem_iff.mp member)
  | joins key flow plain filed found =>
      obtain ⟨first, own, live, rfl, rfl⟩ := live_of_find? found
      simp only [plain, Bool.false_eq_true, if_false, filed, own] at member
      rcases mem_lives_record member with rfl | earlier
      · exact .gains first packet brings filed live
      · exact .stays life earlier
  | drops plain unfiled closed =>
      simp only [plain, Bool.false_eq_true, if_false, unfiled, closed] at member
      exact .stays life member
  | opens direction plain unfiled answer =>
      simp only [plain, Bool.false_eq_true, if_false, unfiled, answer] at member
      rcases mem_lives_enroll member with earlier | rfl | ⟨rfl, unwatched⟩
      · exact .stays life earlier
      · exact .begins direction packet brings
      · exact .strands direction packet brings unwatched

theorem comes {action : Pool.Action} {life : Life}
    (member : life ∈ (ledger.act pool action).lives) : Comes pool ledger action life := by
  cases action with
  | take input =>
      cases brings : input.packet? with
      | none =>
          simp only [act, turn, brings] at member
          exact .stays life member
      | some packet =>
          simp only [act, turn, brings] at member
          have acts : Pool.Action.packet? (.take input) = some packet := brings
          exact comes_takePacket acts member
  | elapse nanos =>
      have sheds := expire_sheds pool ledger (ledger.clock + nanos)
      exact .stays life (sheds.lives.mem_iff.mp member)
  | settle =>
      have sheds := expire_sheds pool ledger (ledger.clock + 1)
      exact .stays life (sheds.lives.mem_iff.mp member)

end Ledger

/-! ## Lives in the registry -/

/-- When a packet joined a message, the registry held the message with its earlier packets. -/
theorem Pool.ledger_stood (pool : Pool) (actions : List Action) :
    ∀ life ∈ (pool.ledger actions).lives, ∀ count entry, 0 < count →
      life.given[count]? = some entry →
        entry.1 < actions.length ∧
          (life.upTo count).entry pool ∈ (pool.registryAt actions entry.1).flows := by
  induction actions using List.reverseRecOn with
  | nil =>
      intro life member
      cases member
  | append_singleton actions action ih =>
      have earlier : ∀ life ∈ (pool.ledger actions).lives, ∀ count entry, 0 < count →
          life.given[count]? = some entry →
            entry.1 < (actions ++ [action]).length ∧
              (life.upTo count).entry pool ∈
                (pool.registryAt (actions ++ [action]) entry.1).flows := by
        intro life member count entry later here
        obtain ⟨inside, filed⟩ := ih life member count entry later here
        rw [pool.registryAt_concat (Nat.le_of_lt inside)]
        exact ⟨by simp; omega, filed⟩
      intro life member count entry later here
      rw [ledger_concat] at member
      cases Ledger.comes member with
      | stays _ before => exact earlier life before count entry later here
      | gains first packet brings filed live =>
          have before := List.mem_append_left ((pool.ledger actions).ended.map Ended.life) live
          -- only the packet taken in now sees the registry that this action starts from
          rcases Nat.lt_trichotomy count first.given.length with inside | last | beyond
          · rw [Life.add, List.getElem?_append_left inside] at here
            rw [Life.upTo_add (Nat.le_of_lt inside)]
            exact earlier first before count entry later here
          · subst last
            simp only [Life.add, List.getElem?_concat_length, Option.some.injEq] at here
            subst here
            rw [Life.upTo_add (Nat.le_refl _), Life.upTo_length, pool.ledger_place]
            have stands : first.entry pool ∈ (pool.after actions).flows := by
              rw [← pool.ledger_registry]
              exact List.mem_map_of_mem live
            simpa [registryAt] using stands
          · have past : (first.add (pool.ledger actions).place packet).given.length ≤ count := by
              simp only [Life.add, List.length_append, List.length_singleton]
              omega
            rw [List.getElem?_eq_none past] at here
            cases here
      | begins direction packet brings =>
          obtain ⟨rest, rfl⟩ := Nat.exists_eq_succ_of_ne_zero (Nat.ne_of_gt later)
          cases here
      | strands direction packet brings unwatched => cases here

end Reassembly
