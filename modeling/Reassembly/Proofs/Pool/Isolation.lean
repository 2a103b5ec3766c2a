import Reassembly.Proofs.Pool.LedgerDeliveries
import Reassembly.Proofs.SessionKeyIdentity

/-!
# Senders do not interfere

What a pool tracks and delivers under the keys of one sender depends on the packets of that
sender and on the resets sent to it, and on the clock, but on no other packet.  A sender is a
socket, for keys leave flow information out.  A packet of another sender is not seen there
(`takePacket_unseen`), and an action does the same to two registries that agree there
(`act_seen`).  So everything else can be left out of a run (`senders_apart`), and packets of
different senders may come in any order.
-/

set_option autoImplicit false

namespace Reassembly

/-! ## What is seen of one sender -/

def deliveriesUnder (key : SessionKey) (effects : List Effect) : List Delivery :=
  (deliveries effects).filter fun delivery => decide (delivery.key = key)

theorem deliveriesUnder_append (key : SessionKey) (first second : List Effect) :
    deliveriesUnder key (first ++ second) =
      deliveriesUnder key first ++ deliveriesUnder key second := by
  simp only [deliveriesUnder, deliveries_append, List.filter_append]

theorem deliveriesUnder_of_silent {effects : List Effect} (silent : deliveries effects = [])
    (key : SessionKey) : deliveriesUnder key effects = [] := by
  rw [deliveriesUnder, silent]
  rfl

def Outcome.shown (outcome : Outcome) : Registry × List Effect :=
  (outcome.registry, outcome.effects)

def Step.shown (step : Step) : Registry × List Effect :=
  (step.registry, step.effects)

namespace Pool

/-- Two registries, and the effects that led to them, are the same for a sender: under each of
its keys the same message is tracked and the same messages were delivered. -/
structure SameFor (sender : Endpoint) (first second : Registry × List Effect) : Prop where
  clock : first.1.clock = second.1.clock
  tracked : ∀ direction receiver, first.1.find? (.of direction sender receiver) =
    second.1.find? (.of direction sender receiver)
  delivered : ∀ direction receiver, deliveriesUnder (.of direction sender receiver) first.2 =
    deliveriesUnder (.of direction sender receiver) second.2

namespace SameFor

variable {sender : Endpoint} {first second third : Registry × List Effect}

theorem refl (sender : Endpoint) (first : Registry × List Effect) : SameFor sender first first :=
  ⟨rfl, fun _ _ => rfl, fun _ _ => rfl⟩

theorem symm (same : SameFor sender first second) : SameFor sender second first where
  clock := same.clock.symm
  tracked direction receiver := (same.tracked direction receiver).symm
  delivered direction receiver := (same.delivered direction receiver).symm

theorem trans (before : SameFor sender first second) (after : SameFor sender second third) :
    SameFor sender first third where
  clock := before.clock.trans after.clock
  tracked direction receiver :=
    (before.tracked direction receiver).trans (after.tracked direction receiver)
  delivered direction receiver :=
    (before.delivered direction receiver).trans (after.delivered direction receiver)

theorem andThen (before : SameFor sender first second) {first' second' : Registry × List Effect}
    (after : SameFor sender first' second') :
    SameFor sender (first'.1, first.2 ++ first'.2) (second'.1, second.2 ++ second'.2) where
  clock := after.clock
  tracked := after.tracked
  delivered direction receiver := by
    rw [deliveriesUnder_append, deliveriesUnder_append, before.delivered, after.delivered]

theorem of_socket (same : SameFor sender first second) {src : Endpoint}
    (own : src.socket = sender.socket) : SameFor src first second where
  clock := same.clock
  tracked direction receiver := by
    rw [SessionKey.of_congr own]
    exact same.tracked direction receiver
  delivered direction receiver := by
    rw [SessionKey.of_congr own]
    exact same.delivered direction receiver

theorem quiet (same : SameFor sender first second) :
    SameFor sender (first.1, []) (second.1, []) :=
  ⟨same.clock, same.tracked, fun _ _ => rfl⟩

theorem report (same : SameFor sender first second) (diagnostic : Diagnostic) :
    SameFor sender (first.1, first.2 ++ [.say diagnostic]) second where
  clock := same.clock
  tracked := same.tracked
  delivered direction receiver := by
    have silent : deliveries [.say diagnostic] = [] := rfl
    rw [deliveriesUnder_append, deliveriesUnder_of_silent silent, List.append_nil]
    exact same.delivered direction receiver

end SameFor

variable {sender : Endpoint}

/-! ## Steps on the message under one key -/

theorem SameFor.of_other {src : Endpoint} (other : src.socket ≠ sender.socket)
    (direction : Direction) (dst : Endpoint) {registry after : Registry} {effects : List Effect}
    (clock : after.clock = registry.clock)
    (kept : ∀ key, key ≠ .of direction src dst → after.find? key = registry.find? key)
    (own : ∀ delivery ∈ deliveries effects, delivery.key = .of direction src dst) :
    SameFor sender (after, effects) (registry, []) where
  clock := clock
  tracked direction' receiver :=
    kept _ (SessionKey.of_ne_of other direction direction' dst receiver).symm
  delivered direction' receiver := by
    apply List.filter_eq_nil_iff.mpr
    intro delivery member same
    have differs := SessionKey.of_ne_of other direction direction' dst receiver
    exact differs ((own delivery member).symm.trans (of_decide_eq_true same))

theorem SameFor.erase {first second : Registry} (same : SameFor sender (first, []) (second, []))
    (key : SessionKey) (effects : List Effect) :
    SameFor sender (first.erase key, effects) (second.erase key, effects) where
  clock := same.clock
  tracked direction receiver := by
    simp only [Registry.find?_erase, same.tracked direction receiver]
  delivered _ _ := rfl

theorem SameFor.insert {first second : Registry} (same : SameFor sender (first, []) (second, []))
    (key : SessionKey) (flow : Flow) (effects : List Effect) :
    SameFor sender (first.insert key flow, effects) (second.insert key flow, effects) where
  clock := same.clock
  tracked direction receiver := by
    simp only [Registry.find?_insert, same.tracked direction receiver]
  delivered _ _ := rfl

theorem key_of_mem_retire {pool : Pool} {key : SessionKey} {flow : Flow}
    {termination : Termination} {time : Nat} {delivery : Delivery}
    (member : delivery ∈ deliveries (pool.retire key flow termination time)) :
    delivery.key = key := by
  rw [deliveries_retire, Option.mem_toList] at member
  obtain ⟨deadline, -, rfl⟩ := Option.map_eq_some_iff.mp member
  rfl

theorem key_of_mem_append {pool : Pool} {registry : Registry} {key : SessionKey} {flow : Flow}
    {packet : Packet} {delivery : Delivery}
    (member : delivery ∈ deliveries (pool.append registry key flow packet).effects) :
    delivery.key = key := by
  by_cases complete : pool.complete flow.message packet = .ok true
  · rw [append_of_complete complete, deliveries_append, deliveries_cutEffects] at member
    exact key_of_mem_retire member
  · rw [(append_of_incomplete complete registry key).2, deliveries_cutEffects] at member
    cases member

theorem append_unseen {src : Endpoint} (other : src.socket ≠ sender.socket) (pool : Pool)
    (registry : Registry) (direction : Direction) (dst : Endpoint) (flow : Flow) (packet : Packet) :
    SameFor sender (pool.append registry (.of direction src dst) flow packet).shown
      (registry, []) := by
  refine .of_other other direction dst (pool.append_clock _ _ _ _) ?_ ?_
  · intro key differs
    by_cases complete : pool.complete flow.message packet = .ok true
    · rw [append_of_complete complete]
      exact registry.find?_erase_other differs
    · rw [(append_of_incomplete complete registry _).1]
      exact registry.find?_insert_other differs _
  · intro delivery member
    exact key_of_mem_append member

theorem append_seen {first second : Registry} (same : SameFor sender (first, []) (second, []))
    (pool : Pool) (key : SessionKey) (flow : Flow) (packet : Packet) :
    SameFor sender (pool.append first key flow packet).shown
      (pool.append second key flow packet).shown := by
  have clock : first.clock = second.clock := same.clock
  unfold Outcome.shown
  by_cases complete : pool.complete flow.message packet = .ok true
  · rw [append_of_complete complete, append_of_complete complete, clock]
    exact same.erase key _
  · obtain ⟨filed, effects⟩ := append_of_incomplete complete first key
    obtain ⟨filed', effects'⟩ := append_of_incomplete complete second key
    rw [filed, effects, filed', effects']
    exact same.insert key _ _

theorem openWith_unseen {packet : Packet} (other : packet.src.socket ≠ sender.socket)
    (pool : Pool) (registry : Registry) (direction : Direction) :
    SameFor sender (pool.openWith registry direction packet).shown (registry, []) := by
  cases deadline : deadlineAfter? registry.clock pool.limits.expiry with
  | none =>
      rw [openWith_of_overflow deadline]
      refine .of_other other direction packet.dst rfl ?_ ?_
      · intro key differs
        exact registry.find?_insert_other differs _
      · intro delivery member
        cases member
  | some time =>
      rw [openWith_of_deadline deadline]
      -- the count of opened messages, which comes first, is no delivery
      have appended := append_unseen other pool registry direction packet.dst
        ⟨.opened direction packet, some time⟩ packet
      exact ⟨appended.clock, appended.tracked, appended.delivered⟩

theorem openWith_seen {first second : Registry} (same : SameFor sender (first, []) (second, []))
    (pool : Pool) (direction : Direction) (packet : Packet) :
    SameFor sender (pool.openWith first direction packet).shown
      (pool.openWith second direction packet).shown := by
  have clock : first.clock = second.clock := same.clock
  cases deadline : deadlineAfter? first.clock pool.limits.expiry with
  | none =>
      rw [openWith_of_overflow deadline, openWith_of_overflow (clock ▸ deadline)]
      exact same.insert _ _ _
  | some time =>
      rw [openWith_of_deadline deadline, openWith_of_deadline (clock ▸ deadline)]
      have appended := append_seen same pool (.of direction packet.src packet.dst)
        ⟨.opened direction packet, some time⟩ packet
      exact ⟨appended.clock, appended.tracked, appended.delivered⟩

/-! ## Packets -/

theorem filedUnder?_eq_of {registry : Registry} {src dst : Endpoint} {key : SessionKey}
    (filed : filedUnder? registry src dst = some key) :
    ∃ direction, key = .of direction src dst := by
  rcases (filedUnder?_eq_some filed).2 with client | ⟨-, server⟩
  · exact ⟨.incoming, client⟩
  · exact ⟨.outgoing, server⟩

theorem SameFor.filedUnder? {first second : Registry}
    (same : SameFor sender (first, []) (second, [])) {src : Endpoint}
    (own : src.socket = sender.socket) (dst : Endpoint) :
    Pool.filedUnder? first src dst = Pool.filedUnder? second src dst := by
  have client : first.find? (.ofClient src) = second.find? (.ofClient src) :=
    (same.of_socket own).tracked .incoming dst
  have server : first.find? (.ofServer src dst) = second.find? (.ofServer src dst) :=
    (same.of_socket own).tracked .outgoing dst
  unfold Pool.filedUnder? Registry.contains
  rw [client, server]

theorem SameFor.find? {first second : Registry}
    (same : SameFor sender (first, []) (second, [])) {src dst : Endpoint} {key : SessionKey}
    (own : src.socket = sender.socket) (filed : Pool.filedUnder? first src dst = some key) :
    first.find? key = second.find? key := by
  obtain ⟨direction, rfl⟩ := filedUnder?_eq_of filed
  exact (same.of_socket own).tracked direction dst

theorem resetSide_unseen {src : Endpoint} (other : src.socket ≠ sender.socket) (pool : Pool)
    (registry : Registry) (dst : Endpoint) :
    SameFor sender (pool.resetSide registry src dst).shown (registry, []) := by
  rcases pool.resetSide_cases registry src dst with ⟨-, same⟩ | ⟨key, flow, filed, -, ended⟩
  · rw [same]
    exact .refl sender _
  · rw [ended]
    obtain ⟨direction, rfl⟩ := filedUnder?_eq_of filed
    refine .of_other other direction dst rfl ?_ ?_
    · intro key differs
      exact registry.find?_erase_other differs
    · intro delivery member
      exact key_of_mem_retire member

theorem resetSide_seen {first second : Registry}
    (same : SameFor sender (first, []) (second, [])) (pool : Pool) (src dst : Endpoint) :
    SameFor sender (pool.resetSide first src dst).shown (pool.resetSide second src dst).shown := by
  by_cases own : src.socket = sender.socket
  · have clock : first.clock = second.clock := same.clock
    have filed := same.filedUnder? own dst
    rcases pool.resetSide_cases first src dst with ⟨unfiled, idle⟩ | ⟨key, flow, here, found, ended⟩
    · have idle' : pool.resetSide second src dst = ⟨second, [], none⟩ := by
        rw [filed] at unfiled
        simp only [resetSide, unfiled]
      rw [idle, idle']
      exact same
    · have found' := found
      rw [same.find? own here] at found'
      have ended' : pool.resetSide second src dst =
          ⟨second.erase key, pool.retire key flow .reset second.clock, none⟩ := by
        rw [filed] at here
        simp only [resetSide, here, handOff_of_find? found']
      rw [ended, ended', clock]
      exact same.erase key _
  · exact (resetSide_unseen own pool first dst).trans
      (same.trans (resetSide_unseen own pool second dst).symm)

theorem takePacket_of_filed {pool : Pool} {registry : Registry} {packet : Packet}
    {key : SessionKey} {flow : Flow} (plain : packet.flags.rst = false)
    (filed : Pool.filedUnder? registry packet.src packet.dst = some key)
    (found : registry.find? key = some flow) :
    pool.takePacket registry packet = pool.append registry key flow packet := by
  simp [takePacket, join, plain, filed, found]

theorem takePacket_of_unfiled {pool : Pool} {registry : Registry} {packet : Packet}
    (plain : packet.flags.rst = false)
    (unfiled : Pool.filedUnder? registry packet.src packet.dst = none) :
    pool.takePacket registry packet =
      match pool.hooks.opens packet with
      | none => ⟨registry, [], none⟩
      | some direction => pool.openWith registry direction packet := by
  simp only [takePacket, join, plain, unfiled]
  rfl

/-- A packet that a sender neither sent nor was reset by is not seen there. -/
theorem takePacket_unseen {packet : Packet} (other : packet.src.socket ≠ sender.socket)
    (spared : packet.flags.rst = true → packet.dst.socket ≠ sender.socket) (pool : Pool)
    (registry : Registry) :
    SameFor sender (pool.takePacket registry packet).shown (registry, []) := by
  have taken := pool.takes registry packet
  generalize pool.takePacket registry packet = outcome at taken
  cases taken with
  | resets rst =>
      have front := resetSide_unseen other pool registry packet.dst
      have back := resetSide_unseen (spared rst) pool
        (pool.resetSide registry packet.src packet.dst).registry packet.src
      exact ((front.andThen back).trans front.quiet).report _
  | joins key flow plain filed found =>
      obtain ⟨direction, rfl⟩ := filedUnder?_eq_of filed
      exact append_unseen other pool registry direction packet.dst flow packet
  | drops plain unfiled closed => exact .refl sender _
  | opens direction plain unfiled answer => exact openWith_unseen other pool registry direction

theorem takePacket_seen {first second : Registry}
    (same : SameFor sender (first, []) (second, [])) (pool : Pool) (packet : Packet) :
    SameFor sender (pool.takePacket first packet).shown (pool.takePacket second packet).shown := by
  by_cases rst : packet.flags.rst = true
  · simp only [takePacket, if_pos rst, reset]
    have front := resetSide_seen same pool packet.src packet.dst
    have back := resetSide_seen front.quiet pool packet.dst packet.src
    have both := (front.andThen back).report (.reset packet.src packet.dst packet.timestamp)
    exact (both.symm.report (.reset packet.src packet.dst packet.timestamp)).symm
  · have plain : packet.flags.rst = false := Bool.eq_false_iff.mpr rst
    by_cases own : packet.src.socket = sender.socket
    · have filed := same.filedUnder? own packet.dst
      cases here : Pool.filedUnder? first packet.src packet.dst with
      | some key =>
          obtain ⟨flow, found⟩ := (filedUnder?_eq_some here).1
          rw [takePacket_of_filed plain here found,
            takePacket_of_filed plain (filed ▸ here) (same.find? own here ▸ found)]
          exact append_seen same pool key flow packet
      | none =>
          rw [takePacket_of_unfiled plain here, takePacket_of_unfiled plain (filed ▸ here)]
          cases pool.hooks.opens packet with
          | none => exact same
          | some direction => exact openWith_seen same pool direction packet
    · have spared : packet.flags.rst = true → packet.dst.socket ≠ sender.socket :=
        fun flagged => absurd flagged rst
      exact (takePacket_unseen own spared pool first).trans
        (same.trans (takePacket_unseen own spared pool second).symm)

/-! ## Deadlines -/

theorem deliveriesUnder_timeOut (pool : Pool) (key : SessionKey) (entry : SessionKey × Flow) :
    deliveriesUnder key (pool.timeOut entry) =
      if entry.1 = key then deliveries (pool.timeOut entry) else [] := by
  obtain ⟨other, flow⟩ := entry
  rw [deliveriesUnder, deliveries_timeOut]
  cases flow.deadline <;> by_cases same : other = key <;> simp [same]

theorem deliveriesUnder_timeOutBefore (pool : Pool) {registry : Registry}
    (unambiguous : registry.Unambiguous) (limit : Nat) (key : SessionKey) :
    deliveriesUnder key (pool.timeOutBefore registry limit).effects =
      (((registry.find? key).filter (Flow.dueBefore limit)).map fun flow =>
        deliveries (pool.timeOut (key, flow))).getD [] := by
  have under : ∀ entries : List (SessionKey × Flow),
      deliveriesUnder key (entries.flatMap pool.timeOut) =
        deliveries ((entries.filter fun entry => decide (entry.1 = key)).flatMap pool.timeOut) := by
    intro entries
    induction entries with
    | nil => rfl
    | cons entry rest ih =>
        rw [List.flatMap_cons, deliveriesUnder_append, ih, deliveriesUnder_timeOut]
        by_cases same : entry.1 = key
        · simp [same, deliveries_append]
        · simp [same]
  have swapped : (registry.flows.filter fun entry => entry.2.dueBefore limit).filter
      (fun entry => decide (entry.1 = key)) =
        (registry.flows.filter fun entry => decide (entry.1 = key)).filter
          fun entry => entry.2.dueBefore limit := by
    simp only [List.filter_filter, Bool.and_comm]
  simp only [timeOutBefore]
  rw [under, swapped, Registry.filter_key unambiguous, Registry.find?]
  cases Registry.lookup key registry.flows with
  | none => rfl
  | some flow =>
      by_cases due : flow.dueBefore limit = true
      · simp [due, Option.filter]
      · simp [due, Option.filter, deliveries]

theorem timeOutBefore_seen {first second : Registry}
    (same : SameFor sender (first, []) (second, [])) (unambiguous : first.Unambiguous)
    (unambiguous' : second.Unambiguous) (pool : Pool) (limit : Nat) :
    SameFor sender (pool.timeOutBefore first limit).shown
      (pool.timeOutBefore second limit).shown where
  clock := same.clock
  tracked direction receiver := by
    have before : Registry.lookup (.of direction sender receiver) first.flows =
        Registry.lookup (.of direction sender receiver) second.flows :=
      same.tracked direction receiver
    simp only [Step.shown, timeOutBefore, Registry.find?]
    rw [Registry.lookup_filter unambiguous, Registry.lookup_filter unambiguous', before]
  delivered direction receiver := by
    have before : first.find? (.of direction sender receiver) =
        second.find? (.of direction sender receiver) := same.tracked direction receiver
    simp only [Step.shown]
    rw [deliveriesUnder_timeOutBefore pool unambiguous,
      deliveriesUnder_timeOutBefore pool unambiguous', before]

/-! ## Runs -/

/-- An action that bears on a sender: time passes or deadlines are noticed, the sender sends a
packet, or a reset is sent to it. -/
def Action.concerns (sender : Endpoint) : Action → Bool
  | .take input => input.packet?.any fun packet =>
      decide (packet.src.socket = sender.socket) ||
        (packet.flags.rst && decide (packet.dst.socket = sender.socket))
  | .elapse _ => true
  | .settle => true

theorem act_unseen {action : Action} (aside : action.concerns sender = false) (pool : Pool)
    (registry : Registry) : SameFor sender (pool.act registry action).shown (registry, []) := by
  cases action with
  | take input =>
      cases brings : input.packet? with
      | none =>
          have same : (pool.take registry input).registry = registry :=
            (take_of_packet?_eq_none brings registry).1
          have silent := pool.deliveries_take_of_packet?_eq_none brings registry
          exact ⟨congrArg Registry.clock same, fun _ _ => congrArg (Registry.find? · _) same,
            fun _ _ => deliveriesUnder_of_silent silent _⟩
      | some packet =>
          simp only [Action.concerns, brings, Option.any_some, Bool.or_eq_false_iff,
            decide_eq_false_iff_not, Bool.and_eq_false_iff] at aside
          obtain ⟨other, unreset⟩ := aside
          have spared : packet.flags.rst = true → packet.dst.socket ≠ sender.socket := by
            intro rst
            rcases unreset with plain | spared
            · rw [rst] at plain
              cases plain
            · exact spared
          have unseen := takePacket_unseen other spared pool registry
          rw [← take_of_packet? brings] at unseen
          exact unseen
  | elapse nanos => cases aside
  | settle => cases aside

theorem act_seen {first second : Registry} (same : SameFor sender (first, []) (second, []))
    (unambiguous : first.Unambiguous) (unambiguous' : second.Unambiguous) (pool : Pool)
    (action : Action) :
    SameFor sender (pool.act first action).shown (pool.act second action).shown := by
  have clock : first.clock = second.clock := same.clock
  cases action with
  | take input =>
      cases brings : input.packet? with
      | none =>
          have aside : Action.concerns sender (.take input) = false := by
            simp [Action.concerns, brings]
          exact (act_unseen aside pool first).trans (same.trans (act_unseen aside pool second).symm)
      | some packet =>
          have seen := takePacket_seen same pool packet
          rw [← take_of_packet? brings, ← take_of_packet? brings] at seen
          exact seen
  | elapse nanos =>
      have timed := timeOutBefore_seen same unambiguous unambiguous' pool (first.clock + nanos)
      have now : first.clock + nanos = second.clock + nanos := by rw [clock]
      simp only [Step.shown, act, ← now]
      exact ⟨rfl, timed.tracked, timed.delivered⟩
  | settle =>
      have timed := timeOutBefore_seen same unambiguous unambiguous' pool (first.clock + 1)
      rw [act, act, ← clock]
      exact timed

/-- Leaving out what does not bear on a sender is not seen there. -/
theorem run_seen (pool : Pool) (sender : Endpoint) (actions : List Action) :
    SameFor sender (pool.after actions, pool.effects actions)
      (pool.after (actions.filter (Action.concerns sender)),
        pool.effects (actions.filter (Action.concerns sender))) := by
  induction actions using List.reverseRecOn with
  | nil => exact .refl sender _
  | append_singleton actions action ih =>
      rw [List.filter_append, after_concat, effects_concat]
      cases aside : action.concerns sender with
      | false =>
          have unseen := ih.andThen ((act_unseen aside pool (pool.after actions)).trans ih.quiet)
          simpa [aside, Step.shown] using unseen
      | true =>
          have seen := act_seen ih.quiet (pool.after_unambiguous actions)
            (pool.after_unambiguous _) pool action
          have kept : [action].filter (Action.concerns sender) = [action] := by
            simp [aside]
          rw [kept, after_concat, effects_concat]
          exact ih.andThen seen

/-- An action that the pool would see if a sender were alone: its packets, and the clock. -/
def Action.comesFrom (sender : Endpoint) : Action → Bool
  | .take input => input.packet?.any fun packet => decide (packet.src.socket = sender.socket)
  | .elapse _ => true
  | .settle => true

theorem Action.comesFrom_congr {sender other : Endpoint} (same : sender.socket = other.socket) :
    Action.comesFrom sender = Action.comesFrom other := by
  funext action
  cases action with
  | take input => simp only [comesFrom, same]
  | elapse nanos => rfl
  | settle => rfl

def Unreset (actions : List Action) : Prop :=
  ∀ action ∈ actions, ∀ packet ∈ action.packet?, packet.flags.rst = false

instance (actions : List Action) : Decidable (Unreset actions) :=
  inferInstanceAs (Decidable (∀ action ∈ actions, ∀ packet ∈ action.packet?, _ = false))

theorem concerns_of_unreset {actions : List Action} (unreset : Unreset actions)
    (sender : Endpoint) :
    actions.filter (Action.concerns sender) = actions.filter (Action.comesFrom sender) := by
  apply List.filter_congr
  intro action member
  cases action with
  | take input =>
      cases brings : input.packet? with
      | none => simp [Action.concerns, Action.comesFrom, brings]
      | some packet =>
          have plain := unreset (.take input) member packet brings
          simp [Action.concerns, Action.comesFrom, brings, plain]
  | elapse nanos => rfl
  | settle => rfl

/-- Under the keys of a sender a run tracks and delivers what it would without every packet that
neither the sender sent nor reset it.  So without resets it does not matter how the packets of
different senders are interleaved. -/
theorem senders_apart (pool : Pool) (actions : List Action) :
    (∀ sender, SameFor sender (pool.after actions, pool.effects actions)
      (pool.after (actions.filter (Action.concerns sender)),
        pool.effects (actions.filter (Action.concerns sender)))) ∧
    ∀ other, Unreset actions → Unreset other →
      (∀ sender, actions.filter (Action.comesFrom sender) =
        other.filter (Action.comesFrom sender)) →
      ∀ sender, SameFor sender (pool.after actions, pool.effects actions)
        (pool.after other, pool.effects other) := by
  refine ⟨fun sender => pool.run_seen sender actions, ?_⟩
  intro other unreset unreset' streams sender
  have alone := pool.run_seen sender actions
  have alone' := pool.run_seen sender other
  rw [concerns_of_unreset unreset, streams sender] at alone
  rw [concerns_of_unreset unreset'] at alone'
  exact alone.trans alone'.symm

/-- Two clients and the server that answers one of them. -/
def meeting : List Action :=
  let first : Conversation := ⟨nearby 1, nearby 3⟩
  let second : Conversation := ⟨nearby 2, nearby 3⟩
  [.take (.packet (first.packet [1] .requestSyn)), .take (.packet (second.packet [2] .requestSyn)),
    .take (.packet (first.packet [3] .responseSyn)), .take (.packet (first.packet [4] .requestFin)),
    .elapse 5000000000, .settle]

/-- The same packets of each sender in another order. -/
def meetingAnew : List Action :=
  let first : Conversation := ⟨nearby 1, nearby 3⟩
  let second : Conversation := ⟨nearby 2, nearby 3⟩
  [.take (.packet (first.packet [3] .responseSyn)), .take (.packet (first.packet [1] .requestSyn)),
    .take (.packet (first.packet [4] .requestFin)), .take (.packet (second.packet [2] .requestSyn)),
    .elapse 5000000000, .settle]

theorem senders_apart_meeting :
    (Unreset meeting ∧ Unreset meetingAnew ∧
      ∀ sender, meeting.filter (Action.comesFrom sender) =
        meetingAnew.filter (Action.comesFrom sender)) ∧
    meeting ≠ meetingAnew ∧
    ∀ sender, SameFor sender (touchy.after meeting, touchy.effects meeting)
      (touchy.after meetingAnew, touchy.effects meetingAnew) := by
  have unreset : Unreset meeting := by decide +kernel
  have unreset' : Unreset meetingAnew := by decide +kernel
  have streams : ∀ sender, meeting.filter (Action.comesFrom sender) =
      meetingAnew.filter (Action.comesFrom sender) := by
    intro sender
    by_cases first : (nearby 1).socket = sender.socket
    · rw [← Action.comesFrom_congr first]
      decide +kernel
    · by_cases second : (nearby 2).socket = sender.socket
      · rw [← Action.comesFrom_congr second]
        decide +kernel
      · by_cases server : (nearby 3).socket = sender.socket
        · rw [← Action.comesFrom_congr server]
          decide +kernel
        · simp [meeting, meetingAnew, Action.comesFrom, Input.packet?, Conversation.packet,
            Conversation.request, Conversation.response, Packet.between, first, second, server]
  have differs : meeting ≠ meetingAnew := by decide +kernel
  exact ⟨⟨unreset, unreset', streams⟩, differs,
    (senders_apart touchy meeting).2 meetingAnew unreset unreset' streams⟩

end Pool

end Reassembly
