import Reassembly.Pool.Report
import Reassembly.Proofs.Pool.Completion
import Reassembly.Proofs.Pool.Fates
import Reassembly.Proofs.Pool.Watchers

/-!
# What a pool counts, reports and delivers

A pool counts, reports and delivers in different places, and the three tell the same story
(`Pool.run_accounts`).  One action keeps them in step (`Pool.act_tallied`) as long as no tracked
message is cut and every one has a watcher: what is cut ends with the packet that was cut, and
what ends is delivered.
-/

set_option autoImplicit false

namespace Reassembly

/-! ## Reading counts off effects -/

theorem Counters.tickAll_eq (counters : Counters) (ticks : List Tick) :
    counters.tickAll ticks = {
      active := counters.active + ticks.count .opened - ticks.count .closed
      completed := counters.completed + ticks.count (.dispatched .completed)
      reset := counters.reset + ticks.count (.dispatched .reset)
      timedOut := counters.timedOut + ticks.count (.dispatched .timedOut)
      truncated := counters.truncated + ticks.count .truncated
      undecodable := counters.undecodable + ticks.count .undecodable } := by
  induction ticks generalizing counters with
  | nil => simp [tickAll]
  | cons tick rest ih =>
      have later := ih (counters.tick tick)
      simp only [tickAll, List.foldl_cons] at later ⊢
      rw [later]
      cases tick with
      | dispatched termination => cases termination <;> simp [Counters.tick] <;> omega
      | opened => simp [Counters.tick]; omega
      | closed => simp [Counters.tick]; omega
      | truncated => simp [Counters.tick]; omega
      | undecodable => simp [Counters.tick]; omega

theorem count_ticks (effects : List Effect) (tick : Tick) :
    (effects.filterMap Effect.tick?).count tick = effects.count (.count tick) := by
  rw [List.count_filterMap, List.count_eq_countP]
  apply List.countP_congr
  intro effect _
  cases effect <;> simp [Effect.tick?]

theorem count_labels (effects : List Effect) (termination : Termination) :
    effects.count (.count (.dispatched termination)) = (labels effects).count termination := by
  rw [labels, List.count_filterMap, List.count_eq_countP]
  apply List.countP_congr
  intro effect _
  rcases effect with (_ | _ | _ | _ | _) | _ | _ | _ <;> simp

theorem Counters.ofEffects_dispatched (effects : List Effect) (termination : Termination) :
    (ofEffects effects).dispatched termination = (labels effects).count termination := by
  rw [← count_labels, ← count_ticks, ofEffects, tickAll_eq]
  cases termination <;> exact Nat.zero_add _

theorem Counters.ofEffects_truncated (effects : List Effect) :
    (ofEffects effects).truncated = effects.count (.count .truncated) := by
  rw [← count_ticks, ofEffects, tickAll_eq]
  exact Nat.zero_add _

theorem Counters.ofEffects_undecodable (effects : List Effect) :
    (ofEffects effects).undecodable = effects.count (.count .undecodable) := by
  rw [← count_ticks, ofEffects, tickAll_eq]
  exact Nat.zero_add _

/-- How many diagnostics of one severity a listener is told, where there is one. -/
def told (severity : Severity) (effects : List Effect) : Nat :=
  (effects.filterMap Effect.diagnostic?).countP fun diagnostic =>
    decide (diagnostic.severity = severity)

@[simp] theorem told_nil (severity : Severity) : told severity [] = 0 := rfl

@[simp] theorem told_append (severity : Severity) (front back : List Effect) :
    told severity (front ++ back) = told severity front + told severity back := by
  simp [told]

@[simp] theorem told_say (severity : Severity) (diagnostic : Diagnostic) (rest : List Effect) :
    told severity (.say diagnostic :: rest) =
      told severity rest + if diagnostic.severity = severity then 1 else 0 := by
  simp [told, Effect.diagnostic?, List.countP_cons]

@[simp] theorem told_count (severity : Severity) (tick : Tick) (rest : List Effect) :
    told severity (.count tick :: rest) = told severity rest := rfl

@[simp] theorem told_note (severity : Severity) (notice : Notice) (rest : List Effect) :
    told severity (.note notice :: rest) = told severity rest := rfl

@[simp] theorem told_deliver (severity : Severity) (delivery : Delivery) (rest : List Effect) :
    told severity (.deliver delivery :: rest) = told severity rest := rfl

@[simp] theorem deliveries_count (tick : Tick) (rest : List Effect) :
    deliveries (.count tick :: rest) = deliveries rest := rfl

@[simp] theorem deliveries_say (diagnostic : Diagnostic) (rest : List Effect) :
    deliveries (.say diagnostic :: rest) = deliveries rest := rfl

/-- A listener that keeps what it is told has heard all of it. -/
theorem countP_heard {hooks : Hooks} (listens : hooks.debugger = some .recording)
    (severity : Severity) (effects : List Effect) :
    ((Report.heard hooks effects).countP fun entry => decide (entry.1 = severity)) =
      told severity effects := by
  unfold Report.heard told
  induction effects.filterMap Effect.diagnostic? with
  | nil => rfl
  | cons diagnostic rest ih =>
      have heard : hooks.hears diagnostic.severity diagnostic.text =
          [(diagnostic.severity, diagnostic.text)] := by
        simp only [Hooks.hears, listens]
      rw [List.flatMap_cons, List.countP_append, ih, heard, List.countP_singleton,
        List.countP_cons, Nat.add_comm]

/-! ## Effects that agree -/

/-- Effects that tell one story: a cut is counted and reported once for each truncated message
that is delivered, a time-out is reported for each message that is delivered as timed out, and
apart from captures that were refused, resets alone are reported as urgent. -/
structure Tallied (refused resets : Nat) (effects : List Effect) : Prop where
  truncated : effects.count (.count .truncated) =
    (deliveries effects).countP fun delivery => delivery.message.stats.truncated
  medium : told .medium effects = effects.count (.count .truncated)
  low : told .low effects =
    (deliveries effects).countP fun delivery => decide (delivery.termination = .timedOut)
  undecodable : effects.count (.count .undecodable) = refused
  high : told .high effects = refused + resets

namespace Tallied

theorem nil : Tallied 0 0 [] := ⟨rfl, rfl, rfl, rfl, rfl⟩

theorem append {refused refused' resets resets' : Nat} {front back : List Effect}
    (first : Tallied refused resets front) (second : Tallied refused' resets' back) :
    Tallied (refused + refused') (resets + resets') (front ++ back) where
  truncated := by
    rw [List.count_append, deliveries_append, List.countP_append, first.truncated,
      second.truncated]
  medium := by rw [told_append, List.count_append, first.medium, second.medium]
  low := by rw [told_append, deliveries_append, List.countP_append, first.low, second.low]
  undecodable := by rw [List.count_append, first.undecodable, second.undecodable]
  high := by
    rw [told_append, first.high, second.high]
    omega

theorem flatMap {α : Type} {items : List α} {effects : α → List Effect}
    (each : ∀ item ∈ items, Tallied 0 0 (effects item)) : Tallied 0 0 (items.flatMap effects) := by
  induction items with
  | nil => exact nil
  | cons item rest ih =>
      have first := each item List.mem_cons_self
      exact first.append (ih fun other member => each other (List.mem_cons_of_mem _ member))

end Tallied

namespace Pool

theorem quiet_dispatch (pool : Pool) (key : SessionKey) (message : Message)
    (termination : Termination) (time : Nat) :
    (pool.dispatch key message termination time).count (.count .truncated) = 0 ∧
      (pool.dispatch key message termination time).count (.count .undecodable) = 0 ∧
      ∀ severity, told severity (pool.dispatch key message termination time) = 0 := by
  unfold dispatch
  cases pool.handler message <;> simp

theorem tallied_retire {flow : Flow} {clock : Nat} (attended : flow.Attended clock)
    (whole : flow.message.stats.truncated = false) {termination : Termination}
    (early : termination ≠ .timedOut) (pool : Pool) (key : SessionKey) (time : Nat) :
    Tallied 0 0 (pool.retire key flow termination time) := by
  obtain ⟨deadline, watched, -⟩ := attended
  obtain ⟨cuts, refusals, quiet⟩ := pool.quiet_dispatch key flow.message termination time
  simp only [retire, watched]
  constructor <;> simp [deliveries_dispatch, cuts, refusals, quiet, whole, early]

theorem tallied_cut {flow : Flow} {clock : Nat} (attended : flow.Attended clock) {pool : Pool}
    {packet : Packet}
    (exceeds : pool.limits.maxSize < flow.message.length + packet.payload.length)
    (key : SessionKey) (time : Nat) :
    Tallied 0 0 (cutEffects pool.limits.maxSize key flow.message packet ++
      pool.retire key { flow with message := grown pool.limits.maxSize flow.message packet }
        .completed time) := by
  obtain ⟨deadline, watched, -⟩ := attended
  obtain ⟨cuts, refusals, quiet⟩ := pool.quiet_dispatch key
    (grown pool.limits.maxSize flow.message packet) .completed time
  simp only [cutEffects, if_pos exceeds, retire, watched, List.cons_append, List.nil_append]
  constructor <;>
    simp [deliveries_dispatch, cuts, refusals, quiet, grown_truncated, exceeds,
      Diagnostic.severity]

theorem tallied_append {flow : Flow} {registry : Registry} (attended : flow.Attended registry.clock)
    (whole : flow.message.stats.truncated = false) (pool : Pool) (key : SessionKey)
    (packet : Packet) : Tallied 0 0 (pool.append registry key flow packet).effects := by
  by_cases complete : pool.complete flow.message packet = .ok true
  · rw [append_of_complete complete]
    by_cases exceeds : pool.limits.maxSize < flow.message.length + packet.payload.length
    · exact tallied_cut attended exceeds key registry.clock
    · have grows : Flow.Attended registry.clock
          { flow with message := grown pool.limits.maxSize flow.message packet } := attended
      have uncut : (grown pool.limits.maxSize flow.message packet).stats.truncated = false := by
        rw [grown_truncated, whole, decide_eq_false exceeds]
        rfl
      have early : Termination.completed ≠ .timedOut := nofun
      rw [cutEffects, if_neg exceeds]
      exact tallied_retire grows uncut early pool key registry.clock
  · have fits := fits_of_incomplete complete
    rw [(append_of_incomplete complete registry key).2, cutEffects, if_neg (Nat.lt_asymm fits)]
    exact Tallied.nil

theorem tallied_timeOut {entry : SessionKey × Flow} {clock : Nat}
    (attended : entry.2.Attended clock) (whole : entry.2.message.stats.truncated = false)
    (pool : Pool) : Tallied 0 0 (pool.timeOut entry) := by
  obtain ⟨deadline, watched, -⟩ := attended
  obtain ⟨cuts, refusals, quiet⟩ := pool.quiet_dispatch entry.1 entry.2.message.markTimedOut
    .timedOut (dueTime deadline)
  have uncut : entry.2.message.markTimedOut.stats.truncated = false := whole
  simp only [timeOut, watched]
  constructor <;>
    simp [deliveries_dispatch, cuts, refusals, quiet, uncut, Diagnostic.severity]

end Pool

/-! ## One action -/

/-- No tracked message has been cut. -/
def Registry.Uncut (registry : Registry) : Prop :=
  ∀ entry ∈ registry.flows, entry.2.message.stats.truncated = false

namespace Pool

def Input.capture? : Input → Option Capture
  | .packet _ => none
  | .capture seen => some seen
  | .datagram source timestamp lost =>
      match source.write with
      | .error _ => none
      | .ok data => some ⟨data, timestamp, lost⟩

def Action.refused : Action → Bool
  | .take input => input.capture?.any fun capture => (Packet.decode capture).toOption.isNone
  | .elapse _ => false
  | .settle => false

def Action.resets (action : Action) : Bool :=
  action.packet?.any fun packet => packet.flags.rst

variable {pool : Pool} {registry : Registry}

theorem tallied_resetSide (attended : registry.Attended) (uncut : registry.Uncut) (pool : Pool)
    (src dst : Endpoint) : Tallied 0 0 (pool.resetSide registry src dst).effects := by
  rcases pool.resetSide_cases registry src dst with ⟨-, same⟩ | ⟨key, flow, -, found, ended⟩
  · rw [same]
    exact Tallied.nil
  · have member := Registry.mem_of_find? found
    have early : Termination.reset ≠ .timedOut := nofun
    rw [ended]
    exact tallied_retire (attended _ member) (uncut _ member) early pool key registry.clock

theorem uncut_resetSide (uncut : registry.Uncut) (pool : Pool) (src dst : Endpoint) :
    (pool.resetSide registry src dst).registry.Uncut := by
  rcases pool.resetSide_cases registry src dst with ⟨-, same⟩ | ⟨key, flow, -, -, ended⟩
  · rw [same]
    exact uncut
  · rw [ended]
    intro entry member
    exact uncut entry (Registry.mem_erase.mp member).1

theorem tallied_reset (attended : registry.Attended) (uncut : registry.Uncut) (packet : Packet) :
    Tallied 0 1 (pool.reset registry packet).effects := by
  have sender := tallied_resetSide attended uncut pool packet.src packet.dst
  have waiting := (resetSide_attended attended pool packet.src packet.dst).1
  have whole := uncut_resetSide uncut pool packet.src packet.dst
  have receiver := tallied_resetSide waiting whole pool packet.dst packet.src
  have report : Tallied 0 1 [.say (.reset packet.src packet.dst packet.timestamp)] :=
    ⟨rfl, rfl, rfl, rfl, rfl⟩
  exact (sender.append receiver).append report

theorem tallied_takePacket (attended : registry.Attended) (uncut : registry.Uncut)
    (fits : pool.Schedulable registry.clock) (packet : Packet) :
    Tallied 0 (if packet.flags.rst then 1 else 0) (pool.takePacket registry packet).effects := by
  have taken := pool.takes registry packet
  generalize pool.takePacket registry packet = outcome at taken
  cases taken with
  | resets rst =>
      rw [if_pos rst]
      exact tallied_reset attended uncut packet
  | joins key flow plain filed found =>
      have member := Registry.mem_of_find? found
      simp only [plain, Bool.false_eq_true, if_false]
      exact tallied_append (attended _ member) (uncut _ member) pool key packet
  | drops plain unfiled closed =>
      simp only [plain, Bool.false_eq_true, if_false]
      exact Tallied.nil
  | opens direction plain unfiled answer =>
      obtain ⟨deadline, named⟩ := Option.isSome_iff_exists.mp fits
      have own : Flow.Attended registry.clock ⟨.opened direction packet, some deadline⟩ :=
        ⟨deadline, rfl, clock_le_dueTime named⟩
      have count : Tallied 0 0 [.count .opened] := ⟨rfl, rfl, rfl, rfl, rfl⟩
      simp only [plain, Bool.false_eq_true, if_false]
      rw [openWith_of_deadline named]
      exact count.append (tallied_append own rfl pool _ packet)

theorem tallied_takeCapture (attended : registry.Attended) (uncut : registry.Uncut)
    (fits : pool.Schedulable registry.clock) (capture : Capture) :
    Tallied (if (Packet.decode capture).toOption.isNone then 1 else 0)
      (if (Packet.decode capture).toOption.any fun packet => packet.flags.rst then 1 else 0)
      (pool.takeCapture registry capture).effects := by
  cases decoded : (Packet.decode capture).toOption with
  | none =>
      obtain ⟨error, refused⟩ := takeCapture_of_undecodable pool decoded registry
      rw [refused]
      exact ⟨rfl, rfl, rfl, rfl, rfl⟩
  | some packet =>
      rw [takeCapture_of_decode decoded]
      exact tallied_takePacket attended uncut fits packet

theorem tallied_take (attended : registry.Attended) (uncut : registry.Uncut)
    (fits : pool.Schedulable registry.clock) (input : Input) :
    Tallied (if (Action.take input).refused then 1 else 0)
      (if (Action.take input).resets then 1 else 0) (pool.take registry input).effects := by
  cases input with
  | packet packet => exact tallied_takePacket attended uncut fits packet
  | capture capture => exact tallied_takeCapture attended uncut fits capture
  | datagram source timestamp lost =>
      cases written : source.write with
      | error fault =>
          simp only [Action.refused, Input.capture?, Action.resets, Action.packet?,
            Input.packet?, take, written]
          exact Tallied.nil
      | ok data =>
          simp only [Action.refused, Input.capture?, Action.resets, Action.packet?,
            Input.packet?, take, written]
          exact tallied_takeCapture attended uncut fits ⟨data, timestamp, lost⟩

theorem tallied_timeOutBefore (attended : registry.Attended) (uncut : registry.Uncut)
    (pool : Pool) (limit : Nat) : Tallied 0 0 (pool.timeOutBefore registry limit).effects := by
  refine Tallied.flatMap ?_
  intro entry due
  have tracked : entry ∈ registry.flows := (List.mem_filter.mp due).1
  exact tallied_timeOut (attended entry tracked) (uncut entry tracked) pool

/-- An action keeps counts, reports and deliveries in step. -/
theorem act_tallied (attended : registry.Attended) (uncut : registry.Uncut)
    (fits : pool.Schedulable registry.clock) (action : Action) :
    Tallied ([action].countP Action.refused) ([action].countP Action.resets)
      (pool.act registry action).effects := by
  rw [List.countP_singleton, List.countP_singleton]
  cases action with
  | take input => exact tallied_take attended uncut fits input
  | elapse nanos => exact tallied_timeOutBefore attended uncut pool (registry.clock + nanos)
  | settle => exact tallied_timeOutBefore attended uncut pool (registry.clock + 1)

/-! ## Runs -/

theorem after_uncut {actions : List Action} (fits : pool.Schedulable (pool.after actions).clock) :
    (pool.after actions).Uncut := by
  intro entry member
  rw [← ledger_registry] at member
  obtain ⟨life, live, rfl⟩ := List.mem_map.mp member
  exact (represents_of_live fits live).whole

theorem effects_tallied {actions : List Action}
    (fits : pool.Schedulable (pool.after actions).clock) :
    Tallied (actions.countP Action.refused) (actions.countP Action.resets)
      (pool.effects actions) := by
  induction actions using List.reverseRecOn with
  | nil => exact Tallied.nil
  | append_singleton actions action ih =>
      have earlier := fits.of_concat
      have before := ih earlier
      have now := act_tallied (after_attended earlier).1 (after_uncut earlier) earlier action
      rw [effects_concat, List.countP_append, List.countP_append]
      exact before.append now

/-- A capture that cannot be decoded changes nothing. -/
theorem act_of_refused {action : Action} (refused : action.refused = true) (pool : Pool)
    (registry : Registry) :
    (pool.act registry action).registry = registry ∧
      ∃ size error, (pool.act registry action).effects =
        [.count .undecodable, .say (.undecodable size error)] := by
  have takes : ∀ capture, (Packet.decode capture).toOption.isNone = true →
      (pool.takeCapture registry capture).registry = registry ∧
        ∃ size error, (pool.takeCapture registry capture).effects =
          [.count .undecodable, .say (.undecodable size error)] := by
    intro capture failed
    obtain ⟨error, result⟩ :=
      takeCapture_of_undecodable pool (Option.isNone_iff_eq_none.mp failed) registry
    rw [result]
    exact ⟨rfl, capture.data.length, error, rfl⟩
  cases action with
  | take input =>
      cases input with
      | packet packet => cases refused
      | capture capture => exact takes capture refused
      | datagram source timestamp lost =>
          simp only [Action.refused, Input.capture?] at refused
          simp only [act, take]
          cases written : source.write with
          | error fault =>
              rw [written] at refused
              cases refused
          | ok data =>
              rw [written] at refused
              exact takes ⟨data, timestamp, lost⟩ refused
  | elapse nanos => cases refused
  | settle => cases refused

def countersAt (pool : Pool) (actions : List Action) (place : Nat) : Counters :=
  .ofEffects (pool.effects (actions.take place))

theorem countersAt_succ (pool : Pool) {actions : List Action} {place : Nat} {action : Action}
    (here : actions[place]? = some action) :
    pool.countersAt actions (place + 1) = (pool.countersAt actions place).tickAll
      ((pool.act (pool.registryAt actions place) action).effects.filterMap Effect.tick?) := by
  rw [countersAt, List.take_add_one, here, Option.toList_some, effects_concat,
    Counters.ofEffects, List.filterMap_append, Counters.tickAll_append]
  rfl

/-- Counters, reports and deliveries of a run say the same. -/
structure Accounts (pool : Pool) (actions : List Action) (counters : Counters)
    (delivered : List Delivery) : Prop where
  dispatched : ∀ termination, counters.dispatched termination =
    delivered.countP fun delivery => decide (delivery.termination = termination)
  truncated : counters.truncated =
    delivered.countP fun delivery => delivery.message.stats.truncated
  medium : told .medium (pool.effects actions) = counters.truncated
  timedOut : counters.timedOut =
    delivered.countP fun delivery => delivery.message.stats.timedOut
  low : told .low (pool.effects actions) = counters.timedOut
  undecodable : counters.undecodable = actions.countP Action.refused
  /-- Every packet with RST is reported, whether or not it ends a message. -/
  high : told .high (pool.effects actions) =
    counters.undecodable + actions.countP Action.resets
  heard : pool.hooks.debugger = some .recording → ∀ severity,
    ((Report.heard pool.hooks (pool.effects actions)).countP fun entry =>
      decide (entry.1 = severity)) = told severity (pool.effects actions)
  /-- A capture that cannot be decoded is counted, and nothing else changes. -/
  refused : ∀ place action, actions[place]? = some action → action.refused = true →
    pool.registryAt actions (place + 1) = pool.registryAt actions place ∧
      pool.countersAt actions (place + 1) =
        { pool.countersAt actions place with
          undecodable := (pool.countersAt actions place).undecodable + 1 }

theorem run_accounts (pool : Pool) (actions : List Action)
    (fits : pool.Schedulable (pool.after actions).clock) :
    pool.Accounts actions (.ofEffects (pool.effects actions))
      (deliveries (pool.effects actions)) := by
  have tallied := effects_tallied fits
  have dispatched : ∀ termination,
      (Counters.ofEffects (pool.effects actions)).dispatched termination =
        (deliveries (pool.effects actions)).countP fun delivery =>
          decide (delivery.termination = termination) := by
    intro termination
    rw [Counters.ofEffects_dispatched, (effects_accounted fits).labels,
      List.count_eq_countP, List.countP_map]
    rfl
  have timedOut : (Counters.ofEffects (pool.effects actions)).timedOut =
      (deliveries (pool.effects actions)).countP fun delivery =>
        decide (delivery.termination = .timedOut) := dispatched .timedOut
  constructor
  case dispatched => exact dispatched
  case truncated => rw [Counters.ofEffects_truncated, tallied.truncated]
  case medium => rw [Counters.ofEffects_truncated, tallied.medium]
  case timedOut =>
      -- a message is marked as timed out where its label says so
      rw [timedOut, ledger_delivered fits, List.countP_map, List.countP_map]
      apply List.countP_congr
      intro ended _
      exact decide_eq_true_iff.trans (ended.timedOut_iff pool).symm
  case low => rw [timedOut, tallied.low]
  case undecodable => rw [Counters.ofEffects_undecodable, tallied.undecodable]
  case high => rw [Counters.ofEffects_undecodable, tallied.undecodable, tallied.high]
  case heard =>
      intro listens severity
      exact countP_heard listens severity (pool.effects actions)
  case refused =>
      intro place action here refuses
      obtain ⟨same, size, error, effects⟩ :=
        act_of_refused refuses pool (pool.registryAt actions place)
      rw [pool.registryAt_succ here, pool.countersAt_succ here, same, effects]
      exact ⟨rfl, rfl⟩

/-- A pool with a listener and room for three bytes, whose completion rule fails on one message
and whose handler on another. -/
def audited : Pool :=
  let rule : EndDetector := fun message =>
    if message.data = [0] then .error .unreadable else .ok false
  (((Builder.new.choose (.maxSize 3)).choose (.finish rule)).choose (.debugger .recording)).build
    fun message => if message.length = 1 then some .unreadable else none

/-- Requests that are cut, reset, on which the rule fails, and that time out; a reset between
strangers, and captures that are no packets. -/
def eventful : List Action :=
  let talk : Conversation := ⟨nearby 1, nearby 2⟩
  let strangers : Conversation := ⟨nearby 3, nearby 4⟩
  [.take (.packet (talk.packet [1, 2] .requestSyn)),
    .take (.packet (talk.packet [3, 4] (.request .acknowledging 7))),
    .take (.packet (talk.packet [5] .requestSyn)),
    .take (.packet (talk.packet [] (.request .resetting 7))),
    .take (.packet (strangers.packet [] (.request .resetting 0))),
    .take (.capture ⟨[69, 0], ⟨0, 0⟩, 0⟩), .take (.packet (talk.packet [0] .requestSyn)),
    .take (.capture ⟨[], ⟨0, 0⟩, 0⟩), .elapse 5000000000, .settle]

theorem run_accounts_eventful :
    audited.Schedulable (audited.after eventful).clock ∧
      Counters.ofEffects (audited.effects eventful) =
        { completed := 1, reset := 1, timedOut := 1, truncated := 1, undecodable := 2 } ∧
      (Report.heard audited.hooks (audited.effects eventful)).map Prod.fst =
        [.medium, .high, .high, .high, .high, .low] ∧
      audited.Accounts eventful (.ofEffects (audited.effects eventful))
        (deliveries (audited.effects eventful)) := by
  have fits : audited.Schedulable (audited.after eventful).clock := by decide +kernel
  exact ⟨fits, by decide +kernel, by decide +kernel, run_accounts audited eventful fits⟩

end Pool

end Reassembly
