import Reassembly.Proofs.Pool.LedgerDeliveries

/-!
# Places in a run

A place is the number of actions before an action, and names the action.  The
places of interest are those where a message is opened, seen from outside by the
count of it, and those whose packet belongs in a message.
-/

set_option autoImplicit false

namespace Reassembly

namespace Pool

def packetAt? (actions : List Action) (place : Nat) : Option Packet :=
  actions[place]?.bind Action.packet?

theorem packetAt?_concat {actions : List Action} {place : Nat} {packet : Packet}
    (brought : packetAt? actions place = some packet) (action : Action) :
    place < actions.length ∧ packetAt? (actions ++ [action]) place = some packet := by
  obtain ⟨earlier, here, brings⟩ := Option.bind_eq_some_iff.mp brought
  have inside : place < actions.length := (List.getElem?_eq_some_iff.mp here).1
  refine ⟨inside, ?_⟩
  rw [packetAt?, List.getElem?_append_left inside]
  exact brought

theorem packetAt?_last {action : Action} {packet : Packet}
    (brings : action.packet? = some packet) (actions : List Action) :
    packetAt? (actions ++ [action]) actions.length = some packet := by
  simp [packetAt?, brings]

def registryAt (pool : Pool) (actions : List Action) (place : Nat) : Registry :=
  pool.after (actions.take place)

theorem registryAt_append (pool : Pool) {first : List Action} {place : Nat}
    (inside : place ≤ first.length) (later : List Action) :
    pool.registryAt (first ++ later) place = pool.registryAt first place := by
  rw [registryAt, registryAt, List.take_append_of_le_length inside]

theorem registryAt_concat (pool : Pool) {actions : List Action} {place : Nat}
    (inside : place ≤ actions.length) (action : Action) :
    pool.registryAt (actions ++ [action]) place = pool.registryAt actions place :=
  pool.registryAt_append inside [action]

/-- The places of a run whose action, in the registry it finds, passes a test. -/
def placesWhere (pool : Pool) (test : Registry → Action → Bool) (actions : List Action) :
    List Nat :=
  (List.range actions.length).filter fun place =>
    actions[place]?.any (test (pool.registryAt actions place))

theorem placesWhere_concat (pool : Pool) (test : Registry → Action → Bool)
    (actions : List Action) (action : Action) :
    pool.placesWhere test (actions ++ [action]) =
      pool.placesWhere test actions ++
        if test (pool.after actions) action then [actions.length] else [] := by
  have earlier : ∀ place ∈ List.range actions.length,
      (actions ++ [action])[place]?.any (test (pool.registryAt (actions ++ [action]) place)) =
        actions[place]?.any (test (pool.registryAt actions place)) := by
    intro place member
    have inside : place < actions.length := List.mem_range.mp member
    rw [List.getElem?_append_left inside, pool.registryAt_concat (Nat.le_of_lt inside)]
  simp only [placesWhere, List.length_append, List.length_cons, List.length_nil,
    List.range_succ, List.filter_append, List.filter_congr earlier]
  simp [List.filter_cons, registryAt]

theorem placesWhere_nodup (pool : Pool) (test : Registry → Action → Bool)
    (actions : List Action) : (pool.placesWhere test actions).Nodup :=
  List.nodup_range.filter _

theorem mem_placesWhere {pool : Pool} {test : Registry → Action → Bool} {actions : List Action}
    {place : Nat} :
    place ∈ pool.placesWhere test actions ↔
      ∃ action, actions[place]? = some action ∧
        test (pool.registryAt actions place) action = true := by
  simp only [placesWhere, List.mem_filter, List.mem_range, Option.any_eq_true]
  constructor
  · rintro ⟨inside, passes⟩
    exact passes
  · intro passes
    obtain ⟨action, here, holds⟩ := passes
    exact ⟨(List.getElem?_eq_some_iff.mp here).1, action, here, holds⟩

def openings (pool : Pool) (actions : List Action) : List Nat :=
  pool.placesWhere
    (fun registry action => decide (.count .opened ∈ (pool.act registry action).effects)) actions

/-- Whether a packet belongs in a message: it does not reset its exchange, and a message is
filed for it or it opens one. -/
def records (pool : Pool) (registry : Registry) (packet : Packet) : Bool :=
  !packet.flags.rst &&
    ((filedUnder? registry packet.src packet.dst).isSome || (pool.hooks.opens packet).isSome)

def recordings (pool : Pool) (actions : List Action) : List Nat :=
  pool.placesWhere (fun registry action => action.packet?.any (pool.records registry)) actions

end Pool

/-! ## Counts and deliveries go together -/

def labels (effects : List Effect) : List Termination :=
  effects.filterMap fun
    | .count (.dispatched termination) => some termination
    | _ => none

/-- A number of messages is counted as opened, and every delivery is counted under its
label. -/
structure Accounted (opened : Nat) (effects : List Effect) : Prop where
  opened : effects.count (.count .opened) = opened
  labels : labels effects = (deliveries effects).map Delivery.termination

namespace Accounted

theorem nil : Accounted 0 [] := ⟨rfl, rfl⟩

theorem append {first second : Nat} {front back : List Effect} (before : Accounted first front)
    (after : Accounted second back) : Accounted (first + second) (front ++ back) where
  opened := by rw [List.count_append, before.opened, after.opened]
  labels := by
    have joined : Reassembly.labels (front ++ back) =
        Reassembly.labels front ++ Reassembly.labels back := List.filterMap_append
    rw [joined, before.labels, after.labels, deliveries_append, List.map_append]

theorem flatMap {α : Type} {items : List α} {effects : α → List Effect}
    (each : ∀ item, Accounted 0 (effects item)) : Accounted 0 (items.flatMap effects) := by
  induction items with
  | nil => exact nil
  | cons item rest ih => exact (each item).append ih

theorem dispatch (pool : Pool) (key : SessionKey) (message : Message)
    (termination : Termination) (time : Nat) :
    Accounted 0 (pool.dispatch key message termination time) := by
  unfold Pool.dispatch
  cases pool.handler message with
  | none => exact ⟨rfl, rfl⟩
  | some fault => exact ⟨rfl, rfl⟩

theorem retire (pool : Pool) (key : SessionKey) (flow : Flow) (termination : Termination)
    (time : Nat) : Accounted 0 (pool.retire key flow termination time) := by
  unfold Pool.retire
  cases flow.deadline with
  | none => exact ⟨rfl, rfl⟩
  | some deadline => exact dispatch pool key flow.message termination time

theorem timeOut (pool : Pool) (entry : SessionKey × Flow) :
    Accounted 0 (pool.timeOut entry) := by
  unfold Pool.timeOut
  cases entry.2.deadline with
  | none => exact nil
  | some deadline =>
      have report : Accounted 0
          [.say (.timedOut entry.1 pool.limits.expiry entry.2.message.length)] := ⟨rfl, rfl⟩
      exact report.append (dispatch pool entry.1 _ .timedOut _)

theorem cutEffects (maxSize : Nat) (key : SessionKey) (message : Message) (packet : Packet) :
    Accounted 0 (Pool.cutEffects maxSize key message packet) := by
  unfold Pool.cutEffects
  split
  · exact ⟨rfl, rfl⟩
  · exact nil

theorem appending (pool : Pool) (registry : Registry) (key : SessionKey) (flow : Flow)
    (packet : Packet) : Accounted 0 (pool.append registry key flow packet).effects := by
  by_cases complete : pool.complete flow.message packet = .ok true
  · rw [Pool.append_of_complete complete]
    exact (cutEffects _ key flow.message packet).append (retire pool key _ .completed _)
  · rw [(Pool.append_of_incomplete complete registry key).2]
    exact cutEffects _ key flow.message packet

theorem opening (pool : Pool) (registry : Registry) (direction : Direction) (packet : Packet) :
    Accounted 1 (pool.openWith registry direction packet).effects := by
  have count : Accounted 1 [.count .opened] := ⟨rfl, rfl⟩
  cases deadline : deadlineAfter? registry.clock pool.limits.expiry with
  | none =>
      rw [Pool.openWith_of_overflow deadline]
      exact count
  | some time =>
      rw [Pool.openWith_of_deadline deadline]
      exact count.append (appending pool registry _ _ packet)

theorem resetSide (pool : Pool) (registry : Registry) (src dst : Endpoint) :
    Accounted 0 (pool.resetSide registry src dst).effects := by
  rcases pool.resetSide_cases registry src dst with ⟨-, same⟩ | ⟨key, flow, -, -, ended⟩
  · rw [same]
    exact nil
  · rw [ended]
    exact retire pool key flow .reset registry.clock

theorem reset (pool : Pool) (registry : Registry) (packet : Packet) :
    Accounted 0 (pool.reset registry packet).effects := by
  have report : Accounted 0 [.say (.reset packet.src packet.dst packet.timestamp)] := ⟨rfl, rfl⟩
  exact ((resetSide pool registry packet.src packet.dst).append
    (resetSide pool _ packet.dst packet.src)).append report

end Accounted

end Reassembly
