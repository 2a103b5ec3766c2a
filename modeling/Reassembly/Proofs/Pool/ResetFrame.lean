import Reassembly.Proofs.Pool.Watchers
import Reassembly.Proofs.SessionKeyIdentity

/-!
# What a reset takes out of a registry

Each side of a reset takes out what is filed under the first of its two keys that is still
there, if there is one.  What is taken out is dispatched as it was tracked, and everything else
stays as it is.  The two sides have no key in common unless they are one socket.
-/

set_option autoImplicit false

namespace Reassembly

/-- The keys under which packets from one endpoint to another are filed, the sender's own
first. -/
def sideKeys (src dst : Endpoint) : List SessionKey :=
  [.ofClient src, .ofServer src dst]

theorem mem_sideKeys {key : SessionKey} {src dst : Endpoint} :
    key ∈ sideKeys src dst ↔ ∃ direction, key = .of direction src dst := by
  constructor
  · intro member
    rcases List.mem_cons.mp member with client | member
    · exact ⟨.incoming, client⟩
    · exact ⟨.outgoing, List.mem_singleton.mp member⟩
  · rintro ⟨direction, rfl⟩
    cases direction with
    | incoming => exact List.mem_cons_self
    | outgoing => exact List.mem_cons_of_mem _ List.mem_cons_self

theorem sideKeys_disjoint {src dst : Endpoint} (distinct : src.socket ≠ dst.socket)
    {first second : SessionKey} (sender : first ∈ sideKeys src dst) (receiver : second ∈ sideKeys dst src) :
    first ≠ second := by
  obtain ⟨direction, rfl⟩ := mem_sideKeys.mp sender
  obtain ⟨direction', rfl⟩ := mem_sideKeys.mp receiver
  exact SessionKey.of_ne_of distinct direction direction' dst src

namespace Registry

def eraseAny (registry : Registry) : Option SessionKey → Registry
  | none => registry
  | some key => registry.erase key

theorem eraseAny_eq (registry : Registry) (gone : Option SessionKey) :
    registry.eraseAny gone =
      { registry with
        flows := registry.flows.filter fun entry => decide (entry.1 ∉ gone.toList) } := by
  cases gone with
  | none => simp [eraseAny]
  | some key => simp [eraseAny, erase]

theorem eraseAny_eraseAny (registry : Registry) (first second : Option SessionKey) :
    (registry.eraseAny first).eraseAny second =
      { registry with
        flows := registry.flows.filter fun entry =>
          decide (entry.1 ∉ first.toList ++ second.toList) } := by
  simp only [eraseAny_eq, List.filter_filter, List.mem_append, not_or, Bool.decide_and,
    Bool.and_comm]

theorem contains_eraseAny (registry : Registry) (gone : Option SessionKey) :
    (registry.eraseAny gone).contains = fun key =>
      registry.contains key && decide (gone ≠ some key) := by
  funext key
  cases gone with
  | none => simp [eraseAny]
  | some other =>
      simp only [eraseAny, contains, find?_erase]
      by_cases same : key = other
      · simp [same]
      · simp [same, Ne.symm same]

theorem find?_of_eraseAny {registry : Registry} {gone : Option SessionKey} {key : SessionKey}
    {flow : Flow} (found : (registry.eraseAny gone).find? key = some flow) :
    registry.find? key = some flow := by
  cases gone with
  | none => exact found
  | some other =>
      rw [eraseAny, find?_erase] at found
      split at found
      · cases found
      · exact found

end Registry

namespace Pool

theorem filedUnder?_eq_find? (registry : Registry) (src dst : Endpoint) :
    filedUnder? registry src dst = (sideKeys src dst).find? registry.contains := by
  unfold filedUnder? sideKeys
  cases client : registry.contains (.ofClient src) <;>
    cases server : registry.contains (.ofServer src dst) <;> simp [client, server]

/-! ## One side -/

/-- What one side of a reset takes out: the entry under the first of its keys that is there. -/
structure TakesOut (registry : Registry) (src dst : Endpoint)
    (gone : Option (SessionKey × Flow)) : Prop where
  key : gone.map Prod.fst = (sideKeys src dst).find? registry.contains
  filed : ∀ entry ∈ gone.toList, registry.find? entry.1 = some entry.2

theorem resetSide_takesOut (pool : Pool) (registry : Registry) (src dst : Endpoint) :
    ∃ gone, TakesOut registry src dst gone ∧
      pool.resetSide registry src dst =
        ⟨registry.eraseAny (gone.map Prod.fst), gone.toList.flatMap fun entry =>
          pool.retire entry.1 entry.2 .reset registry.clock, none⟩ := by
  rcases pool.resetSide_cases registry src dst with ⟨unfiled, same⟩ | ⟨key, flow, filed, found, ended⟩
  · refine ⟨none, ⟨?_, ?_⟩, same⟩
    · rw [← filedUnder?_eq_find?, unfiled]
      rfl
    · intro entry member
      cases member
  · refine ⟨some (key, flow), ⟨?_, ?_⟩, ?_⟩
    · rw [← filedUnder?_eq_find?, filed]
      rfl
    · intro entry member
      rw [List.mem_singleton.mp member]
      exact found
    · simp [ended, Registry.eraseAny]

theorem TakesOut.isSome_iff {registry : Registry} {src dst : Endpoint}
    {gone : Option (SessionKey × Flow)} (takes : TakesOut registry src dst gone) :
    gone.isSome = true ↔ ∃ key ∈ sideKeys src dst, registry.contains key = true := by
  rw [← Option.isSome_map, takes.key, List.find?_isSome]

theorem deliveries_retires (pool : Pool) {clock : Nat} {gone : List (SessionKey × Flow)}
    (attended : ∀ entry ∈ gone, entry.2.Attended clock) (termination : Termination) (time : Nat) :
    deliveries (gone.flatMap fun entry => pool.retire entry.1 entry.2 termination time) =
      gone.map fun entry => ⟨entry.1, entry.2.message, termination, time⟩ := by
  induction gone with
  | nil => rfl
  | cons entry rest ih =>
      obtain ⟨deadline, watched, -⟩ := attended entry List.mem_cons_self
      rw [List.flatMap_cons, deliveries_append, deliveries_retire, watched,
        ih fun other member => attended other (List.mem_cons_of_mem _ member)]
      rfl

/-! ## Both sides -/

/-- A call that takes out of a registry what the two sides of a reset have filed, dispatches it as
it was tracked, and does nothing else. -/
structure Retires (before : Registry) (src dst : Endpoint)
    (sender receiver : Option (SessionKey × Flow)) (outcome : Outcome) : Prop where
  /-- A side loses what is filed under the first of its keys that is still there. -/
  senderKey : sender.map Prod.fst = (sideKeys src dst).find? before.contains
  receiverKey : receiver.map Prod.fst = (sideKeys dst src).find? fun key =>
    before.contains key && decide (sender.map Prod.fst ≠ some key)
  senderLoses : sender.isSome = true ↔ ∃ key ∈ sideKeys src dst, before.contains key = true
  receiverLoses : src.socket ≠ dst.socket →
    (receiver.isSome = true ↔ ∃ key ∈ sideKeys dst src, before.contains key = true)
  tracked : ∀ entry ∈ sender.toList ++ receiver.toList, entry ∈ before.flows
  kept : outcome.registry =
    { before with
      flows := before.flows.filter fun entry =>
        decide (entry.1 ∉ (sender.toList ++ receiver.toList).map Prod.fst) }
  delivered : deliveries outcome.effects = (sender.toList ++ receiver.toList).map fun entry =>
    ⟨entry.1, entry.2.message, .reset, before.clock⟩
  labelled : labels outcome.effects = (sender.toList ++ receiver.toList).map fun _ => .reset
  opensNone : .count .opened ∉ outcome.effects
  succeeds : outcome.fault = none

theorem reset_takesOut {pool : Pool} {registry : Registry} (attended : registry.Attended)
    (packet : Packet) :
    ∃ sender receiver, Retires registry packet.src packet.dst sender receiver
      (pool.reset registry packet) := by
  obtain ⟨sender, first, early⟩ := pool.resetSide_takesOut registry packet.src packet.dst
  obtain ⟨receiver, second, late⟩ :=
    pool.resetSide_takesOut (registry.eraseAny (sender.map Prod.fst)) packet.dst packet.src
  have tracked : ∀ entry ∈ sender.toList ++ receiver.toList, entry ∈ registry.flows := by
    intro entry member
    rcases List.mem_append.mp member with one | other
    · exact Registry.mem_of_find? (first.filed entry one)
    · exact Registry.mem_of_find? (Registry.find?_of_eraseAny (second.filed entry other))
  have clock : (registry.eraseAny (sender.map Prod.fst)).clock = registry.clock := by
    rw [Registry.eraseAny_eq]
  have delivered : deliveries (pool.reset registry packet).effects =
      (sender.toList ++ receiver.toList).map fun entry =>
        ⟨entry.1, entry.2.message, .reset, registry.clock⟩ := by
    have report : deliveries [.say (.reset packet.src packet.dst packet.timestamp)] = [] := rfl
    simp only [reset, early, late, clock, ← List.flatMap_append, deliveries_append, report,
      List.append_nil]
    exact pool.deliveries_retires (fun entry member => attended entry (tracked entry member)) _ _
  have accounted := Accounted.reset pool registry packet
  refine ⟨sender, receiver, ?_⟩
  constructor
  case senderKey => exact first.key
  case receiverKey => rw [second.key, Registry.contains_eraseAny]
  case senderLoses => exact first.isSome_iff
  case receiverLoses =>
      intro distinct
      rw [second.isSome_iff, Registry.contains_eraseAny]
      constructor
      · rintro ⟨key, own, there⟩
        exact ⟨key, own, (Bool.and_eq_true_iff.mp there).1⟩
      · rintro ⟨key, own, there⟩
        refine ⟨key, own, Bool.and_eq_true_iff.mpr ⟨there, decide_eq_true ?_⟩⟩
        intro taken
        rw [first.key] at taken
        exact sideKeys_disjoint distinct (List.mem_of_find?_eq_some taken) own rfl
  case tracked => exact tracked
  case kept =>
      simp only [reset, early, late, Registry.eraseAny_eraseAny, List.map_append,
        Option.toList_map]
  case delivered => exact delivered
  case labelled =>
      rw [accounted.labels, delivered, List.map_map]
      rfl
  case opensNone => exact List.count_eq_zero.mp accounted.opened
  case succeeds => rfl

theorem take_of_reset {pool : Pool} {input : Input} {packet : Packet}
    (brings : input.packet? = some packet) (rst : packet.flags.rst = true) (registry : Registry) :
    pool.take registry input = pool.reset registry packet := by
  rw [take_of_packet? brings, takePacket, if_pos rst]

/-- A reset retires what its two sides have filed, leaves everything else as it is, and asks no
rule. -/
theorem reset_retires (pool : Pool) (actions : List Action) (input : Input) (packet : Packet)
    (brings : input.packet? = some packet) (rst : packet.flags.rst = true)
    (fits : pool.Schedulable (pool.after actions).clock) :
    (∃ sender receiver, Retires (pool.after actions) packet.src packet.dst sender receiver
      (pool.take (pool.after actions) input)) ∧
    ∀ hooks : Hooks, ({ pool with hooks := hooks } : Pool).take (pool.after actions) input =
      pool.take (pool.after actions) input := by
  constructor
  · rw [take_of_reset brings rst]
    exact reset_takesOut (after_attended fits).1 packet
  · intro hooks
    rw [take_of_reset brings rst, take_of_reset brings rst]
    rfl

/-- A host answers itself as a server and asks another one as a client, which asks a third. -/
def looped : List Action :=
  [.take (.packet ((⟨nearby 1, nearby 1⟩ : Conversation).packet [1] .responseSyn)),
    .take (.packet ((⟨nearby 1, nearby 2⟩ : Conversation).packet [2] .requestSyn)),
    .take (.packet ((⟨nearby 2, nearby 3⟩ : Conversation).packet [3] .requestSyn))]

/-- The host resets itself, with a packet that could also open a message or complete one. -/
def loopedReset : Packet :=
  { (⟨nearby 1, nearby 1⟩ : Conversation).packet [0] .requestSyn with
    flags := { syn := true, fin := true, rst := true } }

theorem reset_retires_looped :
    touchy.Schedulable (touchy.after looped).clock ∧
      (deliveries (touchy.take (touchy.after looped) (.packet loopedReset)).effects).map
          Delivery.key = [.ofClient (nearby 1), .ofServer (nearby 1) (nearby 1)] ∧
      (touchy.take (touchy.after looped) (.packet loopedReset)).registry.keys =
        [.ofClient (nearby 2)] ∧
      (∃ sender receiver, Retires (touchy.after looped) loopedReset.src loopedReset.dst sender
        receiver (touchy.take (touchy.after looped) (.packet loopedReset))) ∧
      ∀ hooks : Hooks,
        ({ touchy with hooks := hooks } : Pool).take (touchy.after looped) (.packet loopedReset) =
          touchy.take (touchy.after looped) (.packet loopedReset) := by
  have fits : touchy.Schedulable (touchy.after looped).clock := by decide +kernel
  exact ⟨fits, by decide +kernel, by decide +kernel,
    reset_retires touchy looped (.packet loopedReset) loopedReset rfl rfl fits⟩

end Pool

end Reassembly
