import Reassembly.Proofs.Pool.Growth
import Reassembly.Proofs.Pool.Ledger
import Reassembly.Proofs.SessionKeyIdentity

/-!
# What a reset reaches

A reset ends the messages that are filed for packets between its two endpoints.  A
client's key leaves the server out, so a reset reaches what its endpoints send as
clients to anyone, and what an endpoint sends as a server to the other one only if
that endpoint has nothing under way as a client.  `mem_after_reset_iff` says it without
keys, in terms of sockets and directions.
-/

set_option autoImplicit false

namespace Reassembly

/-! ## Keys and the messages under them -/

namespace Message

def key (message : Message) : SessionKey :=
  .of message.direction message.stats.src message.stats.dst

theorem key_eq_ofClient_iff {message : Message} {sender : Endpoint} :
    message.key = .ofClient sender ↔
      message.direction = .incoming ∧ message.stats.src.socket = sender.socket :=
  SessionKey.of_eq_ofClient_iff

theorem key_eq_ofServer_iff {message : Message} {server client : Endpoint} :
    message.key = .ofServer server client ↔
      message.direction = .outgoing ∧ message.stats.src.socket = server.socket ∧
        message.stats.dst.socket = client.socket :=
  SessionKey.of_eq_ofServer_iff

end Message

theorem Pool.grown_key (maxSize : Nat) (message : Message) (packet : Packet) :
    (grown maxSize message packet).key = message.key := by
  unfold grown
  split <;> rfl

theorem Life.message_key (maxSize : Nat) (life : Life) :
    (life.message maxSize).key = life.key := by
  have grows : ∀ message packet, message.key = life.key →
      (Pool.grown maxSize message packet).key = life.key := by
    intro message packet same
    rw [Pool.grown_key, same]
  exact Pool.foldl_grown_keeps (fun message => message.key = life.key) grows life.packets rfl

namespace Registry

def Keyed (registry : Registry) : Prop :=
  ∀ entry ∈ registry.flows, entry.1 = entry.2.message.key

/-- An endpoint has a message under way as a client. -/
def HasRequest (registry : Registry) (sender : Endpoint) : Prop :=
  ∃ entry ∈ registry.flows,
    entry.2.message.direction = .incoming ∧ entry.2.message.stats.src.socket = sender.socket

theorem hasRequest_congr {registry : Registry} {sender other : Endpoint}
    (same : sender.socket = other.socket) :
    registry.HasRequest sender ↔ registry.HasRequest other := by
  rw [HasRequest, same, HasRequest]

theorem find?_ofClient_eq_none_iff {registry : Registry} (keyed : registry.Keyed)
    {sender : Endpoint} :
    registry.find? (.ofClient sender) = none ↔ ¬registry.HasRequest sender := by
  rw [find?_eq_none_iff]
  apply not_congr
  constructor
  · intro filed
    obtain ⟨entry, member, same⟩ := List.mem_map.mp filed
    exact ⟨entry, member, Message.key_eq_ofClient_iff.mp ((keyed entry member).symm.trans same)⟩
  · rintro ⟨entry, member, own⟩
    have same := (keyed entry member).trans (Message.key_eq_ofClient_iff.mpr own)
    exact List.mem_map.mpr ⟨entry, member, same⟩

end Registry

theorem Pool.after_keyed (pool : Pool) (actions : List Action) : (pool.after actions).Keyed := by
  rw [← ledger_registry]
  intro entry member
  obtain ⟨life, live, rfl⟩ := List.mem_map.mp member
  exact (life.message_key pool.limits.maxSize).symm

/-! ## One side of a reset -/

namespace Registry

/-- Packets from `src` to `dst` are filed with a message. -/
def Serves (registry : Registry) (src dst : Endpoint) (message : Message) : Prop :=
  match message.direction with
  | .incoming => message.stats.src.socket = src.socket
  | .outgoing => message.stats.src.socket = src.socket ∧ message.stats.dst.socket = dst.socket ∧
      ¬registry.HasRequest src

theorem filedUnder?_eq_key_iff {registry : Registry} (keyed : registry.Keyed)
    {entry : SessionKey × Flow} (member : entry ∈ registry.flows) (src dst : Endpoint) :
    Pool.filedUnder? registry src dst = some entry.1 ↔
      registry.Serves src dst entry.2.message := by
  have filed : ∃ flow, registry.find? entry.1 = some flow := by
    apply Option.ne_none_iff_exists'.mp
    intro absent
    exact find?_eq_none_iff.mp absent (List.mem_map_of_mem member)
  rw [Pool.filedUnder?_eq_some_iff, find?_ofClient_eq_none_iff keyed, keyed entry member,
    Message.key_eq_ofClient_iff, Message.key_eq_ofServer_iff]
  rw [keyed entry member] at filed
  unfold Serves
  cases entry.2.message.direction with
  | incoming => simp [filed]
  | outgoing => simp [filed, and_comm, and_assoc]

theorem Keyed.resetSide {registry : Registry} (keyed : registry.Keyed) (pool : Pool)
    (src dst : Endpoint) : (pool.resetSide registry src dst).registry.Keyed := by
  rcases pool.resetSide_cases registry src dst with ⟨-, same⟩ | ⟨key, flow, -, -, ended⟩
  · rw [same]
    exact keyed
  · rw [ended]
    intro entry member
    exact keyed entry (mem_erase.mp member).1

theorem mem_resetSide_iff {registry : Registry} (keyed : registry.Keyed) (pool : Pool)
    (src dst : Endpoint) (entry : SessionKey × Flow) :
    entry ∈ (pool.resetSide registry src dst).registry.flows ↔
      entry ∈ registry.flows ∧ ¬registry.Serves src dst entry.2.message := by
  have kept : entry ∈ (pool.resetSide registry src dst).registry.flows ↔
      entry ∈ registry.flows ∧ Pool.filedUnder? registry src dst ≠ some entry.1 := by
    rcases pool.resetSide_cases registry src dst with ⟨unfiled, same⟩ | ⟨key, flow, filed, -, ended⟩
    · simp [same, unfiled]
    · rw [ended, mem_erase, filed]
      simp [eq_comm]
  rw [kept]
  apply and_congr_right
  intro member
  exact not_congr (filedUnder?_eq_key_iff keyed member src dst)

theorem hasRequest_resetSide_iff {registry : Registry} (keyed : registry.Keyed) (pool : Pool)
    (src dst sender : Endpoint) :
    (pool.resetSide registry src dst).registry.HasRequest sender ↔
      registry.HasRequest sender ∧ sender.socket ≠ src.socket := by
  constructor
  · rintro ⟨entry, member, incoming, own⟩
    obtain ⟨earlier, spared⟩ := (mem_resetSide_iff keyed pool src dst entry).mp member
    refine ⟨⟨entry, earlier, incoming, own⟩, ?_⟩
    rw [Serves, incoming] at spared
    exact own ▸ spared
  · rintro ⟨⟨entry, member, incoming, own⟩, other⟩
    refine ⟨entry, (mem_resetSide_iff keyed pool src dst entry).mpr ⟨member, ?_⟩, incoming, own⟩
    rw [Serves, incoming]
    exact own ▸ other

end Registry

/-! ## Both sides of a reset -/

/-- A message travels between the sockets of two endpoints, one way or the other. -/
def Message.Joins (message : Message) (first second : Endpoint) : Prop :=
  (message.stats.src.socket = first.socket ∧ message.stats.dst.socket = second.socket) ∨
    (message.stats.src.socket = second.socket ∧ message.stats.dst.socket = first.socket)

/-- A reset between two endpoints reaches a message: all that one of them sends as a client,
and what one of them sends to the other as a server while it sends nothing as a client. -/
def Registry.Reaches (registry : Registry) (first second : Endpoint) (message : Message) : Prop :=
  match message.direction with
  | .incoming =>
      message.stats.src.socket = first.socket ∨ message.stats.src.socket = second.socket
  | .outgoing => message.Joins first second ∧
      (first.socket = second.socket ∨ ¬registry.HasRequest message.stats.src)

theorem Registry.serves_or_serves_iff {registry : Registry} (keyed : registry.Keyed)
    (pool : Pool) (src dst : Endpoint) (message : Message) :
    registry.Serves src dst message ∨
        (pool.resetSide registry src dst).registry.Serves dst src message ↔
      registry.Reaches src dst message := by
  unfold Serves Reaches
  cases message.direction with
  | incoming => exact Iff.rfl
  | outgoing =>
      simp only [hasRequest_resetSide_iff keyed, Message.Joins]
      constructor
      · rintro (⟨own, other, free⟩ | ⟨own, other, free⟩)
        · exact ⟨Or.inl ⟨own, other⟩, Or.inr (mt (hasRequest_congr own).mp free)⟩
        · refine ⟨Or.inr ⟨own, other⟩, ?_⟩
          by_cases same : src.socket = dst.socket
          · exact Or.inl same
          · refine Or.inr fun request => free ⟨(hasRequest_congr own).mp request, ?_⟩
            exact Ne.symm same
      · rintro ⟨⟨own, other⟩ | ⟨own, other⟩, free⟩
        · rcases free with same | free
          · have back := fun request : registry.HasRequest dst ∧ dst.socket ≠ src.socket =>
              request.2 same.symm
            exact Or.inr ⟨own.trans same, other.trans same.symm, back⟩
          · exact Or.inl ⟨own, other, mt (hasRequest_congr own).mpr free⟩
        · refine Or.inr ⟨own, other, ?_⟩
          rintro ⟨request, differs⟩
          rcases free with same | free
          · exact differs same.symm
          · exact free ((hasRequest_congr own).mpr request)

namespace Pool

/-- A reset ends the messages that it reaches, opens none, and leaves the others as they
are. -/
theorem mem_after_reset_iff (pool : Pool) (actions : List Action) (packet : Packet)
    (rst : packet.flags.rst = true) (entry : SessionKey × Flow) :
    entry ∈ (pool.after (actions ++ [.take (.packet packet)])).flows ↔
      entry ∈ (pool.after actions).flows ∧
        ¬(pool.after actions).Reaches packet.src packet.dst entry.2.message := by
  have keyed := pool.after_keyed actions
  have taken : pool.takePacket (pool.after actions) packet =
      pool.reset (pool.after actions) packet := if_pos rst
  have both := Registry.serves_or_serves_iff keyed pool packet.src packet.dst entry.2.message
  rw [after_concat, ← both, not_or]
  simp only [act, take, taken, reset]
  rw [Registry.mem_resetSide_iff (keyed.resetSide pool _ _), Registry.mem_resetSide_iff keyed,
    and_assoc]

end Pool

/-- A message travels between two endpoints, one way or the other. -/
def Message.Between (message : Message) (first second : Endpoint) : Prop :=
  (message.stats.src = first ∧ message.stats.dst = second) ∨
    (message.stats.src = second ∧ message.stats.dst = first)

instance (message : Message) (first second : Endpoint) :
    Decidable (message.Between first second) :=
  inferInstanceAs (Decidable (_ ∨ _))

namespace Pool

/-- A host answers one host as a server and asks another one as a client. -/
def crossed : List Action :=
  [.take (.packet ((⟨nearby 2, nearby 1⟩ : Conversation).packet [1] .responseSyn)),
    .take (.packet ((⟨nearby 1, nearby 3⟩ : Conversation).packet [2] .requestSyn))]

def crossedReset : Packet :=
  (⟨nearby 1, nearby 2⟩ : Conversation).packet [] (.request .resetting 0)

theorem mem_after_reset_crossed :
    crossedReset.flags.rst = true ∧
      ∀ entry, entry ∈ (touchy.after (crossed ++ [.take (.packet crossedReset)])).flows ↔
        entry ∈ (touchy.after crossed).flows ∧
          ¬(touchy.after crossed).Reaches crossedReset.src crossedReset.dst entry.2.message :=
  ⟨rfl, mem_after_reset_iff touchy crossed crossedReset rfl⟩

/-- Resets do not go by pairs of endpoints: one leaves a message between its endpoints
tracked, and ends a message of another pair. -/
theorem reset_not_by_pairs :
    touchy.Schedulable (touchy.after crossed).clock ∧ crossedReset.flags.rst = true ∧
      (¬∀ entry ∈ (touchy.after (crossed ++ [.take (.packet crossedReset)])).flows,
        ¬entry.2.message.Between crossedReset.src crossedReset.dst) ∧
      ¬∀ entry ∈ (touchy.after crossed).flows,
        ¬entry.2.message.Between crossedReset.src crossedReset.dst →
          entry ∈ (touchy.after (crossed ++ [.take (.packet crossedReset)])).flows := by
  decide +kernel

end Pool

end Reassembly
