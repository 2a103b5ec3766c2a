import Mathlib.Algebra.GroupWithZero.Nat
import Mathlib.Data.List.Induction
import Reassembly.Pool.Intake

/-!
# How a message grows

A message that gathers packets holds what can be read off the packets
(`Message.gather_eq`).  Under a size cap it gathers them whole as long as it does
not become complete, and it stays below the cap; only the packet that completes
it can be cut.  What completes it is said by `complete_eq_true_iff` where the
completion rule does not fail.
-/

set_option autoImplicit false

namespace Reassembly

namespace Message

def gather (message : Message) (packets : List Packet) : Message :=
  packets.foldl append message

theorem gather_concat (message : Message) (packets : List Packet) (packet : Packet) :
    message.gather (packets ++ [packet]) = (message.gather packets).append packet := by
  simp [gather]

theorem gather_eq (message : Message) (packets : List Packet) :
    message.gather packets = {
      packets := message.packets ++ packets
      data := message.data ++ packets.flatMap Packet.payload
      stats := { message.stats with
        lostData := message.stats.lostData + (packets.map fun packet => packet.lost.toNat).sum
        length := message.stats.length +
          (packets.map fun packet => packet.payload.length).sum
        latest := (packets.getLast?.map Packet.timestamp).or message.stats.latest } } := by
  induction packets using List.reverseRecOn with
  | nil => simp [gather]
  | append_singleton packets packet ih =>
      rw [gather_concat, ih]
      simp [append, Nat.add_assoc]

theorem sum_lost_le (packets : List Packet) :
    (packets.map fun packet => packet.lost.toNat).sum ≤ (2 ^ 32 - 1) * packets.length := by
  induction packets with
  | nil => exact Nat.le_refl 0
  | cons packet rest ih =>
      have small : packet.lost.toNat < 2 ^ 32 := packet.lost.toNat_lt
      simp only [List.map_cons, List.sum_cons, List.length_cons]
      omega

/-- There is room under a size cap, and adding the length of one more payload stays below 2^64
while buffers stay below 2^63. -/
def HasRoom (maxSize : Nat) (message : Message) : Prop :=
  message.length < maxSize ∧ ∀ payload : Bytes, message.data.length < 2 ^ 63 →
    payload.length < 2 ^ 63 → message.length + payload.length < 2 ^ 64

theorem hasRoom {maxSize : Nat} {message : Message} (below : message.length < maxSize)
    (filled : message.length = message.data.length) : message.HasRoom maxSize := by
  refine ⟨below, ?_⟩
  intro payload own other
  omega

end Message

/-- The owner's completion rule does not fail. -/
def Hooks.Calm (hooks : Hooks) : Prop :=
  ∀ message, ∃ holds, hooks.completes message = .ok holds

namespace Pool

/-! ## One packet under a size cap -/

theorem grown_of_fits {maxSize : Nat} {message : Message} {packet : Packet}
    (fits : message.length + packet.payload.length ≤ maxSize) :
    grown maxSize message packet = message.append packet :=
  if_neg (Nat.not_lt.mpr fits)

theorem grown_of_exceeds {maxSize : Nat} {message : Message} {packet : Packet}
    (exceeds : maxSize < message.length + packet.payload.length) :
    grown maxSize message packet =
      message.markTruncated.append
        { packet with payload := packet.payload.take (maxSize - message.length) } :=
  if_pos exceeds

theorem grown_eq (maxSize : Nat) (message : Message) (packet : Packet) :
    grown maxSize message packet =
      (if maxSize < message.length + packet.payload.length then message.markTruncated
        else message).append
          { packet with payload := packet.payload.take (maxSize - message.length) } := by
  by_cases exceeds : maxSize < message.length + packet.payload.length
  · rw [grown_of_exceeds exceeds, if_pos exceeds]
  · have room : packet.payload.length ≤ maxSize - message.length := by omega
    rw [grown_of_fits (Nat.le_of_not_lt exceeds), if_neg exceeds, List.take_of_length_le room]

theorem grown_packets (maxSize : Nat) (message : Message) (packet : Packet) :
    (grown maxSize message packet).packets = message.packets ++
      [{ packet with payload := packet.payload.take (maxSize - message.length) }] := by
  rw [grown_eq]
  split <;> rfl

theorem grown_data (maxSize : Nat) (message : Message) (packet : Packet) :
    (grown maxSize message packet).data =
      message.data ++ packet.payload.take (maxSize - message.length) := by
  rw [grown_eq]
  split <;> rfl

theorem grown_length (maxSize : Nat) (message : Message) (packet : Packet) :
    (grown maxSize message packet).length =
      message.length + (packet.payload.take (maxSize - message.length)).length := by
  rw [grown_eq]
  split <;> rfl

theorem grown_truncated (maxSize : Nat) (message : Message) (packet : Packet) :
    (grown maxSize message packet).stats.truncated =
      (message.stats.truncated ||
        decide (maxSize < message.length + packet.payload.length)) := by
  rw [grown_eq]
  by_cases exceeds : maxSize < message.length + packet.payload.length
  · rw [if_pos exceeds, decide_eq_true exceeds, Bool.or_true]
    rfl
  · rw [if_neg exceeds, decide_eq_false exceeds, Bool.or_false]
    rfl

theorem fits_of_incomplete {pool : Pool} {message : Message} {packet : Packet}
    (incomplete : pool.complete message packet ≠ .ok true) :
    message.length + packet.payload.length < pool.limits.maxSize := by
  apply Nat.lt_of_not_le
  intro reached
  exact incomplete (if_pos reached)

theorem complete_eq_true_iff {pool : Pool} (calm : pool.hooks.Calm) (message : Message)
    (packet : Packet) :
    pool.complete message packet = .ok true ↔
      pool.limits.maxSize ≤ message.length + packet.payload.length ∨
        pool.hooks.completes (grown pool.limits.maxSize message packet) = .ok true ∨
          packet.flags.fin = true := by
  obtain ⟨holds, answer⟩ := calm (grown pool.limits.maxSize message packet)
  unfold complete
  by_cases reached : pool.limits.maxSize ≤ message.length + packet.payload.length
  · simp [reached]
  · simp [reached, answer]

/-! ## Many packets under a size cap -/

/-- What one more packet keeps of a message is kept by any number of packets. -/
theorem foldl_grown_keeps {maxSize : Nat} (kept : Message → Prop)
    (grows : ∀ message packet, kept message → kept (grown maxSize message packet))
    (packets : List Packet) {message : Message} (held : kept message) :
    kept (packets.foldl (grown maxSize) message) := by
  induction packets generalizing message with
  | nil => exact held
  | cons packet rest ih => exact ih (grows message packet held)

/-- No packet in turn completes the message that gathers them. -/
def StaysOpen (pool : Pool) : Message → List Packet → Prop
  | _, [] => True
  | message, packet :: rest =>
      pool.complete message packet ≠ .ok true ∧
        StaysOpen pool (grown pool.limits.maxSize message packet) rest

theorem staysOpen_concat {pool : Pool} {message : Message} {packets : List Packet}
    {packet : Packet} :
    pool.StaysOpen message (packets ++ [packet]) ↔
      pool.StaysOpen message packets ∧
        pool.complete (packets.foldl (grown pool.limits.maxSize) message) packet ≠ .ok true := by
  induction packets generalizing message with
  | nil => simp [StaysOpen]
  | cons first rest ih => simp [StaysOpen, ih, and_assoc]

theorem StaysOpen.of_append {pool : Pool} {message : Message} {first second : List Packet}
    (stays : pool.StaysOpen message (first ++ second)) : pool.StaysOpen message first := by
  induction first generalizing message with
  | nil => trivial
  | cons packet rest ih => exact ⟨stays.1, ih stays.2⟩

theorem StaysOpen.foldl_grown {pool : Pool} {message : Message} {packets : List Packet}
    (stays : pool.StaysOpen message packets) :
    packets.foldl (grown pool.limits.maxSize) message = message.gather packets := by
  induction packets generalizing message with
  | nil => rfl
  | cons packet rest ih =>
      obtain ⟨incomplete, later⟩ := stays
      have whole := grown_of_fits (Nat.le_of_lt (fits_of_incomplete incomplete))
      rw [List.foldl_cons, ih later, whole]
      rfl

theorem StaysOpen.length_lt {pool : Pool} {message : Message} {packets : List Packet}
    (stays : pool.StaysOpen message packets) (below : message.length < pool.limits.maxSize) :
    (message.gather packets).length < pool.limits.maxSize := by
  induction packets generalizing message with
  | nil => exact below
  | cons packet rest ih =>
      obtain ⟨incomplete, later⟩ := stays
      have fits := fits_of_incomplete incomplete
      rw [grown_of_fits (Nat.le_of_lt fits)] at later
      exact ih later fits

end Pool

end Reassembly
