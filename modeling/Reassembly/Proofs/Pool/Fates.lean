import Mathlib.Data.List.Nodup
import Reassembly.Proofs.Pool.Conservation

/-!
# The fate of a packet

A packet of a run resets its exchange and is recorded nowhere, or it is dropped and
leaves the registry as it was, or it is recorded once.  A message keeps its packets
in the order of the run and as they were given; only the last packet of a truncated
message may have lost the end of its payload.
-/

set_option autoImplicit false

namespace Reassembly

/-! ## How a message keeps its packets -/

/-- A message holds packets as they were given, but for the cut that truncated it: its last
packet may have lost the end of its payload. -/
def Message.Keeps (message : Message) (packets : List Packet) : Prop :=
  message.packets = packets ∨
    (message.stats.truncated = true ∧ ∃ earlier last size, packets = earlier ++ [last] ∧
      size < last.payload.length ∧
      message.packets = earlier ++ [{ last with payload := last.payload.take size }])

theorem Pool.keeps_grown {maxSize : Nat} {message : Message} {packet : Packet}
    (below : message.length < maxSize) :
    (grown maxSize message packet).Keeps (message.packets ++ [packet]) := by
  by_cases exceeds : maxSize < message.length + packet.payload.length
  · rw [grown_of_exceeds exceeds]
    refine Or.inr ⟨rfl, message.packets, packet, maxSize - message.length, rfl, ?_, rfl⟩
    omega
  · rw [grown_of_fits (Nat.le_of_not_lt exceeds)]
    exact Or.inl rfl

theorem Ended.keeps {pool : Pool} {ended : Ended} (lawful : ended.Lawful pool) :
    (ended.message pool.limits.maxSize).Keeps ended.life.packets := by
  obtain ⟨life, termination, time, place⟩ := ended
  cases termination with
  | completed =>
      obtain ⟨earlier, last, packet, rfl, stays, complete⟩ := lawful
      simp only [Ended.message, Life.message_add, Life.packets_add]
      rw [← stays.packets_eq]
      exact Pool.keeps_grown stays.length_lt
  | reset => exact Or.inl lawful.packets_eq
  | timedOut => exact Or.inl lawful.packets_eq

namespace Pool

/-! ## Where a packet goes -/

theorem registryAt_succ (pool : Pool) {actions : List Action} {place : Nat} {action : Action}
    (here : actions[place]? = some action) :
    pool.registryAt actions (place + 1) =
      (pool.act (pool.registryAt actions place) action).registry := by
  rw [registryAt, List.take_add_one, here, Option.toList_some, after_concat]
  rfl

theorem act_of_packet? {pool : Pool} {action : Action} {packet : Packet}
    (brings : action.packet? = some packet) (registry : Registry) :
    (pool.act registry action).registry = (pool.takePacket registry packet).registry := by
  cases action with
  | take input => simp only [act, take_of_packet? brings]
  | elapse nanos => cases brings
  | settle => cases brings

theorem takePacket_of_unclaimed {pool : Pool} {registry : Registry} {packet : Packet}
    (plain : packet.flags.rst = false)
    (unfiled : filedUnder? registry packet.src packet.dst = none)
    (closed : pool.hooks.opens packet = none) :
    pool.takePacket registry packet = ⟨registry, [], none⟩ := by
  simp [takePacket, join, plain, unfiled, closed]

theorem mem_recordings_iff {pool : Pool} {actions : List Action} {place : Nat} {packet : Packet}
    (brought : packetAt? actions place = some packet) :
    place ∈ pool.recordings actions ↔
      pool.records (pool.registryAt actions place) packet = true := by
  obtain ⟨action, here, brings⟩ := Option.bind_eq_some_iff.mp brought
  simp [recordings, mem_placesWhere, here, brings]

theorem records_of_claimed {pool : Pool} {registry : Registry} {packet : Packet}
    (plain : packet.flags.rst = false)
    (claimed : ¬(registry.find? (.ofClient packet.src) = none ∧
      registry.find? (.ofServer packet.src packet.dst) = none ∧
      pool.hooks.opens packet = none)) :
    pool.records registry packet = true := by
  cases filed : filedUnder? registry packet.src packet.dst with
  | some key => simp [records, plain, filed]
  | none =>
      cases answer : pool.hooks.opens packet with
      | some direction => simp [records, plain, answer]
      | none =>
          obtain ⟨client, server⟩ := filedUnder?_eq_none_iff.mp filed
          exact absurd ⟨client, server, answer⟩ claimed

/-! ## The fates of a run -/

/-- Every packet of a run has one fate, told by how often its place stands among the places
of all messages, and every message keeps its packets. -/
structure Settles (pool : Pool) (actions : List Action) (ledger : Ledger) : Prop where
  tracked : (pool.after actions).flows = ledger.live.map (Life.entry pool)
  dispatched : deliveries (pool.effects actions) = ledger.ended.map (Ended.delivery pool)
  reset : ∀ place packet, packetAt? actions place = some packet → packet.flags.rst = true →
    (ledger.lives.flatMap Life.places).count place = 0
  dropped : ∀ place packet, packetAt? actions place = some packet → packet.flags.rst = false →
    (pool.registryAt actions place).find? (.ofClient packet.src) = none ∧
        (pool.registryAt actions place).find? (.ofServer packet.src packet.dst) = none ∧
        pool.hooks.opens packet = none →
      (ledger.lives.flatMap Life.places).count place = 0 ∧
        pool.registryAt actions (place + 1) = pool.registryAt actions place
  recorded : ∀ place packet, packetAt? actions place = some packet → packet.flags.rst = false →
    ¬((pool.registryAt actions place).find? (.ofClient packet.src) = none ∧
        (pool.registryAt actions place).find? (.ofServer packet.src packet.dst) = none ∧
        pool.hooks.opens packet = none) →
      (ledger.lives.flatMap Life.places).count place = 1
  given : ∀ life ∈ ledger.lives, ∀ entry ∈ life.given, packetAt? actions entry.1 = some entry.2
  ordered : ∀ life ∈ ledger.lives, life.places.Pairwise (· < ·)
  live : ∀ life ∈ ledger.live, (life.message pool.limits.maxSize).packets = life.packets
  ended : ∀ ended ∈ ledger.ended,
    (ended.delivery pool).message.Keeps ended.life.packets

theorem ledger_settles (pool : Pool) (actions : List Action)
    (fits : pool.Schedulable (pool.after actions).clock) :
    pool.Settles actions (pool.ledger actions) := by
  have genuine := ledger_genuine fits
  have lawful := ledger_lawful fits
  have places := ledger_places fits
  have none_recorded : ∀ place packet, packetAt? actions place = some packet →
      pool.records (pool.registryAt actions place) packet = false →
        ((pool.ledger actions).lives.flatMap Life.places).count place = 0 := by
    intro place packet brought idle
    rw [places.count_eq, List.count_eq_zero, mem_recordings_iff brought]
    exact Bool.eq_false_iff.mp idle
  constructor
  case tracked =>
      rw [← ledger_registry]
      rfl
  case dispatched => exact ledger_delivered fits
  case reset =>
      intro place packet brought rst
      apply none_recorded place packet brought
      simp [records, rst]
  case dropped =>
      intro place packet brought plain unclaimed
      obtain ⟨client, server, closed⟩ := unclaimed
      have unfiled := filedUnder?_eq_none_iff.mpr ⟨client, server⟩
      constructor
      · apply none_recorded place packet brought
        simp [records, unfiled, closed]
      · obtain ⟨action, here, brings⟩ := Option.bind_eq_some_iff.mp brought
        rw [pool.registryAt_succ here, act_of_packet? brings,
          takePacket_of_unclaimed plain unfiled closed]
  case recorded =>
      intro place packet brought plain claimed
      have member := (mem_recordings_iff brought).mpr (records_of_claimed plain claimed)
      rw [places.count_eq]
      exact List.count_eq_one_of_mem (placesWhere_nodup pool _ actions) member
  case given =>
      intro life member entry inside
      exact ((genuine life member).taken entry inside).1
  case ordered =>
      intro life member
      exact (genuine life member).ordered
  case live =>
      intro life member
      exact (lawful.live life member).packets_eq
  case ended =>
      intro ended member
      exact Ended.keeps (lawful.ended ended member)

theorem ledger_settles_brief :
    touchy.recordings brief = [0, 1, 2, 7] ∧ touchy.Settles brief (touchy.ledger brief) := by
  refine ⟨by decide +kernel, ledger_settles touchy brief ?_⟩
  decide +kernel

end Pool

end Reassembly
