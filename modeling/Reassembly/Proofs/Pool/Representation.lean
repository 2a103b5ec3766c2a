import Reassembly.Proofs.Pool.LedgerLives

/-!
# What a registry files

As long as a message that is opened gets a deadline, every message that a pool
tracks can be read off its packets, is filed under the key of its own sender and
receiver, and is shorter than the size cap.
-/

set_option autoImplicit false

namespace Reassembly

namespace Life

theorem packets_eq_cons {pool : Pool} {actions : List Pool.Action} {life : Life}
    (genuine : life.Genuine pool actions) :
    ∃ later, life.packets = life.opener :: later ∧ life.opener.flags.rst = false := by
  have first := genuine.first
  unfold packets
  cases given : life.given with
  | nil =>
      rw [given] at first
      cases first
  | cons entry rest =>
      rw [given] at first
      cases first
      have plain := (genuine.taken (life.birth, life.opener) (given ▸ List.mem_cons_self)).2
      exact ⟨rest.map Prod.snd, rfl, plain⟩

end Life

namespace Pool

/-! ## Tracked messages -/

/-- A message is filed as it should be. -/
structure Represents (pool : Pool) (key : SessionKey) (message : Message) : Prop where
  key_eq : key = .of message.direction message.stats.src message.stats.dst
  opener : ∃ first later, message.packets = first :: later ∧ first.flags.rst = false ∧
    message.stats.src = first.src ∧ message.stats.dst = first.dst ∧
    message.stats.version = first.version ∧ message.stats.start = some first.timestamp ∧
    pool.hooks.opens first = some message.direction
  data : message.data = message.packets.flatMap Packet.payload
  length_data : message.length = message.data.length
  length_sum : message.length = (message.packets.map fun packet => packet.payload.length).sum
  below : message.length < pool.limits.maxSize
  lost : message.stats.lostData = (message.packets.map fun packet => packet.lost.toNat).sum
  lost_lt : message.packets.length < 2 ^ 32 → message.stats.lostData < 2 ^ 64
  latest : message.stats.latest = message.packets.getLast?.map Packet.timestamp
  whole : message.stats.truncated = false
  patient : message.stats.timedOut = false

theorem represents_of_open {pool : Pool} {actions : List Action} {life : Life}
    (genuine : life.Genuine pool actions) (stays : life.Open pool) :
    pool.Represents life.key (life.message pool.limits.maxSize) := by
  have below := stays.length_lt
  obtain ⟨later, packets, plain⟩ := Life.packets_eq_cons genuine
  have message : life.message pool.limits.maxSize = _ :=
    stays.message_eq.trans (Message.gather_eq _ life.packets)
  rw [message] at below ⊢
  constructor
  case key_eq => rfl
  case opener =>
      exact ⟨life.opener, later, packets, plain, rfl, rfl, rfl, rfl, genuine.answer⟩
  case data => exact List.nil_append _
  case length_data => simp [Message.opened, Message.empty, Message.length]
  case length_sum => exact Nat.zero_add _
  case below => exact below
  case lost => exact Nat.zero_add _
  case lost_lt =>
      intro short
      have total := Message.sum_lost_le life.packets
      simp only [Message.opened, Message.empty, Nat.zero_add, List.nil_append] at short ⊢
      omega
  case latest => exact Option.or_none
  case whole => rfl
  case patient => rfl

theorem represents_of_live {pool : Pool} {actions : List Action}
    (fits : pool.Schedulable (pool.after actions).clock) {life : Life}
    (live : life ∈ (pool.ledger actions).live) :
    pool.Represents life.key (life.message pool.limits.maxSize) :=
  represents_of_open (ledger_genuine fits life (List.mem_append_left _ live))
    ((ledger_lawful fits).live life live)

theorem after_represents (pool : Pool) (actions : List Action)
    (fits : pool.Schedulable (pool.after actions).clock) :
    ∀ entry ∈ (pool.after actions).flows, pool.Represents entry.1 entry.2.message := by
  intro entry member
  rw [← ledger_registry] at member
  obtain ⟨life, live, rfl⟩ := List.mem_map.mp member
  exact represents_of_live fits live

theorem after_represents_brief :
    (touchy.after brief).keys = [.ofClient (nearby 1)] ∧
      ∀ entry ∈ (touchy.after brief).flows, touchy.Represents entry.1 entry.2.message := by
  refine ⟨by decide +kernel, after_represents touchy brief ?_⟩
  decide +kernel

end Pool

end Reassembly
