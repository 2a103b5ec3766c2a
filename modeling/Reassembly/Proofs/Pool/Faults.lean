import Reassembly.Proofs.Pool.Growth
import Reassembly.Proofs.Pool.Runs

/-!
# When a call fails

As long as messages get a deadline, there are two ways for a call to fail: a datagram cannot be
written, or the completion rule fails on the message that the packet belongs to
(`Pool.take_faults`).  The rule is asked below the size cap, when the packet has been appended,
so that `Pool.interrupted` is all that such a call leaves behind.
-/

set_option autoImplicit false

namespace Reassembly.Pool

variable {pool : Pool}

/-- The message that a packet belongs to and the key that it is filed under: the one that is filed
for the packet, or else the one that the call opens, without the packet yet. -/
inductive Belongs (pool : Pool) (registry : Registry) (packet : Packet) :
    SessionKey → Flow → Prop
  | filed (key : SessionKey) (flow : Flow)
      (filed : filedUnder? registry packet.src packet.dst = some key)
      (found : registry.find? key = some flow) : Belongs pool registry packet key flow
  | opened (direction : Direction) (deadline : Nat)
      (unfiled : filedUnder? registry packet.src packet.dst = none)
      (answer : pool.hooks.opens packet = some direction)
      (named : deadlineAfter? registry.clock pool.limits.expiry = some deadline) :
      Belongs pool registry packet (.of direction packet.src packet.dst)
        ⟨.opened direction packet, some deadline⟩

/-- What is left of a call when the completion rule fails. -/
def interrupted (registry : Registry) (key : SessionKey) (flow : Flow) (packet : Packet)
    (fault : Fault) : Outcome :=
  ⟨registry.insert key { flow with message := flow.message.append packet },
    if (registry.find? key).isSome then [] else [.count .opened], some (.endDetector fault)⟩

/-- Appending fails where the completion rule is asked and fails; by then the packet is in the
message, as it was given. -/
theorem append_of_fault {registry : Registry} {key : SessionKey} {flow : Flow} {packet : Packet}
    {reason : IntakeFault} (failed : (pool.append registry key flow packet).fault = some reason) :
    ∃ fault, reason = .endDetector fault ∧
      flow.message.length + packet.payload.length < pool.limits.maxSize ∧
      pool.hooks.completes (flow.message.append packet) = .error fault ∧
      pool.append registry key flow packet =
        ⟨registry.insert key { flow with message := flow.message.append packet }, [],
          some (.endDetector fault)⟩ := by
  cases answer : pool.complete flow.message packet with
  | ok holds => cases holds <;> simp [append, answer, handOff] at failed
  | error fault =>
      have incomplete : pool.complete flow.message packet ≠ .ok true := by
        rw [answer]
        intro same
        cases same
      have fits := fits_of_incomplete incomplete
      have whole := grown_of_fits (Nat.le_of_lt fits)
      have uncut : cutEffects pool.limits.maxSize key flow.message packet = [] :=
        if_neg (Nat.lt_asymm fits)
      have asked : pool.hooks.completes (flow.message.append packet) = .error fault := by
        rw [complete, if_neg (Nat.not_le_of_lt fits), whole] at answer
        split at answer
        · rename_i own failed
          cases answer
          exact failed
        · cases answer
      have outcome : pool.append registry key flow packet =
          ⟨registry.insert key { flow with message := flow.message.append packet }, [],
            some (.endDetector fault)⟩ := by
        simp only [append, answer, whole, uncut]
      rw [outcome] at failed
      exact ⟨fault, (Option.some.inj failed).symm, fits, asked, outcome⟩

/-- A packet that is taken in fails by its own message's completion rule or not at all. -/
theorem interrupts_of_fault {registry : Registry} (fits : pool.Schedulable registry.clock)
    {packet : Packet} {reason : IntakeFault}
    (failed : (pool.takePacket registry packet).fault = some reason) :
    ∃ key flow fault, reason = .endDetector fault ∧ packet.flags.rst = false ∧
      pool.Belongs registry packet key flow ∧
      flow.message.length + packet.payload.length < pool.limits.maxSize ∧
      pool.hooks.completes (flow.message.append packet) = .error fault ∧
      pool.takePacket registry packet = interrupted registry key flow packet fault := by
  have taken := pool.takes registry packet
  generalize pool.takePacket registry packet = outcome at taken failed
  cases taken with
  | resets rst => cases failed
  | joins key flow plain filed found =>
      obtain ⟨fault, own, below, asked, outcome⟩ := append_of_fault failed
      refine ⟨key, flow, fault, own, plain, .filed key flow filed found, below, asked, ?_⟩
      rw [outcome, interrupted, found]
      rfl
  | drops plain unfiled closed => cases failed
  | opens direction plain unfiled answer =>
      obtain ⟨deadline, named⟩ := Option.isSome_iff_exists.mp fits
      rw [openWith_of_deadline named] at failed ⊢
      obtain ⟨fault, own, below, asked, outcome⟩ := append_of_fault failed
      have free := find?_of_unfiled unfiled direction
      refine ⟨_, _, fault, own, plain, .opened direction deadline unfiled answer named, below,
        asked, ?_⟩
      simp only [outcome, interrupted, free]
      rfl

theorem take_faults {registry : Registry} (fits : pool.Schedulable registry.clock)
    {input : Input} {reason : IntakeFault}
    (failed : (pool.take registry input).fault = some reason) :
    (∃ source timestamp lost fault, input = .datagram source timestamp lost ∧
        source.write = .error fault ∧ reason = .datagram fault) ∨
      ∃ packet key flow fault, input.packet? = some packet ∧ reason = .endDetector fault ∧
        pool.Belongs registry packet key flow ∧
        pool.hooks.completes (flow.message.append packet) = .error fault := by
  cases brings : input.packet? with
  | some packet =>
      rw [take_of_packet? brings] at failed
      obtain ⟨key, flow, fault, own, -, belongs, -, asked, -⟩ := interrupts_of_fault fits failed
      exact Or.inr ⟨packet, key, flow, fault, rfl, own, belongs, asked⟩
  | none =>
      have quiet : ∀ capture, (Packet.decode capture).toOption = none →
          (pool.takeCapture registry capture).fault = none := by
        intro capture undecodable
        obtain ⟨error, refused⟩ := takeCapture_of_undecodable pool undecodable registry
        rw [refused]
      cases input with
      | packet packet => cases brings
      | capture capture =>
          rw [take, quiet capture brings] at failed
          cases failed
      | datagram source timestamp lost =>
          simp only [Input.packet?] at brings
          simp only [take] at failed
          cases written : source.write with
          | error fault =>
              rw [written] at failed
              exact Or.inl ⟨source, timestamp, lost, fault, rfl, written,
                (Option.some.inj failed).symm⟩
          | ok data =>
              rw [written] at brings failed
              rw [quiet _ brings] at failed
              cases failed

end Reassembly.Pool
