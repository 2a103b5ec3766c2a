import Reassembly.Pool.Run
import Reassembly.Proofs.Pool.Entries

/-!
# What taking an input in can do

An input brings at most one packet to the registry.  A packet resets its
exchange, joins the message that is filed for it, is dropped, or opens a message;
`Pool.takes` lists the four cases with what the pool looked at in each.  A packet
that joins a message either leaves the message filed or ends it.
-/

set_option autoImplicit false

namespace Reassembly.Pool

def Input.packet? : Input → Option Packet
  | .packet own => some own
  | .capture seen => (Packet.decode seen).toOption
  | .datagram source timestamp lost =>
      match source.write with
      | .error _ => none
      | .ok data => (Packet.decode ⟨data, timestamp, lost⟩).toOption

theorem takeCapture_of_decode {pool : Pool} {capture : Capture} {packet : Packet}
    (decoded : (Packet.decode capture).toOption = some packet) (registry : Registry) :
    pool.takeCapture registry capture = pool.takePacket registry packet := by
  unfold takeCapture
  cases result : Packet.decode capture with
  | ok found =>
      rw [result] at decoded
      cases decoded
      rfl
  | error error =>
      rw [result] at decoded
      cases decoded

theorem takeCapture_of_undecodable (pool : Pool) {capture : Capture}
    (undecodable : (Packet.decode capture).toOption = none) (registry : Registry) :
    ∃ error, pool.takeCapture registry capture =
      ⟨registry, [.count .undecodable, .say (.undecodable capture.data.length error)], none⟩ := by
  unfold takeCapture
  cases result : Packet.decode capture with
  | ok found =>
      rw [result] at undecodable
      cases undecodable
  | error error => exact ⟨error, rfl⟩

theorem take_of_packet? {pool : Pool} {input : Input} {packet : Packet}
    (brings : input.packet? = some packet) (registry : Registry) :
    pool.take registry input = pool.takePacket registry packet := by
  cases input with
  | packet own =>
      cases brings
      rfl
  | capture capture => exact takeCapture_of_decode brings registry
  | datagram datagram timestamp lost =>
      simp only [Input.packet?] at brings
      simp only [take]
      cases written : datagram.write with
      | error fault =>
          rw [written] at brings
          cases brings
      | ok data =>
          rw [written] at brings
          exact takeCapture_of_decode brings registry

/-- An input without a packet leaves the registry alone and at most counts and reports
that it could not be decoded. -/
theorem take_of_packet?_eq_none {pool : Pool} {input : Input} (brings : input.packet? = none)
    (registry : Registry) :
    (pool.take registry input).registry = registry ∧
      ((pool.take registry input).effects = [] ∨ ∃ size error,
        (pool.take registry input).effects =
          [.count .undecodable, .say (.undecodable size error)]) := by
  have undecodable : ∀ capture, (Packet.decode capture).toOption = none →
      (pool.takeCapture registry capture).registry = registry ∧
        ((pool.takeCapture registry capture).effects = [] ∨ ∃ size error,
          (pool.takeCapture registry capture).effects =
            [.count .undecodable, .say (.undecodable size error)]) := by
    intro capture failed
    obtain ⟨error, result⟩ := takeCapture_of_undecodable pool failed registry
    rw [result]
    exact ⟨rfl, Or.inr ⟨capture.data.length, error, rfl⟩⟩
  cases input with
  | packet own => cases brings
  | capture capture => exact undecodable capture brings
  | datagram datagram timestamp lost =>
      simp only [Input.packet?] at brings
      simp only [take]
      cases written : datagram.write with
      | error fault => exact ⟨rfl, Or.inl rfl⟩
      | ok data =>
          rw [written] at brings
          exact undecodable _ brings

/-! ## Where a packet belongs -/

theorem filedUnder?_eq_none_iff {registry : Registry} {src dst : Endpoint} :
    filedUnder? registry src dst = none ↔
      registry.find? (.ofClient src) = none ∧ registry.find? (.ofServer src dst) = none := by
  unfold filedUnder?
  by_cases client : registry.contains (.ofClient src) = true
  · obtain ⟨flow, found⟩ := Registry.contains_eq_true_iff.mp client
    simp [client, found]
  · by_cases server : registry.contains (.ofServer src dst) = true
    · obtain ⟨flow, found⟩ := Registry.contains_eq_true_iff.mp server
      simp [client, server, found]
    · have noClient := Registry.contains_eq_false_iff.mp (Bool.eq_false_iff.mpr client)
      have noServer := Registry.contains_eq_false_iff.mp (Bool.eq_false_iff.mpr server)
      simp [client, server, noClient, noServer]

/-- Where nothing is filed for a packet, the key under which it would open a message is free. -/
theorem find?_of_unfiled {registry : Registry} {src dst : Endpoint}
    (unfiled : filedUnder? registry src dst = none) (direction : Direction) :
    registry.find? (.of direction src dst) = none := by
  obtain ⟨client, server⟩ := filedUnder?_eq_none_iff.mp unfiled
  cases direction with
  | incoming => exact client
  | outgoing => exact server

/-- The sender's own key comes first; the key of sender and receiver only counts where the
sender's own is free. -/
theorem filedUnder?_eq_some {registry : Registry} {src dst : Endpoint} {key : SessionKey}
    (filed : filedUnder? registry src dst = some key) :
    (∃ flow, registry.find? key = some flow) ∧
      (key = .ofClient src ∨
        (registry.find? (.ofClient src) = none ∧ key = .ofServer src dst)) := by
  unfold filedUnder? at filed
  split at filed
  · rename_i client
    cases filed
    exact ⟨Registry.contains_eq_true_iff.mp client, Or.inl rfl⟩
  · rename_i noClient
    split at filed
    · rename_i server
      cases filed
      have free := Registry.contains_eq_false_iff.mp (Bool.eq_false_iff.mpr noClient)
      exact ⟨Registry.contains_eq_true_iff.mp server, Or.inr ⟨free, rfl⟩⟩
    · cases filed

theorem filedUnder?_eq_some_iff {registry : Registry} {src dst : Endpoint} {key : SessionKey} :
    filedUnder? registry src dst = some key ↔
      (∃ flow, registry.find? key = some flow) ∧
        (key = .ofClient src ∨
          (registry.find? (.ofClient src) = none ∧ key = .ofServer src dst)) := by
  refine ⟨filedUnder?_eq_some, ?_⟩
  rintro ⟨filed, own⟩
  have present := Registry.contains_eq_true_iff.mpr filed
  rcases own with rfl | ⟨free, rfl⟩
  · exact if_pos present
  · have absent := Registry.contains_eq_false_iff.mpr free
    rw [filedUnder?, if_neg (Bool.eq_false_iff.mp absent), if_pos present]

/-! ## Handing off -/

theorem handOff_of_find? {registry : Registry} {key : SessionKey} {flow : Flow}
    (found : registry.find? key = some flow) (pool : Pool) (termination : Termination) :
    pool.handOff registry key termination =
      ⟨registry.erase key, pool.retire key flow termination registry.clock, none⟩ := by
  simp only [handOff, found]

theorem resetSide_cases (pool : Pool) (registry : Registry) (src dst : Endpoint) :
    (filedUnder? registry src dst = none ∧
        pool.resetSide registry src dst = ⟨registry, [], none⟩) ∨
      ∃ key flow, filedUnder? registry src dst = some key ∧ registry.find? key = some flow ∧
        pool.resetSide registry src dst =
          ⟨registry.erase key, pool.retire key flow .reset registry.clock, none⟩ := by
  cases filed : filedUnder? registry src dst with
  | none =>
      refine Or.inl ⟨rfl, ?_⟩
      simp only [resetSide, filed]
  | some key =>
      obtain ⟨flow, found⟩ := (filedUnder?_eq_some filed).1
      refine Or.inr ⟨key, flow, rfl, found, ?_⟩
      simp only [resetSide, filed, handOff_of_find? found]

/-! ## The cases of a packet -/

inductive Takes (pool : Pool) (registry : Registry) (packet : Packet) : Outcome → Prop
  | resets (rst : packet.flags.rst = true) :
      Takes pool registry packet (pool.reset registry packet)
  | joins (key : SessionKey) (flow : Flow) (plain : packet.flags.rst = false)
      (filed : filedUnder? registry packet.src packet.dst = some key)
      (found : registry.find? key = some flow) :
      Takes pool registry packet (pool.append registry key flow packet)
  | drops (plain : packet.flags.rst = false)
      (unfiled : filedUnder? registry packet.src packet.dst = none)
      (closed : pool.hooks.opens packet = none) :
      Takes pool registry packet ⟨registry, [], none⟩
  | opens (direction : Direction) (plain : packet.flags.rst = false)
      (unfiled : filedUnder? registry packet.src packet.dst = none)
      (answer : pool.hooks.opens packet = some direction) :
      Takes pool registry packet (pool.openWith registry direction packet)

theorem takes (pool : Pool) (registry : Registry) (packet : Packet) :
    pool.Takes registry packet (pool.takePacket registry packet) := by
  unfold takePacket
  by_cases rst : packet.flags.rst = true
  · rw [if_pos rst]
    exact .resets rst
  · have plain : packet.flags.rst = false := Bool.eq_false_iff.mpr rst
    rw [if_neg rst]
    cases filed : filedUnder? registry packet.src packet.dst with
    | some key =>
        obtain ⟨flow, found⟩ := (filedUnder?_eq_some filed).1
        have joined : pool.join registry packet = pool.append registry key flow packet := by
          simp [join, filed, found]
        rw [joined]
        exact .joins key flow plain filed found
    | none =>
        cases answer : pool.hooks.opens packet with
        | none =>
            have dropped : pool.join registry packet = ⟨registry, [], none⟩ := by
              simp [join, filed, answer]
            rw [dropped]
            exact .drops plain filed answer
        | some direction =>
            have opened : pool.join registry packet = pool.openWith registry direction packet := by
              simp [join, filed, answer]
            rw [opened]
            exact .opens direction plain filed answer

/-! ## Appending -/

theorem append_of_incomplete {pool : Pool} {flow : Flow} {packet : Packet}
    (incomplete : pool.complete flow.message packet ≠ .ok true) (registry : Registry)
    (key : SessionKey) :
    (pool.append registry key flow packet).registry =
        registry.insert key
          { flow with message := grown pool.limits.maxSize flow.message packet } ∧
      (pool.append registry key flow packet).effects =
        cutEffects pool.limits.maxSize key flow.message packet := by
  unfold append
  cases result : pool.complete flow.message packet with
  | error fault => exact ⟨rfl, rfl⟩
  | ok holds =>
      cases holds with
      | false => exact ⟨rfl, rfl⟩
      | true => exact absurd result incomplete

theorem append_of_complete {pool : Pool} {flow : Flow} {packet : Packet}
    (complete : pool.complete flow.message packet = .ok true) (registry : Registry)
    (key : SessionKey) :
    pool.append registry key flow packet =
      ⟨registry.erase key,
        cutEffects pool.limits.maxSize key flow.message packet ++
          pool.retire key { flow with message := grown pool.limits.maxSize flow.message packet }
            .completed registry.clock, none⟩ := by
  simp [append, complete, handOff]

theorem append_insert (pool : Pool) (registry : Registry) (key : SessionKey) (first flow : Flow)
    (packet : Packet) :
    pool.append (registry.insert key first) key flow packet =
      pool.append registry key flow packet := by
  simp [append, handOff]

/-! ## Opening -/

theorem openWith_of_deadline {pool : Pool} {registry : Registry} {deadline : Nat}
    (fits : deadlineAfter? registry.clock pool.limits.expiry = some deadline)
    (direction : Direction) (packet : Packet) :
    pool.openWith registry direction packet =
      let appended := pool.append registry (.of direction packet.src packet.dst)
        ⟨.opened direction packet, some deadline⟩ packet
      ⟨appended.registry, .count .opened :: appended.effects, appended.fault⟩ := by
  simp only [openWith, fits, append_insert]

theorem openWith_of_overflow {pool : Pool} {registry : Registry}
    (overflow : deadlineAfter? registry.clock pool.limits.expiry = none)
    (direction : Direction) (packet : Packet) :
    pool.openWith registry direction packet =
      ⟨registry.insert (.of direction packet.src packet.dst)
          ⟨.opened direction packet, none⟩, [.count .opened], some .deadlineOverflow⟩ := by
  simp only [openWith, overflow]

end Reassembly.Pool
