import Reassembly.Proofs.Endpoint.RoundTrip
import Reassembly.SessionKey

/-!
# What a session key identifies

The sign that joins the two endpoints of a server's key stands in no endpoint's
text.  So a client's key is never a server's key, a client's key names the socket
of one sender, and a server's key names those of one sender and one receiver.
`keys_apart` says this of the keys of any two directions and pairs of endpoints.
-/

set_option autoImplicit false

namespace Reassembly.SessionKey

theorem ofClient_eq_iff {first second : Endpoint} :
    ofClient first = ofClient second ↔ first.socket = second.socket :=
  Endpoint.text_eq_iff

theorem toList_ofServer (server client : Endpoint) :
    (ofServer server client).toList = server.chars ++ '=' :: client.chars := by
  simp [ofServer, Endpoint.text_toList]

theorem ofServer_eq_iff {server server' client client' : Endpoint} :
    ofServer server client = ofServer server' client' ↔
      server.socket = server'.socket ∧ client.socket = client'.socket := by
  constructor
  · intro same
    have parts := congrArg (fun key : SessionKey => cut? '=' key.toList) same
    simp only [toList_ofServer, cut?_append _ _ (Endpoint.equals_notMem_chars _),
      Option.some.injEq, Prod.mk.injEq] at parts
    obtain ⟨senders, receivers⟩ := parts
    exact ⟨Endpoint.text_eq_iff.mp (congrArg String.ofList senders),
      Endpoint.text_eq_iff.mp (congrArg String.ofList receivers)⟩
  · rintro ⟨senders, receivers⟩
    rw [ofServer, Endpoint.text_eq_iff.mpr senders, Endpoint.text_eq_iff.mpr receivers, ofServer]

theorem ofClient_ne_ofServer (sender server client : Endpoint) :
    ofClient sender ≠ ofServer server client := by
  intro same
  have parts := congrArg (fun key : SessionKey => cut? '=' key.toList) same
  simp only [toList_ofServer, cut?_append _ _ (Endpoint.equals_notMem_chars server)] at parts
  rw [ofClient, Endpoint.text_toList, cut?_eq_none _ (Endpoint.equals_notMem_chars sender)] at parts
  cases parts

theorem of_eq_ofClient_iff {direction : Direction} {src dst sender : Endpoint} :
    of direction src dst = ofClient sender ↔
      direction = .incoming ∧ src.socket = sender.socket := by
  cases direction with
  | incoming => simp [of, ofClient_eq_iff]
  | outgoing => simp [of, Ne.symm (ofClient_ne_ofServer sender src dst)]

theorem of_eq_ofServer_iff {direction : Direction} {src dst server client : Endpoint} :
    of direction src dst = ofServer server client ↔
      direction = .outgoing ∧ src.socket = server.socket ∧ dst.socket = client.socket := by
  cases direction with
  | incoming => simp [of, ofClient_ne_ofServer]
  | outgoing => simp [of, ofServer_eq_iff]

theorem of_ne_of {src sender : Endpoint} (other : src.socket ≠ sender.socket)
    (direction direction' : Direction) (dst receiver : Endpoint) :
    of direction src dst ≠ of direction' sender receiver := by
  intro same
  cases direction' with
  | incoming => exact other (of_eq_ofClient_iff.mp same).2
  | outgoing => exact other (of_eq_ofServer_iff.mp same).2.1

theorem of_eq_of_iff {direction direction' : Direction} {src dst src' dst' : Endpoint} :
    of direction src dst = of direction' src' dst' ↔
      direction = direction' ∧ src.socket = src'.socket ∧
        (direction = .outgoing → dst.socket = dst'.socket) := by
  cases direction' with
  | incoming =>
      have client : of .incoming src' dst' = ofClient src' := rfl
      rw [client, of_eq_ofClient_iff]
      constructor
      · rintro ⟨rfl, senders⟩
        exact ⟨rfl, senders, nofun⟩
      · rintro ⟨rfl, senders, -⟩
        exact ⟨rfl, senders⟩
  | outgoing =>
      have server : of .outgoing src' dst' = ofServer src' dst' := rfl
      rw [server, of_eq_ofServer_iff]
      constructor
      · rintro ⟨rfl, senders, receivers⟩
        exact ⟨rfl, senders, fun _ => receivers⟩
      · rintro ⟨rfl, senders, receivers⟩
        exact ⟨rfl, senders, receivers rfl⟩

theorem of_congr {src sender : Endpoint} (same : src.socket = sender.socket)
    (direction : Direction) (dst : Endpoint) : of direction src dst = of direction sender dst :=
  of_eq_of_iff.mpr ⟨rfl, same, fun _ => rfl⟩

/-- Keys never collide: they tell apart the directions, the senders' sockets and, of a server's
messages, the receivers' sockets, and with them the families of their addresses.  Endpoints that
a datagram can carry are sockets. -/
theorem keys_apart (direction direction' : Direction) (src dst src' dst' : Endpoint) :
    (of direction src dst = of direction' src' dst' ↔
      direction = direction' ∧ src.socket = src'.socket ∧
        (direction = .outgoing → dst.socket = dst'.socket)) ∧
    (of direction src.bare dst.bare = of direction' src'.bare dst'.bare ↔
      direction = direction' ∧ src.bare = src'.bare ∧
        (direction = .outgoing → dst.bare = dst'.bare)) ∧
    of .incoming src dst ≠ of .outgoing src' dst' ∧
    (src.family ≠ src'.family → of direction src dst ≠ of direction' src' dst') ∧
    (dst.family ≠ dst'.family → of .outgoing src dst ≠ of .outgoing src' dst') := by
  have families : ∀ {first second : Endpoint}, first.family ≠ second.family →
      first.socket ≠ second.socket := by
    intro first second other same
    have family := congrArg Endpoint.family same
    rw [Endpoint.family_socket, Endpoint.family_socket] at family
    exact other family
  refine ⟨of_eq_of_iff, ?bare, ofClient_ne_ofServer src src' dst', ?senders, ?receivers⟩
  case bare =>
      rw [of_eq_of_iff]
      simp only [Endpoint.socket_bare]
  case senders =>
      intro other same
      exact families other (of_eq_of_iff.mp same).2.1
  case receivers =>
      intro other same
      exact families other ((of_eq_of_iff.mp same).2.2 rfl)

theorem keys_apart_mapped :
    of .incoming (.v4 ⟨#v[10, 0, 0, 1]⟩ 80) (.v4 ⟨#v[10, 0, 0, 2]⟩ 80) ≠
        of .incoming (.v6 ⟨#v[0, 0, 0, 0, 0, 0xffff, 0x0a00, 1]⟩ 0 0 80)
          (.v6 ⟨#v[0, 0, 0, 0, 0, 0xffff, 0x0a00, 2]⟩ 0 0 80) ∧
      of .outgoing (.v4 ⟨#v[10, 0, 0, 1]⟩ 80) (.v4 ⟨#v[10, 0, 0, 2]⟩ 80) ≠
        of .outgoing (.v4 ⟨#v[10, 0, 0, 1]⟩ 80)
          (.v6 ⟨#v[0, 0, 0, 0, 0, 0xffff, 0x0a00, 2]⟩ 0 0 80) :=
  ⟨(keys_apart .incoming .incoming _ _ _ _).2.2.2.1 (by decide),
    (keys_apart .outgoing .outgoing _ _ _ _).2.2.2.2 (by decide)⟩

end Reassembly.SessionKey
