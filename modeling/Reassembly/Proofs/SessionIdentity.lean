import Reassembly.Conversation
import Reassembly.Message
import Reassembly.Proofs.Endpoint.RoundTrip

/-!
# What a session identifier identifies

A session identifier is the digest of the client's text followed by the server's, with nothing
between the two.  Texts leave flow information out, so exchanges between the same sockets have
one identifier.  Before an IPv4 server the digits of the client's port run into those of the
server's first octet, so two exchanges with the same digits there have the same text and the
same identifier too (`Conversation.Blurred`).  No other two exchanges share their text
(`Conversation.text_eq_iff`), so an identifier that SHA-1 does not give to two texts tells all
others apart (`Message.sessionId_eq_iff`).
-/

set_option autoImplicit false

namespace Reassembly

/-! ## Bytes and their texts -/

namespace Bytes

theorem toByteArray_ofText (text : String) : (ofText text).toByteArray = text.toByteArray := by
  have encoded : (String.ofList text.toList).toByteArray = text.toList.utf8Encode := rfl
  rw [String.ofList_toList] at encoded
  rw [encoded]
  rfl

theorem ofText_injective : Function.Injective ofText := by
  intro first second same
  apply String.toByteArray_inj.mp
  rw [← toByteArray_ofText, ← toByteArray_ofText, same]

theorem ofHex?_flatMap_hexDigits (bytes : Bytes) :
    ofHex? (bytes.flatMap hexDigits) = some bytes := by
  induction bytes with
  | nil => rfl
  | cons byte rest ih =>
      have bound := byte.toNat_lt
      have high := hexValue?_digitChar (byte.toNat / 16) (by omega)
      have low := hexValue?_digitChar (byte.toNat % 16) (by omega)
      have whole : 16 * (byte.toNat / 16) + byte.toNat % 16 = byte.toNat := by omega
      simp [hexDigits, ofHex?, high, low, ih, whole]

theorem hex_injective : Function.Injective hex := by
  intro first second same
  have read := congrArg (fun text : String => ofHex? text.toList) same
  simp only [hex, String.toList_ofList, ofHex?_flatMap_hexDigits] at read
  exact Option.some.inj read

end Bytes

/-! ## Digits before another character -/

theorem decimal_inj {first second : Nat} (same : decimal first = decimal second) :
    first = second := by
  have value := congrArg (Nat.ofDigitChars 10 · 0) same
  simpa only [decimal, Nat.ofDigitChars_ten_toDigits] using value

/-- Digits end where the first other character stands. -/
theorem digits_append_inj {first second : List Char} {c c' : Char} {rest rest' : List Char}
    (numeric : ∀ digit ∈ first, digit.isDigit = true)
    (numeric' : ∀ digit ∈ second, digit.isDigit = true) (stop : c.isDigit = false)
    (stop' : c'.isDigit = false) (same : first ++ c :: rest = second ++ c' :: rest') :
    first = second ∧ c = c' ∧ rest = rest' := by
  have digits := congrArg (List.takeWhile Char.isDigit) same
  have others := congrArg (List.dropWhile Char.isDigit) same
  rw [List.takeWhile_append_of_pos numeric, List.takeWhile_append_of_pos numeric',
    List.takeWhile_cons_of_neg (by simp [stop]), List.takeWhile_cons_of_neg (by simp [stop']),
    List.append_nil, List.append_nil] at digits
  rw [List.dropWhile_append_of_pos numeric, List.dropWhile_append_of_pos numeric',
    List.dropWhile_cons_of_neg (by simp [stop]), List.dropWhile_cons_of_neg (by simp [stop'])]
    at others
  obtain ⟨head, tail⟩ := List.cons.inj others
  exact ⟨digits, head, tail⟩

/-! ## Hosts and ports -/

namespace Endpoint

def withPort (endpoint : Endpoint) (port : UInt16) : Endpoint :=
  match endpoint with
  | .v4 address _ => .v4 address port
  | .v6 address flowInfo scope _ => .v6 address flowInfo scope port

def hostChars : Endpoint → List Char
  | .v4 address _ => address.chars ++ [':']
  | .v6 address _ scope _ => '[' :: address.chars ++ scopeChars scope ++ [']', ':']

theorem withPort_self (endpoint : Endpoint) : endpoint.withPort endpoint.port = endpoint := by
  cases endpoint <;> rfl

theorem socket_withPort (endpoint : Endpoint) (port : UInt16) :
    (endpoint.withPort port).socket = endpoint.socket.withPort port := by
  cases endpoint <;> rfl

theorem chars_withPort (endpoint : Endpoint) (port : UInt16) :
    (endpoint.withPort port).chars = endpoint.hostChars ++ decimal port.toNat := by
  cases endpoint with
  | v4 address other => simp [withPort, chars, hostChars]
  | v6 address flowInfo scope other => simp [withPort, chars, hostChars]

theorem chars_eq (endpoint : Endpoint) :
    endpoint.chars = endpoint.hostChars ++ decimal endpoint.port.toNat := by
  rw [← chars_withPort, withPort_self]

theorem socket_withPort_eq_of_hostChars {first second : Endpoint}
    (same : first.hostChars = second.hostChars) (port : UInt16) :
    (first.withPort port).socket = (second.withPort port).socket := by
  apply text_eq_iff.mp
  rw [text, text, chars_withPort, chars_withPort, same]

theorem v4_ne_bracket (address : Ipv4) (rest tail : List Char) :
    address.chars ++ ':' :: rest ≠ '[' :: tail := by
  intro same
  have unbracketed : '[' ∉ address.chars := Ipv4.notMem_chars address (by decide)
  cases shape : address.chars with
  | nil =>
      rw [shape] at same
      cases same
  | cons first others =>
      rw [shape, List.cons_append] at same
      have bracket : first = '[' := (List.cons.inj same).1
      apply unbracketed
      rw [shape, bracket]
      exact List.mem_cons_self

theorem bracket_notMem (address : Ipv6) (scope : UInt32) :
    ']' ∉ address.chars ++ scopeChars scope := by
  have inAddress : ']' ∉ address.chars := Ipv6.notMem_chars address (by decide)
  have inScope : ']' ∉ scopeChars scope := notMem_scopeChars (by decide) scope
  simp [inAddress, inScope]

theorem hostChars_append_inj {first second : Endpoint} {rest rest' : List Char}
    (same : first.hostChars ++ rest = second.hostChars ++ rest') :
    first.hostChars = second.hostChars ∧ rest = rest' := by
  cases first with
  | v4 address port =>
      cases second with
      | v4 address' port' =>
          simp only [hostChars, List.append_assoc, List.singleton_append] at same ⊢
          have parts := congrArg (cut? ':') same
          rw [cut?_append _ _ (Ipv4.notMem_chars address (by decide)),
            cut?_append _ _ (Ipv4.notMem_chars address' (by decide))] at parts
          obtain ⟨host, behind⟩ := Prod.mk.inj (Option.some.inj parts)
          exact ⟨by rw [host], behind⟩
      | v6 address' flowInfo' scope' port' =>
          simp only [hostChars, List.append_assoc, List.singleton_append] at same
          exact absurd same (v4_ne_bracket address _ _)
  | v6 address flowInfo scope port =>
      cases second with
      | v4 address' port' =>
          simp only [hostChars, List.append_assoc, List.singleton_append] at same
          exact absurd same.symm (v4_ne_bracket address' _ _)
      | v6 address' flowInfo' scope' port' =>
          simp only [hostChars, List.cons_append, List.append_assoc, List.nil_append,
            List.cons.injEq, true_and] at same
          rw [← List.append_assoc, ← List.append_assoc] at same
          have parts := congrArg (cut? ']') same
          rw [cut?_append _ _ (bracket_notMem address scope),
            cut?_append _ _ (bracket_notMem address' scope')] at parts
          obtain ⟨host, behind⟩ := Prod.mk.inj (Option.some.inj parts)
          refine ⟨?_, (List.cons.inj behind).2⟩
          simp only [hostChars, List.cons_append]
          rw [host]

/-! ## Servers -/

/-- What follows the first octet in the text of an IPv4 endpoint, from the point on. -/
def behindFirst (b c d : UInt8) (port : UInt16) : List Char :=
  decimal b.toNat ++ '.' :: decimal c.toNat ++ '.' :: decimal d.toNat ++ ':' :: decimal port.toNat

theorem chars_v4 (a b c d : UInt8) (port : UInt16) :
    (Endpoint.v4 ⟨#v[a, b, c, d]⟩ port).chars =
      decimal a.toNat ++ '.' :: behindFirst b c d port := by
  simp [chars, Ipv4.chars, behindFirst, List.intercalate]

theorem behindFirst_inj {b c d b' c' d' : UInt8} {port port' : UInt16}
    (same : behindFirst b c d port = behindFirst b' c' d' port') :
    b = b' ∧ c = c' ∧ d = d' ∧ port = port' := by
  have whole : (Endpoint.v4 ⟨#v[0, b, c, d]⟩ port).socket =
      (Endpoint.v4 ⟨#v[0, b', c', d']⟩ port').socket := by
    apply text_eq_iff.mp
    rw [text, text, chars_v4, chars_v4, same]
  simpa [socket, and_assoc] using whole

theorem exists_octets (address : Ipv4) : ∃ a b c d, address = ⟨#v[a, b, c, d]⟩ := by
  obtain ⟨⟨⟨octets⟩, size⟩⟩ := address
  match octets, size with
  | [a, b, c, d], size => exact ⟨a, b, c, d, rfl⟩

end Endpoint

/-! ## Conversations -/

namespace Conversation

def text (conversation : Conversation) : String :=
  conversation.client.text ++ conversation.server.text

/-- Two conversations of one host with servers that differ in their first octet at most, where
the client's port and that octet, written one after the other, are the same digits. -/
inductive Blurred : Conversation → Conversation → Prop
  | seam (host : Endpoint) (port port' : UInt16) (a a' b c d : UInt8) (serverPort : UInt16)
      (same : decimal port.toNat ++ decimal a.toNat = decimal port'.toNat ++ decimal a'.toNat) :
      Blurred ⟨host.withPort port, .v4 ⟨#v[a, b, c, d]⟩ serverPort⟩
        ⟨host.withPort port', .v4 ⟨#v[a', b, c, d]⟩ serverPort⟩

/-- The conversation without the flow information of its endpoints. -/
def sockets (conversation : Conversation) : Conversation :=
  ⟨conversation.client.socket, conversation.server.socket⟩

theorem text_sockets (conversation : Conversation) :
    conversation.sockets.text = conversation.text := by
  rw [text, sockets, Endpoint.text_socket, Endpoint.text_socket, text]

theorem text_eq_iff_chars {first second : Conversation} :
    first.text = second.text ↔
      first.client.chars ++ first.server.chars = second.client.chars ++ second.server.chars := by
  simp only [text, Endpoint.text, ← String.ofList_append, String.ofList_inj]

theorem Blurred.text_eq {first second : Conversation} (blurred : Blurred first second) :
    first.text = second.text := by
  cases blurred with
  | seam host port port' a a' b c d serverPort same =>
      apply text_eq_iff_chars.mpr
      simp only [Endpoint.chars_withPort, Endpoint.chars_v4, List.append_assoc]
      rw [← List.append_assoc (decimal port.toNat), same, List.append_assoc]

/-- Behind the client's host, a port and a server with the same text are the same socket, or
blurred. -/
theorem eq_or_blurred_of_seam (host : Endpoint) {port port' : UInt16} {server server' : Endpoint}
    (same : decimal port.toNat ++ server.chars = decimal port'.toNat ++ server'.chars) :
    (⟨host.withPort port, server.socket⟩ : Conversation) =
        ⟨host.withPort port', server'.socket⟩ ∨
      Blurred ⟨host.withPort port, server.socket⟩ ⟨host.withPort port', server'.socket⟩ := by
  have numeric : ∀ number, ∀ digit ∈ decimal number, digit.isDigit = true :=
    fun _ _ => isDigit_of_mem_decimal
  have joined : ∀ number other, ∀ digit ∈ decimal number ++ decimal other,
      digit.isDigit = true := by
    intro number other digit member
    rcases List.mem_append.mp member with front | back
    · exact isDigit_of_mem_decimal front
    · exact isDigit_of_mem_decimal back
  cases server with
  | v4 address serverPort =>
      obtain ⟨a, b, c, d, rfl⟩ := Endpoint.exists_octets address
      cases server' with
      | v4 address' serverPort' =>
          obtain ⟨a', b', c', d', rfl⟩ := Endpoint.exists_octets address'
          rw [Endpoint.chars_v4, Endpoint.chars_v4, ← List.append_assoc, ← List.append_assoc] at same
          obtain ⟨seam, -, behind⟩ :=
            digits_append_inj (joined _ _) (joined _ _) (by decide) (by decide) same
          obtain ⟨rfl, rfl, rfl, rfl⟩ := Endpoint.behindFirst_inj behind
          exact Or.inr (.seam host port port' a a' b c d serverPort seam)
      | v6 address' flowInfo' scope' serverPort' =>
          rw [Endpoint.chars_v4, ← List.append_assoc] at same
          obtain ⟨-, point, -⟩ :=
            digits_append_inj (joined _ _) (numeric _) (by decide) (by decide) same
          cases point
  | v6 address flowInfo scope serverPort =>
      cases server' with
      | v4 address' serverPort' =>
          obtain ⟨a', b', c', d', rfl⟩ := Endpoint.exists_octets address'
          rw [Endpoint.chars_v4, ← List.append_assoc] at same
          obtain ⟨-, point, -⟩ :=
            digits_append_inj (numeric _) (joined _ _) (by decide) (by decide) same
          cases point
      | v6 address' flowInfo' scope' serverPort' =>
          obtain ⟨ports, -, behind⟩ :=
            digits_append_inj (numeric _) (numeric _) (by decide) (by decide) same
          have ports : port = port' := UInt16.toNat_inj.mp (decimal_inj ports)
          have servers : (Endpoint.v6 address flowInfo scope serverPort).socket =
              (Endpoint.v6 address' flowInfo' scope' serverPort').socket := by
            apply Endpoint.text_eq_iff.mp
            rw [Endpoint.text, Endpoint.text]
            exact congrArg (fun tail => String.ofList ('[' :: tail)) behind
          rw [ports, servers]
          exact Or.inl rfl

theorem text_eq_iff {first second : Conversation} :
    first.text = second.text ↔
      first.sockets = second.sockets ∨ Blurred first.sockets second.sockets := by
  constructor
  · intro same
    obtain ⟨client, server⟩ := first
    obtain ⟨client', server'⟩ := second
    have chars := text_eq_iff_chars.mp same
    simp only [Endpoint.chars_eq client, Endpoint.chars_eq client', List.append_assoc] at chars
    obtain ⟨host, behind⟩ := Endpoint.hostChars_append_inj chars
    have own : client.socket = client'.socket.withPort client.port := by
      rw [← Endpoint.socket_withPort, ← Endpoint.socket_withPort_eq_of_hostChars host,
        client.withPort_self]
    have other : client'.socket = client'.socket.withPort client'.port := by
      rw [← Endpoint.socket_withPort, client'.withPort_self]
    have seam := eq_or_blurred_of_seam client'.socket behind
    rw [← own, ← other] at seam
    exact seam
  · rintro (same | blurred)
    · rw [← first.text_sockets, same, text_sockets]
    · rw [← first.text_sockets, blurred.text_eq, text_sockets]

end Conversation

/-! ## Messages -/

namespace Message

def conversation (message : Message) : Conversation :=
  ⟨message.client, message.server⟩

theorem sessionText_eq (message : Message) : message.sessionText = message.conversation.text := rfl

/-- Two messages have one identifier if their conversations are between the same sockets or
blurred, and for no other reason as long as SHA-1 keeps their texts apart. -/
theorem sessionId_eq_iff (first second : Message)
    (apart : Sha1.digest (Bytes.ofText first.sessionText) =
        Sha1.digest (Bytes.ofText second.sessionText) →
      Bytes.ofText first.sessionText = Bytes.ofText second.sessionText) :
    first.sessionId = second.sessionId ↔
      first.conversation.sockets = second.conversation.sockets ∨
        first.conversation.sockets.Blurred second.conversation.sockets := by
  rw [← Conversation.text_eq_iff, ← sessionText_eq, ← sessionText_eq]
  constructor
  · intro same
    exact Bytes.ofText_injective (apart (Bytes.hex_injective same))
  · intro same
    rw [sessionId, sessionId, same]

/-- The first request of a client at 1.1.1.1 to a server behind a.2.3.4. -/
def greeting (port : UInt16) (a : UInt8) : Message :=
  let talk : Conversation := ⟨.v4 ⟨#v[1, 1, 1, 1]⟩ port, .v4 ⟨#v[a, 2, 3, 4]⟩ 80⟩
  .opened .incoming (talk.packet [] .requestSyn)

theorem sessionId_eq_iff_greeting :
    (Sha1.digest (Bytes.ofText (greeting 8 11).sessionText) =
        Sha1.digest (Bytes.ofText (greeting 81 1).sessionText) →
      Bytes.ofText (greeting 8 11).sessionText = Bytes.ofText (greeting 81 1).sessionText) ∧
    ((greeting 8 11).sessionId = (greeting 81 1).sessionId ↔
      (greeting 8 11).conversation.sockets = (greeting 81 1).conversation.sockets ∨
        (greeting 8 11).conversation.sockets.Blurred (greeting 81 1).conversation.sockets) ∧
    (greeting 8 11).conversation.sockets.Blurred (greeting 81 1).conversation.sockets := by
  have texts : (greeting 8 11).sessionText = (greeting 81 1).sessionText := by decide +kernel
  have differ : (greeting 8 11).conversation.sockets ≠ (greeting 81 1).conversation.sockets := by
    decide +kernel
  have identifies := sessionId_eq_iff (greeting 8 11) (greeting 81 1) fun _ => by rw [texts]
  have shared : (greeting 8 11).sessionId = (greeting 81 1).sessionId := by
    rw [sessionId, sessionId, texts]
  exact ⟨fun _ => by rw [texts], identifies, (identifies.mp shared).resolve_left differ⟩

/-- Port 8 before 11.2.3.4 reads like port 81 before 1.2.3.4. -/
theorem sessionId_shared :
    (greeting 8 11).sessionId = (greeting 81 1).sessionId ∧
      (greeting 8 11).conversation ≠ (greeting 81 1).conversation := by
  have texts : (greeting 8 11).sessionText = (greeting 81 1).sessionText := by decide +kernel
  refine ⟨?_, by decide +kernel⟩
  rw [sessionId, sessionId, texts]

end Message

end Reassembly
