import Reassembly.Endpoint

/-!
# The text of an endpoint

IPv4 is written in dotted decimal.  IPv6 is written in lower-case hexadecimal
without leading zeros; the longest run of two or more zero groups, the first of
equals, becomes `::`; an IPv4-mapped address ends in dotted decimal.  An IPv6
endpoint stands in brackets, its scope behind a percent sign; its flow information
is left out.

`Endpoint.parse?` reads exactly the texts that `Endpoint.text` writes.
-/

set_option autoImplicit false

namespace Reassembly

def decimal (n : Nat) : List Char :=
  Nat.toDigits 10 n

def hexadecimal (n : Nat) : List Char :=
  Nat.toDigits 16 n

def Ipv4.chars (address : Ipv4) : List Char :=
  ['.'].intercalate (address.octets.toList.map fun octet => decimal octet.toNat)

namespace Ipv6

def zeroRun (groups : List UInt16) (i : Nat) : Nat :=
  ((groups.drop i).takeWhile (· == 0)).length

/-- The position of the longest run of zero groups, the first of equals. -/
def longestZeroRun (groups : List UInt16) : Nat :=
  (List.range groups.length).foldl
    (fun best i => if zeroRun groups best < zeroRun groups i then i else best) 0

def groupChars (groups : List UInt16) : List Char :=
  [':'].intercalate (groups.map fun group => hexadecimal group.toNat)

/-- The embedded address of an IPv4-mapped one: five zero groups, `ffff`, then four octets. -/
def mapped? (address : Ipv6) : Option Ipv4 :=
  match address.groups.toList with
  | [0, 0, 0, 0, 0, 0xffff, high, low] =>
      some ⟨#v[UInt8.ofNat (high.toNat / 256), UInt8.ofNat high.toNat,
        UInt8.ofNat (low.toNat / 256), UInt8.ofNat low.toNat]⟩
  | _ => none

/-- Groups with their longest run of zeros left out, when it has two or more. -/
def compressed (groups : List UInt16) : List Char :=
  let start := longestZeroRun groups
  let run := zeroRun groups start
  if 2 ≤ run then
    groupChars (groups.take start) ++ [':', ':'] ++ groupChars (groups.drop (start + run))
  else
    groupChars groups

def chars (address : Ipv6) : List Char :=
  match address.mapped? with
  | some embedded => [':', ':', 'f', 'f', 'f', 'f', ':'] ++ embedded.chars
  | none => compressed address.groups.toList

end Ipv6

namespace Endpoint

def scopeChars (scope : UInt32) : List Char :=
  if scope = 0 then [] else '%' :: decimal scope.toNat

def chars : Endpoint → List Char
  | .v4 address port => address.chars ++ ':' :: decimal port.toNat
  | .v6 address _ scope port =>
      '[' :: address.chars ++ scopeChars scope ++ [']', ':'] ++ decimal port.toNat

def text (endpoint : Endpoint) : String :=
  String.ofList endpoint.chars

end Endpoint

/-! ## Reading -/

def pieces (separator : Char) : List Char → List (List Char)
  | [] => [[]]
  | c :: rest =>
      if c = separator then [] :: pieces separator rest
      else
        match pieces separator rest with
        | [] => [[c]]
        | piece :: others => (c :: piece) :: others

def cut? (separator : Char) : List Char → Option (List Char × List Char)
  | [] => none
  | c :: rest =>
      if c = separator then some ([], rest)
      else (cut? separator rest).map fun parts => (c :: parts.1, parts.2)

def decimal? (bound : Nat) (digits : List Char) : Option Nat :=
  let value := Nat.ofDigitChars 10 digits 0
  if digits ≠ [] ∧ digits.all Char.isDigit ∧ value ≤ bound then some value else none

def hexadecimal? (digits : List Char) : Option Nat :=
  if digits = [] then none
  else digits.foldl
    (fun value c => value.bind fun v => (Bytes.hexValue? c).map (16 * v + ·)) (some 0)

def Ipv4.parse? (text : List Char) : Option Ipv4 :=
  match (pieces '.' text).map (decimal? 255) with
  | [some a, some b, some c, some d] =>
      some ⟨#v[UInt8.ofNat a, UInt8.ofNat b, UInt8.ofNat c, UInt8.ofNat d]⟩
  | _ => none

namespace Ipv6

def gap? : List Char → Option (List Char × List Char)
  | ':' :: ':' :: rest => some ([], rest)
  | [] => none
  | c :: rest => (gap? rest).map fun parts => (c :: parts.1, parts.2)

/-- Groups from their pieces; a last piece in dotted decimal stands for two. -/
def ofPieces? : List (List Char) → Option (List UInt16)
  | [] => some []
  | [piece] =>
      match Ipv4.parse? piece with
      | some embedded =>
          match embedded.bytes with
          | [a, b, c, d] => some [Bytes.word16 a b, Bytes.word16 c d]
          | _ => none
      | none => (hexadecimal? piece).map fun group => [UInt16.ofNat group]
  | piece :: others =>
      match hexadecimal? piece, ofPieces? others with
      | some group, some groups => some (UInt16.ofNat group :: groups)
      | _, _ => none

def groups? (text : List Char) : Option (List UInt16) :=
  if text = [] then some [] else ofPieces? (pieces ':' text)

def ofGroups? (groups : List UInt16) : Option Ipv6 :=
  if h : groups.length = 8 then some ⟨⟨groups.toArray, by simpa using h⟩⟩ else none

def parse? (text : List Char) : Option Ipv6 :=
  match gap? text with
  | none => (groups? text).bind ofGroups?
  | some (before, after) =>
      match groups? before, groups? after with
      | some left, some right =>
          ofGroups? (left ++ List.replicate (8 - left.length - right.length) 0 ++ right)
      | _, _ => none

end Ipv6

namespace Endpoint

def parseV4? (text : List Char) : Option Endpoint :=
  match cut? ':' text with
  | none => none
  | some (host, digits) =>
      match Ipv4.parse? host, decimal? 65535 digits with
      | some address, some port => some (.v4 address (UInt16.ofNat port))
      | _, _ => none

def parseV6? (text : List Char) : Option Endpoint :=
  match cut? ']' text with
  | some (host, ':' :: digits) =>
      let parts :=
        match cut? '%' host with
        | none => (host, some 0)
        | some (address, scope) => (address, decimal? 4294967295 scope)
      match Ipv6.parse? parts.1, parts.2, decimal? 65535 digits with
      | some address, some scope, some port =>
          some (.v6 address 0 (UInt32.ofNat scope) (UInt16.ofNat port))
      | _, _, _ => none
  | _ => none

/-- The socket whose text is `text`, if there is one: what was read is written
again and compared, so only canonical text is accepted. -/
def parse? (text : String) : Option Endpoint :=
  let candidate :=
    match text.toList with
    | '[' :: rest => parseV6? rest
    | whole => parseV4? whole
  candidate.filter fun endpoint => endpoint.text = text

end Endpoint

end Reassembly
