/-!
# Byte strings

Byte strings are lists of octets.  This module fixes the big-endian reading and
writing of 16-bit and 32-bit words and the hexadecimal text of a byte string.
Reading a word back from its own bytes gives the word, and reading hexadecimal
text accepts exactly pairs of hexadecimal digits.
-/

set_option autoImplicit false

namespace Reassembly

abbrev Bytes := List UInt8

namespace Bytes

def word16 (hi lo : UInt8) : UInt16 :=
  UInt16.ofNat (256 * hi.toNat + lo.toNat)

def word32 (a b c d : UInt8) : UInt32 :=
  UInt32.ofNat (256 * (256 * (256 * a.toNat + b.toNat) + c.toNat) + d.toNat)

def ofWord16 (word : UInt16) : Bytes :=
  [UInt8.ofNat (word.toNat / 256), UInt8.ofNat word.toNat]

def ofWord32 (word : UInt32) : Bytes :=
  [UInt8.ofNat (word.toNat / 16777216), UInt8.ofNat (word.toNat / 65536),
    UInt8.ofNat (word.toNat / 256), UInt8.ofNat word.toNat]

theorem word16_toNat (hi lo : UInt8) :
    (word16 hi lo).toNat = 256 * hi.toNat + lo.toNat := by
  have hiBound := hi.toNat_lt
  have loBound := lo.toNat_lt
  simp only [word16, UInt16.toNat_ofNat']
  omega

theorem word32_toNat (a b c d : UInt8) :
    (word32 a b c d).toNat =
      256 * (256 * (256 * a.toNat + b.toNat) + c.toNat) + d.toNat := by
  have aBound := a.toNat_lt
  have bBound := b.toNat_lt
  have cBound := c.toNat_lt
  have dBound := d.toNat_lt
  simp only [word32, UInt32.toNat_ofNat']
  omega

theorem word16_ofWord16 (word : UInt16) :
    word16 (UInt8.ofNat (word.toNat / 256)) (UInt8.ofNat word.toNat) = word := by
  have bound := word.toNat_lt
  apply UInt16.toNat_inj.mp
  rw [word16_toNat]
  simp only [UInt8.toNat_ofNat']
  omega

theorem word32_ofWord32 (word : UInt32) :
    word32 (UInt8.ofNat (word.toNat / 16777216)) (UInt8.ofNat (word.toNat / 65536))
      (UInt8.ofNat (word.toNat / 256)) (UInt8.ofNat word.toNat) = word := by
  have bound := word.toNat_lt
  apply UInt32.toNat_inj.mp
  rw [word32_toNat]
  simp only [UInt8.toNat_ofNat']
  omega

@[simp] theorem ofWord16_length (word : UInt16) : (ofWord16 word).length = 2 := rfl

@[simp] theorem ofWord32_length (word : UInt32) : (ofWord32 word).length = 4 := rfl

def ofText (text : String) : Bytes :=
  text.toList.flatMap String.utf8EncodeChar

def hexDigits (byte : UInt8) : List Char :=
  [Nat.digitChar (byte.toNat / 16), Nat.digitChar (byte.toNat % 16)]

def hex (bytes : Bytes) : String :=
  String.ofList (bytes.flatMap hexDigits)

def hexValue? (c : Char) : Option Nat :=
  if '0' ≤ c ∧ c ≤ '9' then some (c.toNat - 48)
  else if 'a' ≤ c ∧ c ≤ 'f' then some (c.toNat - 87)
  else if 'A' ≤ c ∧ c ≤ 'F' then some (c.toNat - 55)
  else none

def ofHex? : List Char → Option Bytes
  | [] => some []
  | [_] => none
  | high :: low :: rest =>
      match hexValue? high, hexValue? low, ofHex? rest with
      | some h, some l, some bytes => some (UInt8.ofNat (16 * h + l) :: bytes)
      | _, _, _ => none

end Bytes

end Reassembly
