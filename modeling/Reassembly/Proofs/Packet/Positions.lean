import Reassembly.Packet.Format

/-!
# Fields and their positions

What is read with a bound in scope is what stands at the position, in the data and in a slice of
it, and an address stands in its bytes: it is known by them.
-/

set_option autoImplicit false

namespace Reassembly

namespace Bytes

theorem byteAt_of_lt {data : Bytes} {position : Nat} (inside : position < data.length) :
    data.byteAt position = data[position].toNat := by
  simp [byteAt, inside]

theorem wordAt_of_lt {data : Bytes} {position : Nat} (inside : position + 1 < data.length) :
    data.wordAt position = (word16 data[position] data[position + 1]).toNat := by
  rw [word16_toNat, wordAt, byteAt_of_lt inside, byteAt_of_lt (Nat.lt_of_succ_lt inside)]

theorem longAt_of_lt {data : Bytes} {position : Nat} (inside : position + 3 < data.length) :
    data.longAt position =
      (word32 data[position] data[position + 1] data[position + 2] data[position + 3]).toNat := by
  have front : data.wordAt position = 256 * data[position].toNat + data[position + 1].toNat := by
    rw [wordAt_of_lt (by omega), word16_toNat]
  have back : data.wordAt (position + 2) =
      256 * data[position + 2].toNat + data[position + 3].toNat := by
    rw [wordAt_of_lt inside, word16_toNat]
  rw [word32_toNat, longAt, front, back]
  omega

theorem length_slice (data : Bytes) (start stop : Nat) :
    (data.slice start stop).length = min stop data.length - start := by
  simp [slice]

theorem byteAt_slice (data : Bytes) {start stop position : Nat}
    (inside : start + position < stop) :
    (data.slice start stop).byteAt position = data.byteAt (start + position) := by
  simp [byteAt, slice, List.getD_eq_getElem?_getD, List.getElem?_drop,
    List.getElem?_take_of_lt inside]

theorem wordAt_slice (data : Bytes) {start stop position : Nat}
    (inside : start + position + 1 < stop) :
    (data.slice start stop).wordAt position = data.wordAt (start + position) := by
  have high : (data.slice start stop).byteAt position = data.byteAt (start + position) :=
    byteAt_slice data (by omega)
  have low : (data.slice start stop).byteAt (position + 1) = data.byteAt (start + position + 1) :=
    byteAt_slice data inside
  rw [wordAt, high, low, wordAt]

theorem longAt_slice (data : Bytes) {start stop position : Nat}
    (inside : start + position + 3 < stop) :
    (data.slice start stop).longAt position = data.longAt (start + position) := by
  have high : (data.slice start stop).wordAt position = data.wordAt (start + position) :=
    wordAt_slice data (by omega)
  have low : (data.slice start stop).wordAt (position + 2) = data.wordAt (start + position + 2) :=
    wordAt_slice data inside
  rw [longAt, high, low, longAt]

theorem drop_slice (data : Bytes) (start stop count : Nat) :
    (data.slice start stop).drop count = data.slice (start + count) stop :=
  List.drop_drop

theorem slice_min (data : Bytes) (start stop : Nat) :
    data.slice start (min data.length stop) = data.slice start stop := by
  rw [slice, slice, Nat.min_comm, ← List.take_eq_take_min]

theorem slice_eq_ofFn {data : Bytes} {start count : Nat} (room : start + count ≤ data.length) :
    data.slice start (start + count) =
      List.ofFn fun i : Fin count => data.get ⟨start + i, by omega⟩ := by
  apply List.ext_getElem
  · rw [length_slice, List.length_ofFn]
    omega
  · intro i front back
    simp [slice]

theorem ofWord16_word16 (hi lo : UInt8) : ofWord16 (word16 hi lo) = [hi, lo] := by
  have hiBound := hi.toNat_lt
  have loBound := lo.toNat_lt
  have high : UInt8.ofNat ((word16 hi lo).toNat / 256) = hi := by
    apply UInt8.toNat_inj.mp
    rw [word16_toNat, UInt8.toNat_ofNat']
    omega
  have low : UInt8.ofNat (word16 hi lo).toNat = lo := by
    apply UInt8.toNat_inj.mp
    rw [word16_toNat, UInt8.toNat_ofNat']
    omega
  rw [ofWord16, high, low]

theorem ofWord16_injective : Function.Injective ofWord16 := by
  intro first second same
  obtain ⟨high, low⟩ := List.cons.inj same
  rw [← word16_ofWord16 first, ← word16_ofWord16 second, high, (List.cons.inj low).1]

theorem flatMap_ofWord16_injective :
    Function.Injective fun words : List UInt16 => words.flatMap ofWord16 := by
  intro first second same
  induction first generalizing second with
  | nil =>
      cases second with
      | nil => rfl
      | cons word rest => cases same
  | cons word rest ih =>
      cases second with
      | nil => cases same
      | cons word' rest' =>
          simp only [List.flatMap_cons] at same
          obtain ⟨here, later⟩ := List.append_inj same rfl
          rw [ofWord16_injective here, ih later]

end Bytes

theorem Ipv4.bytes_at {data : Bytes} {offset : Nat} (room : offset + 4 ≤ data.length) :
    (Ipv4.at data offset room).bytes = data.slice offset (offset + 4) := by
  rw [Bytes.slice_eq_ofFn room]
  rfl

theorem Ipv6.bytes_at {data : Bytes} {offset : Nat} (room : offset + 16 ≤ data.length) :
    (Ipv6.at data offset room).bytes = data.slice offset (offset + 16) := by
  rw [Bytes.slice_eq_ofFn room]
  simp only [Ipv6.bytes, Ipv6.at, Vector.toList_ofFn]
  simp [List.ofFn_succ, Bytes.ofWord16_word16]

theorem Ipv4.bytes_injective : Function.Injective Ipv4.bytes := by
  intro first second same
  exact congrArg Ipv4.mk (Vector.toList_inj.mp same)

theorem Ipv6.bytes_injective : Function.Injective Ipv6.bytes := by
  intro first second same
  exact congrArg Ipv6.mk (Vector.toList_inj.mp (Bytes.flatMap_ofWord16_injective same))

end Reassembly
