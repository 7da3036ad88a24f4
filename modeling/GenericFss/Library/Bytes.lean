import Mathlib.Algebra.GroupWithZero.Nat

/-! Byte strings as C and C++ programs handle them: buffers resized in place,
additive checksums and four-byte words assembled by shifts. -/

universe u

namespace Bytes

/-- `std::vector::resize(length, fill)`: cut the tail off, or pad it. -/
def resize {α : Type u} (buffer : List α) (length : Nat) (fill : α) : List α :=
  buffer.take length ++ List.replicate (length - buffer.length) fill

section Resize
variable {α : Type u} (buffer : List α) (length : Nat) (fill : α)

@[simp] theorem length_resize : (resize buffer length fill).length = length := by
  simp only [resize, List.length_append, List.length_take, List.length_replicate]
  omega

@[simp] theorem resize_zero : resize buffer 0 fill = [] := by simp [resize]

theorem resize_self : resize buffer buffer.length fill = buffer := by simp [resize]

@[simp] theorem resize_nil : resize [] length fill = List.replicate length fill := by simp [resize]

theorem take_resize {count : Nat} (kept : count ≤ length) (inside : count ≤ buffer.length) :
    (resize buffer length fill).take count = buffer.take count := by
  rw [resize, List.take_append_of_le_length (by rw [List.length_take]; omega), List.take_take, Nat.min_eq_left kept]

theorem getElem?_resize {index : Nat} (inside : index < length) :
    (resize buffer length fill)[index]? = some (buffer[index]?.getD fill) := by
  by_cases kept : index < buffer.length
  · rw [resize, List.getElem?_append_left (by rw [List.length_take]; omega), List.getElem?_take_of_lt inside,
      List.getElem?_eq_getElem kept]
    rfl
  · rw [resize, List.getElem?_append_right (by rw [List.length_take]; omega), List.getElem?_replicate_of_lt (by
      rw [List.length_take]; omega), List.getElem?_eq_none (by omega)]
    rfl

theorem eq_resize_iff {other : List α} : other = resize buffer length fill ↔
    other.length = length ∧ ∀ index, index < length → other[index]? = some (buffer[index]?.getD fill) := by
  constructor
  · rintro rfl
    exact ⟨length_resize .., fun index inside => getElem?_resize _ _ _ inside⟩
  · intro ⟨full, elements⟩
    apply List.ext_getElem?
    intro index
    by_cases inside : index < length
    · rw [elements index inside, getElem?_resize _ _ _ inside]
    · have outside : (resize buffer length fill).length ≤ index := by rw [length_resize]; omega
      rw [List.getElem?_eq_none (by omega), List.getElem?_eq_none outside]

end Resize

theorem toList_slice {α : Type u} {length : Nat} (buffer : Vector α length) (start count : Nat)
    (inside : start + count ≤ length) :
    (buffer.toList.drop start).take count = List.ofFn fun index : Fin count => buffer[start + index.val] := by
  apply List.ext_getElem
  · simp
    omega
  · intro index _ _
    simp

theorem exists_ofFn {α : Type u} {length : Nat} {buffer : List α} (full : buffer.length = length) :
    ∃ bytes : Fin length → α, buffer = List.ofFn bytes := by
  subst full
  exact ⟨fun index => buffer[index], List.ext_getElem (by simp) (by simp)⟩

theorem exists_four {α : Type u} (buffer : Vector α 4) : ∃ b0 b1 b2 b3, buffer = #v[b0, b1, b2, b3] := by
  obtain ⟨bytes, same⟩ := exists_ofFn buffer.length_toList
  refine ⟨bytes 0, bytes 1, bytes 2, bytes 3, Vector.toList_inj.mp ?_⟩
  simp [same, List.ofFn_succ]

/-- `uint32_t` accumulation of bytes, from left to right. -/
def sum (bytes : List UInt8) : UInt32 := bytes.foldl (fun total byte => total + byte.toUInt32) 0

def lowByte (total : UInt32) : UInt8 := (total &&& 0x000000FF).toUInt8

section Checksum

private theorem foldl_sum (bytes : List UInt8) (start : UInt32) :
    (bytes.foldl (fun total byte => total + byte.toUInt32) start).toNat =
      (start.toNat + (bytes.map UInt8.toNat).sum) % 2 ^ 32 := by
  induction bytes generalizing start with
  | nil => simp [Nat.mod_eq_of_lt start.toNat_lt]
  | cons byte rest ih =>
    simp only [List.foldl_cons, ih, UInt32.toNat_add, UInt8.toNat_toUInt32, List.map_cons, List.sum_cons]
    omega

theorem sum_toNat (bytes : List UInt8) : (sum bytes).toNat = (bytes.map UInt8.toNat).sum % 2 ^ 32 := by
  simpa [sum] using foldl_sum bytes 0

theorem lowByte_toNat (total : UInt32) : (lowByte total).toNat = total.toNat % 256 := by
  have mask : total.toNat &&& 255 = total.toNat % 256 := Nat.and_two_pow_sub_one_eq_mod total.toNat 8
  rw [lowByte, UInt32.toNat_toUInt8, UInt32.toNat_and]
  change (total.toNat &&& 255) % 2 ^ 8 = _
  omega

/-- The 32-bit accumulator may wrap; its low byte is still the sum modulo 256. -/
theorem lowByte_sum (bytes : List UInt8) : lowByte (sum bytes) = UInt8.ofNat (bytes.map UInt8.toNat).sum := by
  apply UInt8.toNat_inj.mp
  rw [lowByte_toNat, sum_toNat, UInt8.toNat_ofNat']
  omega

/-- Replacing one byte changes a sum modulo 256, unless it is replaced by itself. -/
theorem sum_set_iff {bytes : List UInt8} {index : Nat} (inside : index < bytes.length) (byte : UInt8) :
    ((bytes.set index byte).map UInt8.toNat).sum % 256 = (bytes.map UInt8.toNat).sum % 256 ↔ byte = bytes[index] := by
  induction bytes generalizing index with
  | nil => exact absurd inside (Nat.not_lt_zero index)
  | cons head rest ih =>
    cases index with
    | zero =>
      have bound := byte.toNat_lt
      have bound' := head.toNat_lt
      rw [List.set_cons_zero, List.getElem_cons_zero, ← UInt8.toNat_inj, List.map_cons, List.map_cons, List.sum_cons,
        List.sum_cons]
      omega
    | succ index =>
      have later := ih (Nat.lt_of_succ_lt_succ inside)
      rw [List.set_cons_succ, List.getElem_cons_succ, ← later, List.map_cons, List.map_cons, List.sum_cons, List.sum_cons]
      omega

theorem ofNat_inj_iff {first second : Nat} : UInt8.ofNat first = UInt8.ofNat second ↔ first % 256 = second % 256 := by
  rw [← UInt8.toNat_inj, UInt8.toNat_ofNat', UInt8.toNat_ofNat']

end Checksum

def byteAt (word shift : UInt32) : UInt8 := ((word >>> shift) &&& 0xFF).toUInt8

/-- Four bytes assembled by shifts, the least significant one first. -/
def word (byte0 byte1 byte2 byte3 : UInt8) : UInt32 :=
  (byte3.toUInt32 <<< 24) ||| (byte2.toUInt32 <<< 16) ||| (byte1.toUInt32 <<< 8) ||| byte0.toUInt32

/-- The four bytes of a word, the least significant one first. -/
def leastFirst (value : UInt32) : Vector UInt8 4 := .ofFn fun index => UInt8.ofNat (value.toNat / 256 ^ index.val)

def mostFirst (value : UInt32) : Vector UInt8 4 := .ofFn fun index => UInt8.ofNat (value.toNat / 256 ^ (3 - index.val))

/-- A function of four bytes, taken from a vector. -/
def onFour {α : Type} (take : UInt8 → UInt8 → UInt8 → UInt8 → α) (bytes : Vector UInt8 4) : α :=
  take (bytes.get 0) (bytes.get 1) (bytes.get 2) (bytes.get 3)

def ofBytes (bytes : Vector UInt8 4) : UInt32 := onFour word bytes

section Words

theorem byteAt_toNat (value shift : UInt32) (small : shift.toNat < 32) :
    (byteAt value shift).toNat = value.toNat / 2 ^ shift.toNat % 256 := by
  change (lowByte (value >>> shift)).toNat = _
  rw [lowByte_toNat, UInt32.toNat_shiftRight, Nat.mod_eq_of_lt small, Nat.shiftRight_eq_div_pow]

theorem word_toNat (byte0 byte1 byte2 byte3 : UInt8) :
    (word byte0 byte1 byte2 byte3).toNat =
      byte3.toNat * 2 ^ 24 + (byte2.toNat * 2 ^ 16 + (byte1.toNat * 2 ^ 8 + byte0.toNat)) := by
  have bound0 := byte0.toNat_lt
  have bound1 := byte1.toNat_lt
  have bound2 := byte2.toNat_lt
  have bound3 := byte3.toNat_lt
  have shifted (byte : UInt8) (shift : Nat) (inside : byte.toNat * 2 ^ shift < 2 ^ 32) :
      byte.toNat <<< shift % 2 ^ 32 = byte.toNat <<< shift :=
    Nat.mod_eq_of_lt (by rwa [Nat.shiftLeft_eq])
  simp only [word, UInt32.toNat_or, UInt32.toNat_shiftLeft, UInt8.toNat_toUInt32]
  change ((byte3.toNat <<< 24 % 2 ^ 32 ||| byte2.toNat <<< 16 % 2 ^ 32) ||| byte1.toNat <<< 8 % 2 ^ 32) ||| byte0.toNat = _
  rw [shifted byte3 24 (by omega), shifted byte2 16 (by omega), shifted byte1 8 (by omega),
    Nat.or_assoc, Nat.or_assoc, ← Nat.shiftLeft_add_eq_or_of_lt (by omega : byte0.toNat < 2 ^ 8)]
  rw [← Nat.shiftLeft_add_eq_or_of_lt (by rw [Nat.shiftLeft_eq]; omega : byte1.toNat <<< 8 + byte0.toNat < 2 ^ 16)]
  rw [← Nat.shiftLeft_add_eq_or_of_lt
    (by rw [Nat.shiftLeft_eq, Nat.shiftLeft_eq]; omega : byte2.toNat <<< 16 + (byte1.toNat <<< 8 + byte0.toNat) < 2 ^ 24)]
  simp only [Nat.shiftLeft_eq]

theorem word_byteAt (value : UInt32) :
    word (byteAt value 0) (byteAt value 8) (byteAt value 16) (byteAt value 24) = value := by
  have bound := value.toNat_lt
  apply UInt32.toNat_inj.mp
  rw [word_toNat, byteAt_toNat _ _ (by decide), byteAt_toNat _ _ (by decide), byteAt_toNat _ _ (by decide),
    byteAt_toNat _ _ (by decide)]
  change value.toNat / 2 ^ 24 % 256 * 2 ^ 24 + (value.toNat / 2 ^ 16 % 256 * 2 ^ 16 +
    (value.toNat / 2 ^ 8 % 256 * 2 ^ 8 + value.toNat / 2 ^ 0 % 256)) = _
  omega

private theorem byteAt_eq (value shift : UInt32) (small : shift.toNat < 32) :
    byteAt value shift = UInt8.ofNat (value.toNat / 2 ^ shift.toNat) := by
  apply UInt8.toNat_inj.mp
  rw [byteAt_toNat value shift small, UInt8.toNat_ofNat']

theorem leastFirst_eq (value : UInt32) :
    leastFirst value = #v[byteAt value 0, byteAt value 8, byteAt value 16, byteAt value 24] := by
  rw [byteAt_eq value 0 (by decide), byteAt_eq value 8 (by decide), byteAt_eq value 16 (by decide),
    byteAt_eq value 24 (by decide)]
  rfl

theorem mostFirst_eq (value : UInt32) :
    mostFirst value = #v[byteAt value 24, byteAt value 16, byteAt value 8, byteAt value 0] := by
  rw [byteAt_eq value 0 (by decide), byteAt_eq value 8 (by decide), byteAt_eq value 16 (by decide),
    byteAt_eq value 24 (by decide)]
  rfl

@[simp] theorem reverse_mostFirst (value : UInt32) : (mostFirst value).reverse = leastFirst value := by
  rw [mostFirst_eq, leastFirst_eq]
  simp

@[simp] theorem reverse_leastFirst (value : UInt32) : (leastFirst value).reverse = mostFirst value := by
  rw [← reverse_mostFirst, Vector.reverse_reverse]

@[simp] theorem ofBytes_leastFirst (value : UInt32) : ofBytes (leastFirst value) = value := by
  rw [leastFirst_eq]
  exact word_byteAt value

theorem ofBytes_reverse (bytes : Vector UInt8 4) :
    ofBytes bytes.reverse = onFour (fun byte3 byte2 byte1 byte0 => word byte0 byte1 byte2 byte3) bytes := by
  change word bytes.reverse[0] bytes.reverse[1] bytes.reverse[2] bytes.reverse[3] = _
  simp only [Vector.getElem_reverse]
  rfl

theorem ofBytes_inj {first second : Vector UInt8 4} : ofBytes first = ofBytes second ↔ first = second := by
  constructor
  · intro same
    obtain ⟨a0, a1, a2, a3, rfl⟩ := exists_four first
    obtain ⟨b0, b1, b2, b3, rfl⟩ := exists_four second
    have total := congrArg UInt32.toNat same
    change (word a0 a1 a2 a3).toNat = (word b0 b1 b2 b3).toNat at total
    rw [word_toNat, word_toNat] at total
    have boundA := And.intro a0.toNat_lt (And.intro a1.toNat_lt a2.toNat_lt)
    have boundB := And.intro b0.toNat_lt (And.intro b1.toNat_lt b2.toNat_lt)
    have byte0 : a0 = b0 := UInt8.toNat_inj.mp (by omega)
    have byte1 : a1 = b1 := UInt8.toNat_inj.mp (by omega)
    have byte2 : a2 = b2 := UInt8.toNat_inj.mp (by omega)
    have byte3 : a3 = b3 := UInt8.toNat_inj.mp (by omega)
    rw [byte0, byte1, byte2, byte3]
  · rintro rfl
    rfl

/-- Bytes sent most significant first are read back right only if their order does not matter. -/
theorem ofBytes_mostFirst_iff (value : UInt32) : ofBytes (mostFirst value) = value ↔ mostFirst value = leastFirst value := by
  rw [← ofBytes_inj, ofBytes_leastFirst]

end Words

end Bytes
