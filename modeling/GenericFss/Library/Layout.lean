import Mathlib.Data.List.Forall2

/-! Packets as ground systems define them: named items, one after the other, each with a size in
bytes and an order of its bytes. A packet is read by cutting it up; what an item was written
with is seen only through its bytes. -/

namespace Layout

structure Item where
  name : String
  size : Nat
  bigEndian : Bool

/-- The number that bytes spell, the least significant one first. -/
def number : List UInt8 → Nat
  | [] => 0
  | byte :: rest => byte.toNat + 256 * number rest

namespace Item
variable (item : Item)

def value (bytes : List UInt8) : Nat := number (if item.bigEndian then bytes.reverse else bytes)

end Item

/-- The values by name. A packet that ends early has none. -/
def decode : List Item → List UInt8 → Option (List (String × Nat))
  | [], _ => some []
  | item :: rest, bytes =>
    if item.size ≤ bytes.length then
      (decode rest (bytes.drop item.size)).map ((item.name, item.value (bytes.take item.size)) :: ·)
    else none

def read (items : List Item) (name : String) (bytes : List UInt8) : Option Nat :=
  (decode items bytes).bind (List.lookup name)

@[simp] theorem Item.value_singleton {item : Item} (byte : UInt8) : item.value [byte] = byte.toNat := by simp [value, number]

section Packets
variable {items front back : List Item} {bytes : List UInt8} {values : List (String × Nat)} {name : String}

def size : List Item → Nat
  | [] => 0
  | item :: rest => item.size + size rest

theorem size_cons (item : Item) : size (item :: items) = item.size + size items := rfl

theorem size_append : size (front ++ back) = size front + size back := by
  induction front with
  | nil => simp [size]
  | cons item front ih => rw [List.cons_append, size_cons, size_cons, ih, Nat.add_assoc]

theorem decode_isSome_iff : (decode items bytes).isSome = true ↔ size items ≤ bytes.length := by
  induction items generalizing bytes with
  | nil => simp [decode, size]
  | cons item items ih =>
    rw [decode, size_cons]
    split
    next enough =>
      rw [Option.isSome_map, ih, List.length_drop]
      omega
    next short =>
      simp only [Option.isSome_none, Bool.false_eq_true, false_iff]
      omega

theorem decode_append :
    decode (front ++ back) bytes =
      (decode front bytes).bind fun first => (decode back (bytes.drop (size front))).map (first ++ ·) := by
  induction front generalizing bytes with
  | nil => simp [decode, size]
  | cons item front ih =>
    rw [List.cons_append, decode, decode, size_cons]
    split
    next enough =>
      rw [ih, List.drop_drop]
      cases decode front (bytes.drop item.size) with
      | none => rfl
      | some first => simp [Function.comp_def]
    next short => rfl

theorem lookup_decode (other : name ∉ items.map Item.name) (decoded : decode items bytes = some values) :
    values.lookup name = none := by
  induction items generalizing bytes values with
  | nil =>
    obtain rfl := Option.some.inj decoded
    rfl
  | cons item items ih =>
    rw [List.map_cons, List.mem_cons, not_or] at other
    rw [decode] at decoded
    split at decoded
    next enough =>
      obtain ⟨later, rest, rfl⟩ := Option.map_eq_some_iff.mp decoded
      rw [List.lookup_cons, beq_false_of_ne other.1]
      exact ih other.2 rest
    next short => exact nomatch decoded

/-- Items that read every packet alike: the order of a single byte does not matter. -/
structure Item.Alike (item item' : Item) : Prop where
  name : item.name = item'.name
  size : item.size = item'.size
  order : item.size ≤ 1 ∨ item.bigEndian = item'.bigEndian

theorem Item.Alike.value {item item' : Item} (alike : item.Alike item') (bytes : List UInt8) :
    item.value (bytes.take item.size) = item'.value (bytes.take item.size) := by
  rcases alike.order with short | same
  · rcases taken : bytes.take item.size with _ | ⟨byte, _ | ⟨_, _⟩⟩
    · simp [Item.value]
    · simp
    · have long := congrArg List.length taken
      simp only [List.length_take, List.length_cons] at long
      omega
  · rw [Item.value, Item.value, same]

theorem decode_congr (alike : List.Forall₂ Item.Alike front back) : decode front bytes = decode back bytes := by
  induction alike generalizing bytes with
  | nil => rfl
  | cons head _ ih => rw [decode, decode, head.value, head.name, ih, head.size]

/-- The first item is read as soon as the whole packet has arrived. -/
theorem read_head (item : Item) :
    read (item :: items) item.name bytes =
      if size (item :: items) ≤ bytes.length then some (item.value (bytes.take item.size)) else none := by
  split
  next full =>
    obtain ⟨values, decoded⟩ := Option.isSome_iff_exists.mp (decode_isSome_iff.mpr full)
    rw [read, decoded, Option.bind_some]
    rw [decode] at decoded
    split at decoded
    next enough =>
      obtain ⟨later, rest, rfl⟩ := Option.map_eq_some_iff.mp decoded
      rw [List.lookup_cons, beq_self_eq_true]
    next short => exact nomatch decoded
  next part =>
    rw [read, Option.not_isSome_iff_eq_none.mp (mt decode_isSome_iff.mp part)]
    rfl

/-- Items that a header does not have are read behind it. -/
theorem read_append (other : name ∉ front.map Item.name) :
    read (front ++ back) name bytes = if size front ≤ bytes.length then read back name (bytes.drop (size front)) else none := by
  rw [read, decode_append]
  split
  next enough =>
    obtain ⟨first, decoded⟩ := Option.isSome_iff_exists.mp (decode_isSome_iff.mpr enough)
    rw [decoded, Option.bind_some, read]
    cases decode back (bytes.drop (size front)) with
    | none => rfl
    | some later => simp [List.lookup_append, lookup_decode other decoded]
  next short =>
    rw [Option.not_isSome_iff_eq_none.mp (mt decode_isSome_iff.mp short)]
    rfl

end Packets

section Writing

/-- How many values some bytes can tell apart. -/
def capacity : Nat → Nat
  | 0 => 1
  | size + 1 => 256 * capacity size

def digits : Nat → Nat → List UInt8
  | 0, _ => []
  | size + 1, value => UInt8.ofNat value :: digits size (value / 256)

@[simp] theorem length_digits (size value : Nat) : (digits size value).length = size := by
  induction size generalizing value with
  | zero => rfl
  | succ size ih => simp [digits, ih]

theorem number_digits (size value : Nat) : number (digits size value) = value % capacity size := by
  induction size generalizing value with
  | zero => simp [digits, number, capacity, Nat.mod_one]
  | succ size ih => rw [digits, number, ih, capacity, Nat.mod_mul, UInt8.toNat_ofNat']

def Item.bytes (item : Item) (value : Nat) : List UInt8 :=
  if item.bigEndian then (digits item.size value).reverse else digits item.size value

@[simp] theorem Item.length_bytes (item : Item) (value : Nat) : (item.bytes value).length = item.size := by
  rw [bytes]
  split <;> simp

theorem Item.value_bytes (item : Item) (value : Nat) : item.value (item.bytes value) = value % capacity item.size := by
  rw [Item.value, bytes]
  split <;> simp [number_digits]

def encode (fields : List (Item × Nat)) : List UInt8 := fields.flatMap fun field => field.1.bytes field.2

/-- What was written is read back, up to the room that each item has. -/
theorem decode_encode (fields : List (Item × Nat)) (rest : List UInt8) :
    decode (fields.map Prod.fst) (encode fields ++ rest) =
      some (fields.map fun field => (field.1.name, field.2 % capacity field.1.size)) := by
  induction fields with
  | nil => rfl
  | cons field fields ih =>
    have split : encode (field :: fields) ++ rest = field.1.bytes field.2 ++ (encode fields ++ rest) := by simp [encode]
    have sized : (field.1.bytes field.2).length = field.1.size := field.1.length_bytes field.2
    rw [split, List.map_cons, decode, if_pos (by simp), ← sized, List.drop_left, ih, List.take_left, field.1.value_bytes]
    rfl

end Writing

end Layout
