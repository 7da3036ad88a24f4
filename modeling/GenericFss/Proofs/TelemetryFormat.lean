import GenericFss.Telemetry
import GenericFss.Proofs.WireFormat

/-! The downlink read back. Both databases know the two packets apart and take every byte from
where the flight computer put it; only the byte order of the angles is an assumption of theirs. -/

namespace GenericFss.Proofs.TelemetryFormat
open GenericFss Device Cfs Layout Telemetry WireFormat

section Values

theorem number_four (bytes : Vector UInt8 4) : number bytes.toList = (Bytes.ofBytes bytes).toNat := by
  obtain ⟨byte0, byte1, byte2, byte3, rfl⟩ := Bytes.exists_four bytes
  have total := Bytes.word_toNat byte0 byte1 byte2 byte3
  change number [byte0, byte1, byte2, byte3] = (Bytes.word byte0 byte1 byte2 byte3).toNat
  simp only [number, total]
  omega

@[simp] theorem length_floatBytes (order : ByteOrder) (float : UInt32) : (floatBytes order float).length = 4 := by
  cases order <;> simp [floatBytes]

/-- The pattern that the ground makes of a float. -/
def groundFloat (bigEndian : Bool) (order : ByteOrder) (float : UInt32) : UInt32 :=
  if bigEndian = decide (order = .bigEndian) then float else Bytes.ofBytes (Bytes.mostFirst float)

theorem value_floatBytes (item : Item) (order : ByteOrder) (float : UInt32) :
    UInt32.ofNat (item.value (floatBytes order float)) = groundFloat item.bigEndian order float := by
  have least : (Bytes.mostFirst float).toList.reverse = (Bytes.leastFirst float).toList := by
    rw [← Vector.toList_reverse, Bytes.reverse_mostFirst]
  have most : (Bytes.leastFirst float).toList.reverse = (Bytes.mostFirst float).toList := by
    rw [← Vector.toList_reverse, Bytes.reverse_leastFirst]
  rw [Item.value]
  cases item.bigEndian <;> cases order <;> simp [groundFloat, floatBytes, least, most, number_four]

end Values

/-- A header that cFE writes and a database reads: the stream id first, sixteen bytes in all, and
no item that a packet has too. -/
structure Heads (header : List Item) : Prop where
  streamId : header.head? = some ⟨"CCSDS_STREAMID", 2, true⟩
  sized : size header = 16
  separate : ∀ name ∈ (hkItems true ++ dataItems true true).map Item.name, name ∉ header.map Item.name

theorem ccsdsItems_heads (processorEndian : ByteOrder) : Heads (ccsdsItems processorEndian) := by
  cases processorEndian <;> exact ⟨rfl, rfl, by decide⟩

section Reading
variable {header : List Item} (heads : Heads header) {items : List Item} {bytes : List UInt8}
include heads

theorem read_streamId :
    read (header ++ items) "CCSDS_STREAMID" bytes =
      if 16 + size items ≤ bytes.length then some (number (bytes.take 2).reverse) else none := by
  obtain ⟨rest, rfl⟩ := List.head?_eq_some_iff.mp heads.streamId
  have sized : size (⟨"CCSDS_STREAMID", 2, true⟩ :: (rest ++ items)) = 16 + size items := by
    rw [← heads.sized, ← size_append, List.cons_append]
  rw [← sized]
  exact read_head ⟨"CCSDS_STREAMID", 2, true⟩

theorem read_item {name : String} (member : name ∈ (hkItems true ++ dataItems true true).map Item.name) :
    read (header ++ items) name bytes = if 16 ≤ bytes.length then read items name (bytes.drop 16) else none := by
  rw [read_append (heads.separate name member), heads.sized]

theorem packet_hk {top : List UInt8} (full : top.length = 16) (streamId : Nat) (bigEndian : Bool)
    (byte0 byte1 byte2 byte3 byte4 : UInt8) :
    Definition.packet ⟨"GENERIC_FSS_HK_TLM", streamId, header ++ hkItems bigEndian⟩ (top ++ [byte0, byte1, byte2, byte3, byte4]) =
      some (.housekeeping ⟨byte0, byte1, byte2, byte3, byte4⟩) := by
  have item {name : String} (member : name ∈ (hkItems true ++ dataItems true true).map Item.name) :
      read (header ++ hkItems bigEndian) name (top ++ [byte0, byte1, byte2, byte3, byte4]) =
        read (hkItems bigEndian) name [byte0, byte1, byte2, byte3, byte4] := by
    rw [read_item heads member, if_pos (by simp [full]), ← full, List.drop_left]
  simp only [Definition.packet, if_true]
  rw [item (by decide), item (by decide), item (by decide), item (by decide), item (by decide)]
  simp [Layout.read, Layout.decode, hkItems, List.lookup_cons]

theorem packet_data {top : List UInt8} (full : top.length = 16) (streamId : Nat) (floats errorCode : Bool) (order : ByteOrder)
    (data : DeviceData) :
    Definition.packet ⟨"GENERIC_FSS_DATA_TLM", streamId, header ++ dataItems floats errorCode⟩
        (top ++ (floatBytes order data.alpha ++ (floatBytes order data.beta ++ [data.errorCode]))) =
      some (.device ⟨groundFloat floats order data.alpha, groundFloat floats order data.beta, data.errorCode⟩) := by
  have item {name : String} (member : name ∈ (hkItems true ++ dataItems true true).map Item.name) (rest : List UInt8) :
      read (header ++ dataItems floats errorCode) name (top ++ rest) = read (dataItems floats errorCode) name rest := by
    rw [read_item heads member, if_pos (by simp [full]), ← full, List.drop_left]
  have alpha := length_floatBytes order data.alpha
  have beta := length_floatBytes order data.beta
  have decoded : Layout.decode (dataItems floats errorCode)
      (floatBytes order data.alpha ++ (floatBytes order data.beta ++ [data.errorCode])) = some [
        ("GENERIC_FSS_ALPHA", Item.value ⟨"GENERIC_FSS_ALPHA", 4, floats⟩ (floatBytes order data.alpha)),
        ("GENERIC_FSS_BETA", Item.value ⟨"GENERIC_FSS_BETA", 4, floats⟩ (floatBytes order data.beta)),
        ("GENERIC_FSS_ERROR_CODE", data.errorCode.toNat)] := by
    simp [Layout.decode, dataItems, alpha, beta]
  have other : "GENERIC_FSS_DATA_TLM" ≠ "GENERIC_FSS_HK_TLM" := by decide
  simp only [Definition.packet, if_neg other]
  rw [item (by decide), item (by decide), item (by decide)]
  simp [Layout.read, decoded, value_floatBytes, List.lookup_cons]

/-- A database of the two packets, in either order. -/
def Defines (definitions : List Definition) (header : List Item) (bigEndian floats errorCode : Bool) : Prop :=
  definitions = [⟨"GENERIC_FSS_HK_TLM", 0x0920, header ++ hkItems bigEndian⟩,
      ⟨"GENERIC_FSS_DATA_TLM", 0x0921, header ++ dataItems floats errorCode⟩] ∨
    definitions = [⟨"GENERIC_FSS_DATA_TLM", 0x0921, header ++ dataItems floats errorCode⟩,
      ⟨"GENERIC_FSS_HK_TLM", 0x0920, header ++ hkItems bigEndian⟩]

/-- The packets are told apart by their stream ids, whichever definition is tried first. -/
theorem received_eq {definitions : List Definition} {bigEndian floats errorCode : Bool}
    (defines : Defines definitions header bigEndian floats errorCode) (bytes : List UInt8) :
    received definitions bytes =
      if 21 ≤ bytes.length ∧ number (bytes.take 2).reverse = 0x0920 then
        Definition.packet ⟨"GENERIC_FSS_HK_TLM", 0x0920, header ++ hkItems bigEndian⟩ bytes
      else if 25 ≤ bytes.length ∧ number (bytes.take 2).reverse = 0x0921 then
        Definition.packet ⟨"GENERIC_FSS_DATA_TLM", 0x0921, header ++ dataItems floats errorCode⟩ bytes
      else none := by
  have hk : decide (read (header ++ hkItems bigEndian) "CCSDS_STREAMID" bytes = some 0x0920) =
      decide (21 ≤ bytes.length ∧ number (bytes.take 2).reverse = 0x0920) := by
    rw [read_streamId heads, show 16 + size (hkItems bigEndian) = 21 from rfl]
    split <;> simp [*]
  have data : decide (read (header ++ dataItems floats errorCode) "CCSDS_STREAMID" bytes = some 0x0921) =
      decide (25 ≤ bytes.length ∧ number (bytes.take 2).reverse = 0x0921) := by
    rw [read_streamId heads, show 16 + size (dataItems floats errorCode) = 25 from rfl]
    split <;> simp [*]
  have apart (isHk : 21 ≤ bytes.length ∧ number (bytes.take 2).reverse = 0x0920) :
      ¬(25 ≤ bytes.length ∧ number (bytes.take 2).reverse = 0x0921) := fun isData => absurd (isHk.2.symm.trans isData.2) (by decide)
  rcases defines with rfl | rfl
  all_goals
    rw [received, identify]
    simp only [List.find?_cons, List.find?_nil, hk, data]
    by_cases isHk : 21 ≤ bytes.length ∧ number (bytes.take 2).reverse = 0x0920
    · simp only [decide_eq_true isHk, decide_eq_false (apart isHk), if_pos isHk, Option.bind_some]
    · by_cases isData : 25 ≤ bytes.length ∧ number (bytes.take 2).reverse = 0x0921
      · simp only [decide_eq_false isHk, decide_eq_true isData, if_neg isHk, if_pos isData, Option.bind_some]
      · simp only [decide_eq_false isHk, decide_eq_false isData, if_neg isHk, if_neg isData, Option.bind_none]

/-- What the ground takes a packet for. -/
def groundPacket (bigEndian : Bool) (order : ByteOrder) : Packet → Packet
  | .housekeeping hk => .housekeeping hk
  | .device data => .device ⟨groundFloat bigEndian order data.alpha, groundFloat bigEndian order data.beta, data.errorCode⟩

theorem received_bytes {definitions : List Definition} {bigEndian floats errorCode : Bool}
    (defines : Defines definitions header bigEndian floats errorCode) (order : ByteOrder) (packet : Packet)
    (top : TelemetryHeader (mid packet)) :
    received definitions (Telemetry.bytes order packet top) = some (groundPacket floats order packet) := by
  have full : (top.streamId ++ top.others).length = 16 := by simp [top.streamId_length, top.others_length]
  have streamId (rest : List UInt8) : number ((top.streamId ++ top.others ++ rest).take 2).reverse = mid packet := by
    rw [List.append_assoc, ← top.streamId_length, List.take_left, top.streamId_mid]
  rw [received_eq heads defines]
  cases packet with
  | housekeeping hk =>
    have isHk : 21 ≤ (Telemetry.bytes order (.housekeeping hk) top).length := by
      simp [Telemetry.bytes, top.streamId_length, top.others_length]
    rw [Telemetry.bytes] at isHk ⊢
    rw [streamId, if_pos ⟨isHk, rfl⟩]
    exact packet_hk heads full 0x0920 bigEndian hk.commandErrorCount hk.commandCount hk.deviceErrorCount hk.deviceCount
      hk.deviceEnabled
  | device data =>
    have notHk : mid (.device data) ≠ 0x0920 := by simp [mid, deviceTlmMid]
    have isData : 25 ≤ (Telemetry.bytes order (.device data) top).length := by
      simp [Telemetry.bytes, top.streamId_length, top.others_length]
    rw [Telemetry.bytes] at isData ⊢
    rw [streamId, if_neg fun isHk => notHk isHk.2, if_pos ⟨isData, rfl⟩]
    simp only [List.append_assoc (floatBytes order data.alpha)]
    exact packet_data heads full 0x0921 floats errorCode order data

end Reading

section Reception

/-- The angles of the packet read the same backwards. -/
def Symmetric : Packet → Prop
  | .housekeeping _ => True
  | .device data => Palindromic data.alpha ∧ Palindromic data.beta

theorem groundFloat_iff (bigEndian : Bool) (order : ByteOrder) (float : UInt32) :
    groundFloat bigEndian order float = float ↔ bigEndian = decide (order = .bigEndian) ∨ Palindromic float := by
  rw [groundFloat]
  split
  next same => exact iff_of_true rfl (.inl same)
  next other => rw [or_iff_right other, Palindromic, Bytes.ofBytes_mostFirst_iff]

theorem groundPacket_iff (bigEndian : Bool) (order : ByteOrder) (packet : Packet) :
    groundPacket bigEndian order packet = packet ↔ bigEndian = decide (order = .bigEndian) ∨ Symmetric packet := by
  cases packet with
  | housekeeping hk => exact iff_of_true rfl (.inr trivial)
  | device data =>
    obtain ⟨alpha, beta, errorCode⟩ := data
    simp only [groundPacket, Packet.device.injEq, DeviceData.mk.injEq, groundFloat_iff, Symmetric, and_true]
    exact or_and_left.symm

theorem received_cosmos (processorEndian order : ByteOrder) (packet : Packet) (top : TelemetryHeader (mid packet)) :
    received (cosmos processorEndian) (Telemetry.bytes order packet top) =
      some (groundPacket (processorBigEndian processorEndian) order packet) :=
  received_bytes (ccsdsItems_heads processorEndian) (.inl rfl) order packet top

theorem received_xtce {ccsdsTm : List Item} (heads : Heads ccsdsTm) (order : ByteOrder) (packet : Packet)
    (top : TelemetryHeader (mid packet)) :
    received (xtce ccsdsTm) (Telemetry.bytes order packet top) = some (groundPacket false order packet) :=
  received_bytes heads (.inr rfl) order packet top

/-- A ground system that uses the COSMOS database takes every packet for what it is, as long as the
processor's byte order is configured right; otherwise only the packets whose angles do not show the order. -/
theorem received_cosmos_iff (processorEndian order : ByteOrder) (packet : Packet) (top : TelemetryHeader (mid packet)) :
    received (cosmos processorEndian) (Telemetry.bytes order packet top) = some packet ↔
      processorEndian = order ∨ Symmetric packet := by
  rw [received_cosmos, Option.some_inj, groundPacket_iff]
  cases processorEndian <;> cases order <;> simp [processorBigEndian]

end Reception

section Databases

theorem hkItems_alike (first second : Bool) : List.Forall₂ Item.Alike (hkItems first) (hkItems second) := by
  have alike (name : String) : Item.Alike ⟨name, 1, first⟩ ⟨name, 1, second⟩ := ⟨rfl, rfl, .inl (Nat.le_refl 1)⟩
  exact .cons (alike _) (.cons (alike _) (.cons (alike _) (.cons (alike _) (.cons (alike _) .nil))))

theorem dataItems_alike (floats first second : Bool) : List.Forall₂ Item.Alike (dataItems floats first) (dataItems floats second) :=
  .cons ⟨rfl, rfl, .inr rfl⟩ (.cons ⟨rfl, rfl, .inr rfl⟩ (.cons ⟨rfl, rfl, .inl (Nat.le_refl 1)⟩ .nil))

variable {header header' : List Item} (heads : Heads header) (heads' : Heads header')
include heads heads'

/-- Two headers make no difference to what is read behind them. -/
theorem packet_congr {items items' : List Item} (alike : List.Forall₂ Item.Alike items items') (name : String) (streamId : Nat)
    (bytes : List UInt8) :
    Definition.packet ⟨name, streamId, header ++ items⟩ bytes = Definition.packet ⟨name, streamId, header' ++ items'⟩ bytes := by
  have same {item : String} (member : item ∈ (hkItems true ++ dataItems true true).map Item.name) :
      read (header ++ items) item bytes = read (header' ++ items') item bytes := by
    rw [read_item heads member, read_item heads' member, Layout.read, decode_congr alike]
    rfl
  simp only [Definition.packet]
  rw [same (by decide), same (by decide), same (by decide), same (by decide), same (by decide), same (by decide),
    same (by decide), same (by decide)]

theorem received_congr {definitions definitions' : List Definition} {bigEndian bigEndian' floats errorCode errorCode' : Bool}
    (defines : Defines definitions header bigEndian floats errorCode)
    (defines' : Defines definitions' header' bigEndian' floats errorCode') (bytes : List UInt8) :
    received definitions bytes = received definitions' bytes := by
  rw [received_eq heads defines, received_eq heads' defines', packet_congr heads heads' (hkItems_alike _ bigEndian'),
    packet_congr heads heads' (dataItems_alike _ _ errorCode')]

end Databases

/-- A packet that shows its byte order: the first angle is 1.0. -/
def orderly : Packet := .device ⟨0x3F800000, 0, 0⟩

def orderlyHeader : TelemetryHeader (mid orderly) := ⟨[0x09, 0x21], .replicate 14 0, rfl, rfl, rfl⟩

/-- The two databases agree on whatever arrives, if and only if the processor is taken to be little-endian. -/
theorem xtce_agrees_iff {ccsdsTm : List Item} (heads : Heads ccsdsTm) (processorEndian : ByteOrder) :
    (∀ bytes, received (xtce ccsdsTm) bytes = received (cosmos processorEndian) bytes) ↔ processorEndian = .littleEndian := by
  constructor
  · intro agree
    have same := agree (Telemetry.bytes .littleEndian orderly orderlyHeader)
    rw [received_xtce heads, received_cosmos, Option.some_inj] at same
    cases processorEndian with
    | littleEndian => rfl
    | bigEndian => exact absurd same (by decide)
  · rintro rfl
    exact received_congr heads (ccsdsItems_heads _) (.inr rfl) (.inl rfl)

theorem xtce_agrees_iff_cosmos_header :
    received (xtce (ccsdsItems .bigEndian)) (Telemetry.bytes .littleEndian orderly orderlyHeader) =
      received (cosmos .littleEndian) (Telemetry.bytes .littleEndian orderly orderlyHeader) :=
  (xtce_agrees_iff (ccsdsItems_heads .bigEndian) .littleEndian).mpr rfl _

end GenericFss.Proofs.TelemetryFormat
