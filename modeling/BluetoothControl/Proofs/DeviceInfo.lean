import Mathlib.Data.List.GetD
import Mathlib.Data.List.TakeWhile
import BluetoothControl.Host.DeviceRecord
import BluetoothControl.Proofs.Spelling
import BluetoothControl.Proofs.Utf8
import BluetoothControl.Text.Separated

/-!
# Device information read back

From the bytes of a device record callers learn what the kernel put into them: the name, the address
with its most significant byte first, the transport, the flags and the sizes of the buffers
(`describes_record`).  Each of these depends on the bytes of its own field alone, whatever bytes
they are, and a buffer of another length is read like one that was cut or filled up with zeros.
-/

namespace BluetoothControl

open BluetoothControl.Text

/-! ## Addresses as numbers -/

namespace Address

/-- The value of an upper-case hexadecimal digit. -/
def hexValue (c : Char) : Nat := if c ≤ '9' then c.toNat - 48 else c.toNat - 55

/-- The number that the digits of an address spell, colons left out. -/
def numberOf (address : List Char) : Nat :=
  (address.filter (· ≠ ':')).foldl (fun n c => 16 * n + hexValue c) 0

theorem upperHexDigit_spec {n : Nat} (h : n < 16) :
    isUpperHex (upperHexDigit n) = true ∧ hexValue (upperHexDigit n) = n := by
  have hall : ∀ n < 16, isUpperHex (upperHexDigit n) = true ∧ hexValue (upperHexDigit n) = n := by
    decide +kernel
  exact hall n h

theorem isUpperHex_upperHexByte (b : UInt8) : ∀ c ∈ upperHexByte b, isUpperHex c = true := by
  have hb := b.toNat_lt
  intro c hc
  simp only [upperHexByte, List.mem_cons, List.not_mem_nil, or_false] at hc
  rcases hc with rfl | rfl
  · exact (upperHexDigit_spec (by omega)).1
  · exact (upperHexDigit_spec (by omega)).1

/-- Two digits are read after a number. -/
theorem foldl_upperHexByte (n : Nat) (b : UInt8) :
    (upperHexByte b).foldl (fun n c => 16 * n + hexValue c) n = 256 * n + b.toNat := by
  have hb := b.toNat_lt
  have hfirst := (upperHexDigit_spec (show b.toNat / 16 < 16 by omega)).2
  have hsecond := (upperHexDigit_spec (show b.toNat % 16 < 16 by omega)).2
  simp only [upperHexByte, List.foldl_cons, List.foldl_nil, hfirst, hsecond]
  omega

/-- Without its colons an address is its digits. -/
theorem filter_intercalate {groups : List (List Char)} (h : ∀ group ∈ groups, ':' ∉ group) :
    ([':'].intercalate groups).filter (· ≠ ':') = groups.flatten := by
  have hkeep : ∀ group ∈ groups, group.filter (· ≠ ':') = group := by
    intro group hgroup
    exact List.filter_eq_self.mpr (ne_of_separated (h group hgroup))
  cases groups with
  | nil => rfl
  | cons group rest =>
    obtain ⟨hgroup, hrest⟩ := List.forall_mem_cons.mp hkeep
    rw [intercalate_cons_eq, List.filter_append, hgroup, List.flatten_cons]
    congr 1
    clear h hkeep
    induction rest with
    | nil => rfl
    | cons next more ih =>
      obtain ⟨hnext, hmore⟩ := List.forall_mem_cons.mp hrest
      rw [List.flatMap_cons, List.filter_append, List.filter_cons_of_neg (by simp), hnext,
        ih hmore, List.flatten_cons]

/-- An address spells its bytes, most significant first. -/
theorem numberOf_ofBytes (bytes : List UInt8) :
    numberOf (ofBytes bytes).toList = littleEndian bytes := by
  have hcolon : ∀ group ∈ bytes.reverse.map upperHexByte, ':' ∉ group := by
    intro group hgroup hmem
    obtain ⟨b, -, rfl⟩ := List.mem_map.mp hgroup
    exact absurd (isUpperHex_upperHexByte b _ hmem) (by decide)
  unfold numberOf ofBytes
  rw [String.toList_ofList, filter_intercalate hcolon]
  clear hcolon
  induction bytes with
  | nil => rfl
  | cons b rest ih =>
    rw [List.reverse_cons, List.map_append, List.flatten_append, List.foldl_append, ih]
    have hlast := foldl_upperHexByte (littleEndian rest) b
    simp only [List.map_cons, List.map_nil, List.flatten_cons, List.flatten_nil, List.append_nil,
      hlast, littleEndian]
    omega

/-- The address of six bytes is canonical. -/
theorem isCanonical_ofBytes {bytes : List UInt8} (h : bytes.length = 6) :
    isCanonical (ofBytes bytes).toList = true := by
  have hdigits : ∀ b : UInt8, ∃ c d, upperHexByte b = [c, d] ∧ isUpperHex c = true ∧
      isUpperHex d = true := by
    intro b
    exact ⟨_, _, rfl, isUpperHex_upperHexByte b _ (by simp [upperHexByte]),
      isUpperHex_upperHexByte b _ (by simp [upperHexByte])⟩
  have htail : ∀ bs : List UInt8,
      isTail bs.length ((bs.map upperHexByte).flatMap (':' :: ·)) = true := by
    intro bs
    induction bs with
    | nil => rfl
    | cons b rest ih =>
      obtain ⟨c, d, hb, hc, hd⟩ := hdigits b
      simp [hb, isTail, hc, hd, ih]
  unfold ofBytes
  rw [String.toList_ofList]
  cases hbytes : bytes.reverse with
  | nil => simp [List.reverse_eq_nil_iff.mp hbytes] at h
  | cons b rest =>
    have hrest : rest.length = 5 := by
      have hlength := congrArg List.length hbytes
      rw [List.length_reverse, h, List.length_cons] at hlength
      omega
    obtain ⟨c, d, hb, hc, hd⟩ := hdigits b
    have htail5 := htail rest
    rw [hrest] at htail5
    rw [List.map_cons, intercalate_cons_eq, hb]
    simp [isCanonical, hc, hd, htail5]

end Address

/-! ## Names -/

namespace DeviceRecord

/-- A name is the bytes before the first zero byte of its place. -/
theorem takeWhile_name (r : DeviceRecord) :
    (r.field .name).takeWhile (· ≠ 0) = encodeUtf8 r.name.toList := by
  have hzero : (0 : UInt8) ∉ encodeUtf8 r.name.toList := by
    intro hmem
    exact ne_zero_of_mem_encodeUtf8 r.name_nonzero 0 hmem rfl
  unfold field
  by_cases hfull : (encodeUtf8 r.name.toList).length = 8
  · rw [List.take_left' hfull]
    exact List.takeWhile_eq_self_iff.mpr (ne_of_separated hzero)
  · -- There is room for at least one zero byte.
    obtain ⟨room, hroom⟩ : ∃ room, 8 - (encodeUtf8 r.name.toList).length = room + 1 :=
      ⟨8 - (encodeUtf8 r.name.toList).length - 1, by have := r.name_fits; omega⟩
    rw [List.take_append, List.take_of_length_le r.name_fits, hroom, List.take_succ_cons,
      takeWhile_separated hzero]

theorem nameOf_bytes (r : DeviceRecord) : DeviceInfo.nameOf r.bytes = r.name := by
  unfold DeviceInfo.nameOf
  rw [slice_bytes, takeWhile_name, decodeUtf8_encode, String.ofList_toList]

end DeviceRecord

/-! ## Buffers -/

namespace DeviceInfo

/-- A buffer as long as a record is the record. -/
theorem recordOf_of_length {bytes : List UInt8} (h : bytes.length = Field.recordSize) :
    recordOf bytes = bytes := by
  unfold recordOf
  rw [h, Nat.sub_self, List.replicate_zero, List.append_nil, ← h, List.take_length]

/-- In a record stand the bytes of the buffer, and zeros where it has none. -/
theorem getElem?_recordOf (bytes : List UInt8) (i : Nat) :
    (recordOf bytes)[i]? = if i < Field.recordSize then some (bytes.getD i 0) else none := by
  have hlength := length_recordOf bytes
  by_cases hi : i < Field.recordSize
  · rw [if_pos hi]
    unfold recordOf
    by_cases hin : i < bytes.length
    · have htake : i < (bytes.take Field.recordSize).length := by
        rw [List.length_take]
        omega
      rw [List.getElem?_append_left htake, List.getElem?_take_of_lt hi, List.getD_eq_getElem?_getD,
        List.getElem?_eq_getElem hin, Option.getD_some]
    · have htake : (bytes.take Field.recordSize).length = bytes.length := by
        rw [List.length_take]
        omega
      rw [List.getElem?_append_right (by omega), htake, List.getElem?_replicate,
        if_pos (by omega), List.getD_eq_default _ _ (by omega)]
  · rw [if_neg hi]
    exact List.getElem?_eq_none (by omega)

end DeviceInfo

namespace Field

/-- Two buffers hold the same bytes in a field. -/
def Agrees (f : Field) (a b : List UInt8) : Prop :=
  ∀ i, f.offset ≤ i → i < f.offset + f.size → a.getD i 0 = b.getD i 0

theorem slice_eq_of_agrees {f : Field} {a b : List UInt8} (h : f.Agrees a b) :
    f.slice (recordOf a) = f.slice (recordOf b) := by
  apply List.ext_getElem?
  intro i
  simp only [slice, List.getElem?_take, List.getElem?_drop, DeviceInfo.getElem?_recordOf]
  by_cases hi : i < f.size
  · rw [if_pos hi, if_pos hi, h (f.offset + i) (by omega) (by omega)]
  · rw [if_neg hi, if_neg hi]

/-- The type is one byte. -/
theorem slice_type (bytes : List UInt8) :
    type.slice (recordOf bytes) = [bytes.getD type.offset 0] := by
  have hin : type.offset < recordSize := by decide
  have hsize : type.size = 1 := by decide
  apply List.ext_getElem?
  intro i
  simp only [slice, List.getElem?_take, List.getElem?_drop, DeviceInfo.getElem?_recordOf, hsize]
  cases i with
  | zero => simp [hin]
  | succ i => simp

end Field

/-! ## Information -/

namespace DeviceInfo

/-- The information is what a record says of an adapter. -/
structure Describes (adapter : String) (r : DeviceRecord) (d : DeviceInfo) : Prop where
  /-- The adapter's name stands in for an empty one. -/
  name : d.name = if r.name = "" then adapter else r.name
  /-- The address is in the form that every spelling is brought to. -/
  canonical : Address.normalize d.address = .ok d.address
  /-- Its digits spell the number whose bytes stand in the record, least significant first. -/
  address : Address.numberOf d.address.toList = littleEndian r.address.toList
  /-- The high half of the type makes no difference. -/
  bus : d.bus = busName (r.type.toNat % 16)
  up : d.up = r.flags.toNat.testBit 0
  running : d.running = r.flags.toNat.testBit 2
  flags : d.flags = r.flags.toNat
  aclMtu : d.aclMtu = r.aclMtu.toNat
  aclPackets : d.aclPackets = r.aclPackets.toNat
  scoMtu : d.scoMtu = r.scoMtu.toNat
  scoPackets : d.scoPackets = r.scoPackets.toNat

/-- Information from two buffers: what comes from a field is the same if the buffers hold the same
bytes there, whatever the others are. -/
structure Confined (a b : List UInt8) (d e : DeviceInfo) : Prop where
  name : Field.name.Agrees a b → d.name = e.name
  address : Field.address.Agrees a b → d.address = e.address
  /-- Of the type half a byte is enough. -/
  bus : (a.getD Field.type.offset 0).toNat % 16 = (b.getD Field.type.offset 0).toNat % 16 →
    d.bus = e.bus
  up : Field.flags.Agrees a b → d.up = e.up
  running : Field.flags.Agrees a b → d.running = e.running
  flags : Field.flags.Agrees a b → d.flags = e.flags
  aclMtu : Field.aclMtu.Agrees a b → d.aclMtu = e.aclMtu
  aclPackets : Field.aclPackets.Agrees a b → d.aclPackets = e.aclPackets
  scoMtu : Field.scoMtu.Agrees a b → d.scoMtu = e.scoMtu
  scoPackets : Field.scoPackets.Agrees a b → d.scoPackets = e.scoPackets

theorem busName_mod (type : Nat) : busName (type % 16) = busName type := by
  unfold busName
  rw [Nat.mod_mod]

/-- A number of two bytes is read as it was written. -/
theorem number_half {r : DeviceRecord} {f : Field} {n : UInt16}
    (h : r.field f = littleEndianBytes 2 n.toNat) : littleEndian (f.slice r.bytes) = n.toNat := by
  rw [DeviceRecord.slice_bytes, h]
  exact DeviceRecord.littleEndian_littleEndianBytes n.toNat_lt

/-- The bytes of a record tell what it says. -/
theorem describes_ofBytes (adapter : String) (r : DeviceRecord) :
    Describes adapter r (ofBytes adapter r.bytes) := by
  have hrecord : recordOf r.bytes = r.bytes := recordOf_of_length r.length_bytes
  have haddress : Field.address.slice r.bytes = r.address.toList := r.slice_bytes .address
  have htype : littleEndian (Field.type.slice r.bytes) = r.type.toNat := by
    rw [r.slice_bytes]
    simp [DeviceRecord.field, littleEndian]
  have hflags : littleEndian (Field.flags.slice r.bytes) = r.flags.toNat := by
    rw [r.slice_bytes]
    exact DeviceRecord.littleEndian_littleEndianBytes r.flags.toNat_lt
  unfold ofBytes
  rw [hrecord]
  constructor
  case name => simp only [ofRecord, r.nameOf_bytes]
  case canonical =>
    simp only [ofRecord, haddress]
    exact Address.normalize_of_isCanonical (Address.isCanonical_ofBytes r.address.size_toArray)
  case address =>
    simp only [ofRecord, haddress]
    exact Address.numberOf_ofBytes r.address.toList
  case bus => simp only [ofRecord, htype, busName_mod]
  case up => simp only [ofRecord, hflags, upBit]
  case running => simp only [ofRecord, hflags, runningBit]
  case flags => exact hflags
  case aclMtu => exact number_half rfl
  case aclPackets => exact number_half rfl
  case scoMtu => exact number_half rfl
  case scoPackets => exact number_half rfl

/-- No byte makes a difference outside its field. -/
theorem confined_ofBytes (adapter : String) (a b : List UInt8) :
    Confined a b (ofBytes adapter a) (ofBytes adapter b) := by
  have hsame {f : Field} (h : f.Agrees a b) :
      littleEndian (f.slice (recordOf a)) = littleEndian (f.slice (recordOf b)) := by
    rw [Field.slice_eq_of_agrees h]
  constructor
  case name =>
    intro h
    have hname : nameOf (recordOf a) = nameOf (recordOf b) := by
      unfold nameOf
      rw [Field.slice_eq_of_agrees h]
    simp only [ofBytes, ofRecord, hname]
  case address =>
    intro h
    simp only [ofBytes, ofRecord, Field.slice_eq_of_agrees h]
  case bus =>
    intro h
    simp only [ofBytes, ofRecord, Field.slice_type, littleEndian, Nat.mul_zero, Nat.add_zero]
    rw [← busName_mod, h, busName_mod]
  case up =>
    intro h
    simp only [ofBytes, ofRecord, hsame h]
  case running =>
    intro h
    simp only [ofBytes, ofRecord, hsame h]
  case flags => exact hsame
  case aclMtu => exact hsame
  case aclPackets => exact hsame
  case scoMtu => exact hsame
  case scoPackets => exact hsame

/-- What callers learn about an adapter is what the kernel's record of 92 bytes says, field by
field: each one stands aligned in it, is read as it was written, and no byte of another field makes
a difference.  From a buffer of another length they learn what that of a record would say, cut at
its end or filled up with zeros. -/
theorem describes_record (adapter : String) :
    (∀ r : DeviceRecord, r.bytes.length = 92 ∧
      (∀ f : Field, f.unit ∣ f.offset ∧ f.slice r.bytes = r.field f) ∧
      Describes adapter r (ofBytes adapter r.bytes)) ∧
    (∀ a b, Confined a b (ofBytes adapter a) (ofBytes adapter b)) ∧
    (∀ bytes, ofBytes adapter bytes =
      ofBytes adapter (bytes.take 92 ++ List.replicate (92 - bytes.length) 0)) := by
  refine ⟨?_, confined_ofBytes adapter, ?_⟩
  · intro r
    refine ⟨r.length_bytes, ?_, describes_ofBytes adapter r⟩
    intro f
    refine ⟨?_, r.slice_bytes f⟩
    cases f <;> decide
  · intro bytes
    have hsize := recordSize_eq
    have hrecord : recordOf (recordOf bytes) = recordOf bytes :=
      recordOf_of_length (length_recordOf bytes)
    have hcopy : bytes.take 92 ++ List.replicate (92 - bytes.length) 0 = recordOf bytes := by
      unfold recordOf
      rw [hsize]
    rw [hcopy]
    unfold ofBytes
    rw [hrecord]

/-- An adapter on a serial line whose name leaves three bytes of its place as they were. -/
def serialRecord : DeviceRecord where
  devId := 1
  name := "Büro"
  name_fits := by decide
  name_nonzero := by simp
  residue := Vector.replicate 8 0xFF
  address := #v[0x01, 0x02, 0x03, 0xAB, 0xCD, 0xEF]
  flags := 0x80000004
  type := 0x13
  features := Vector.replicate 8 0xFF
  gap := Vector.replicate 3 0xFF
  packetType := 0xCC18
  linkPolicy := 5
  linkMode := 0x8000
  aclMtu := 1021
  aclPackets := 8
  scoMtu := 64
  scoPackets := 0xFFFF
  statistics := Vector.replicate 10 0xFFFFFFFF

example : ofBytes "hci1" serialRecord.bytes =
    { name := "Büro", address := "EF:CD:AB:03:02:01", bus := "UART", up := false, running := true,
      flags := 0x80000004, aclMtu := 1021, aclPackets := 8, scoMtu := 64,
      scoPackets := 0xFFFF } := by
  decide +kernel

end DeviceInfo

end BluetoothControl
