import Mathlib.Algebra.Group.Nat.Defs
import BluetoothControl.Host.DeviceInfo

/-!
# Device records

What the kernel has to say of an adapter, and the 92 bytes that it says it in: the fields in their
order, three bytes of a gap before the packet type, numbers least significant byte first, and the
name ended by a zero byte if it is shorter than its place.  `slice_bytes` says that this is the
layout by which `DeviceInfo.ofBytes` finds the fields.
-/

namespace BluetoothControl

/-- The last bytes of a number, `width` of them, least significant first. -/
def littleEndianBytes : Nat → Nat → List UInt8
  | 0, _ => []
  | width + 1, n => UInt8.ofNat n :: littleEndianBytes width (n / 256)

/-- What the kernel has to say of an adapter.  Its name fits its place and has no zero character;
`residue` and `gap` stand where the record has room and nothing to say. -/
structure DeviceRecord where
  devId : UInt16
  name : String
  name_fits : (Text.encodeUtf8 name.toList).length ≤ 8
  name_nonzero : Char.ofNat 0 ∉ name.toList
  residue : Vector UInt8 8
  address : Vector UInt8 6
  flags : UInt32
  type : UInt8
  features : Vector UInt8 8
  gap : Vector UInt8 3
  packetType : UInt32
  linkPolicy : UInt32
  linkMode : UInt32
  aclMtu : UInt16
  aclPackets : UInt16
  scoMtu : UInt16
  scoPackets : UInt16
  statistics : Vector UInt32 10

namespace DeviceRecord

/-- The bytes of a field.  A name that does not fill its place is ended by a zero byte, and what
stands after that is left as it was. -/
def field (r : DeviceRecord) : Field → List UInt8
  | .devId => littleEndianBytes 2 r.devId.toNat
  | .name => (Text.encodeUtf8 r.name.toList ++ 0 :: r.residue.toList).take 8
  | .address => r.address.toList
  | .flags => littleEndianBytes 4 r.flags.toNat
  | .type => [r.type]
  | .features => r.features.toList
  | .packetType => littleEndianBytes 4 r.packetType.toNat
  | .linkPolicy => littleEndianBytes 4 r.linkPolicy.toNat
  | .linkMode => littleEndianBytes 4 r.linkMode.toNat
  | .aclMtu => littleEndianBytes 2 r.aclMtu.toNat
  | .aclPackets => littleEndianBytes 2 r.aclPackets.toNat
  | .scoMtu => littleEndianBytes 2 r.scoMtu.toNat
  | .scoPackets => littleEndianBytes 2 r.scoPackets.toNat
  | .statistics => r.statistics.toList.flatMap fun n => littleEndianBytes 4 n.toNat

/-- The parts of a record, one after the other. -/
def parts (r : DeviceRecord) : List (List UInt8) :=
  [r.field .devId, r.field .name, r.field .address, r.field .flags, r.field .type,
    r.field .features, r.gap.toList, r.field .packetType, r.field .linkPolicy, r.field .linkMode,
    r.field .aclMtu, r.field .aclPackets, r.field .scoMtu, r.field .scoPackets,
    r.field .statistics]

/-- The bytes of a record. -/
def bytes (r : DeviceRecord) : List UInt8 := r.parts.flatten

/-! ## Lemmas -/

theorem length_littleEndianBytes (width n : Nat) : (littleEndianBytes width n).length = width := by
  induction width generalizing n with
  | zero => rfl
  | succ width ih => rw [littleEndianBytes, List.length_cons, ih]

theorem littleEndian_littleEndianBytes {width n : Nat} (h : n < 256 ^ width) :
    littleEndian (littleEndianBytes width n) = n := by
  induction width generalizing n with
  | zero =>
    rw [Nat.pow_zero] at h
    rw [littleEndianBytes, littleEndian]
    omega
  | succ width ih =>
    have hrest : n / 256 < 256 ^ width := by
      rw [Nat.pow_succ] at h
      exact Nat.div_lt_of_lt_mul (by omega)
    rw [littleEndianBytes, littleEndian, ih hrest, UInt8.toNat_ofNat']
    omega

theorem length_field (r : DeviceRecord) (f : Field) : (r.field f).length = f.size := by
  have hflat (ns : List UInt32) :
      (ns.flatMap fun n => littleEndianBytes 4 n.toNat).length = 4 * ns.length := by
    induction ns with
    | nil => rfl
    | cons n rest ih =>
      rw [List.flatMap_cons, List.length_append, length_littleEndianBytes, ih, List.length_cons]
      omega
  cases f <;> simp [field, length_littleEndianBytes, hflat, Field.size, Field.unit, Field.count]

/-- The lengths of the parts, in order. -/
def lengths : List Nat := [2, 8, 6, 4, 1, 8, 3, 4, 4, 4, 2, 2, 2, 2, 40]

theorem lengths_parts (r : DeviceRecord) : r.parts.map List.length = lengths := by
  simp only [parts, List.map_cons, List.map_nil, length_field, Vector.length_toList]
  decide

theorem length_bytes (r : DeviceRecord) : r.bytes.length = 92 := by
  unfold bytes
  rw [List.length_flatten, lengths_parts]
  decide

/-- A field is found at the part of its number if the parts before that one reach up to it. -/
theorem slice_part {r : DeviceRecord} {f : Field} {k : Nat} (hpart : r.parts[k]? = some (r.field f))
    (hstart : (lengths.take k).foldr (· + ·) 0 = f.offset) : f.slice r.bytes = r.field f := by
  obtain ⟨hk, hget⟩ := List.getElem?_eq_some_iff.mp hpart
  have hsplit : r.parts = r.parts.take k ++ r.field f :: r.parts.drop (k + 1) := by
    rw [← hget, ← List.drop_eq_getElem_cons hk, List.take_append_drop]
  have hbytes : r.bytes =
      (r.parts.take k).flatten ++ (r.field f ++ (r.parts.drop (k + 1)).flatten) := by
    unfold bytes
    conv => lhs; rw [hsplit]
    simp
  have hbefore : (r.parts.take k).flatten.length = f.offset := by
    rw [List.length_flatten, List.map_take, lengths_parts]
    exact hstart
  unfold Field.slice
  rw [hbytes, List.drop_left' hbefore, List.take_left' (length_field r f)]

/-- Fields are found where they were put. -/
theorem slice_bytes (r : DeviceRecord) (f : Field) : f.slice r.bytes = r.field f := by
  cases f with
  | devId => exact slice_part (k := 0) rfl (by decide)
  | name => exact slice_part (k := 1) rfl (by decide)
  | address => exact slice_part (k := 2) rfl (by decide)
  | flags => exact slice_part (k := 3) rfl (by decide)
  | type => exact slice_part (k := 4) rfl (by decide)
  | features => exact slice_part (k := 5) rfl (by decide)
  | packetType => exact slice_part (k := 7) rfl (by decide)
  | linkPolicy => exact slice_part (k := 8) rfl (by decide)
  | linkMode => exact slice_part (k := 9) rfl (by decide)
  | aclMtu => exact slice_part (k := 10) rfl (by decide)
  | aclPackets => exact slice_part (k := 11) rfl (by decide)
  | scoMtu => exact slice_part (k := 12) rfl (by decide)
  | scoPackets => exact slice_part (k := 13) rfl (by decide)
  | statistics => exact slice_part (k := 14) rfl (by decide)

end DeviceRecord

end BluetoothControl
