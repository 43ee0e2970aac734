import BluetoothControl.Address
import BluetoothControl.Text.Utf8

/-!
# Device information

The kernel describes an adapter by a record of 92 bytes: fields one after the other, each aligned
to its unit, numbers least significant byte first.  `Field.offset` computes where a field stands,
`DeviceInfo.ofBytes` reads the fields that callers see.
-/

namespace BluetoothControl

/-! ## Layout -/

/-- The fields of a device record. -/
inductive Field
  | devId | name | address | flags | type | features | packetType | linkPolicy | linkMode
  | aclMtu | aclPackets | scoMtu | scoPackets | statistics
  deriving Repr, DecidableEq

namespace Field

/-- The fields in order. -/
def all : List Field :=
  [devId, name, address, flags, type, features, packetType, linkPolicy, linkMode, aclMtu,
    aclPackets, scoMtu, scoPackets, statistics]

/-- The kernel's name of a field. -/
def title : Field → String
  | devId => "dev_id"
  | name => "name"
  | address => "bdaddr"
  | flags => "flags"
  | type => "type"
  | features => "features"
  | packetType => "pkt_type"
  | linkPolicy => "link_policy"
  | linkMode => "link_mode"
  | aclMtu => "acl_mtu"
  | aclPackets => "acl_pkts"
  | scoMtu => "sco_mtu"
  | scoPackets => "sco_pkts"
  | statistics => "stat"

/-- The bytes of one unit of a field; a field starts at a multiple of it. -/
def unit : Field → Nat
  | name | address | type | features => 1
  | devId | aclMtu | aclPackets | scoMtu | scoPackets => 2
  | flags | packetType | linkPolicy | linkMode | statistics => 4

/-- The units of a field. -/
def count : Field → Nat
  | name | features => 8
  | address => 6
  | statistics => 10
  | _ => 1

/-- The bytes of a field. -/
def size (f : Field) : Nat := f.unit * f.count

/-- The next multiple of `unit`. -/
def aligned (unit position : Nat) : Nat := (position + unit - 1) / unit * unit

/-- Where `f` stands when the fields of a list are laid out from a position on. -/
def offsetFrom (f : Field) : List Field → Nat → Nat
  | [], position => position
  | g :: rest, position =>
    let start := aligned g.unit position
    if f = g then start else offsetFrom f rest (start + g.size)

/-- Where a field stands in a record. -/
def offset (f : Field) : Nat := offsetFrom f all 0

/-- The bytes of a record. -/
def recordSize : Nat := aligned 4 (statistics.offset + statistics.size)

end Field

/-! ## Reading -/

/-- A number from its bytes, least significant first. -/
def littleEndian : List UInt8 → Nat
  | [] => 0
  | b :: rest => b.toNat + 256 * littleEndian rest

/-- Bytes copied over a zeroed record: cut at its end, or the rest left zero. -/
def recordOf (bytes : List UInt8) : List UInt8 :=
  bytes.take Field.recordSize ++ List.replicate (Field.recordSize - bytes.length) 0

/-- The bytes of a field in a record. -/
def Field.slice (f : Field) (record : List UInt8) : List UInt8 :=
  (record.drop f.offset).take f.size

/-- What callers learn about an adapter. -/
structure DeviceInfo where
  name : String
  address : String
  /-- The transport that the adapter is attached by. -/
  bus : String
  up : Bool
  running : Bool
  flags : Nat
  aclMtu : Nat
  aclPackets : Nat
  scoMtu : Nat
  scoPackets : Nat
  deriving Repr, DecidableEq

namespace DeviceInfo

/-- The names of the transports, by number. -/
def busNames : List String :=
  ["VIRTUAL", "USB", "PCCARD", "UART", "RS232", "PCI", "SDIO", "SPI", "I2C", "SMD", "VIRTIO"]

/-- The transport of a type byte: its low half decides, and a number without a name is shown. -/
def busName (type : Nat) : String :=
  let n := type % 16
  match busNames[n]? with
  | some name => name
  | none => String.ofList ('0' :: 'x' :: Text.hexPadded n 2)

/-- The flag that says the device is up. -/
def upBit : Nat := 0

/-- The flag that says the transport is running. -/
def runningBit : Nat := 2

/-- The name in a record: up to the first zero byte, read as UTF-8. -/
def nameOf (record : List UInt8) : String :=
  String.ofList (Text.decodeUtf8 ((Field.name.slice record).takeWhile (· ≠ 0)))

/-- The information in a record; a record without a name is called by the adapter's. -/
def ofRecord (adapter : String) (record : List UInt8) : DeviceInfo :=
  let number := fun (f : Field) => littleEndian (f.slice record)
  let name := nameOf record
  let flags := number .flags
  { name := if name = "" then adapter else name
    address := Address.ofBytes (Field.address.slice record)
    bus := busName (number .type)
    up := flags.testBit upBit
    running := flags.testBit runningBit
    flags
    aclMtu := number .aclMtu
    aclPackets := number .aclPackets
    scoMtu := number .scoMtu
    scoPackets := number .scoPackets }

/-- The information in a buffer of any length. -/
def ofBytes (adapter : String) (bytes : List UInt8) : DeviceInfo :=
  ofRecord adapter (recordOf bytes)

/-! ## Lemmas -/

theorem recordSize_eq : Field.recordSize = 92 := by decide

theorem length_recordOf (bytes : List UInt8) : (recordOf bytes).length = Field.recordSize := by
  simp only [recordOf, List.length_append, List.length_take, List.length_replicate]
  omega

theorem offsets_eq :
    Field.all.map Field.offset = [0, 2, 10, 16, 20, 21, 32, 36, 40, 44, 46, 48, 50, 52] := by
  decide

end DeviceInfo

end BluetoothControl
