import Criteria.Value.Basic

/-!
# Parts of Identifiers

The fields that make up an identifier of 128 bits: three of its time, two of its
clock sequence and the node, and what they say about its layout and version.

## Main definitions

* `Uuid.variantText`: The layout of the identifier.
* `Uuid.part?`: A part of the identifier by name.
-/

namespace Criteria

namespace Uuid

/-- The `count` bits above the lowest `low` ones. -/
def bits (u : Uuid) (low count : Nat) : Nat :=
  u.value / Nat.pow 2 low % Nat.pow 2 count

/-- The bytes of a number, highest first. -/
def bytesOf (count n : Nat) : List UInt8 :=
  (List.range count).reverse.map fun i => UInt8.ofNat (n / Nat.pow 256 i % 256)

/-- The first 32 bits: the low part of the time. -/
def timeLow (u : Uuid) : Nat := u.bits 96 32

/-- The next 16 bits: the middle part of the time. -/
def timeMid (u : Uuid) : Nat := u.bits 80 16

/-- The next 16 bits: the version and the high part of the time. -/
def timeHighVersion (u : Uuid) : Nat := u.bits 64 16

/-- The high byte of the clock sequence, with the layout bits. -/
def clockHigh (u : Uuid) : Nat := u.bits 56 8

/-- The low byte of the clock sequence. -/
def clockLow (u : Uuid) : Nat := u.bits 48 8

/-- The last 48 bits: the node. -/
def node (u : Uuid) : Nat := u.bits 0 48

/-- The identifier is laid out by the standard. -/
def isStandard (u : Uuid) : Bool :=
  u.bits 62 2 == 2

/-- The layout of the identifier. -/
def variantText (u : Uuid) : String :=
  if u.bits 63 1 = 0 then "reserved for NCS compatibility"
  else if u.isStandard then "specified in RFC 4122"
  else if u.bits 61 1 = 0 then "reserved for Microsoft compatibility"
  else "reserved for future definition"

/-- The whole time. -/
def time (u : Uuid) : Nat :=
  u.timeHighVersion % Nat.pow 2 12 * Nat.pow 2 48 + u.timeMid * Nat.pow 2 32 + u.timeLow

/-- The whole clock sequence. -/
def clockSequence (u : Uuid) : Nat :=
  u.clockHigh % Nat.pow 2 6 * Nat.pow 2 8 + u.clockLow

/-- The bytes with the parts of the time in little-endian order. -/
def littleEndian (u : Uuid) : List UInt8 :=
  let bs := bytesOf 16 u.value
  (bs.take 4).reverse ++ ((bs.drop 4).take 2).reverse ++ ((bs.drop 6).take 2).reverse ++ bs.drop 8

/-- A part of the identifier by name. -/
def part? (u : Uuid) : String → Option Value
  | "bytes" => some (.bytes (bytesOf 16 u.value))
  | "bytes_le" => some (.bytes u.littleEndian)
  | "fields" =>
    some (.tuple ([u.timeLow, u.timeMid, u.timeHighVersion, u.clockHigh, u.clockLow, u.node].map
      fun (n : Nat) => .int n))
  | "time_low" => some (.int u.timeLow)
  | "time_mid" => some (.int u.timeMid)
  | "time_hi_version" => some (.int u.timeHighVersion)
  | "clock_seq_hi_variant" => some (.int u.clockHigh)
  | "clock_seq_low" => some (.int u.clockLow)
  | "time" => some (.int u.time)
  | "clock_seq" => some (.int u.clockSequence)
  | "node" => some (.int u.node)
  | "hex" => some (.text (String.ofList u.digits))
  | "urn" => some (.text ("urn:uuid:" ++ u.text))
  | "variant" => some (.text u.variantText)
  | "version" => some (if u.isStandard then .int (u.bits 76 4) else .null)
  | "int" => some (.int u.value)
  | _ => none

end Uuid

end Criteria
