import MhWallet.Bytes.BigEndian
import MhWallet.Bytes.Buffer

/-!
Contract: the operations of the toolbox package that the wallet calls, with
the documented behaviour the wallet relies on.

The package is not part of the repository, so it is a parameter: a `Toolbox`
is any implementation whose operations obey the laws below.  An operation that
throws `std::out_of_range` returns `none`.

Owns: the operations, their laws, and one implementation that shows the laws
are satisfiable.
-/

namespace MhWallet

open MhWallet.Bytes

abbrev Bytes := List UInt8

/-- `tb::bytes_data` and `tb::bytes_buffer` as the wallet uses them. -/
structure Toolbox where
  /-- `bytes_data(n)`. -/
  bytesData : Nat → Bytes
  /-- `write(pos, x)`: the number of bytes stored and the buffer after. -/
  write : Bytes → Nat → Bytes → Nat × Bytes
  /-- The bytes that `write` stores for a `uint16_t`. -/
  uint16Bytes : UInt16 → Bytes
  /-- The bytes that `write` and `num_to_bytes` store for a `uint32_t`. -/
  uint32Bytes : UInt32 → Bytes
  /-- `to_num<uint16_t>(pos)`. -/
  toUInt16 : Bytes → Nat → Option UInt16
  /-- `to_num<uint32_t>(pos)`. -/
  toUInt32 : Bytes → Nat → Option UInt32
  /-- `at(pos)`. -/
  at? : Bytes → Nat → Option UInt8
  /-- `take_range(a, b)`. -/
  takeRange : Bytes → Nat → Nat → Option Bytes
  /-- `take_range_c(a, b)`. -/
  takeRangeC : Bytes → Nat → Nat → Option Bytes
  /-- `take_range_from(a)`. -/
  takeRangeFrom : Bytes → Nat → Option Bytes
  /-- `take_range_to(b)`. -/
  takeRangeTo : Bytes → Nat → Option Bytes
  /-- `take_first(n)`. -/
  takeFirst : Bytes → Nat → Option Bytes
  /-- `take_last(n)`. -/
  takeLast : Bytes → Nat → Option Bytes
  /-- `pop_front_to(pos, chunk)`: the number of bytes moved, the buffer and the
  chunk after. -/
  popFrontTo : Bytes → Nat → Bytes → Nat × Bytes × Bytes
  /-- `resize(n)`. -/
  resize : Bytes → Nat → Bytes
  bytesData_eq : ∀ count, bytesData count = List.replicate count 0
  write_eq : ∀ data position content,
    write data position content = (content.length, overwrite data position content)
  uint16Bytes_eq : ∀ value, uint16Bytes value = bigEndian 2 value.toNat
  uint32Bytes_eq : ∀ value, uint32Bytes value = bigEndian 4 value.toNat
  toUInt16_eq : ∀ data position, toUInt16 data position =
    (slice? data position (position + 2)).map fun part => .ofNat (ofBigEndian part)
  toUInt32_eq : ∀ data position, toUInt32 data position =
    (slice? data position (position + 4)).map fun part => .ofNat (ofBigEndian part)
  at?_eq : ∀ data position, at? data position = data[position]?
  takeRange_eq : ∀ data start stop, takeRange data start stop = slice? data start stop
  takeRangeC_eq : ∀ data start stop, takeRangeC data start stop = slice? data start stop
  takeRangeFrom_eq : ∀ data start,
    takeRangeFrom data start = slice? data start data.length
  takeRangeTo_eq : ∀ data stop, takeRangeTo data stop = slice? data 0 stop
  takeFirst_eq : ∀ data count, takeFirst data count = slice? data 0 count
  takeLast_eq : ∀ data count, takeLast data count =
    if count ≤ data.length then slice? data (data.length - count) data.length else none
  popFrontTo_eq : ∀ buffer position target,
    popFrontTo buffer position target =
      (min buffer.length (target.length - position),
        buffer.drop (min buffer.length (target.length - position)),
        overwrite target position
          (buffer.take (min buffer.length (target.length - position))))

namespace Toolbox

attribute [simp] bytesData_eq write_eq uint16Bytes_eq uint32Bytes_eq toUInt16_eq
  toUInt32_eq at?_eq takeRange_eq takeRangeC_eq takeRangeFrom_eq takeRangeTo_eq
  takeFirst_eq takeLast_eq popFrontTo_eq

/-- The implementation that the laws spell out. -/
def reference : Toolbox where
  bytesData count := List.replicate count 0
  write data position content := (content.length, overwrite data position content)
  uint16Bytes value := bigEndian 2 value.toNat
  uint32Bytes value := bigEndian 4 value.toNat
  toUInt16 data position :=
    (slice? data position (position + 2)).map fun part => .ofNat (ofBigEndian part)
  toUInt32 data position :=
    (slice? data position (position + 4)).map fun part => .ofNat (ofBigEndian part)
  at? data position := data[position]?
  takeRange := slice?
  takeRangeC := slice?
  takeRangeFrom data start := slice? data start data.length
  takeRangeTo data stop := slice? data 0 stop
  takeFirst data count := slice? data 0 count
  takeLast data count :=
    if count ≤ data.length then slice? data (data.length - count) data.length else none
  popFrontTo buffer position target :=
    (min buffer.length (target.length - position),
      buffer.drop (min buffer.length (target.length - position)),
      overwrite target position
        (buffer.take (min buffer.length (target.length - position))))
  resize data count := data.take count ++ List.replicate (count - data.length) 0
  bytesData_eq _ := rfl
  write_eq _ _ _ := rfl
  uint16Bytes_eq _ := rfl
  uint32Bytes_eq _ := rfl
  toUInt16_eq _ _ := rfl
  toUInt32_eq _ _ := rfl
  at?_eq _ _ := rfl
  takeRange_eq _ _ _ := rfl
  takeRangeC_eq _ _ _ := rfl
  takeRangeFrom_eq _ _ := rfl
  takeRangeTo_eq _ _ := rfl
  takeFirst_eq _ _ := rfl
  takeLast_eq _ _ := rfl
  popFrontTo_eq _ _ _ := rfl

end Toolbox

end MhWallet
