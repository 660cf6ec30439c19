/-!
# Checksum

The cyclic redundancy check of a backup, CRC-32 with the reflected IEEE
polynomial. The checksum of what was to be saved is compared with that of
what is found on disk afterwards.

## Main definitions

* `Checksum.shift`: One division step of the remainder.
* `Checksum.byte`: The remainder after one byte.
* `Checksum.ofBytes`: The checksum of some bytes.
-/

namespace Rerun

namespace Checksum

/-- The reflected IEEE polynomial. -/
def polynomial : UInt32 := 0xEDB88320

/-- One division step of the remainder. -/
def shift (remainder : UInt32) : UInt32 :=
  if remainder &&& 1 == 1 then (remainder >>> 1) ^^^ polynomial else remainder >>> 1

/-- The remainder after some division steps. -/
def shifts : Nat → UInt32 → UInt32
  | 0, remainder => remainder
  | n + 1, remainder => shifts n (shift remainder)

/-- The remainder after one byte. -/
def byte (remainder : UInt32) (b : UInt8) : UInt32 :=
  shifts 8 (remainder ^^^ b.toUInt32)

/-- The checksum of some bytes. -/
def ofBytes (bytes : List UInt8) : UInt32 :=
  bytes.foldl byte 0xFFFFFFFF ^^^ 0xFFFFFFFF

/-- A checksum as eight hexadecimal digits. -/
def hex (checksum : UInt32) : String :=
  let digits := Nat.toDigits 16 checksum.toNat
  String.ofList (List.replicate (8 - digits.length) '0' ++ digits)

end Checksum

end Rerun
