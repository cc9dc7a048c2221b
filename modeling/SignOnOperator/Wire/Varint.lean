import SignOnOperator.Bytes.Basic
/-!
# Numbers of variable length

A number below 2^64 in base 128, the lowest digit first, one digit a byte.  Every byte but the last has 128 added.
-/
namespace SignOnOperator.Wire

/-- The shortest form of a number. -/
def encodeVarint (n : Nat) : Bytes :=
  if n < 128 then [UInt8.ofNat n] else UInt8.ofNat (n % 128 + 128) :: encodeVarint (n / 128)
termination_by n
decreasing_by omega

/-- Reads the digits from the `place`-th on, and gives back what follows.  Ten digits hold 70 bits, so of the tenth
only the lowest bit may be set. -/
def readDigits : Nat → Bytes → Option (Nat × Bytes)
  | _, [] => none
  | place, b :: rest =>
    if place = 9 then if b.toNat < 2 then some (b.toNat, rest) else none
    else if b.toNat < 128 then some (b.toNat, rest)
    else (readDigits (place + 1) rest).map fun higher => (b.toNat - 128 + 128 * higher.1, higher.2)

/-- Reads a number; longer forms than needed are read too. -/
def readVarint? (bytes : Bytes) : Option (Nat × Bytes) := readDigits 0 bytes

end SignOnOperator.Wire
