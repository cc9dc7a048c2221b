import SignOnOperator.Bytes.Basic
/-!
# Hexadecimal

Bytes as pairs of hexadecimal digits, the high half first.
-/
namespace SignOnOperator

/-- The lower-case hexadecimal digit of a number below 16. -/
def hexDigit (n : Nat) : Char :=
  if n < 10 then Char.ofNat ('0'.toNat + n) else Char.ofNat ('a'.toNat + (n - 10))

/-- The value of a hexadecimal digit of either case. -/
def hexDigit? (c : Char) : Option Nat :=
  if '0' ≤ c ∧ c ≤ '9' then some (c.toNat - '0'.toNat)
  else if 'a' ≤ c ∧ c ≤ 'f' then some (c.toNat - 'a'.toNat + 10)
  else if 'A' ≤ c ∧ c ≤ 'F' then some (c.toNat - 'A'.toNat + 10)
  else none

namespace Bytes

/-- Two digits a byte. -/
def toHexDigits (bytes : Bytes) : List Char :=
  bytes.flatMap fun b => [hexDigit (b.toNat / 16), hexDigit (b.toNat % 16)]

def toHex (bytes : Bytes) : String := String.ofList bytes.toHexDigits

/-- Refuses an odd number of digits and anything that is no digit. -/
def ofHexDigits? : List Char → Option Bytes
  | [] => some []
  | [_] => none
  | high :: low :: rest => do
    let h ← hexDigit? high
    let l ← hexDigit? low
    let bytes ← ofHexDigits? rest
    return UInt8.ofNat (h * 16 + l) :: bytes

def ofHex? (text : String) : Option Bytes := ofHexDigits? text.toList

end Bytes
end SignOnOperator
