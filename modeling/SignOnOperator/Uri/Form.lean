import SignOnOperator.Bytes.Basic
/-!
# Parameters of a query

Names and values as forms send them: letters, digits and `*-._` stand for themselves, a space becomes a plus sign, and
every other byte of the UTF-8 form is a percent sign with two hexadecimal digits in upper case.
-/
namespace SignOnOperator.Uri

def isFormChar (c : Char) : Bool := c.isAlphanum || c = '*' || c = '-' || c = '.' || c = '_'

/-- The upper-case hexadecimal digit of a number below 16. -/
def upperHexDigit (n : Nat) : Char :=
  if n < 10 then Char.ofNat ('0'.toNat + n) else Char.ofNat ('A'.toNat + (n - 10))

def percentEncode (b : UInt8) : List Char := ['%', upperHexDigit (b.toNat / 16), upperHexDigit (b.toNat % 16)]

def encodeFormChar (c : Char) : List Char :=
  if isFormChar c then [c]
  else if c = ' ' then ['+']
  else (Bytes.ofString c.toString).flatMap percentEncode

def encodeForm (text : String) : String := String.ofList (text.toList.flatMap encodeFormChar)

/-- Parameters, each after an ampersand. -/
def formQuery (parameters : List (String × String)) : String :=
  String.join (parameters.map fun p => s!"&{encodeForm p.1}={encodeForm p.2}")

end SignOnOperator.Uri
