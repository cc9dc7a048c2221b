import SignOnOperator.Bytes.Basic
/-!
# Base 64

The standard alphabet with padding.  Reading is strict: every group is complete, padding stands at the end only, and
the bits that padding leaves over are zero, so each byte string has one written form.
-/
namespace SignOnOperator.Base64

/-- The digits in order of their values. -/
def alphabet : List Char := "ABCDEFGHIJKLMNOPQRSTUVWXYZabcdefghijklmnopqrstuvwxyz0123456789+/".toList

def digit (value : Nat) : Char := alphabet.getD value '='

def digitValue? (byte : UInt8) : Option Nat := alphabet.idxOf? (Char.ofNat byte.toNat)

/-- Four digits for each three bytes, the last group padded. -/
def encodeDigits : Bytes → List Char
  | [] => []
  | [a] =>
    let n := a.toNat * 65536
    [digit (n / 262144), digit (n / 4096 % 64), '=', '=']
  | [a, b] =>
    let n := a.toNat * 65536 + b.toNat * 256
    [digit (n / 262144), digit (n / 4096 % 64), digit (n / 64 % 64), '=']
  | a :: b :: c :: rest =>
    let n := a.toNat * 65536 + b.toNat * 256 + c.toNat
    digit (n / 262144) :: digit (n / 4096 % 64) :: digit (n / 64 % 64) :: digit (n % 64) :: encodeDigits rest

def encode (bytes : Bytes) : String := String.ofList (encodeDigits bytes)

/-- Why a text is not in base 64. -/
inductive Malformed where
  | symbol (byte : UInt8) (offset : Nat)
  | lastSymbol (byte : UInt8) (offset : Nat)
  | length (symbols : Nat)
  | padding
  deriving DecidableEq, Repr

def Malformed.message : Malformed → String
  | symbol byte offset => s!"Invalid symbol {byte.toNat}, offset {offset}."
  | lastSymbol byte offset => s!"Invalid last symbol {byte.toNat}, offset {offset}."
  | length symbols => s!"Invalid input length: {symbols}"
  | padding => "Invalid padding"

/-- The byte `=`. -/
def paddingByte : UInt8 := 61

/-- The values of the digits of a full group, or where its first byte that is no digit stands. -/
def groupValues (offset : Nat) : Bytes → Except Malformed (List Nat)
  | [] => .ok []
  | b :: rest =>
    match digitValue? b with
    | none => .error (.symbol b offset)
    | some value => (groupValues (offset + 1) rest).map (value :: ·)

/-- What the scan of the last group has seen: the digits so far with the last one's byte, and the padding with the
offset of its first mark. -/
structure Tail where
  values : List Nat := []
  lastByte : UInt8 := paddingByte
  padding : Nat := 0
  firstPadding : Nat := 0

/-- Scans the last group, which starts at `start`. -/
def scanTail (start : Nat) : Nat → Bytes → Tail → Except Malformed Tail
  | _, [], tail => .ok tail
  | i, b :: rest, tail =>
    if b = paddingByte then
      if i < 2 then .error (.symbol b (start + i))
      else
        scanTail start (i + 1) rest
          { tail with
            firstPadding := if tail.padding = 0 then start + i else tail.firstPadding
            padding := tail.padding + 1 }
    else if tail.padding > 0 then .error (.symbol paddingByte tail.firstPadding)
    else
      match digitValue? b with
      | none => .error (.symbol b (start + i))
      | some value =>
        scanTail start (i + 1) rest { tail with values := tail.values ++ [value], lastByte := b }

/-- The bytes of the last group, which holds at most four bytes. -/
def decodeTail (start : Nat) (group : Bytes) : Except Malformed Bytes := do
  let tail ← scanTail start 0 group {}
  if !group.isEmpty && tail.values.length < 2 then
    throw (.length (start + tail.values.length))
  if (tail.padding + tail.values.length) % 4 ≠ 0 then
    throw .padding
  match tail.values with
  | [a, b] =>
    if b % 16 ≠ 0 then throw (.lastSymbol tail.lastByte (start + 1))
    return [UInt8.ofNat (a * 4 + b / 16)]
  | [a, b, c] =>
    if c % 4 ≠ 0 then throw (.lastSymbol tail.lastByte (start + 2))
    return [UInt8.ofNat (a * 4 + b / 16), UInt8.ofNat (b * 16 + c / 4)]
  | [a, b, c, d] => return [UInt8.ofNat (a * 4 + b / 16), UInt8.ofNat (b * 16 + c / 4), UInt8.ofNat (c * 64 + d)]
  | _ => return []

/-- Full groups of four, then the last one, which holds one to four bytes. -/
def decodeGroups (offset : Nat) : Bytes → Except Malformed Bytes
  | a :: b :: c :: d :: e :: rest => do
    match ← groupValues offset [a, b, c, d] with
    | [w, x, y, z] =>
      let bytes ← decodeGroups (offset + 4) (e :: rest)
      return UInt8.ofNat (w * 4 + x / 16) :: UInt8.ofNat (x * 16 + y / 4) :: UInt8.ofNat (y * 64 + z) :: bytes
    | _ => return []
  | group => decodeTail offset group
termination_by bytes => bytes.length

/-- The bytes that a text in base 64 stands for.  A stray last byte is looked at first. -/
def decode (text : Bytes) : Except Malformed Bytes :=
  match text.getLast? with
  | some last =>
    if text.length % 4 = 1 ∧ last ≠ paddingByte ∧ (digitValue? last).isNone then
      .error (.symbol last (text.length - 1))
    else decodeGroups 0 text
  | none => .ok []

end SignOnOperator.Base64
