import SignOnOperator.Bytes.Hex
import SignOnOperator.Json.Cursor
/-!
# Tokens of JSON

Literal names, strings and numbers, by the grammar of RFC 8259.
-/
namespace SignOnOperator.Document

/-- Reads the rest of a literal name. -/
def scanIdent : List Char → Cursor → Except Fault Cursor
  | [], c => .ok c
  | x :: xs, c =>
    match c.rest with
    | [] => complainAt "EOF while parsing a value" c
    | y :: _ => if x = y then scanIdent xs c.next else complain "expected ident" c

/-- Four hexadecimal digits, which have to take the next four bytes. -/
def scanHex4 (c : Cursor) : Except Fault (Nat × Cursor) :=
  let after := c.placeAfter 4
  match c.rest.take 4 |>.mapM hexDigit? with
  | some [a, b, d, e] => .ok (((a * 16 + b) * 16 + d) * 16 + e, ⟨c.rest.drop 4, after⟩)
  | _ =>
    if c.rest.foldr (·.utf8Size + ·) 0 < 4 then .error ⟨"EOF while parsing a string", after⟩
    else .error ⟨"invalid escape", after⟩

/-- The character of an escape in hexadecimal; two escapes make up a character beyond U+FFFF. -/
def scanUnicode (c : Cursor) : Except Fault (Char × Cursor) := do
  let (unit, c) ← scanHex4 c
  if 0xDC00 ≤ unit ∧ unit ≤ 0xDFFF then complainAt "lone leading surrogate in hex escape" c
  else if 0xD800 ≤ unit ∧ unit ≤ 0xDBFF then
    match c.rest with
    | '\\' :: 'u' :: _ =>
      let (low, c) ← scanHex4 c.next.next
      if 0xDC00 ≤ low ∧ low ≤ 0xDFFF then
        .ok (Char.ofNat (0x10000 + (unit - 0xD800) * 0x400 + (low - 0xDC00)), c)
      else complainAt "lone leading surrogate in hex escape" c
    | [] => complainAt "EOF while parsing a string" c
    | '\\' :: [] => complainAt "EOF while parsing a string" c.next
    | '\\' :: _ => complain "unexpected end of hex escape" c.next
    | _ => complain "unexpected end of hex escape" c
  else .ok (Char.ofNat unit, c)

/-- The character of an escape, after its backslash. -/
def scanEscape (c : Cursor) : Except Fault (Char × Cursor) :=
  match c.rest with
  | [] => complainAt "EOF while parsing a string" c
  | x :: _ =>
    let after := c.next
    if x = '"' ∨ x = '\\' ∨ x = '/' then .ok (x, after)
    else if x = 'b' then .ok (Char.ofNat 8, after)
    else if x = 'f' then .ok (Char.ofNat 12, after)
    else if x = 'n' then .ok ('\n', after)
    else if x = 'r' then .ok ('\r', after)
    else if x = 't' then .ok ('\t', after)
    else if x = 'u' then scanUnicode after
    else complain "invalid escape" c

/-- The characters of a string up to its closing quote, collected latest first. -/
def scanString : Nat → List Char → Cursor → Except Fault (String × Cursor)
  | 0, _, c => complainAt "EOF while parsing a string" c
  | fuel + 1, done, c =>
    match c.rest with
    | [] => complainAt "EOF while parsing a string" c
    | '"' :: _ => .ok (String.ofList done.reverse, c.next)
    | '\\' :: _ => do
      let (x, c) ← scanEscape c.next
      scanString fuel (x :: done) c
    | x :: _ =>
      if x.toNat < 32 then complain "control character (\\u0000-\\u001F) found while parsing a string" c
      else scanString fuel (x :: done) c.next

/-- The decimal digits that come next, appended to a number, and how many there are. -/
def scanDigits : List Char → Nat → Nat → List Char × Nat × Nat
  | [], n, count => ([], n, count)
  | x :: rest, n, count =>
    if x.isDigit then scanDigits rest (n * 10 + (x.toNat - '0'.toNat)) (count + 1) else (x :: rest, n, count)

/-- The digits that come next, as a number, with their count. -/
def digits (c : Cursor) (n : Nat) : Nat × Nat × Cursor :=
  let (rest, n, count) := scanDigits c.rest n 0
  (n, count, ⟨rest, ⟨c.place.line, c.place.column + count⟩⟩)

/-- A whole number, a fraction and an exponent; whole numbers of 64 bits stay whole. -/
def numberOf (negative : Bool) (digits : Nat) (exponent : Option Int) : Option (Json) :=
  let whole : Option Json :=
    match exponent with
    | some _ => none
    | none =>
      if negative then
        if digits = 0 ∨ digits > Nat.pow 2 63 then none else some (.int (-(digits : Int)))
      else if digits < Nat.pow 2 64 then some (.int digits) else none
  match whole with
  | some j => some j
  | none => (Double.ofDecimal? negative digits (exponent.getD 0)).map .float

/-- The exponent of a number after its mark. -/
def scanExponent (c : Cursor) : Except Fault (Int × Cursor) := do
  let (negative, c) := match c.rest with
    | '+' :: _ => (false, c.next)
    | '-' :: _ => (true, c.next)
    | _ => (false, c)
  match c.rest with
  | [] => complainAt "EOF while parsing a value" c
  | x :: _ =>
    if x.isDigit then
      let (n, _, c) := digits c 0
      .ok (if negative then -(n : Int) else n, c)
    else complain "invalid number" c

/-- A number after its sign. -/
def scanNumber (negative : Bool) (c : Cursor) : Except Fault (Json × Cursor) := do
  match c.rest with
  | [] => complainAt "EOF while parsing a value" c
  | x :: _ =>
    if !x.isDigit then complain "invalid number" c
    else
      let (n, _, c) ←
        if x = '0' then
          match c.next.rest with
          | y :: _ => if y.isDigit then complain "invalid number" c.next else pure (0, 1, c.next)
          | [] => pure (0, 1, c.next)
        else pure (digits c 0)
      let (n, fraction, c) ←
        match c.rest with
        | '.' :: _ =>
          let (n, places, c) := digits c.next n
          if places = 0 then
            match c.rest with
            | [] => complain "EOF while parsing a value" c
            | _ => complain "invalid number" c
          else pure (n, some (-(places : Int)), c)
        | _ => pure (n, none, c)
      let (exponent, c) ←
        match c.rest with
        | 'e' :: _ | 'E' :: _ =>
          let (e, c) ← scanExponent c.next
          pure (some (fraction.getD 0 + e), c)
        | _ => pure (fraction, c)
      match numberOf negative n exponent with
      | some j => .ok (j, c)
      | none => complainAt "number out of range" c

end SignOnOperator.Document
