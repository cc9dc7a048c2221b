import SignOnOperator.Bytes.Hex
import SignOnOperator.Decimal.Double
/-!
# YAML scalars

A text as one YAML scalar.  It stands plain if it then reads back as the same text, and otherwise between quotes or,
when it has several lines, as a literal block.
-/
namespace SignOnOperator.Yaml

/-- How a scalar is written. -/
inductive Style where
  | plain | singleQuoted | doubleQuoted | literal
  deriving DecidableEq, Repr

def isBreak (c : Char) : Bool :=
  c = '\n' || c = '\r' || c.toNat = 0x85 || c.toNat = 0x2028 || c.toNat = 0x2029

/-- A space, a tab or a line break. -/
def isGap (c : Char) : Bool := c = ' ' || c = '\t' || isBreak c

def isPrintable (c : Char) : Bool :=
  let n := c.toNat
  n = 10 || (0x20 ≤ n && n ≤ 0x7E) || (0xA0 ≤ n && n ≤ 0xD7FF) || (0xE000 ≤ n && n ≤ 0xFFFD && n ≠ 0xFEFF) ||
    0x10000 ≤ n

/-! ## Texts that would read back as something else -/

/-- The sign of a number and what follows it. -/
def unsigned (cs : List Char) : List Char :=
  match cs with
  | '+' :: rest | '-' :: rest => rest
  | _ => cs

/-- The value of digits in a base, if there are any and nothing else. -/
def digitsValue? (base : Nat) (cs : List Char) : Option Nat :=
  if cs.isEmpty then none
  else
    cs.foldlM (fun n c => do
      let d ← hexDigit? c
      if d < base then some (n * base + d) else none) 0

/-- A number in another base after its mark `0x`, `0o` or `0b`. -/
def basedValue? (cs : List Char) : Option Nat :=
  match cs with
  | '0' :: 'x' :: rest => digitsValue? 16 rest
  | '0' :: 'o' :: rest => digitsValue? 8 rest
  | '0' :: 'b' :: rest => digitsValue? 2 rest
  | _ => none

/-- Digits with a needless zero in front. -/
def hasLeadingZero (cs : List Char) : Bool :=
  let digits := unsigned cs
  digits.length > 1 && digits.head? = some '0' && digits.all Char.isDigit

/-- A whole number of at most 128 bits. -/
def isInteger (cs : List Char) : Bool :=
  let negative := cs.head? = some '-'
  let digits := unsigned cs
  let limit := if negative then Nat.pow 2 127 else Nat.pow 2 128 - 1
  match basedValue? digits with
  | some n => n ≤ limit
  | none =>
    !hasLeadingZero cs &&
      match digitsValue? 10 digits with
      | some n => n ≤ limit
      | none => false

/-- Digits before and after a point and an exponent: the digits as one number and the power of ten they count. -/
def decimal? (cs : List Char) : Option (Nat × Int) :=
  let whole := cs.takeWhile Char.isDigit
  let rest := cs.dropWhile Char.isDigit
  let (fraction, rest) := match rest with
    | '.' :: rest => (rest.takeWhile Char.isDigit, rest.dropWhile Char.isDigit)
    | _ => ([], rest)
  if whole.isEmpty && fraction.isEmpty then none
  else
    let exponent : Option Int := match rest with
      | [] => some 0
      | e :: rest =>
        if e = 'e' ∨ e = 'E' then
          match digitsValue? 10 (unsigned rest) with
          | some n => some (if rest.head? = some '-' then -(n : Int) else n)
          | none => none
        else none
    match digitsValue? 10 (whole ++ fraction), exponent with
    | some n, some e => some (n, e - fraction.length)
    | _, _ => none

/-- A number that is no whole number, an infinity or the mark of a missing one. -/
def isFloat (cs : List Char) : Bool :=
  let infinities := [".inf", ".Inf", ".INF"]
  let text := String.ofList cs
  [".nan", ".NaN", ".NAN"].contains text || infinities.contains (String.ofList (unsigned cs)) ||
    match decimal? (unsigned cs) with
    | some (n, e) => (Double.ofDecimal? false n e).isSome
    | none => false

/-- Whether a text, written plain, would read back as something else than a text. -/
def isAmbiguous (cs : List Char) : Bool :=
  cs.isEmpty ||
    ["null", "Null", "NULL", "~", "true", "True", "TRUE", "false", "False", "FALSE"].contains (String.ofList cs) ||
    isInteger cs || hasLeadingZero cs || isFloat cs

/-! ## Which styles a text allows -/

/-- The characters that mark something else when a scalar begins with them. -/
def openers : List Char :=
  ['#', ',', '[', ']', '\x7b', '\x7d', '&', '*', '!', '|', '>', '\'', '"', '%', '@', '\x60']

/-- Whether what follows ends a word: a gap or the end. -/
def endsWord (rest : List Char) : Bool := rest.head?.all isGap

/-- Whether a mark stands where a reader would take it for one; `afterGap` tells of the character before. -/
def hasInnerMark (afterGap : Bool) : List Char → Bool
  | [] => false
  | c :: rest => (c = ':' && endsWord rest) || (c = '#' && afterGap) || hasInnerMark (isGap c) rest

/-- Whether the text holds a mark that a plain scalar must not hold. -/
def hasMark (cs : List Char) : Bool :=
  match cs with
  | [] => false
  | c :: rest =>
    cs.take 3 = ['-', '-', '-'] || cs.take 3 = ['.', '.', '.'] || openers.contains c ||
      ((c = '?' || c = ':' || c = '-') && endsWord rest) || hasInnerMark (isGap c) rest

/-- Whether somewhere a character of the first kind comes right before one of the second. -/
def hasPair (p q : Char → Bool) : List Char → Bool
  | a :: b :: rest => (p a && q b) || hasPair p q (b :: rest)
  | _ => false

/-- Whether a text can only stand between double quotes. -/
def needsEscapes (cs : List Char) : Bool :=
  cs.any (fun c => !isPrintable c) || hasPair (· == ' ') isBreak cs

def allowsSingle (cs : List Char) : Bool := !needsEscapes cs && !hasPair isBreak (· == ' ') cs

def allowsLiteral (cs : List Char) : Bool := !needsEscapes cs && cs.getLast? ≠ some ' '

def allowsPlain (cs : List Char) : Bool :=
  let atEnd (c : Option Char) : Bool := c.any fun c => c = ' ' || isBreak c
  allowsSingle cs && !cs.any isBreak && !atEnd cs.head? && !atEnd cs.getLast? && !hasMark cs

/-- The style in which a text is written. -/
def styleOf (cs : List Char) : Style :=
  if cs.contains '\n' then if allowsLiteral cs then .literal else .doubleQuoted
  else if !isAmbiguous cs && allowsPlain cs then .plain
  else if allowsSingle cs then .singleQuoted
  else .doubleQuoted

/-! ## Writing -/

def blanks (n : Nat) : List Char := List.replicate n ' '

/-- Characters between single quotes: a quote is written twice, and a line is indented. -/
def singleQuotedBody (indent : Nat) (afterBreak : Bool) : List Char → List Char
  | [] => if afterBreak then blanks indent else []
  | c :: rest =>
    let start := if afterBreak && !isBreak c then blanks indent else []
    start ++ (if c = '\'' then ['\'', '\''] else [c]) ++ singleQuotedBody indent (isBreak c) rest

/-- The hexadecimal digits of a number in upper case, at least `width` of them. -/
def upperHex (width n : Nat) : List Char :=
  let digits := (Nat.toDigits 16 n).map Char.toUpper
  List.replicate (width - digits.length) '0' ++ digits

/-- One character between double quotes. -/
def doubleQuotedChar (c : Char) : List Char :=
  let n := c.toNat
  if isPrintable c && !isBreak c && c ≠ '"' && c ≠ '\\' then [c]
  else
    '\\' ::
      (if n = 0 then ['0'] else if n = 7 then ['a'] else if n = 8 then ['b'] else if n = 9 then ['t']
      else if n = 10 then ['n'] else if n = 11 then ['v'] else if n = 12 then ['f'] else if n = 13 then ['r']
      else if n = 0x1B then ['e'] else if c = '"' then ['"'] else if c = '\\' then ['\\']
      else if n = 0x85 then ['N'] else if n = 0x2028 then ['L'] else if n = 0x2029 then ['P']
      else if n ≤ 0xFF then 'x' :: upperHex 2 n
      else if n ≤ 0xFFFF then 'u' :: upperHex 4 n
      else 'U' :: upperHex 8 n)

/-- The lines of a literal block, each indented. -/
def literalBody (indent : Nat) (afterBreak : Bool) : List Char → List Char
  | [] => []
  | c :: rest =>
    (if afterBreak && !isBreak c then blanks indent else []) ++ c :: literalBody indent (isBreak c) rest

/-- How a literal block treats the breaks at its end. -/
def chomping (cs : List Char) : List Char :=
  match cs.reverse with
  | [] => ['-']
  | [last] => if isBreak last then ['+'] else ['-']
  | last :: before :: _ => if !isBreak last then ['-'] else if isBreak before then ['+'] else []

/-- The scalar of a text; lines after the first are indented. -/
def scalar (indent : Nat) (text : String) : String :=
  let cs := text.toList
  String.ofList <|
    match styleOf cs with
    | .plain => cs
    | .singleQuoted => '\'' :: singleQuotedBody indent false cs ++ ['\'']
    | .doubleQuoted => '"' :: cs.flatMap doubleQuotedChar ++ ['"']
    | .literal =>
      let indentation := if cs.head?.any fun c => c = ' ' || isBreak c then ['2'] else []
      '|' :: indentation ++ chomping cs ++ '\n' :: literalBody indent true cs

end SignOnOperator.Yaml
