import SignOnOperator.Text.Blank
/-!
# Points in time

Date and time with an offset, in the form of RFC 3339 and somewhat beyond it: signs and fewer digits in the year, one
digit elsewhere, blanks between the parts.  The normal form is in universal time with whole seconds; a leap second
stays one.
-/
namespace SignOnOperator.Timestamp

/-- A point in time to the second, in universal time.  The second may be 60. -/
structure Moment where
  year : Int
  month : Nat
  day : Nat
  hour : Nat
  minute : Nat
  second : Nat

/-- Why a text is no point in time. -/
inductive Malformed where
  | invalid | short | long | range
  deriving DecidableEq, Repr

def Malformed.message : Malformed → String
  | invalid => "input contains invalid characters"
  | short => "premature end of input"
  | long => "trailing input"
  | range => "input is out of range"

/-- At least one digit, at most `limit`. -/
def number (limit : Nat) (cs : List Char) : Except Malformed (Nat × List Char) :=
  match cs with
  | [] => .error .short
  | c :: _ =>
    if !c.isDigit then .error .invalid
    else
      let digits := (cs.take limit).takeWhile Char.isDigit
      let n := digits.foldl (fun n c => n * 10 + (c.toNat - '0'.toNat)) 0
      if n ≥ Nat.pow 2 63 then .error .range else .ok (n, cs.drop digits.length)

/-- A number of one or two digits within bounds, after blanks. -/
def field (low high : Nat) (cs : List Char) : Except Malformed (Nat × List Char) := do
  let (n, rest) ← number 2 (Text.trimStart cs)
  if low ≤ n ∧ n ≤ high then return (n, rest) else throw .range

/-- A year: four digits at most, or any number of them after a sign. -/
def yearOf (cs : List Char) : Except Malformed (Int × List Char) := do
  let (year, rest) ← match Text.trimStart cs with
    | '-' :: rest => (number rest.length rest).map fun (n, rest) => (-(n : Int), rest)
    | '+' :: rest => (number rest.length rest).map fun (n, rest) => ((n : Int), rest)
    | cs => (number 4 cs).map fun (n, rest) => ((n : Int), rest)
  if -2147483648 ≤ year ∧ year ≤ 2147483647 then return (year, rest) else throw .range

/-- A mark between two parts, after blanks. -/
def mark (c : Char) (cs : List Char) : Except Malformed (List Char) :=
  match Text.trimStart cs with
  | [] => .error .short
  | x :: rest => if x = c then .ok rest else .error .invalid

/-- The digits after a point, which count for nothing. -/
def skipFraction (cs : List Char) : Except Malformed (List Char) :=
  match cs with
  | '.' :: rest => do
    let (_, rest) ← number 9 rest
    return rest.dropWhile Char.isDigit
  | _ => .ok cs

/-- Two digits and the first one's value. -/
def twoDigits (cs : List Char) : Except Malformed (Nat × Nat × List Char) :=
  match cs with
  | a :: b :: rest =>
    if a.isDigit ∧ b.isDigit then .ok (a.toNat - '0'.toNat, b.toNat - '0'.toNat, rest) else .error .invalid
  | [a] => if a.utf8Size ≥ 2 then .error .invalid else .error .short
  | [] => .error .short

/-- The offset from universal time, in minutes. -/
def offset (cs : List Char) : Except Malformed (Int × List Char) :=
  match cs with
  | [] => .error .short
  | 'Z' :: rest | 'z' :: rest => .ok (0, rest)
  | sign :: rest => do
    if !(sign = '+' || sign = '-' || sign.toNat = 0x2212) then throw .invalid
    let (h, h', rest) ← twoDigits rest
    let rest := rest.dropWhile fun c => c = ':' || Text.isBlank c
    let (m, m', rest) ← twoDigits rest
    if m ≥ 6 then throw .range
    let minutes : Int := ((h * 10 + h') * 60 + (m * 10 + m') : Nat)
    return (if sign = '+' then minutes else -minutes, rest)

/-- `UTC` in any case, or an offset. -/
def zone (cs : List Char) : Except Malformed (Int × List Char) :=
  if (cs.take 3).map Char.toUpper = ['U', 'T', 'C'] then .ok (0, cs.drop 3) else offset cs

def isLeapYear (y : Int) : Bool := y % 4 = 0 && (y % 100 ≠ 0 || y % 400 = 0)

def daysInMonth (y : Int) (m : Nat) : Nat :=
  if m = 2 then if isLeapYear y then 29 else 28
  else if m = 4 ∨ m = 6 ∨ m = 9 ∨ m = 11 then 30
  else 31

/-- The next day, or the one before. -/
def Moment.tomorrow (t : Moment) : Moment :=
  if t.day < daysInMonth t.year t.month then { t with day := t.day + 1 }
  else if t.month < 12 then { t with month := t.month + 1, day := 1 }
  else { t with year := t.year + 1, month := 1, day := 1 }

def Moment.yesterday (t : Moment) : Moment :=
  if t.day > 1 then { t with day := t.day - 1 }
  else if t.month > 1 then { t with month := t.month - 1, day := daysInMonth t.year (t.month - 1) }
  else { t with year := t.year - 1, month := 12, day := 31 }

/-- The same point in time where clocks are `minutes` behind.  At most a day apart. -/
def Moment.back (t : Moment) (minutes : Int) : Moment :=
  let total : Int := (t.hour * 60 + t.minute : Nat) - minutes
  let t := if total < 0 then t.yesterday else if total ≥ 1440 then t.tomorrow else t
  let inDay := (total % 1440).toNat
  { t with hour := inDay / 60, minute := inDay % 60 }

def parse (text : String) : Except Malformed Moment := do
  let (year, cs) ← yearOf text.toList
  let cs ← mark '-' cs
  let (month, cs) ← field 1 12 cs
  let cs ← mark '-' cs
  let (day, cs) ← field 1 31 cs
  let cs ← match cs with
    | [] => throw .short
    | c :: rest => if c = 't' ∨ c = 'T' ∨ c = ' ' then pure rest else throw .invalid
  let (hour, cs) ← field 0 23 cs
  let cs ← mark ':' cs
  let (minute, cs) ← field 0 59 cs
  let cs ← mark ':' cs
  let (second, cs) ← field 0 60 cs
  let cs ← skipFraction cs
  let (minutes, cs) ← zone (Text.trimStart cs)
  if !(Text.trimStart cs).isEmpty then throw .long
  if year < -262143 ∨ year > 262142 ∨ day > daysInMonth year month ∨ minutes.natAbs ≥ 1440 then throw .range
  return Moment.back ⟨year, month, day, hour, minute, second⟩ minutes

/-- A number with at least `width` digits. -/
def padded (width n : Nat) : String :=
  let digits := Nat.toDigits 10 n
  String.ofList (List.replicate (width - digits.length) '0' ++ digits)

def Moment.describe (t : Moment) : String :=
  let year :=
    if 0 ≤ t.year ∧ t.year ≤ 9999 then padded 4 t.year.toNat
    else (if t.year < 0 then "-" else "+") ++ padded 4 t.year.natAbs
  s!"{year}-{padded 2 t.month}-{padded 2 t.day}T{padded 2 t.hour}:{padded 2 t.minute}:{padded 2 t.second}Z"

/-- The normal form of a point in time. -/
def normal (text : String) : Except String String :=
  match parse text with
  | .ok t => .ok t.describe
  | .error e => .error e.message

end SignOnOperator.Timestamp
