/-!
# Spans of time

A span of time counts nanoseconds.  Written for a person it has the largest unit in which it is at least one, and as
many decimals as it needs.
-/
namespace SignOnOperator

structure Duration where
  nanoseconds : Nat
  deriving DecidableEq, Repr

namespace Duration

instance : Inhabited Duration := ⟨⟨0⟩⟩

def ofMillis (ms : Nat) : Duration := ⟨ms * 1000000⟩

def ofSeconds (s : Nat) : Duration := ⟨s * 1000000000⟩

/-- Whole milliseconds. -/
def millis (d : Duration) : Nat := d.nanoseconds / 1000000

/-- A fraction below one of `places` decimals, without zeros at its end; nothing for zero. -/
def decimals (places fraction : Nat) : String :=
  let digits := Nat.toDigits 10 fraction
  let padded := List.replicate (places - digits.length) '0' ++ digits
  let kept := (padded.reverse.dropWhile (· == '0')).reverse
  if kept.isEmpty then "" else String.ofList ('.' :: kept)

/-- The whole units and the decimals of a count of parts, of which `10 ^ places` make a unit. -/
def inUnit (count places : Nat) (name : String) : String :=
  s!"{count / Nat.pow 10 places}" ++ decimals places (count % Nat.pow 10 places) ++ name

def describe (d : Duration) : String :=
  let n := d.nanoseconds
  if n ≥ Nat.pow 10 9 then inUnit n 9 "s"
  else if n ≥ Nat.pow 10 6 then inUnit n 6 "ms"
  else if n ≥ Nat.pow 10 3 then inUnit n 3 "µs"
  else inUnit n 0 "ns"

end Duration
end SignOnOperator
