import Mathlib.Data.List.TakeWhile
import SignOnOperator.Proofs.Success
import SignOnOperator.Time.Timestamp
/-!
# Points in time, read back

What is read as a point in time is a day that there is and a time of it (`Moment.Valid`), in universal time also where
it was given with an offset.  The normal form of such a point in the years 0 to 9999 is read as that point
(`parse_describe`), so that a normal form is its own (`normal_of_normal`).
-/
namespace SignOnOperator.Timestamp

variable {cs rest : List Char} {limit low high width n : Nat}

/-! ## Days that there are -/

/-- A day that there is, and a time of it, to the second. -/
structure Moment.Valid (t : Moment) : Prop where
  month : 1 ≤ t.month ∧ t.month ≤ 12
  day : 1 ≤ t.day ∧ t.day ≤ daysInMonth t.year t.month
  hour : t.hour ≤ 23
  minute : t.minute ≤ 59
  second : t.second ≤ 60

theorem daysInMonth_bounds (y : Int) (m : Nat) : 28 ≤ daysInMonth y m ∧ daysInMonth y m ≤ 31 := by
  unfold daysInMonth
  split
  · split <;> omega
  · split <;> omega

namespace Moment.Valid

variable {t : Moment}

theorem tomorrow (valid : t.Valid) : t.tomorrow.Valid := by
  obtain ⟨month, day, hour, minute, second⟩ := valid
  unfold Moment.tomorrow
  split
  · exact ⟨month, ⟨by dsimp only; omega, by dsimp only; omega⟩, hour, minute, second⟩
  · split
    · have := daysInMonth_bounds t.year (t.month + 1)
      exact ⟨⟨by dsimp only; omega, by dsimp only; omega⟩, ⟨Nat.le_refl 1, by dsimp only; omega⟩, hour, minute, second⟩
    · have := daysInMonth_bounds (t.year + 1) 1
      exact ⟨⟨Nat.le_refl 1, by dsimp only; omega⟩, ⟨Nat.le_refl 1, by dsimp only; omega⟩, hour, minute, second⟩

theorem yesterday (valid : t.Valid) : t.yesterday.Valid := by
  obtain ⟨month, day, hour, minute, second⟩ := valid
  unfold Moment.yesterday
  split
  · exact ⟨month, ⟨by dsimp only; omega, by dsimp only; omega⟩, hour, minute, second⟩
  · split
    · have := daysInMonth_bounds t.year (t.month - 1)
      exact ⟨⟨by dsimp only; omega, by dsimp only; omega⟩, ⟨by dsimp only; omega, Nat.le_refl _⟩, hour, minute, second⟩
    · exact ⟨⟨by dsimp only; omega, Nat.le_refl 12⟩, ⟨by dsimp only; omega, Nat.le_refl 31⟩, hour, minute, second⟩

theorem back (valid : t.Valid) (minutes : Int) : (t.back minutes).Valid := by
  have onDay : ∀ (d : Moment), d.Valid → ∀ inDay < 1440,
      Moment.Valid { d with hour := inDay / 60, minute := inDay % 60 } := fun d valid inDay within =>
    ⟨valid.month, valid.day, by dsimp only; omega, by dsimp only; omega, valid.second⟩
  unfold Moment.back
  refine onDay _ ?_ _ (by omega)
  split
  · exact valid.yesterday
  · split
    · exact valid.tomorrow
    · exact valid

end Moment.Valid

/-! ## What is read -/

theorem field_bounds (read : field low high cs = .ok (n, rest)) : low ≤ n ∧ n ≤ high := by
  obtain ⟨⟨n', rest'⟩, -, checked⟩ := Except.bind_eq_ok read
  simp only at checked
  split at checked
  · cases checked
    assumption
  · cases checked

/-- What is read is a day that there is, with a time of it. -/
theorem valid_of_parse {text : String} {t : Moment} (read : parse text = .ok t) : t.Valid := by
  unfold parse at read
  simp only [Except.bind_eq_ok_iff, Prod.exists] at read
  obtain ⟨year, _, -, _, -, month, _, isMonth, _, -, day, cs, isDay, read⟩ := read
  cases cs with
  | nil => cases read
  | cons c rest =>
    simp only at read
    split at read
    · simp only [Except.bind_eq_ok_iff, Prod.exists] at read
      obtain ⟨_, -, hour, _, isHour, _, -, minute, _, isMinute, _, -, second, _, isSecond, _, -, minutes, _, -, read⟩ :=
        read
      split at read
      · cases read
      · split at read
        · cases read
        · rename_i inRange
          cases read
          have inMonth := field_bounds isDay
          exact Moment.Valid.back ⟨field_bounds isMonth, ⟨inMonth.1, by dsimp only; omega⟩, (field_bounds isHour).2,
            (field_bounds isMinute).2, (field_bounds isSecond).2⟩ minutes
    · cases read

/-! ## What is written -/

theorem toList_padded (width n : Nat) : (padded width n).toList =
    List.replicate (width - (Nat.toDigits 10 n).length) '0' ++ Nat.toDigits 10 n := by
  rw [padded, String.toList_ofList]

theorem isDigit_of_mem_padded {c : Char} (mem : c ∈ (padded width n).toList) : c.isDigit = true := by
  rw [toList_padded, List.mem_append] at mem
  rcases mem with mem | mem
  · rw [List.eq_of_mem_replicate mem]
    rfl
  · exact Nat.isDigit_of_mem_toDigits (by decide) (by decide) mem

theorem length_padded (some : 0 < width) (fits : n < Nat.pow 10 width) : (padded width n).toList.length = width := by
  have := (Nat.length_toDigits_le_iff (by decide : 1 < 10) some).2 fits
  rw [toList_padded, List.length_append, List.length_replicate]
  omega

/-- The zeros in front do not count. -/
theorem value_padded (width n : Nat) :
    (padded width n).toList.foldl (fun n c => n * 10 + (c.toNat - '0'.toNat)) 0 = n := by
  have value := Nat.ofDigitChars_append (b := 10) (l := List.replicate (width - (Nat.toDigits 10 n).length) '0')
    (m := Nat.toDigits 10 n) 0
  rw [Nat.ofDigitChars_replicate_zero, Nat.mul_zero, Nat.ofDigitChars_ten_toDigits, ← toList_padded] at value
  simpa only [Nat.ofDigitChars_eq_foldl, Nat.mul_comm] using value

/-- Something written begins with a digit, so with no blank and no sign. -/
theorem padded_eq_cons (some : 0 < width) (fits : n < Nat.pow 10 width) :
    ∃ c cs, (padded width n).toList = c :: cs ∧ c.isDigit = true := by
  cases digits : (padded width n).toList with
  | nil =>
    have := length_padded some fits
    simp only [digits, List.length_nil] at this
    omega
  | cons c cs => exact ⟨c, cs, rfl, isDigit_of_mem_padded (digits ▸ List.mem_cons_self)⟩

theorem number_padded (some : 0 < width) (fits : n < Nat.pow 10 width) (small : n < Nat.pow 2 63) :
    number width ((padded width n).toList ++ rest) = .ok (n, rest) := by
  have digits : (((padded width n).toList ++ rest).take width).takeWhile Char.isDigit = (padded width n).toList := by
    rw [List.take_left' (length_padded some fits)]
    exact List.takeWhile_eq_self_iff.2 fun c mem => isDigit_of_mem_padded mem
  have value := value_padded width n
  obtain ⟨c, cs, first, isDigit⟩ := padded_eq_cons some fits
  rw [first] at digits value ⊢
  rw [List.cons_append] at digits ⊢
  simp only [number, isDigit, digits, value, Bool.not_true, Bool.false_eq_true, if_false, ge_iff_le,
    Nat.not_le.2 small]
  rw [← List.cons_append, List.drop_left]

theorem not_isBlank_of_isDigit {c : Char} (isDigit : c.isDigit = true) : Text.isBlank c = false := by
  have bounds : 48 ≤ c.toNat ∧ c.toNat ≤ 57 := by
    simpa [Char.isDigit, UInt32.le_iff_toNat_le] using isDigit
  simp only [Text.isBlank, Bool.or_eq_false_iff, Bool.and_eq_false_iff, decide_eq_false_iff_not]
  omega

theorem trimStart_cons {c : Char} (solid : Text.isBlank c = false) : Text.trimStart (c :: cs) = c :: cs := by
  simp [Text.trimStart, solid]

theorem field_padded (fits : n < 100) (within : low ≤ n ∧ n ≤ high) :
    field low high ((padded 2 n).toList ++ rest) = .ok (n, rest) := by
  have read : number 2 ((padded 2 n).toList ++ rest) = .ok (n, rest) :=
    number_padded (by decide) fits (Nat.lt_trans fits (by decide))
  obtain ⟨c, cs, first, isDigit⟩ : ∃ c cs, (padded 2 n).toList = c :: cs ∧ _ := padded_eq_cons (by decide) fits
  rw [first, List.cons_append] at read ⊢
  rw [field, trimStart_cons (not_isBlank_of_isDigit isDigit), read]
  exact if_pos within

theorem mark_cons {c : Char} (solid : Text.isBlank c = false) : mark c (c :: cs) = .ok cs := by
  rw [mark, trimStart_cons solid]
  exact if_pos rfl

theorem yearOf_padded (fits : n < 10000) : yearOf ((padded 4 n).toList ++ rest) = .ok ((n : Int), rest) := by
  have read : number 4 ((padded 4 n).toList ++ rest) = .ok (n, rest) :=
    number_padded (by decide) fits (Nat.lt_trans fits (by decide))
  obtain ⟨c, cs, first, isDigit⟩ : ∃ c cs, (padded 4 n).toList = c :: cs ∧ _ := padded_eq_cons (by decide) fits
  rw [first, List.cons_append] at read ⊢
  rw [yearOf, trimStart_cons (not_isBlank_of_isDigit isDigit)]
  split
  · rename_i same
    obtain rfl := (List.cons.inj same).1
    exact absurd isDigit (by decide)
  · rename_i same
    obtain rfl := (List.cons.inj same).1
    exact absurd isDigit (by decide)
  · rw [read]
    exact if_pos (by omega)

theorem Moment.back_zero {t : Moment} (valid : t.Valid) : t.back 0 = t := by
  obtain ⟨-, -, isHour, isMinute, -⟩ := valid
  obtain ⟨year, month, day, hour, minute, second⟩ := t
  dsimp only at isHour isMinute
  have within : ¬(((hour * 60 + minute : Nat) : Int) - 0 < 0) ∧ ¬((hour * 60 + minute : Nat) : Int) - 0 ≥ 1440 := by
    omega
  rw [Moment.back]
  simp only [within, if_false, Moment.mk.injEq, true_and, and_true]
  omega

theorem toList_describe {t : Moment} (low : 0 ≤ t.year) (high : t.year ≤ 9999) : t.describe.toList =
    (padded 4 t.year.toNat).toList ++ '-' :: ((padded 2 t.month).toList ++ '-' :: ((padded 2 t.day).toList ++
      'T' :: ((padded 2 t.hour).toList ++ ':' :: ((padded 2 t.minute).toList ++
        ':' :: ((padded 2 t.second).toList ++ ['Z']))))) := by
  rw [Moment.describe, if_pos ⟨low, high⟩]
  simp [toString]

/-- **The normal form of a point in time is read as that point.** -/
theorem parse_describe {t : Moment} (valid : t.Valid) (low : 0 ≤ t.year) (high : t.year ≤ 9999) :
    parse t.describe = .ok t := by
  obtain ⟨isMonth, isDay, isHour, isMinute, isSecond⟩ := valid
  have inMonth := daysInMonth_bounds t.year t.month
  have fitsYear : t.year.toNat < 10000 := by omega
  have month (rest) : field 1 12 ((padded 2 t.month).toList ++ rest) = .ok (t.month, rest) :=
    field_padded (by omega) isMonth
  have day (rest) : field 1 31 ((padded 2 t.day).toList ++ rest) = .ok (t.day, rest) :=
    field_padded (by omega) (by omega)
  have hour (rest) : field 0 23 ((padded 2 t.hour).toList ++ rest) = .ok (t.hour, rest) :=
    field_padded (by omega) (by omega)
  have minute (rest) : field 0 59 ((padded 2 t.minute).toList ++ rest) = .ok (t.minute, rest) :=
    field_padded (by omega) (by omega)
  have second (rest) : field 0 60 ((padded 2 t.second).toList ++ rest) = .ok (t.second, rest) :=
    field_padded (by omega) (by omega)
  have dash (rest) : mark '-' ('-' :: rest) = .ok rest := mark_cons rfl
  have colon (rest) : mark ':' (':' :: rest) = .ok rest := mark_cons rfl
  have whole : skipFraction ['Z'] = .ok ['Z'] := rfl
  have universal : zone (Text.trimStart ['Z']) = .ok (0, []) := rfl
  have inRange : ¬(t.year < -262143 ∨ t.year > 262142 ∨ t.day > daysInMonth t.year t.month ∨ Int.natAbs 0 ≥ 1440) := by
    omega
  rw [parse, toList_describe low high, yearOf_padded fitsYear]
  have ended : ¬(!(Text.trimStart []).isEmpty) = true := nofun
  simp only [Except.ok_bind, pure_bind, dash, month, day, hour, minute, second, colon, whole, universal, or_true,
    true_or, if_true, ended, inRange, if_false, Int.toNat_of_nonneg low]
  exact congrArg Except.ok (Moment.back_zero ⟨isMonth, isDay, isHour, isMinute, isSecond⟩)

/-- **A normal form is its own.** -/
theorem normal_of_normal {text form : String} (read : normal text = .ok form)
    (within : ∀ t, parse text = .ok t → 0 ≤ t.year ∧ t.year ≤ 9999) : normal form = .ok form := by
  unfold normal at read
  split at read
  · rename_i t parsed
    obtain rfl := Except.ok.inj read
    obtain ⟨low, high⟩ := within t parsed
    rw [normal, parse_describe (valid_of_parse parsed) low high]
  · cases read

end SignOnOperator.Timestamp
