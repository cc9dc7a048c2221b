import Mathlib.Algebra.Group.Nat.Defs
import SignOnOperator.Wire.Field
/-!
# The fields of a message

What well-formed fields are, as bytes: numbers of variable length in any form (`Spells`), keys, and what follows a key
(`FieldType.IsContent`).  A reader finds in front of any bytes the number, the key or the field that is written there,
and gives back the bytes after it (`readVarint_append`, `Field.readKey_append`, `Field.skipField_append`).
-/
namespace SignOnOperator.Wire

/-! ## Numbers of variable length -/

/-- The bytes spell the number in base 128, the lowest digit first; every byte but the last has 128 added. -/
inductive Spells : Bytes → Nat → Prop where
  | last {b : UInt8} (unmarked : b.toNat < 128) : Spells [b] b.toNat
  | more {b : UInt8} {bytes : Bytes} {n : Nat} (marked : 128 ≤ b.toNat) (higher : Spells bytes n) :
      Spells (b :: bytes) (b.toNat - 128 + 128 * n)

/-- A number below 2^64 in at most ten bytes.  Longer forms than needed are allowed. -/
structure IsVarint (bytes : Bytes) (n : Nat) : Prop where
  spells : Spells bytes n
  length_le : bytes.length ≤ 10
  lt : n < 2 ^ 64

theorem Spells.ne_nil {bytes : Bytes} {n : Nat} (spells : Spells bytes n) : bytes ≠ [] := by
  cases spells with
  | last _ => exact List.cons_ne_nil _ _
  | more _ _ => exact List.cons_ne_nil _ _

/-- By induction on the digits: as many are read as there are, and the tenth is small enough. -/
theorem Spells.readDigits_append {bytes : Bytes} {n : Nat} (spells : Spells bytes n) (rest : Bytes) {place : Nat}
    (room : place + bytes.length ≤ 10) (small : n * 128 ^ place < 2 ^ 64) :
    readDigits place (bytes ++ rest) = some (n, rest) := by
  induction spells generalizing place with
  | @last b unmarked =>
    simp only [List.cons_append, List.nil_append, readDigits]
    by_cases tenth : place = 9
    · subst tenth
      have bit : b.toNat < 2 := by omega
      simp [bit]
    · simp [tenth, unmarked]
  | @more b bytes n marked higher ih =>
    have first : place ≠ 9 := by
      have := List.length_pos_iff.2 higher.ne_nil
      rw [List.length_cons] at room
      omega
    have later : n * 128 ^ (place + 1) < 2 ^ 64 := by
      refine Nat.lt_of_le_of_lt ?_ small
      rw [Nat.pow_succ', ← Nat.mul_assoc, Nat.mul_comm n 128]
      exact Nat.mul_le_mul_right _ (Nat.le_add_left _ _)
    rw [List.length_cons] at room
    simp only [List.cons_append, readDigits, first, if_false, Nat.not_lt.2 marked, ih (by omega) later, Option.map_some]

theorem readVarint_append {bytes : Bytes} {n : Nat} (varint : IsVarint bytes n) (rest : Bytes) :
    readVarint (bytes ++ rest) = .ok (n, rest) := by
  have read : readVarint? (bytes ++ rest) = some (n, rest) :=
    varint.spells.readDigits_append rest (by simpa using varint.length_le) (by simpa using varint.lt)
  rw [readVarint, read]

theorem spells_encodeVarint (n : Nat) : Spells (encodeVarint n) n := by
  induction n using encodeVarint.induct with
  | case1 n small =>
    rw [encodeVarint, if_pos small]
    have digit : (UInt8.ofNat n).toNat = n := by
      rw [UInt8.toNat_ofNat']
      omega
    have last := Spells.last (b := UInt8.ofNat n) (by omega)
    rwa [digit] at last
  | case2 n large ih =>
    rw [encodeVarint, if_neg large]
    have digit : (UInt8.ofNat (n % 128 + 128)).toNat = n % 128 + 128 := by
      rw [UInt8.toNat_ofNat']
      omega
    have more := Spells.more (b := UInt8.ofNat (n % 128 + 128)) (by omega) ih
    rwa [digit, Nat.add_sub_cancel, Nat.mod_add_div] at more

theorem length_encodeVarint_le (n digits : Nat) (small : n < 128 ^ (digits + 1)) :
    (encodeVarint n).length ≤ digits + 1 := by
  induction digits generalizing n with
  | zero =>
    rw [encodeVarint, if_pos (by simpa using small)]
    exact Nat.le_refl _
  | succ digits ih =>
    rw [encodeVarint]
    split
    · simp
    · have fewer := ih (n / 128) (Nat.div_lt_of_lt_mul (by rwa [Nat.pow_succ'] at small))
      simpa using fewer

/-- The shortest form is a form. -/
theorem isVarint_encodeVarint {n : Nat} (small : n < 2 ^ 64) : IsVarint (encodeVarint n) n where
  spells := spells_encodeVarint n
  length_le := length_encodeVarint_le n 9 (Nat.lt_trans small (by decide))
  lt := small

theorem readExactly_append (payload rest : Bytes) :
    readExactly payload.length (payload ++ rest) = .ok (payload, rest) := by
  simp [readExactly]

/-! ## Fields -/

/-- What may follow the key of a field of this form, in which groups are left out. -/
inductive FieldType.IsContent : FieldType → Bytes → Prop where
  | varint {bytes : Bytes} {n : Nat} (number : IsVarint bytes n) : IsContent .varint bytes
  | fixed64 {bytes : Bytes} (length : bytes.length = 8) : IsContent .fixed64 bytes
  | fixed32 {bytes : Bytes} (length : bytes.length = 4) : IsContent .fixed32 bytes
  | block {count payload : Bytes} (length : IsVarint count payload.length) : IsContent .block (count ++ payload)

/-- A well-formed field of a valid number, in any form of its key and of the numbers in it. -/
structure Field where
  number : Nat
  type : FieldType
  key : Bytes
  content : Bytes
  valid : 0 < number ∧ number < 2 ^ 29
  isKey : IsVarint key (number * 8 + type.number)
  isContent : type.IsContent content

namespace Field

def bytes (f : Field) : Bytes := f.key ++ f.content

variable {f : Field}

theorem bytes_ne_nil (f : Field) : f.bytes ≠ [] := fun none => f.isKey.spells.ne_nil (List.append_eq_nil_iff.1 none).1

theorem readKey_append (f : Field) (rest : Bytes) :
    readKey (f.bytes ++ rest) = .ok ((f.number, f.type), f.content ++ rest) := by
  obtain ⟨pos, lt⟩ := f.valid
  have small : f.type.number < 8 := by cases f.type <;> decide
  have form : FieldType.ofNumber? f.type.number = some f.type := by cases f.type <;> rfl
  have fits : ¬Nat.pow 2 32 ≤ f.number * 8 + f.type.number := by
    rw [show Nat.pow 2 32 = 8 * 2 ^ 29 from rfl]
    omega
  have low : (f.number * 8 + f.type.number) % 8 = f.type.number := by omega
  have high : (f.number * 8 + f.type.number) / 8 = f.number := by omega
  rw [bytes, List.append_assoc, readKey, readVarint_append f.isKey]
  simp only [bind, Except.bind, if_neg fits, low, high, form, if_neg (Nat.pos_iff_ne_zero.1 pos), pure, Except.pure]

/-- A field can be passed over. -/
theorem skipField_append (f : Field) {depth : Nat} (deep : 0 < depth) (rest : Bytes) :
    skipField depth f.number f.type (f.content ++ rest) = .ok rest := by
  have plain : f.type ≠ .groupStart ∧ skipPlain f.type (f.content ++ rest) = .ok rest := by
    obtain ⟨number, type, key, content, -, -, isContent⟩ := f
    cases isContent with
    | varint number => exact ⟨nofun, by simp [skipPlain, readVarint_append number, Except.map]⟩
    | fixed64 length => exact ⟨nofun, by simp [skipPlain, ← length, readExactly_append, Except.map]⟩
    | fixed32 length => exact ⟨nofun, by simp [skipPlain, ← length, readExactly_append, Except.map]⟩
    | block length =>
      refine ⟨nofun, ?_⟩
      simp [skipPlain, readBlock, readVarint_append length, readExactly_append, Except.map, bind, Except.bind]
  rw [skipField, if_neg (Nat.pos_iff_ne_zero.1 deep), if_neg plain.1, plain.2]

/-- Where a field ends is told by the field itself. -/
theorem append_inj {f g : Field} {x y : Bytes} (same : f.bytes ++ x = g.bytes ++ y) : f = g ∧ x = y := by
  have keys := (f.readKey_append x).symm.trans ((congrArg readKey same).trans (g.readKey_append y))
  simp only [Except.ok.injEq, Prod.mk.injEq] at keys
  obtain ⟨⟨number, type⟩, later⟩ := keys
  have rest := f.skipField_append Nat.one_pos x
  rw [later, number, type, g.skipField_append Nat.one_pos] at rest
  obtain rfl := Except.ok.inj rest
  have content := List.append_cancel_right later
  have key : f.key = g.key := by
    have whole : f.bytes = g.bytes := List.append_cancel_right same
    rw [Field.bytes, Field.bytes, content] at whole
    exact List.append_cancel_right whole
  cases f
  cases g
  simp_all

/-- Bytes are a sequence of fields in one way at most. -/
theorem eq_of_flatMap_bytes_eq : ∀ {fields fields' : List Field}, fields.flatMap bytes = fields'.flatMap bytes →
    fields = fields'
  | [], [], _ => rfl
  | [], g :: _, same => absurd (List.append_eq_nil_iff.1 same.symm).1 g.bytes_ne_nil
  | f :: _, [], same => absurd (List.append_eq_nil_iff.1 same).1 f.bytes_ne_nil
  | f :: _, g :: _, same => by
    obtain ⟨rfl, later⟩ := append_inj same
    rw [eq_of_flatMap_bytes_eq later]

/-- The field of a number that holds a block, with both lengths in their shortest form. -/
def ofBlock (number : Nat) (payload : Bytes) (valid : 0 < number ∧ number < 2 ^ 29)
    (small : payload.length < 2 ^ 64) : Field where
  number := number
  type := .block
  key := encodeKey number .block
  content := encodeBlock payload
  valid := valid
  isKey := isVarint_encodeVarint (by simp only [FieldType.number]; omega)
  isContent := .block (isVarint_encodeVarint small)

/-- The field of a number that says yes. -/
def yes (number : Nat) (valid : 0 < number ∧ number < 2 ^ 29) : Field where
  number := number
  type := .varint
  key := encodeKey number .varint
  content := encodeVarint 1
  valid := valid
  isKey := isVarint_encodeVarint (by simp only [FieldType.number]; omega)
  isContent := .varint (isVarint_encodeVarint (by decide))

end Field
end SignOnOperator.Wire
