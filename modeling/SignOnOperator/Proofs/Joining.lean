import Mathlib.Data.List.DropRight
import SignOnOperator.Naming
/-!
# Joining labels

The fragments of which the operator makes names are labels: lower-case letters, digits and dashes, with no dash at the
ends.  Two labels are joined by one law, whatever their lengths (`joinFragments_eq`): of the room that is left beside
the dash each may take what the other one leaves, and half of it in any case.  What comes out is a label again
(`IsLabel.joinFragments`), so that a name can be a fragment of the next one.
-/
namespace SignOnOperator.Naming

/-! ## Labels -/

def isLabelChar (c : Char) : Bool := c.isLower || c.isDigit || c == '-'

/-- Lower-case letters, digits and dashes, at least one, and none of those at the ends a dash. -/
structure IsLabel (cs : List Char) : Prop where
  ne_nil : cs ≠ []
  chars : ∀ c ∈ cs, isLabelChar c = true
  head : cs.head? ≠ some '-'
  last : cs.getLast? ≠ some '-'

/-- With `List.all`, since a quantifier over characters could also be decided by going through all of them. -/
theorem isLabel_iff {cs : List Char} :
    IsLabel cs ↔ cs ≠ [] ∧ cs.all isLabelChar = true ∧ cs.head? ≠ some '-' ∧ cs.getLast? ≠ some '-' :=
  ⟨fun h => ⟨h.ne_nil, List.all_eq_true.2 h.chars, h.head, h.last⟩,
    fun ⟨ne_nil, chars, head, last⟩ => ⟨ne_nil, List.all_eq_true.1 chars, head, last⟩⟩

instance (cs : List Char) : Decidable (IsLabel cs) := decidable_of_iff _ isLabel_iff.symm

theorem utf8Size_of_isLabelChar {c : Char} (hc : isLabelChar c = true) : c.utf8Size = 1 := by
  have small : c.val ≤ 127 := by
    simp only [isLabelChar, Bool.or_eq_true, beq_iff_eq] at hc
    rcases hc with (lower | digit) | rfl
    · exact UInt32.le_trans (of_decide_eq_true (Bool.and_eq_true_iff.1 lower).2) (by decide)
    · exact UInt32.le_trans (of_decide_eq_true (Bool.and_eq_true_iff.1 digit).2) (by decide)
    · decide
  exact if_pos small

theorem IsLabel.byteCount {cs : List Char} (label : IsLabel cs) : byteCount cs = cs.length := by
  have sizes : ∀ cs : List Char, (∀ c ∈ cs, isLabelChar c = true) → Naming.byteCount cs = cs.length := by
    intro cs
    induction cs with
    | nil => exact fun _ => rfl
    | cons c cs ih =>
      intro chars
      obtain ⟨first, others⟩ := List.forall_mem_cons.1 chars
      rw [List.length_cons, ← ih others, Nat.add_comm, ← utf8Size_of_isLabelChar first]
      rfl
  exact sizes cs label.chars

/-! ## Cutting -/

variable {cs : List Char} {n : Nat}

theorem truncate_initial : truncate cs n <+: cs := (List.rdropWhile_prefix _ _).trans (List.take_prefix n cs)

theorem length_truncate_le : (truncate cs n).length ≤ n :=
  (List.rdropWhile_prefix _ _).length_le.trans (List.length_take_le n cs)

theorem getLast?_truncate : (truncate cs n).getLast? ≠ some '-' := by
  intro last
  have ne_nil : truncate cs n ≠ [] := by
    intro nil
    rw [nil] at last
    cases last
  rw [List.getLast?_eq_some_getLast ne_nil] at last
  exact List.rdropWhile_last_not _ _ ne_nil (beq_iff_eq.2 (Option.some.inj last))

/-- What has room and ends in no dash is not cut. -/
theorem truncate_of_length_le (last : cs.getLast? ≠ some '-') (room : cs.length ≤ n) : truncate cs n = cs := by
  have whole : truncate cs n = cs.rdropWhile (· == '-') :=
    congrArg (List.rdropWhile (· == '-')) (List.take_of_length_le room)
  rw [whole]
  refine List.rdropWhile_eq_self_iff.2 fun ne_nil dash => last ?_
  rw [List.getLast?_eq_some_getLast ne_nil, beq_iff_eq.1 dash]

theorem IsLabel.truncate (label : IsLabel cs) (room : 0 < n) : IsLabel (truncate cs n) := by
  have ne_nil : Naming.truncate cs n ≠ [] := by
    -- The first character is within the room, and it is no dash.
    intro nil
    obtain ⟨c, rest, rfl⟩ := List.exists_cons_of_ne_nil label.ne_nil
    obtain ⟨m, rfl⟩ := Nat.exists_eq_succ_of_ne_zero room.ne'
    have dash := List.rdropWhile_eq_nil_iff.1 nil c List.mem_cons_self
    exact label.head (congrArg some (beq_iff_eq.1 dash))
  obtain ⟨rest, whole⟩ : Naming.truncate cs n <+: cs := truncate_initial
  refine ⟨ne_nil, fun c hc => label.chars c (truncate_initial.subset hc), ?_, getLast?_truncate⟩
  rw [← List.head?_append_of_ne_nil _ ne_nil, whole]
  exact label.head

/-! ## The law of joining -/

/-- The room of a fragment beside another one of this length. -/
def roomBeside (other : Nat) : Nat := maxLength - 1 - min other ((maxLength - 1) / 2)

theorem roomBeside_pos (other : Nat) : 0 < roomBeside other := by
  unfold roomBeside maxLength
  omega

variable {base suffix : List Char}

/-- **Joining, by one law.**  Of the 62 characters beside the dash each of two labels may take what the other one leaves
of them, and 31 in any case. -/
theorem joinFragments_eq (hb : IsLabel base) (hs : IsLabel suffix) :
    joinFragments base suffix =
      truncate base (roomBeside suffix.length) ++ '-' :: truncate suffix (roomBeside base.length) := by
  have whole {cs : List Char} {n : Nat} (label : IsLabel cs) (room : cs.length ≤ n) : truncate cs n = cs :=
    truncate_of_length_le label.last room
  unfold joinFragments shares
  rw [hb.byteCount, hs.byteCount]
  dsimp only
  by_cases fits : base.length + suffix.length + 1 ≤ maxLength
  · rw [if_pos fits]
    unfold roomBeside maxLength at *
    rw [whole hb (by omega), whole hs (by omega)]
  rw [if_neg fits]
  by_cases shortSuffix : suffix.length ≤ (maxLength - 1) / 2
  · rw [if_pos shortSuffix, whole hs le_rfl]
    unfold roomBeside maxLength at *
    rw [whole hs (by omega), Nat.min_eq_left shortSuffix]
  rw [if_neg shortSuffix]
  by_cases shortBase : base.length ≤ (maxLength - 1) / 2
  · rw [if_pos shortBase, whole hb le_rfl]
    unfold roomBeside maxLength at *
    rw [whole hb (by omega), Nat.min_eq_left shortBase]
  · rw [if_neg shortBase]
    unfold roomBeside maxLength at *
    rw [Nat.min_eq_right (by omega), Nat.min_eq_right (by omega)]

theorem length_le_byteCount (cs : List Char) : cs.length ≤ byteCount cs := by
  induction cs with
  | nil => exact le_rfl
  | cons c cs ih =>
    have size : byteCount (c :: cs) = c.utf8Size + byteCount cs := rfl
    have positive := c.utf8Size_pos
    rw [size, List.length_cons]
    omega

theorem shares_add_le (base suffix : Nat) : (shares base suffix).1 + (shares base suffix).2 ≤ maxLength - 1 := by
  unfold shares maxLength
  dsimp only
  split_ifs <;> dsimp only <;> omega

/-- Of any two texts, since no text has more characters than bytes. -/
theorem length_joinFragments_le : (joinFragments base suffix).length ≤ maxLength := by
  unfold joinFragments
  dsimp only
  by_cases fits : byteCount base + byteCount suffix + 1 ≤ maxLength
  · have front := length_le_byteCount base
    have back := length_le_byteCount suffix
    rw [if_pos fits, List.length_append, List.length_cons]
    omega
  · have front := @length_truncate_le base (shares (byteCount base) (byteCount suffix)).1
    have back := @length_truncate_le suffix (shares (byteCount base) (byteCount suffix)).2
    have both := shares_add_le (byteCount base) (byteCount suffix)
    rw [if_neg fits, List.length_append, List.length_cons]
    unfold maxLength at *
    omega

theorem IsLabel.joinFragments (hb : IsLabel base) (hs : IsLabel suffix) : IsLabel (joinFragments base suffix) := by
  have front := hb.truncate (roomBeside_pos suffix.length)
  have back := hs.truncate (roomBeside_pos base.length)
  rw [joinFragments_eq hb hs]
  refine ⟨List.append_ne_nil_of_left_ne_nil front.ne_nil _, fun c hc => ?_, ?_, ?_⟩
  · rcases List.mem_append.1 hc with hc | hc
    · exact front.chars c hc
    · rcases List.mem_cons.1 hc with rfl | hc
      · rfl
      · exact back.chars c hc
  · rw [List.head?_append_of_ne_nil _ front.ne_nil]
    exact front.head
  · rw [List.getLast?_append_of_ne_nil _ (List.cons_ne_nil _ _), List.getLast?_cons_of_ne_nil back.ne_nil]
    exact back.last

theorem toList_buildName {base suffix : String} :
    (buildName base suffix).toList = Naming.joinFragments base.toList suffix.toList := String.toList_ofList

end SignOnOperator.Naming
