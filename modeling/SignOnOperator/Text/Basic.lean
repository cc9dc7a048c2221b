/-!
# Cutting texts

Small operations on texts that the rules of names and addresses are made of, on lists of characters.
-/
namespace SignOnOperator.Text

/-- The characters without those at the end that equal `c`. -/
def trimEnd (c : Char) (cs : List Char) : List Char := (cs.reverse.dropWhile (· == c)).reverse

/-- The characters after a given beginning, if they begin so. -/
def strip? : List Char → List Char → Option (List Char)
  | [], cs => some cs
  | _ :: _, [] => none
  | p :: ps, c :: cs => if p = c then strip? ps cs else none

theorem strip?_eq_some_iff {part cs rest : List Char} : strip? part cs = some rest ↔ cs = part ++ rest := by
  induction part generalizing cs with
  | nil => simp [strip?, eq_comm]
  | cons p ps ih =>
    cases cs with
    | nil => simp [strip?]
    | cons c cs =>
      unfold strip?
      split
      · rename_i same
        rw [ih, same, List.cons_append, List.cons.injEq, and_iff_right rfl]
      · rename_i other
        simp [Ne.symm other]

theorem strip?_append (part rest : List Char) : strip? part (part ++ rest) = some rest := strip?_eq_some_iff.2 rfl

/-- The characters without the first occurrence of `part`, or as they are if it does not occur. -/
def removeFirst (part : List Char) : List Char → List Char
  | [] => (strip? part []).getD []
  | c :: cs =>
    match strip? part (c :: cs) with
    | some rest => rest
    | none => c :: removeFirst part cs

/-- The texts one after another with a text between each two. -/
def join (separator : String) (texts : List String) : String := separator.intercalate texts

end SignOnOperator.Text
