import SignOnOperator.Proofs.Namesakes
/-!
# What a derived name is made of

A name that is derived from two labels is a label that fits, whatever their lengths: a dash between a beginning of the
one and a beginning of the other.  How much of each is there is laid down by their lengths (`Parts`), and what is cut
is cut as late as the room and its last character allow (`IsCut`).

Sizes are taken in bytes while the cut counts characters.  Whether the two can get in each other's way is asked of the
same derivation with each of its steps guarded: differences that may be below zero, and slices that may end within a
character.  None of its steps fails, on any texts (`joinFragments?_eq`).
-/
namespace SignOnOperator.Naming

variable {cs part base suffix b s : List Char} {n : Nat}

/-! ## Cutting as late as possible -/

/-- The longest beginning of `whole` that has room and does not end in a dash. -/
structure IsCut (n : Nat) (whole part : List Char) : Prop where
  initial : part <+: whole
  room : part.length ≤ n
  last : part.getLast? ≠ some '-'
  longest : ∀ other, other <+: whole → other.length ≤ n → other.getLast? ≠ some '-' → other.length ≤ part.length

theorem initial_trimEnd_of_last (last : part.getLast? ≠ some '-') : part <+: cs → part <+: Text.trimEnd '-' cs := by
  -- From the end of `cs`: a character there that is trimmed is none of `part`, as `part` would end in it.
  induction cs using List.reverseRecOn with
  | nil => exact id
  | append_singleton cs c ih =>
    intro initial
    have trimmed : Text.trimEnd '-' (cs ++ [c]) = List.rdropWhile (· == '-') (cs ++ [c]) := rfl
    by_cases dash : c = '-'
    · subst dash
      rw [trimmed, List.rdropWhile_concat_pos _ _ _ (by simp)]
      rcases List.prefix_concat_iff.1 initial with rfl | shorter
      · exact absurd List.getLast?_concat last
      · exact ih shorter
    · rw [trimmed, List.rdropWhile_concat_neg _ _ _ (by simp [dash])]
      exact initial

theorem isCut_truncate (cs : List Char) (n : Nat) : IsCut n cs (truncate cs n) where
  initial := truncate_initial
  room := length_truncate_le
  last := getLast?_truncate
  longest other initial room last := by
    have within : other <+: cs.take n := by
      rw [List.prefix_iff_eq_take.1 initial]
      exact List.take_prefix_take_left room
    exact (initial_trimEnd_of_last last within).length_le

/-! ## The parts of a name -/

/-- What is left of two labels in the name that is derived from them, by their lengths. -/
structure Parts (base suffix b s : List Char) : Prop where
  initial : b <+: base ∧ s <+: suffix
  nonempty : b ≠ [] ∧ s ≠ []
  fit : base.length + suffix.length + 1 ≤ 63 → b = base ∧ s = suffix
  short_suffix : 63 < base.length + suffix.length + 1 → suffix.length ≤ 31 →
    IsCut (62 - suffix.length) base b ∧ s = suffix
  short_base : 63 < base.length + suffix.length + 1 → 31 < suffix.length → base.length ≤ 31 →
    b = base ∧ IsCut (62 - base.length) suffix s
  both_long : 31 < suffix.length → 31 < base.length → IsCut 31 base b ∧ IsCut 31 suffix s

/-- A label that fits, and that consists of what `Parts` says with a dash between. -/
structure Derived (base suffix name : String) : Prop where
  label : IsLabel name.toList
  fits : name.length ≤ 63
  parts : ∃ b s, name.toList = b ++ '-' :: s ∧ Parts base.toList suffix.toList b s

theorem parts_truncate (hb : IsLabel base) (hs : IsLabel suffix) :
    Parts base suffix (truncate base (roomBeside suffix.length)) (truncate suffix (roomBeside base.length)) where
  initial := ⟨truncate_initial, truncate_initial⟩
  nonempty := ⟨(hb.truncate (roomBeside_pos _)).ne_nil, (hs.truncate (roomBeside_pos _)).ne_nil⟩
  fit fits := by
    constructor
    · exact truncate_of_length_le hb.last (by unfold roomBeside maxLength; omega)
    · exact truncate_of_length_le hs.last (by unfold roomBeside maxLength; omega)
  short_suffix _ short := by
    have room : roomBeside suffix.length = 62 - suffix.length := by
      unfold roomBeside maxLength
      omega
    rw [room]
    exact ⟨isCut_truncate _ _, truncate_roomBeside_of_short hs short _⟩
  short_base _ _ short := by
    have room : roomBeside base.length = 62 - base.length := by
      unfold roomBeside maxLength
      omega
    rw [room]
    exact ⟨truncate_roomBeside_of_short hb short _, isCut_truncate _ _⟩
  both_long longSuffix longBase := by
    have half {n : Nat} (long : 31 < n) : roomBeside n = 31 := by
      unfold roomBeside maxLength
      omega
    rw [half longSuffix, half longBase]
    exact ⟨isCut_truncate _ _, isCut_truncate _ _⟩

theorem derived_buildName {base suffix : String} (hb : IsLabel base.toList) (hs : IsLabel suffix.toList) :
    Derived base suffix (buildName base suffix) where
  label := toList_buildName ▸ hb.joinFragments hs
  fits := by
    rw [← String.length_toList, toList_buildName]
    exact length_joinFragments_le
  parts := ⟨_, _, toList_buildName.trans (joinFragments_eq hb hs), parts_truncate hb hs⟩

/-! ## The derivation with its steps guarded -/

/-- The difference, if it is not below zero. -/
def sub? (m n : Nat) : Option Nat := if n ≤ m then some (m - n) else none

/-- The characters in the first bytes of a text, if there are as many bytes and a character ends there. -/
def slice? : List Char → Nat → Option (List Char)
  | [], bytes => if bytes = 0 then some [] else none
  | c :: cs, bytes =>
    if bytes = 0 then some []
    else if c.utf8Size ≤ bytes then (slice? cs (bytes - c.utf8Size)).map (c :: ·)
    else none

/-- The bytes at which the characters of a text begin that itself begins at `start`. -/
def offsets (start : Nat) : List Char → List Nat
  | [] => []
  | c :: cs => start :: offsets (start + c.utf8Size) cs

/-- `truncate` by a slice: up to where the character after the first `n` begins, or to the end. -/
def truncate? (fragment : List Char) (n : Nat) : Option (List Char) :=
  (slice? fragment ((offsets 0 fragment)[n]?.getD (byteCount fragment))).map (Text.trimEnd '-')

/-- `shares` with its differences guarded. -/
def shares? (base suffix : Nat) : Option (Nat × Nat) := do
  let available ← sub? maxLength 1
  let half := available / 2
  if suffix ≤ half then return (← sub? available suffix, suffix)
  else if base ≤ half then return (base, ← sub? available base)
  else return (half, half)

/-- `joinFragments` with all of its steps guarded. -/
def joinFragments? (base suffix : List Char) : Option (List Char) := do
  if byteCount base + byteCount suffix + 1 ≤ maxLength then return base ++ '-' :: suffix
  let (forBase, forSuffix) ← shares? (byteCount base) (byteCount suffix)
  return (← truncate? base forBase) ++ '-' :: (← truncate? suffix forSuffix)

theorem getElem?_offsets (cs : List Char) (start n : Nat) :
    (offsets start cs)[n]?.getD (start + byteCount cs) = start + byteCount (cs.take n) := by
  induction cs generalizing start n with
  | nil => rw [List.take_nil]; rfl
  | cons c cs ih =>
    cases n with
    | zero => rfl
    | succ n =>
      have later := ih (start + c.utf8Size) n
      rw [Nat.add_assoc, Nat.add_assoc] at later
      exact later

theorem slice?_take (cs : List Char) (n : Nat) : slice? cs (byteCount (cs.take n)) = some (cs.take n) := by
  induction cs generalizing n with
  | nil => rw [List.take_nil]; rfl
  | cons c cs ih =>
    cases n with
    | zero => rfl
    | succ n =>
      have size : byteCount ((c :: cs).take (n + 1)) = c.utf8Size + byteCount (cs.take n) := rfl
      have positive := c.utf8Size_pos
      rw [size, slice?, if_neg (by omega), if_pos (Nat.le_add_right _ _), Nat.add_sub_cancel_left, ih n]
      rfl

theorem truncate?_eq (cs : List Char) (n : Nat) : truncate? cs n = some (truncate cs n) := by
  have cut := getElem?_offsets cs 0 n
  rw [Nat.zero_add, Nat.zero_add] at cut
  rw [truncate?, cut, slice?_take]
  rfl

theorem sub?_of_le {m n : Nat} (le : n ≤ m) : sub? m n = some (m - n) := if_pos le

theorem shares?_eq (base suffix : Nat) : shares? base suffix = some (shares base suffix) := by
  unfold shares? shares
  rw [sub?_of_le (show 1 ≤ maxLength by decide)]
  simp only [Option.bind_eq_bind, Option.bind_some]
  by_cases shortSuffix : suffix ≤ (maxLength - 1) / 2
  · rw [if_pos shortSuffix, if_pos shortSuffix, sub?_of_le (shortSuffix.trans (Nat.div_le_self _ _))]
    rfl
  rw [if_neg shortSuffix, if_neg shortSuffix]
  by_cases shortBase : base ≤ (maxLength - 1) / 2
  · rw [if_pos shortBase, if_pos shortBase, sub?_of_le (shortBase.trans (Nat.div_le_self _ _))]
    rfl
  · rw [if_neg shortBase, if_neg shortBase]
    rfl

theorem joinFragments?_eq (base suffix : List Char) :
    joinFragments? base suffix = some (joinFragments base suffix) := by
  unfold joinFragments? joinFragments
  by_cases fits : byteCount base + byteCount suffix + 1 ≤ maxLength
  · rw [if_pos fits, if_pos fits]
    rfl
  · rw [if_neg fits, if_neg fits, shares?_eq]
    simp only [Option.bind_eq_bind, Option.bind_some, truncate?_eq]
    rfl

/-! ## Derived names -/

/-- **Derived names are always valid.**  Two labels give a label that fits, made of their beginnings as `Parts` says;
so does the name of a job, in which a derived name is derived from again.  Texts of any kind give a name that fits, and
no difference and no slice fails on the way to it. -/
theorem derived_names_valid :
    (∀ base suffix : String, IsLabel base.toList → IsLabel suffix.toList →
      Derived base suffix (buildName base suffix)) ∧
    (∀ base suffix : String, joinFragments? base.toList suffix.toList = some (buildName base suffix).toList ∧
      (buildName base suffix).length ≤ 63) ∧
    ∀ (sso : Sso) (ns : String) (mode : Exposure.Mode), IsLabel sso.name.toList → IsLabel ns.toList →
      Derived sso.name ns (buildName sso.name ns) ∧
        Derived (buildName sso.name ns) mode.name (Exposure.jobName sso ns mode) := by
  refine ⟨fun base suffix => derived_buildName, fun base suffix => ⟨?_, ?_⟩, fun sso ns mode hsso hns => ?_⟩
  · rw [joinFragments?_eq, toList_buildName]
  · rw [← String.length_toList, toList_buildName]
    exact length_joinFragments_le
  · have inner := derived_buildName hsso hns
    exact ⟨inner, derived_buildName inner.label mode.isLabel_name.1⟩

/-- A base that is cut right after a dash, and the job of an SSO of which the name has the greatest length. -/
theorem cut_names_valid :
    let base := String.ofList (List.replicate 55 'a' ++ ['-', 'b', 'c', 'd'])
    let sso := named (longName 'a')
    (IsLabel base.toList ∧ IsLabel "expose".toList ∧ Derived base "expose" (buildName base "expose") ∧
      (buildName base "expose").toList = List.replicate 55 'a' ++ '-' :: "expose".toList) ∧
    IsLabel sso.name.toList ∧ IsLabel "jx".toList ∧
      Derived (buildName sso.name "jx") "expose" (Exposure.jobName sso "jx" .expose) := by
  intro base sso
  have chars : base.toList = List.replicate 55 'a' ++ ['-', 'b', 'c', 'd'] := String.toList_ofList
  have cut : IsLabel base.toList := by
    rw [chars]
    decide +kernel
  have mode : IsLabel "expose".toList := by decide +kernel
  have long : IsLabel sso.name.toList := by
    rw [toList_named]
    decide +kernel
  have jx : IsLabel "jx".toList := by decide +kernel
  refine ⟨⟨cut, mode, derived_names_valid.1 base "expose" cut mode, ?_⟩, long, jx,
    (derived_names_valid.2.2 sso "jx" .expose long jx).2⟩
  rw [toList_buildName, chars]
  decide +kernel

end SignOnOperator.Naming
