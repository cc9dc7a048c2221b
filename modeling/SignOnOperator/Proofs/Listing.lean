import Mathlib.Data.List.Chain
import SignOnOperator.Yaml.Block
/-!
# What a mapping in block style lists

A list under a name is a line for the name and then its items, on lines that begin with a dash (`render_listing`).
No other line begins so: what has several lines, as a text may have, is indented after the first one
(`scalar_undashed`).  So a mapping of texts and truth values lists nothing (`unlisted_renderMembers`).
-/
namespace SignOnOperator.Yaml

/-- No line after the first one begins with a dash. -/
def Undashed (cs : List Char) : Prop := cs.IsChain fun a b => a = '\n' → b ≠ '-'

/-- No line of the text begins with a dash. -/
def Unlisted (text : String) : Prop := Undashed ('\n' :: text.toList)

instance (cs : List Char) : Decidable (Undashed cs) := inferInstanceAs (Decidable (List.IsChain _ cs))

instance (text : String) : Decidable (Unlisted text) := inferInstanceAs (Decidable (Undashed _))

/-- The lines of an item in a list of texts. -/
def item (text : String) : String := "- " ++ endLine (scalar 2 text)

variable {cs cs' : List Char} {text text' name : String}

theorem undashed_of_notMem (h : '\n' ∉ cs) : Undashed cs :=
  List.isChain_iff_forall_rel_of_append_cons_cons.2 fun {a b l₁ l₂} split newline => by
    rw [split, newline] at h
    simp at h

theorem Undashed.append (h : Undashed cs) (h' : Undashed ('\n' :: cs')) : Undashed (cs ++ cs') :=
  List.IsChain.append h h'.tail fun _ _ _ hb _ => h'.rel_head? hb rfl

theorem Undashed.cons {c : Char} (h : Undashed cs) (hc : c ≠ '\n') : Undashed (c :: cs) :=
  List.IsChain.cons h fun _ _ newline => absurd newline hc

theorem Unlisted.append (h : Unlisted text) (h' : Unlisted text') : Unlisted (text ++ text') := by
  unfold Unlisted
  rw [String.toList_append, ← List.cons_append]
  exact Undashed.append h h'

/-! ## Scalars -/

theorem newline_notMem_ite {p : Prop} [Decidable p] (h : '\n' ∉ cs) (h' : '\n' ∉ cs') :
    '\n' ∉ if p then cs else cs' := by
  split
  · exact h
  · exact h'

theorem newline_notMem_singleQuotedBody (indent : Nat) (afterBreak : Bool) (h : '\n' ∉ cs) :
    '\n' ∉ singleQuotedBody indent afterBreak cs := by
  induction cs generalizing afterBreak with
  | nil => cases afterBreak <;> simp [singleQuotedBody, blanks]
  | cons c cs ih =>
    obtain ⟨first, others⟩ := not_or.1 (mt List.mem_cons.2 h)
    unfold singleQuotedBody
    simp only [List.mem_append, not_or]
    refine ⟨⟨?_, ?_⟩, ih _ others⟩
    · split <;> simp [blanks]
    · exact newline_notMem_ite (by decide) (mt List.mem_singleton.1 first)

theorem newline_notMem_toDigits (n : Nat) : '\n' ∉ (Nat.toDigits 16 n).map Char.toUpper := by
  have digit : ∀ d < 16, '\n' ≠ (Nat.digitChar d).toUpper := by decide
  induction n using Nat.strongRecOn with
  | ind n ih =>
    rw [Nat.toDigits_eq_if (by decide)]
    split
    · rename_i small
      simpa using digit n small
    · rename_i large
      have smaller : n / 16 < n := by omega
      rw [List.map_append, List.mem_append, not_or]
      exact ⟨ih _ smaller, by simpa using digit _ (Nat.mod_lt n (by decide))⟩

theorem newline_notMem_upperHex (width n : Nat) : '\n' ∉ upperHex width n := by
  unfold upperHex
  rw [List.mem_append, not_or]
  exact ⟨by simp, newline_notMem_toDigits n⟩

theorem newline_notMem_doubleQuotedChar (c : Char) : '\n' ∉ doubleQuotedChar c := by
  unfold doubleQuotedChar
  by_cases kept : (isPrintable c && !isBreak c && c ≠ '"' && c ≠ '\\') = true
  · rw [if_pos kept, List.mem_singleton]
    rintro rfl
    exact absurd kept (by decide)
  · rw [if_neg kept, List.mem_cons, not_or]
    have hex {mark : Char} (other : '\n' ≠ mark) (width : Nat) : '\n' ∉ mark :: upperHex width c.toNat :=
      List.not_mem_cons_of_ne_of_not_mem other (newline_notMem_upperHex width c.toNat)
    refine ⟨by decide, ?_⟩
    -- The characters with an escape of their own come before those that are written by their number.
    repeat refine newline_notMem_ite (by decide) ?_
    exact newline_notMem_ite (hex (by decide) 2) (newline_notMem_ite (hex (by decide) 4) (hex (by decide) 8))

/-- By induction on the characters, of which the one before tells whether a line begins. -/
theorem literalBody_undashed {indent : Nat} (indented : 0 < indent) : ∀ (previous : Char) (cs : List Char),
    Undashed (previous :: literalBody indent (isBreak previous) cs)
  | previous, [] => List.isChain_singleton previous
  | previous, c :: cs => by
    have rest : Undashed (c :: literalBody indent (isBreak c) cs) := literalBody_undashed indented c cs
    unfold literalBody
    split
    · obtain ⟨n, rfl⟩ := Nat.exists_eq_succ_of_ne_zero indented.ne'
      have margin : Undashed (previous :: blanks (n + 1)) :=
        List.IsChain.cons (undashed_of_notMem (by simp [blanks])) (by simp [blanks, List.replicate_succ])
      refine List.IsChain.append margin rest fun a ha b _ newline => ?_
      have last : a = ' ' := by
        rw [blanks, List.replicate_succ', ← List.cons_append, List.getLast?_concat] at ha
        exact (Option.some.inj ha).symm
      exact absurd (last.symm.trans newline) (by decide)
    · rename_i unindented
      refine List.IsChain.cons rest fun b hb newline dash => ?_
      obtain rfl : c = b := by simpa using hb
      subst newline dash
      exact absurd unindented (by decide)

/-- A text in the style of which nothing is escaped has no line breaks. -/
theorem newline_notMem_of_style (style : styleOf cs = .plain ∨ styleOf cs = .singleQuoted) : '\n' ∉ cs := by
  intro mem
  unfold styleOf at style
  rw [if_pos (List.contains_iff_mem.2 mem)] at style
  split at style <;> simp at style

theorem newline_notMem_chomping (cs : List Char) : '\n' ∉ chomping cs := by
  unfold chomping
  split
  · decide
  · exact newline_notMem_ite (by decide) (by decide)
  · exact newline_notMem_ite (by decide) (newline_notMem_ite (by decide) (by decide))

theorem scalar_undashed {indent : Nat} (indented : 0 < indent) (text : String) :
    Undashed (scalar indent text).toList := by
  unfold scalar
  dsimp only
  rw [String.toList_ofList]
  cases style : styleOf text.toList with
  | plain => exact undashed_of_notMem (newline_notMem_of_style (.inl style))
  | singleQuoted =>
    have body := newline_notMem_singleQuotedBody indent false (newline_notMem_of_style (.inr style))
    exact undashed_of_notMem (by simp [body])
  | doubleQuoted =>
    have body : '\n' ∉ text.toList.flatMap doubleQuotedChar := by
      rintro mem
      obtain ⟨c, -, inside⟩ := List.mem_flatMap.1 mem
      exact newline_notMem_doubleQuotedChar c inside
    exact undashed_of_notMem (by simp [body])
  | literal =>
    have body : Undashed ('\n' :: literalBody indent true text.toList) := literalBody_undashed indented '\n' _
    refine Undashed.append (undashed_of_notMem ?_) (List.IsChain.cons body (by simp))
    rw [List.mem_append, not_or]
    refine ⟨List.not_mem_cons_of_ne_of_not_mem (by decide) ?_, newline_notMem_chomping text.toList⟩
    exact newline_notMem_ite (by decide) (by decide)

/-! ## Members and items -/

/-- What is written on the line of its name. -/
def isLeaf : Yaml → Bool
  | .str _ | .bool _ => true
  | _ => false

theorem endLine_undashed {line : String} (h : Undashed line.toList) : Undashed (endLine line).toList := by
  have ended : Undashed (line ++ "\n").toList := by
    rw [String.toList_append]
    exact h.append (by decide)
  unfold endLine
  split
  · split
    · exact h
    · exact ended
  · exact ended

theorem afterName_undashed {value : Yaml} (leaf : value.isLeaf = true) :
    Undashed (afterName 0 value).toList := by
  cases value with
  | str s =>
    unfold afterName
    refine endLine_undashed ?_
    rw [String.toList_append]
    exact Undashed.cons (scalar_undashed (by decide) s) (by decide)
  | bool b => cases b <;> decide
  | null | int _ | seq _ | map _ => cases leaf

/-- Texts and truth values under names are no lists. -/
theorem unlisted_renderMembers : ∀ {members : List (String × Yaml)},
    (∀ m ∈ members, Unlisted (scalar 0 m.1) ∧ m.2.isLeaf = true) → Unlisted (renderMembers 0 members)
  | [], _ => by
    rw [renderMembers]
    decide
  | (name, value) :: rest, leaves => by
    obtain ⟨named, leaf⟩ := leaves _ List.mem_cons_self
    have later : Unlisted (renderMembers 0 rest) :=
      unlisted_renderMembers fun m mem => leaves m (List.mem_cons_of_mem _ mem)
    have shown : Unlisted (":" ++ afterName 0 value) := by
      unfold Unlisted
      rw [String.toList_append]
      exact List.IsChain.cons ((afterName_undashed leaf).cons (by decide)) (by simp)
    have parts : renderMembers 0 ((name, value) :: rest) =
        margin 0 ++ scalar 0 name ++ (":" ++ afterName 0 value) ++ renderMembers 0 rest := by
      rw [renderMembers, ← String.append_assoc]
    have unindented : Unlisted (margin 0) := by decide
    rw [parts]
    exact ((unindented.append named).append shown).append later

theorem renderMembers_append (indent : Nat) : ∀ ms ms' : List (String × Yaml),
    renderMembers indent (ms ++ ms') = renderMembers indent ms ++ renderMembers indent ms'
  | [], ms' => by rw [List.nil_append, renderMembers, String.empty_append]
  | (name, value) :: ms, ms' => by
    rw [List.cons_append, renderMembers, renderMembers, renderMembers_append indent ms ms', ← String.append_assoc]

theorem renderItems_texts : ∀ items : List String, renderItems 0 (items.map .str) = String.join (items.map item)
  | [] => by
    rw [List.map_nil, renderItems]
    rfl
  | text :: rest => by
    rw [List.map_cons, renderItems, renderItems_texts rest, List.map_cons, String.join_cons]
    rfl

theorem render_map {members : List (String × Yaml)} (told : members ≠ []) :
    (map members).render = renderMembers 0 members := by
  obtain ⟨member, rest, rfl⟩ := List.exists_cons_of_ne_nil told
  rfl

/-- A list of texts under a name among other members: a line for the name, and the items. -/
theorem render_listing {before after : List (String × Yaml)} {items : List String} (plain : scalar 0 name = name)
    (listed : items ≠ []) :
    (map (before ++ (name, .seq (items.map .str)) :: after)).render =
      renderMembers 0 before ++ (name ++ ":\n" ++ String.join (items.map item)) ++ renderMembers 0 after := by
  obtain ⟨text, rest, rfl⟩ := List.exists_cons_of_ne_nil listed
  have block : afterName 0 (.seq ((text :: rest).map .str)) = "\n" ++ renderItems 0 ((text :: rest).map .str) := rfl
  have unindented : margin 0 = "" := rfl
  have colon : ":\n" = ":" ++ "\n" := by decide
  rw [render_map (by simp), renderMembers_append, renderMembers, plain, block, renderItems_texts, unindented,
    String.empty_append, colon]
  simp only [String.append_assoc]

example : (map [("http", .bool false), ("services", .seq [.str "app"])]).render =
    "http: false\nservices:\n- app\n" := by decide

end SignOnOperator.Yaml
