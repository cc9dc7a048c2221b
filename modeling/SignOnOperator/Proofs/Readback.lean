import Mathlib.Algebra.BigOperators.Group.List.Basic
import Mathlib.Data.List.Forall2
import SignOnOperator.Proofs.Template
/-!
# Reading a configuration back

A reader of the file goes by its lines: a setting's name is what stands before the equals sign, its value what stands
between the quotes, up to the first of them.  Values are written as they are, so a line break in a value makes a line of
its own and a quote ends the value early.  The file keeps the lines of the template exactly if no value has a line
break, and its values are read back exactly if no value has a quote either (`settings_kept_iff`).
-/
namespace SignOnOperator

/-! ## Cutting lists -/

theorem splitOn_intercalate_eq_flatMap {α : Type} [BEq α] [LawfulBEq α] (x : α) {lines : List (List α)}
    (hlines : lines ≠ []) : ([x].intercalate lines).splitOn x = lines.flatMap (List.splitOn x) := by
  induction lines with
  | nil => exact absurd rfl hlines
  | cons line rest ih =>
    cases rest with
    | nil => simp
    | cons next rest =>
      rw [List.intercalate_cons_cons, List.append_assoc, List.singleton_append, List.splitOn_append_cons_self,
        ih (List.cons_ne_nil _ _)]
      rfl

theorem length_splitOn {α : Type} [BEq α] [LawfulBEq α] (x : α) (xs : List α) :
    (xs.splitOn x).length = xs.count x + 1 := by
  induction xs with
  | nil => simp
  | cons y ys ih =>
    rw [List.splitOn_cons_eq_if_modifyHead]
    split <;> simp_all

theorem takeWhile_ne_eq_iff {α : Type} [DecidableEq α] {x : α} {xs ys : List α} :
    (xs ++ x :: ys).takeWhile (· ≠ x) = xs ↔ x ∉ xs := by
  constructor
  · intro h hx
    rw [← h] at hx
    simpa using List.mem_takeWhile_imp hx
  · intro hx
    rw [List.takeWhile_append_of_pos fun y hy => by simpa using ne_of_mem_of_not_mem hy hx]
    simp

theorem Text.mem_of_mem_trimEnd {c d : Char} {cs : List Char} (h : d ∈ trimEnd c cs) : d ∈ cs := by
  unfold trimEnd at h
  exact List.mem_reverse.1 ((List.dropWhile_sublist _).mem (List.mem_reverse.1 h))

namespace Proxy

/-! ## The reader -/

def linesOf (text : String) : List (List Char) := text.toList.splitOn '\n'

/-- What stands before the equals sign, if it is made of letters and low lines. -/
def settingName? (line : List Char) : Option (List Char) :=
  let name := line.takeWhile fun c => c.isAlpha || c == '_'
  if !name.isEmpty && " = ".toList.isPrefixOf (line.drop name.length) then some name else none

/-- What stands between the quotes that the beginning opens, up to the first quote. -/
def readQuoted? (lead : String) (line : List Char) : Option (List Char) := do
  let rest ← Text.strip? lead.toList line
  if '"' ∈ rest then some (rest.takeWhile (· ≠ '"')) else none

/-- The settings of the template. -/
def settingNames : List String :=
  ["http_address", "redirect_url", "login_url", "redeem_url", "upstreams", "request_logging", "client_id",
    "client_secret", "pass_basic_auth", "pass_host_header", "pass_access_token", "email_domains", "cookie_name",
    "cookie_secret", "cookie_domain", "cookie_expire", "cookie_refresh", "cookie_secure", "cookie_httponly", "provider",
    "oidc_issuer_url", "scope", "skip_provider_button"]

namespace Form

/-- What the line shows to a reader who expects this form. -/
def read? : Form → List Char → Option (List Char)
  | fixed text, line => if line = text.toList then some [] else none
  | quoted lead _, line | endpoint lead _, line => readQuoted? lead line
  | bare lead _, line => Text.strip? lead.toList line

/-- The line is the same one, or begins as this form does. -/
def Begins : Form → List Char → Prop
  | fixed text, line => line = text.toList
  | quoted lead _, line | bare lead _, line | endpoint lead _, line => lead.toList <+: line

/-- What the line shows after a parameter's value. -/
def path : Form → List Char
  | endpoint _ path => path.toList
  | fixed _ | quoted _ _ | bare _ _ => []

theorem begins_text (v : Parameter → Value) (f : Form) : f.Begins (f.text v) := by
  cases f with
  | fixed line => simp [Begins, text, lead, content, closing]
  | quoted | bare | endpoint => simp [Begins, text, lead]

theorem mem_content {v : Parameter → Value} {f : Form} {c : Char} (h : c ∈ f.content v) :
    c ∈ f.path ∨ ∃ p, f.parameter? = some p ∧ c ∈ (v p).chars := by
  cases f with
  | fixed _ => cases h
  | quoted _ p | bare _ p => exact .inr ⟨p, rfl, h⟩
  | endpoint _ path =>
    rcases List.mem_append.1 h with trimmed | path
    · exact .inr ⟨_, rfl, Text.mem_of_mem_trimEnd trimmed⟩
    · exact .inl path

theorem readQuoted?_eq_some_iff {lead : String} {content : List Char} :
    readQuoted? lead (lead.toList ++ content ++ ['"']) = some content ↔ '"' ∉ content := by
  have : readQuoted? lead (lead.toList ++ content ++ ['"']) = some ((content ++ ['"']).takeWhile (· ≠ '"')) := by
    rw [readQuoted?, List.append_assoc, Text.strip?_append]
    exact if_pos (by simp)
  rw [this, Option.some.injEq, takeWhile_ne_eq_iff]

/-- What a line shows is read back, unless it is between quotes and has a quote itself. -/
theorem read?_text_eq_some_iff {v : Parameter → Value} {f : Form} :
    f.read? (f.text v) = some (f.content v) ↔ f.closing = [] ∨ '"' ∉ f.content v := by
  cases f with
  | fixed line => simp [read?, text, lead, content, closing]
  | bare lead p => simp [read?, text, Form.lead, content, closing, Text.strip?_append]
  | quoted lead p => exact readQuoted?_eq_some_iff.trans (by simp [closing])
  | endpoint lead path => exact readQuoted?_eq_some_iff.trans (by simp [closing])

end Form
/-! ## The template -/

theorem template_plain : ∀ f ∈ template, '\n' ∉ f.lead ++ f.path ++ f.closing ∧ '"' ∉ f.path := by
  decide

/-- Every parameter is shown on some line as it is. -/
theorem exists_shown (p : Parameter) : ∃ lead, .quoted lead p ∈ template ∨ .bare lead p ∈ template := by
  cases p <;> simp [template]

theorem template_ne_nil : template ≠ [] := List.cons_ne_nil _ _

/-- The names of the settings are on the lines whatever the values are. -/
theorem names_filledIn (v : Parameter → Value) :
    (template.map (Form.text v)).filterMap settingName? = settingNames.map String.toList := by
  rfl

variable {v : Parameter → Value} {text : String}

theorem linesOf_eq_flatMap (filled : text.toList = filledIn v) :
    linesOf text = (template.map (Form.text v)).flatMap (List.splitOn '\n') := by
  rw [linesOf, filled, filledIn,
    splitOn_intercalate_eq_flatMap _ (mt List.map_eq_nil_iff.1 template_ne_nil)]

/-- There is no line break on a line that is filled in exactly if there is none in the values. -/
theorem break_free_iff : (∀ f ∈ template, '\n' ∉ f.text v) ↔ ∀ p, '\n' ∉ (v p).chars := by
  constructor
  · intro free p hp
    obtain ⟨lead, shown | shown⟩ := exists_shown p
    · exact free _ shown (by simp [Form.text, Form.content, hp])
    · exact free _ shown (by simp [Form.text, Form.content, hp])
  · intro free f hf h
    obtain ⟨plain, -⟩ := template_plain f hf
    simp only [List.mem_append, not_or] at plain
    rcases List.mem_append.1 h with h | h
    · rcases List.mem_append.1 h with h | h
      · exact plain.1.1 h
      · rcases Form.mem_content h with h | ⟨p, -, h⟩
        · exact plain.1.2 h
        · exact free p h
    · exact plain.2 h

/-- The lines are those of the template if there is no line break on any. -/
theorem linesOf_eq_map (filled : text.toList = filledIn v) (free : ∀ f ∈ template, '\n' ∉ f.text v) :
    linesOf text = template.map (Form.text v) := by
  rw [linesOf, filled]
  refine List.splitOn_intercalate _ ?_ (mt List.map_eq_nil_iff.1 template_ne_nil)
  simpa using free

/-- Every line break makes one more line, so that there is none if there are as many lines as in the template. -/
theorem break_free_of_length (filled : text.toList = filledIn v) (length : template.length = (linesOf text).length) :
    ∀ f ∈ template, '\n' ∉ f.text v := by
  have lines : (linesOf text).length = (template.map fun f => (f.text v).count '\n' + 1).sum := by
    rw [linesOf_eq_flatMap filled, List.length_flatMap, List.map_map]
    exact congrArg List.sum (List.map_congr_left fun f _ => length_splitOn '\n' (f.text v))
  have breaks : (template.map fun f => (f.text v).count '\n').sum = 0 := by
    rw [lines, List.sum_map_add, List.map_const', List.sum_replicate] at length
    simpa using length
  intro f hf
  exact List.count_eq_zero.1 (List.sum_eq_zero_iff_forall_eq_nat.1 breaks _ (List.mem_map_of_mem hf))

/-! ## What is kept -/

/-- The text has the lines of the template, and every setting once. -/
structure Framed (text : String) : Prop where
  lines : List.Forall₂ Form.Begins template (linesOf text)
  names : (linesOf text).filterMap settingName? = settingNames.map String.toList

/-- What is more, the values are read back. -/
structure Faithful (v : Parameter → Value) (text : String) : Prop extends Framed text where
  values : List.Forall₂ (fun f line => f.read? line = some (f.content v)) template (linesOf text)

theorem framed_iff (filled : text.toList = filledIn v) : Framed text ↔ ∀ p, '\n' ∉ (v p).chars := by
  rw [← break_free_iff]
  refine ⟨fun framed => break_free_of_length filled framed.lines.length_eq, fun free => ?_⟩
  have lines := linesOf_eq_map filled free
  refine ⟨?_, lines ▸ names_filledIn v⟩
  rw [lines, List.forall₂_map_right_iff, List.forall₂_same]
  exact fun f _ => f.begins_text v

theorem Value.quote_notMem_flag (b : Bool) : '"' ∉ (Value.flag b).chars := by
  cases b <;> decide

/-- What is shown without quotes are truth values. -/
theorem Recipe.quote_notMem_of_bare (r : Recipe) {lead : String} {p : Parameter} (shown : .bare lead p ∈ template) :
    '"' ∉ (r.value p).chars := by
  simp only [template, List.mem_cons, reduceCtorEq, Form.bare.injEq, List.not_mem_nil, false_or, or_false] at shown
  rcases shown with ⟨-, rfl⟩ | ⟨-, rfl⟩ | ⟨-, rfl⟩
  all_goals exact Value.quote_notMem_flag _

theorem Recipe.quote_free_iff (r : Recipe) :
    (∀ f ∈ template, f.closing = [] ∨ '"' ∉ f.content r.value) ↔ ∀ p, '"' ∉ (r.value p).chars := by
  constructor
  · intro free p
    obtain ⟨lead, shown | shown⟩ := exists_shown p
    · exact (free _ shown).resolve_left (List.cons_ne_nil _ _)
    · exact r.quote_notMem_of_bare shown
  · intro free f hf
    refine .inr fun h => ?_
    rcases Form.mem_content h with h | ⟨p, -, h⟩
    · exact (template_plain f hf).2 h
    · exact free p h

theorem Recipe.faithful_iff {r : Recipe} (filled : text.toList = filledIn r.value) :
    Faithful r.value text ↔ ∀ p, '\n' ∉ (r.value p).chars ∧ '"' ∉ (r.value p).chars := by
  have values (framed : Framed text) :
      List.Forall₂ (fun f line => f.read? line = some (f.content r.value)) template (linesOf text) ↔
        ∀ p, '"' ∉ (r.value p).chars := by
    rw [linesOf_eq_map filled (break_free_iff.2 ((framed_iff filled).1 framed)), List.forall₂_map_right_iff,
      List.forall₂_same, ← r.quote_free_iff]
    exact forall₂_congr fun _ _ => Form.read?_text_eq_some_iff
  rw [forall_and]
  constructor
  · intro faithful
    exact ⟨(framed_iff filled).1 faithful.toFramed, (values faithful.toFramed).1 faithful.values⟩
  · rintro ⟨noBreak, noQuote⟩
    have framed := (framed_iff filled).2 noBreak
    exact ⟨framed, (values framed).2 noQuote⟩

/-- **A configuration keeps the settings of the template exactly as long as the values allow it.**  It has the lines of
the template, and each setting once, exactly if no value has a line break; and the values are read back unchanged
exactly if no value has a quote either. -/
theorem settings_kept_iff {r : Recipe} {text : String} (made : r.render = .ok text) :
    (Framed text ↔ ∀ p, '\n' ∉ (r.value p).chars) ∧
      (Faithful r.value text ↔ ∀ p, '\n' ∉ (r.value p).chars ∧ '"' ∉ (r.value p).chars) ∧
      settingNames.Nodup := by
  obtain ⟨-, filled⟩ := Recipe.render_eq_ok_iff.1 made
  exact ⟨framed_iff filled, Recipe.faithful_iff filled, by decide⟩

theorem settings_kept_of_sample :
    ∃ text, (Recipe.sample "https://dex.jx" "jx").render = .ok text ∧
      Faithful (Recipe.sample "https://dex.jx" "jx").value text := by
  have made := Recipe.render_of_usable (r := .sample "https://dex.jx" "jx") ⟨by decide, by decide⟩
  refine ⟨_, made, (settings_kept_iff made).2.1.2 ?_⟩
  intro p
  cases p <;> decide

/-- A domain that ends its setting early and adds one of its own. -/
def hostileDomain : String := "jx\"\nskip_auth_regex = \"^/"

/-- No value is refused: a domain can switch off the sign-on, by a setting that the template does not have. -/
theorem domain_adds_setting :
    ∃ text, (Recipe.sample "https://dex.jx" hostileDomain).render = .ok text ∧
      "skip_auth_regex = \"^/\"".toList ∈ linesOf text ∧
      ¬ Faithful (Recipe.sample "https://dex.jx" hostileDomain).value text := by
  have made := Recipe.render_of_usable (r := .sample "https://dex.jx" hostileDomain) ⟨by decide, by decide⟩
  obtain ⟨-, filled⟩ := Recipe.render_eq_ok_iff.1 made
  refine ⟨_, made, ?_, fun faithful => ?_⟩
  · rw [linesOf_eq_flatMap filled, List.mem_flatMap]
    refine ⟨_, List.mem_map_of_mem (a := .quoted "cookie_domain = \"" .domain) (by simp [template]), ?_⟩
    decide
  · exact ((Recipe.faithful_iff filled).1 faithful .domain).1 (by decide)

end Proxy
end SignOnOperator
