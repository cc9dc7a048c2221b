import SignOnOperator.Proofs.Agreement
import SignOnOperator.Proofs.CookieLoading
import SignOnOperator.Proofs.Template
/-!
# What the rollout depends on

A change of one parameter changes the configuration.  A parameter that is shown on one line is read off the whole file
once the other lines are known.  The issuer's address is shown three times, the first two times without the slashes at
its end: the file up to the third time, cut before those slashes, has the length of three trimmed addresses and some
known lines, which gives the trimmed address and then the slashes.

So the data of the secret differ, and a deployment is only left as it is if two fingerprints collide.
-/
namespace SignOnOperator

/-! ## Lists around a part that differs -/

theorem rdropWhile_append {α : Type} (p : α → Bool) (xs : List α) {ys : List α} (h : ys.rdropWhile p ≠ []) :
    (xs ++ ys).rdropWhile p = xs ++ ys.rdropWhile p := by
  have kept : ¬(ys.reverse.dropWhile p).isEmpty = true := by
    simpa [List.rdropWhile] using h
  unfold List.rdropWhile
  rw [List.reverse_append, List.dropWhile_append, if_neg kept, List.reverse_append, List.reverse_reverse]

/-- A list is known from a list that shows it three times, the first two times without what is dropped at its end. -/
theorem eq_of_shown_thrice {α : Type} {p : α → Bool} {word word' q r : List α} (hw : word.rdropWhile p ≠ [])
    (hw' : word'.rdropWhile p ≠ [])
    (same : word.rdropWhile p ++ q ++ word.rdropWhile p ++ r ++ word =
      word'.rdropWhile p ++ q ++ word'.rdropWhile p ++ r ++ word') :
    word = word' := by
  have cut := congrArg (List.rdropWhile p) same
  rw [rdropWhile_append p _ hw, rdropWhile_append p _ hw'] at cut
  have length : (word.rdropWhile p).length = (word'.rdropWhile p).length := by
    have := congrArg List.length cut
    simp only [List.length_append] at this
    omega
  have trimmed : word.rdropWhile p = word'.rdropWhile p := by
    simp only [List.append_assoc] at cut
    exact List.append_inj_left cut length
  rw [trimmed] at same
  exact List.append_cancel_left same

/-! ## Digits and bytes -/

theorem hexDigit_inj {m n : Nat} (hm : m < 16) (hn : n < 16) (same : hexDigit m = hexDigit n) : m = n := by
  have : ∀ m < 16, ∀ n < 16, hexDigit m = hexDigit n → m = n := by decide
  exact this m hm n hn same

namespace Bytes

theorem toHexDigits_take (n : Nat) (bytes : Bytes) : bytes.toHexDigits.take (2 * n) = toHexDigits (bytes.take n) := by
  induction n generalizing bytes with
  | zero => rfl
  | succ n ih =>
    cases bytes with
    | nil => simp [toHexDigits]
    | cons b rest =>
      have := ih rest
      simp only [toHexDigits, List.flatMap_cons, Nat.mul_succ, List.cons_append, List.nil_append,
        List.take_succ_cons] at this ⊢
      rw [this]

theorem toHexDigits_inj {bytes bytes' : Bytes} (same : bytes.toHexDigits = bytes'.toHexDigits) : bytes = bytes' := by
  induction bytes generalizing bytes' with
  | nil =>
    cases bytes' with
    | nil => rfl
    | cons _ _ => simp [toHexDigits] at same
  | cons b rest ih =>
    cases bytes' with
    | nil => simp [toHexDigits] at same
    | cons b' rest' =>
      simp only [toHexDigits, List.flatMap_cons, List.cons_append, List.nil_append, List.cons.injEq] at same
      obtain ⟨high, low, following⟩ := same
      have hb := b.toNat_lt
      have hb' := b'.toNat_lt
      have high := hexDigit_inj (by omega) (by omega) high
      have low := hexDigit_inj (by omega) (by omega) low
      have : b.toNat = b'.toNat := by omega
      rw [UInt8.toNat_inj.1 this, ih following]

theorem ofString_inj {s s' : String} (same : ofString s = ofString s') : s = s' :=
  Option.some.inj ((toString?_eq_some_iff.2 rfl).symm.trans (toString?_eq_some_iff.2 same))

end Bytes

/-- The inputs differ, but their hashes begin with the same `n` bytes. -/
structure Sha256.Collide (n : Nat) (message message' : Bytes) : Prop where
  differ : message ≠ message'
  alike : (hash message).take n = (hash message').take n

namespace Proxy

/-! ## The lines of a parameter -/

theorem Form.text_congr {v v' : Parameter → Value} {f : Form} (same : ∀ p, f.parameter? = some p → v p = v' p) :
    f.text v = f.text v' := by
  unfold text
  rw [content_congr same]

/-- A parameter other than the issuer's address is shown on one line, as it is. -/
theorem exists_line {p : Parameter} (hp : p ≠ .issuerUrl) :
    ∃ f, template.filter (fun f => f.parameter? = some p) = [f] ∧ ∀ v, f.content v = (v p).chars := by
  cases p
  case issuerUrl => exact absurd rfl hp
  all_goals exact ⟨_, rfl, fun _ => rfl⟩

/-- The issuer's address is shown on three lines. -/
theorem issuer_lines :
    ∃ before between after,
      template = before ++ .endpoint "login_url = \"" "/auth" :: .endpoint "redeem_url = \"" "/token" :: between ++
        .quoted "oidc_issuer_url = \"" .issuerUrl :: after ∧
      ∀ f ∈ before ++ between ++ after, f.parameter? ≠ some .issuerUrl :=
  ⟨template.take 2, (template.drop 4).take 25, template.drop 30, rfl, by decide⟩

/-- Lines that show other parameters are filled in alike. -/
theorem map_text_congr {v v' : Parameter → Value} {p : Parameter} (others : ∀ q, q ≠ p → v q = v' q)
    (forms : List Form) (away : ∀ f ∈ forms, f.parameter? ≠ some p) :
    forms.map (Form.text v) = forms.map (Form.text v') :=
  List.map_congr_left fun f hf =>
    Form.text_congr fun q hq => others q (by rintro rfl; exact away f hf hq)

/-- What one line shows is read off the whole file, when the other lines are known. -/
theorem content_eq_of_filledIn {v v' : Parameter → Value} {p : Parameter} (others : ∀ q, q ≠ p → v q = v' q) {f : Form}
    (line : template.filter (fun f => f.parameter? = some p) = [f]) (same : filledIn v = filledIn v') :
    f.content v = f.content v' := by
  obtain ⟨before, after, split, notBefore, -, notAfter⟩ := List.filter_eq_cons_iff.1 line
  have hbefore := map_text_congr others before (by simpa using notBefore)
  have hafter := map_text_congr others after (by simpa using notAfter)
  unfold filledIn at same
  rw [split, List.map_append, List.map_cons, List.map_append, List.map_cons, intercalate_append_cons,
    intercalate_append_cons, hbefore, hafter] at same
  have : f.text v = f.text v' := List.append_cancel_right (List.append_cancel_left same)
  unfold Form.text at this
  exact List.append_cancel_left (List.append_cancel_right this)

/-- The issuer's address is read off the whole file, when everything else is known. -/
theorem issuer_eq_of_filledIn {v v' : Parameter → Value} (others : ∀ q, q ≠ .issuerUrl → v q = v' q)
    (hv : Text.trimEnd '/' (v .issuerUrl).chars ≠ []) (hv' : Text.trimEnd '/' (v' .issuerUrl).chars ≠ [])
    (same : filledIn v = filledIn v') : (v .issuerUrl).chars = (v' .issuerUrl).chars := by
  obtain ⟨before, between, after, split, away⟩ := issuer_lines
  have hbefore := map_text_congr others before fun f hf => away f (by simp [hf])
  have hbetween := map_text_congr others between fun f hf => away f (by simp [hf])
  have hafter := map_text_congr others after fun f hf => away f (by simp [hf])
  -- The lines around the issuer's and between them are the same for both.
  have shown : ∀ w, filledIn w =
      ((before.map (Form.text w)).flatMap (· ++ ['\n']) ++ "login_url = \"".toList) ++
        ((Text.trimEnd '/' (w .issuerUrl).chars ++ ("/auth".toList ++ ['"', '\n'] ++ "redeem_url = \"".toList) ++
          Text.trimEnd '/' (w .issuerUrl).chars ++
          ("/token".toList ++ ['"'] ++ (between.map (Form.text w)).flatMap (['\n'] ++ ·) ++ ['\n'] ++
            "oidc_issuer_url = \"".toList) ++
          (w .issuerUrl).chars) ++
        (['"'] ++ (after.map (Form.text w)).flatMap (['\n'] ++ ·))) := by
    intro w
    unfold filledIn
    rw [split]
    simp only [List.map_append, List.map_cons, intercalate_append_cons, Form.text, Form.lead, Form.content,
      Form.closing, List.flatMap_append, List.flatMap_cons, List.append_assoc, List.cons_append,
      List.nil_append]
  rw [shown v, shown v', hbefore, hbetween, hafter] at same
  exact eq_of_shown_thrice hv hv' (List.append_cancel_right (List.append_cancel_left same))

/-! ## What a change does -/

theorem eq_of_repr {m n : Int} (same : m.repr = n.repr) : m = n := by
  have digits : ∀ {a b : Nat}, a.repr = b.repr → a = b := fun {a b} h => by
    rw [← Nat.ofDigitChars_ten_toDigits (n := a), ← Nat.ofDigitChars_ten_toDigits (n := b), ← Nat.toList_repr,
      ← Nat.toList_repr, h]
  -- A minus is no digit.
  have signed : ∀ {a b : Nat}, a.repr ≠ "-" ++ b.repr := fun {a b} h => by
    have : '-' ∈ Nat.toDigits 10 a := by
      rw [← Nat.toList_repr, h]
      simp
    exact absurd (Nat.isDigit_of_mem_toDigits (by decide) (by decide) this) (by decide)
  rw [Int.repr_eq_if, Int.repr_eq_if] at same
  split at same <;> split at same
  · have := digits same
    omega
  · exact absurd same signed
  · exact absurd same.symm signed
  · have := digits ((String.append_right_inj _).1 same)
    omega

theorem Recipe.value_inj {r r' : Recipe} {p : Parameter} (same : (r.value p).chars = (r'.value p).chars) :
    r.value p = r'.value p := by
  have number : ∀ {m n : Int}, (Value.number m).chars = (Value.number n).chars → Value.number m = .number n :=
    fun h => congrArg Value.number (eq_of_repr (String.toList_inj.1 h))
  have text : ∀ {s t : String}, (Value.text s).chars = (Value.text t).chars → Value.text s = .text t :=
    fun h => congrArg Value.text (String.toList_inj.1 h)
  have flag : ∀ {a b : Bool}, (Value.flag a).chars = (Value.flag b).chars → Value.flag a = .flag b := by
    decide
  cases p
  case port => exact number same
  case forwardToken | secure | httpOnly => exact flag same
  all_goals exact text same

/-- Recipes that differ in one parameter at most and give the same configuration do not differ. -/
theorem Recipe.value_eq_of_render {r r' : Recipe} {text : String} (made : r.render = .ok text)
    (made' : r'.render = .ok text) {p : Parameter} (others : ∀ q, q ≠ p → r.value q = r'.value q) :
    r.value p = r'.value p := by
  obtain ⟨usable, shown⟩ := render_eq_ok_iff.1 made
  obtain ⟨usable', shown'⟩ := render_eq_ok_iff.1 made'
  have same : filledIn r.value = filledIn r'.value := shown.symm.trans shown'
  refine value_inj ?_
  by_cases hp : p = .issuerUrl
  · subst hp
    exact issuer_eq_of_filledIn others usable.issuer_ne_nil usable'.issuer_ne_nil same
  · obtain ⟨f, line, content⟩ := exists_line hp
    rw [← content, ← content]
    exact content_eq_of_filledIn others line same

theorem fingerprintInput_secretData (text : String) :
    fingerprintInput (secretData text) = Bytes.ofString configFile ++ 0 :: Bytes.ofString text ++ [0] :=
  List.append_nil _

theorem fingerprintInput_secretData_inj {text text' : String}
    (same : fingerprintInput (secretData text) = fingerprintInput (secretData text')) : text = text' := by
  rw [fingerprintInput_secretData, fingerprintInput_secretData] at same
  have : 0 :: Bytes.ofString text = 0 :: Bytes.ofString text' :=
    List.append_cancel_left (List.append_cancel_right same)
  exact Bytes.ofString_inj (List.cons.inj this).2

/-- The fingerprint is as good as the first eight bytes of the hash. -/
theorem take_hash_eq_of_fingerprint {data data' : KeyMap String} (same : fingerprint data = fingerprint data') :
    (Sha256.hash (fingerprintInput data)).take 8 = (Sha256.hash (fingerprintInput data')).take 8 := by
  refine Bytes.toHexDigits_inj ?_
  rw [← Bytes.toHexDigits_take, ← Bytes.toHexDigits_take]
  exact String.ofList_inj.1 same

/-- **Any change of a parameter changes what the rollout is keyed on.**  The configurations differ and so does what is
hashed; deployments made for them carry the same fingerprint only if the first eight bytes of two hashes collide. -/
theorem changed_parameter_changes_rollout {r r' : Recipe} {text text' : String} {p : Parameter}
    (made : r.render = .ok text) (made' : r'.render = .ok text') (changed : r.value p ≠ r'.value p)
    (others : ∀ q, q ≠ p → r.value q = r'.value q) :
    text ≠ text' ∧ fingerprintInput (secretData text) ≠ fingerprintInput (secretData text') ∧
      ∀ {sso sso' : Sso} {app app' url url' : String} {bundle bundle' : Bundle},
        buildBundle sso app url (secretData text) = .ok bundle →
        buildBundle sso' app' url' (secretData text') = .ok bundle' →
        deployedFingerprint? bundle.deployment = deployedFingerprint? bundle'.deployment →
        Sha256.Collide 8 (fingerprintInput (secretData text)) (fingerprintInput (secretData text')) := by
  have texts : text ≠ text' := by
    rintro rfl
    exact changed (Recipe.value_eq_of_render made made' others)
  have inputs : fingerprintInput (secretData text) ≠ fingerprintInput (secretData text') :=
    mt fingerprintInput_secretData_inj texts
  refine ⟨texts, inputs, fun built built' same => ⟨inputs, take_hash_eq_of_fingerprint ?_⟩⟩
  obtain ⟨-, -, -, carried⟩ := buildBundle_ok built
  obtain ⟨-, -, -, carried'⟩ := buildBundle_ok built'
  exact Option.some.inj (carried.symm.trans (same.trans carried'))

/-- A slash at the end of the issuer's address is such a change. -/
theorem slash_at_the_end_changes_rollout :
    ∃ text text' bundle bundle', (Recipe.sample "https://dex.jx" "jx").render = .ok text ∧
      (Recipe.sample "https://dex.jx/" "jx").render = .ok text' ∧
      buildBundle (Recipe.sample "https://dex.jx" "jx").sso "web" "" (secretData text) = .ok bundle ∧
      buildBundle (Recipe.sample "https://dex.jx/" "jx").sso "web" "" (secretData text') = .ok bundle' ∧
      text ≠ text' ∧
      (deployedFingerprint? bundle.deployment = deployedFingerprint? bundle'.deployment →
        Sha256.Collide 8 (fingerprintInput (secretData text)) (fingerprintInput (secretData text'))) := by
  have usable : (Recipe.sample "https://dex.jx" "jx").Usable := ⟨by decide, by decide⟩
  have usable' : (Recipe.sample "https://dex.jx/" "jx").Usable := ⟨by decide, by decide⟩
  have made := Recipe.render_of_usable usable
  have made' := Recipe.render_of_usable usable'
  have changed : (Recipe.sample "https://dex.jx" "jx").value .issuerUrl ≠
      (Recipe.sample "https://dex.jx/" "jx").value .issuerUrl := by decide
  have others : ∀ q, q ≠ .issuerUrl →
      (Recipe.sample "https://dex.jx" "jx").value q = (Recipe.sample "https://dex.jx/" "jx").value q := by
    intro q hq
    cases q
    case issuerUrl => exact absurd rfl hq
    all_goals rfl
  obtain ⟨texts, -, collide⟩ := changed_parameter_changes_rollout made made' changed others
  have bundled : ∀ issuer data, ∃ bundle, buildBundle (Recipe.sample issuer "jx").sso "web" "" data = .ok bundle :=
    fun _ _ => ⟨_, rfl⟩
  obtain ⟨bundle, built⟩ := bundled "https://dex.jx" _
  obtain ⟨bundle', built'⟩ := bundled "https://dex.jx/" _
  exact ⟨_, _, bundle, bundle', made, made', built, built', texts, collide built built'⟩

end Proxy
end SignOnOperator
