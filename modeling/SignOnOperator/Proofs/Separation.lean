import SignOnOperator.Proofs.Sensitivity
/-!
# What the fingerprint keeps apart

What is hashed shows the keys and values of a map one after another, each with a zero character after it.  So two maps
show the same exactly if they come to the same texts once each key and value is split at the zero characters that are in
it (`fingerprintInput_eq_iff`).  Maps without zero characters are kept apart; but a value with one can pass for a value
and the key after it, and any two entries for a single one (`fingerprint_separates_iff`).
-/
namespace SignOnOperator

/-! ## Texts as bytes -/

namespace Bytes

theorem ofString_append (s t : String) : ofString (s ++ t) = ofString s ++ ofString t := by
  simp only [ofString, String.toUTF8, String.toByteArray_append, toList_eq, ByteArray.data_append,
    Array.toList_append]

theorem ofString_empty : ofString "" = [] := by
  rw [ofString, toList_eq]
  rfl

theorem ofString_zero : ofString "\x00" = [0] := by
  rw [ofString, toList_eq]
  rfl

end Bytes

namespace Proxy

variable {a b : KeyMap String}

/-! ## Texts between zero characters -/

/-- The characters that stand for entries: each key and each value with a zero character after it. -/
def spelled (entries : List (String × String)) : List Char :=
  entries.flatMap fun e => e.1.toList ++ '\x00' :: (e.2.toList ++ ['\x00'])

/-- The texts between the zero characters of keys and values. -/
def pieces (entries : List (String × String)) : List (List Char) :=
  entries.flatMap fun e => e.1.toList.splitOn '\x00' ++ e.2.toList.splitOn '\x00'

theorem splitOn_spelled (entries : List (String × String)) :
    (spelled entries).splitOn '\x00' = pieces entries ++ [[]] := by
  induction entries with
  | nil => rfl
  | cons e rest ih =>
    have shown : spelled (e :: rest) = e.1.toList ++ '\x00' :: (e.2.toList ++ '\x00' :: spelled rest) := by
      simp [spelled]
    rw [shown, List.splitOn_append_cons_self, List.splitOn_append_cons_self, ih]
    simp [pieces]

/-- A text is known from what it is split into. -/
theorem splitOn_inj {α : Type} [BEq α] [LawfulBEq α] {x : α} {xs ys : List α} (same : xs.splitOn x = ys.splitOn x) :
    xs = ys := by
  have joined := congrArg (List.intercalate [x]) same
  rwa [List.intercalate_splitOn, List.intercalate_splitOn] at joined

theorem spelled_eq_iff {entries entries' : List (String × String)} :
    spelled entries = spelled entries' ↔ pieces entries = pieces entries' := by
  constructor
  · intro same
    have split := congrArg (List.splitOn '\x00') same
    rw [splitOn_spelled, splitOn_spelled] at split
    exact List.append_cancel_right split
  · intro same
    apply splitOn_inj
    rw [splitOn_spelled, splitOn_spelled, same]

theorem fingerprintInput_eq_ofString (data : KeyMap String) :
    fingerprintInput data = Bytes.ofString (String.ofList (spelled data.entries)) := by
  unfold fingerprintInput
  induction data.entries with
  | nil => exact Bytes.ofString_empty.symm
  | cons e rest ih =>
    have shown : String.ofList (spelled (e :: rest)) =
        e.1 ++ ("\x00" ++ (e.2 ++ ("\x00" ++ String.ofList (spelled rest)))) := by
      apply String.toList_inj.1
      simp [spelled]
    rw [shown, List.flatMap_cons, ih]
    simp [Bytes.ofString_append, Bytes.ofString_zero]

theorem fingerprintInput_eq_iff : fingerprintInput a = fingerprintInput b ↔ pieces a.entries = pieces b.entries := by
  rw [fingerprintInput_eq_ofString, fingerprintInput_eq_ofString, ← spelled_eq_iff]
  exact ⟨fun same => String.ofList_inj.1 (Bytes.ofString_inj same), fun same => by rw [same]⟩

/-! ## Maps without zero characters -/

/-- No key and no value has a zero character. -/
def ZeroFree (data : KeyMap String) : Prop := ∀ e ∈ data.entries, '\x00' ∉ e.1.toList ∧ '\x00' ∉ e.2.toList

theorem pieces_of_zeroFree (free : ZeroFree a) :
    pieces a.entries = a.entries.flatMap fun e => [e.1.toList, e.2.toList] := by
  unfold pieces
  refine List.flatMap_congr fun e mem => ?_
  rw [List.splitOn_eq_singleton (free e mem).1, List.splitOn_eq_singleton (free e mem).2]
  rfl

theorem entries_eq_of_flatMap : ∀ {entries entries' : List (String × String)},
    (entries.flatMap fun e => [e.1.toList, e.2.toList]) = (entries'.flatMap fun e => [e.1.toList, e.2.toList]) →
      entries = entries'
  | [], [], _ => rfl
  | [], _ :: _, same => by simp at same
  | _ :: _, [], same => by simp at same
  | (k, v) :: rest, (k', v') :: rest', same => by
    simp only [List.flatMap_cons, List.cons_append, List.nil_append, List.cons.injEq] at same
    obtain ⟨keys, values, others⟩ := same
    rw [String.toList_inj.1 keys, String.toList_inj.1 values, entries_eq_of_flatMap others]

theorem eq_of_zeroFree (free : ZeroFree a) (free' : ZeroFree b) (same : pieces a.entries = pieces b.entries) :
    a = b := by
  rw [pieces_of_zeroFree free, pieces_of_zeroFree free'] at same
  exact KeyMap.ext (entries_eq_of_flatMap same)

/-! ## Maps that share their bytes with others -/

/-- The map of one entry. -/
def single (key value : String) : KeyMap String := ⟨[(key, value)], by simp⟩

/-- A value that holds the rest of an entry and the next one. -/
def merged (value key' value' : String) : String := value ++ ("\x00" ++ (key' ++ ("\x00" ++ value')))

theorem pieces_merge (key value key' value' : String) (rest : List (String × String)) :
    pieces ((key, value) :: (key', value') :: rest) = pieces ((key, merged value key' value') :: rest) := by
  simp [pieces, merged, List.splitOn_append_cons_self]

theorem pieces_shift (key middle value : String) :
    pieces [(key ++ ("\x00" ++ middle), value)] = pieces [(key, middle ++ ("\x00" ++ value))] := by
  simp [pieces, List.splitOn_append_cons_self]

theorem exists_split_of_mem {text : String} (mem : '\x00' ∈ text.toList) :
    ∃ start rest, text = start ++ ("\x00" ++ rest) := by
  obtain ⟨start, rest, split⟩ := List.append_of_mem mem
  refine ⟨String.ofList start, String.ofList rest, String.toList_inj.1 ?_⟩
  simp [split]

theorem append_zero_ne (text rest : String) : text ++ ("\x00" ++ rest) ≠ text := fun same => by
  have length := congrArg (fun s => s.toList.length) same
  simp at length

/-- Two entries can always be taken for one, and a zero character for the end of a key. -/
theorem exists_other (separated : ¬(a.entries.length ≤ 1 ∧ ZeroFree a)) :
    ∃ b, b ≠ a ∧ pieces b.entries = pieces a.entries := by
  obtain ⟨entries, sorted⟩ := a
  match entries with
  | [] => exact absurd ⟨Nat.zero_le 1, nofun⟩ separated
  | (key, value) :: (key', value') :: rest =>
    obtain ⟨first, later⟩ := List.pairwise_cons.1 sorted
    have others : List.Pairwise (fun e e' => e.1 < e'.1) ((key, merged value key' value') :: rest) :=
      List.pairwise_cons.2 ⟨fun e mem => first e (.tail _ mem), (List.pairwise_cons.1 later).2⟩
    refine ⟨⟨_, others⟩, fun same => ?_, (pieces_merge ..).symm⟩
    simpa using congrArg (fun m => m.entries.length) same
  | [(key, value)] =>
    have zero : '\x00' ∈ key.toList ∨ '\x00' ∈ value.toList := by
      by_contra none
      exact separated ⟨Nat.le_refl 1, by simpa [ZeroFree, not_or] using none⟩
    rcases zero with mem | mem
    · obtain ⟨start, rest, rfl⟩ := exists_split_of_mem mem
      refine ⟨single start (rest ++ ("\x00" ++ value)), fun same => ?_, (pieces_shift ..).symm⟩
      exact append_zero_ne start rest (by simpa [single] using congrArg (fun m => m.entries.map (·.1)) same.symm)
    · obtain ⟨start, rest, rfl⟩ := exists_split_of_mem mem
      refine ⟨single (key ++ ("\x00" ++ start)) rest, fun same => ?_, pieces_shift ..⟩
      exact append_zero_ne key start (by simpa [single] using congrArg (fun m => m.entries.map (·.1)) same)

theorem pieces_eq_nil {entries : List (String × String)} (none : pieces entries = []) : entries = [] := by
  cases entries with
  | nil => rfl
  | cons e rest => simp [pieces, List.splitOn_ne_nil] at none

theorem eq_of_splitOn_eq_singleton {text : String} {cs : List Char} (one : text.toList.splitOn '\x00' = [cs]) :
    text.toList = cs := by
  have joined := congrArg (List.intercalate ['\x00']) one
  rwa [List.intercalate_splitOn, List.intercalate_singleton] at joined

theorem eq_singleton_of_pieces {entries : List (String × String)} {key value : String}
    (two : pieces entries = [key.toList, value.toList]) : entries = [(key, value)] := by
  match entries with
  | [] => simp [pieces] at two
  | (key', value') :: rest =>
    obtain ⟨k, ks, splitKey⟩ := List.exists_cons_of_ne_nil (List.splitOn_ne_nil '\x00' key'.toList)
    obtain ⟨v, vs, splitValue⟩ := List.exists_cons_of_ne_nil (List.splitOn_ne_nil '\x00' value'.toList)
    -- There is a piece of the key and one of the value, and there are no more than two.
    have shown : k :: (ks ++ v :: (vs ++ pieces rest)) = [key.toList, value.toList] := by
      simpa [pieces, splitKey, splitValue] using two
    obtain ⟨rfl, others⟩ := List.cons.inj shown
    obtain rfl : ks = [] := by
      have length := congrArg List.length others
      simp only [List.length_append, List.length_cons, List.length_nil] at length
      exact List.length_eq_zero_iff.1 (by omega)
    obtain ⟨rfl, none⟩ := List.cons.inj others
    obtain ⟨rfl, none⟩ := List.append_eq_nil_iff.1 none
    rw [pieces_eq_nil none, String.toList_inj.1 (eq_of_splitOn_eq_singleton splitKey),
      String.toList_inj.1 (eq_of_splitOn_eq_singleton splitValue)]

/-- A map of one entry at most, without zero characters, is the only one that shows what it shows. -/
theorem eq_of_small (small : a.entries.length ≤ 1) (free : ZeroFree a) (same : pieces b.entries = pieces a.entries) :
    b = a := by
  rw [pieces_of_zeroFree free] at same
  refine KeyMap.ext ?_
  match a.entries, small, same with
  | [], _, same => exact pieces_eq_nil same
  | [(_, _)], _, same => exact eq_singleton_of_pieces same

/-- **What is hashed is the keys and values, up to where the zero characters in them are taken to belong.**  It is
different for different maps without zero characters, and a map is told from all others exactly if it has one entry at
most and no zero character. -/
theorem fingerprint_separates_iff (a : KeyMap String) :
    (∀ b, fingerprintInput a = fingerprintInput b ↔ pieces a.entries = pieces b.entries) ∧
      (∀ b, ZeroFree a → ZeroFree b → a ≠ b → fingerprintInput a ≠ fingerprintInput b) ∧
      ((∀ b, a ≠ b → fingerprintInput a ≠ fingerprintInput b) ↔ a.entries.length ≤ 1 ∧ ZeroFree a) := by
  refine ⟨fun b => fingerprintInput_eq_iff, fun b free free' other same => ?_, fun separated => ?_, ?_⟩
  · exact other (eq_of_zeroFree free free' (fingerprintInput_eq_iff.1 same))
  · by_contra failing
    obtain ⟨b, other, same⟩ := exists_other failing
    exact separated b other.symm (fingerprintInput_eq_iff.2 same.symm)
  · rintro ⟨small, free⟩ b other same
    exact other (eq_of_small small free (fingerprintInput_eq_iff.1 same).symm).symm

/-- Text that moves from a key to its value is noticed. -/
theorem moved_text_separates :
    ZeroFree (single "ab" "c") ∧ ZeroFree (single "a" "bc") ∧ single "ab" "c" ≠ single "a" "bc" ∧
      fingerprintInput (single "ab" "c") ≠ fingerprintInput (single "a" "bc") := by
  have free : ZeroFree (single "ab" "c") := by simp [ZeroFree, single]
  have free' : ZeroFree (single "a" "bc") := by simp [ZeroFree, single]
  have other : single "ab" "c" ≠ single "a" "bc" := by decide
  exact ⟨free, free', other, (fingerprint_separates_iff _).2.1 _ free free' other⟩

/-- A value with zero characters passes for a value and a whole entry, and two values for two other ones. -/
theorem zeros_pass_for_entries :
    (KeyMap.ofList [("a", "b\x00c\x00d")] ≠ .ofList [("a", "b"), ("c", "d")] ∧
        fingerprintInput (.ofList [("a", "b\x00c\x00d")]) = fingerprintInput (.ofList [("a", "b"), ("c", "d")])) ∧
      KeyMap.ofList [("a", "x\x00b\x00y"), ("b", "z")] ≠ .ofList [("a", "x"), ("b", "y\x00b\x00z")] ∧
        fingerprintInput (.ofList [("a", "x\x00b\x00y"), ("b", "z")]) =
          fingerprintInput (.ofList [("a", "x"), ("b", "y\x00b\x00z")]) := by
  refine ⟨⟨by decide, fingerprintInput_eq_iff.2 (by decide)⟩, by decide, fingerprintInput_eq_iff.2 (by decide)⟩

end Proxy
end SignOnOperator
