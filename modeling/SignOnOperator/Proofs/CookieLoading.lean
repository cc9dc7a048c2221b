import SignOnOperator.Proofs.History
import SignOnOperator.Reconcile.CookieSecret
/-!
# Loading the cookie secret

What an object holds as the cookie secret (`Holds`), and the loading of the secret in parts: a look at the object, its
creation if it is not there (`loadOrCreate_eq`), and what becomes of the cell in the end (`fill_eq`).
-/
namespace SignOnOperator

open Kubernetes

/-! ## Texts and their bytes -/

namespace Bytes

theorem toList_loop (bytes : ByteArray) (i : Nat) (acc : List UInt8) :
    ByteArray.toList.loop bytes i acc = acc.reverse ++ bytes.data.toList.drop i := by
  fun_induction ByteArray.toList.loop bytes i acc with
  | case1 i acc h ih =>
    have hi : i < bytes.data.toList.length := h
    have next : bytes.get! i = bytes.data.toList[i] := by simp [ByteArray.get!, h]
    rw [ih, List.drop_eq_getElem_cons hi, List.reverse_cons, List.append_assoc, next]
    rfl
  | case2 i acc h =>
    have hi : bytes.data.toList.length ≤ i := Nat.not_lt.1 h
    rw [List.drop_of_length_le hi, List.append_nil]

theorem toList_eq (bytes : ByteArray) : bytes.toList = bytes.data.toList := by
  unfold ByteArray.toList
  rw [toList_loop]
  simp

theorem toString?_eq_some_iff {bytes : Bytes} {text : String} :
    bytes.toString? = some text ↔ bytes = ofString text := by
  unfold toString? ofString String.fromUTF8?
  rw [toList_eq]
  constructor
  · intro h
    by_cases valid : ByteArray.IsValidUTF8 ⟨bytes.toArray⟩
    · rw [dif_pos valid] at h
      obtain rfl := Option.some.inj h
      rfl
    · rw [dif_neg valid] at h
      cases h
  · rintro rfl
    exact dif_pos text.isValidUTF8

end Bytes

/-! ## What an object holds -/

namespace CookieSecret

/-- The object holds this value under the key: as bytes, or, if it holds no bytes there, as text. -/
def Holds (secret : Secret) (value : String) : Prop :=
  match secret.data.bind fun data => data.get? key with
  | some bytes => bytes = Bytes.ofString value
  | none => secret.stringData.bind (fun data => data.get? key) = some value

theorem required_eq_ok_iff {secret : Secret} {ns value : String} :
    required secret ns = .ok value ↔ Holds secret value := by
  unfold required stored? Holds
  cases hd : secret.data.bind fun data => data.get? key with
  | some bytes =>
    dsimp only
    rw [← Bytes.toString?_eq_some_iff]
    cases ht : bytes.toString? with
    | some text => exact ⟨fun h => congrArg some (Except.ok.inj h), fun h => congrArg Except.ok (Option.some.inj h)⟩
    | none => exact ⟨nofun, nofun⟩
  | none =>
    dsimp only
    cases ht : secret.stringData.bind fun data => data.get? key with
    | some text => exact ⟨fun h => congrArg some (Except.ok.inj h), fun h => congrArg Except.ok (Option.some.inj h)⟩
    | none => exact ⟨nofun, nofun⟩

theorem Holds.eq {secret : Secret} {value value' : String} (h : Holds secret value) (h' : Holds secret value') :
    value = value' := by
  have read : required secret "" = .ok value := required_eq_ok_iff.2 h
  exact Except.ok.inj (read.symm.trans (required_eq_ok_iff.2 h'))

/-- The object that is made for a value holds it, and so does whatever is stored of it with the same data. -/
theorem holds_buildSecret {ns value : String} {stored : Secret} (data : stored.data = (buildSecret ns value).data) :
    Holds stored value := by
  unfold Holds
  rw [data]
  rfl

/-! ## The parts of the loading -/

/-- What a look at the object comes to once the object must be there. -/
def held (ns : String) : Option Secret → Except Error String
  | some secret => required secret ns
  | none => .error (.operatorSecret s!"secret {ns}/{objectName} disappeared after creation")

/-- Reads the object, which must be there. -/
def reread (ns : String) : Routine String :=
  Routine.call (.getSecret ns objectName) >>= fun (found : Option Secret) => Action.ofExcept (held ns found)

/-- After a failure to create the object: only a conflict says that somebody else has, whose object is read. -/
def adopt (ns : String) (e : Error) : Routine String := if e.isConflict then reread ns else Action.fail e

/-- Creates the object, or reads the one that somebody else has created. -/
def createOrRead (ns value : String) : Routine String := do
  match ← (Routine.call (.createSecret (buildSecret ns value))).attempt with
  | .ok () => return value
  | .error e => adopt ns e

theorem loadOrCreate_eq (ns : String) :
    loadOrCreate ns =
      Routine.call (.getSecret ns objectName) >>= fun (found : Option Secret) =>
        match found with
        | some secret => Action.ofExcept (required secret ns)
        | none => Routine.draw >>= fun choices => createOrRead ns (generate choices) := by
  unfold loadOrCreate createOrRead adopt reread
  refine congrArg (Action.bind _) (funext fun (found : Option Secret) => ?_)
  cases found with
  | some secret => rfl
  | none =>
    refine congrArg (Action.bind Routine.draw) (funext fun choices => ?_)
    refine congrArg (Action.bind _) (funext fun created => ?_)
    cases created with
    | ok _ => rfl
    | error e =>
      dsimp only
      by_cases conflict : e.isConflict = true
      · rw [if_pos conflict, if_pos conflict]
        refine congrArg (Action.bind _) (funext fun (again : Option Secret) => ?_)
        cases again with
        | none => rfl
        | some secret => rfl
      · rw [if_neg conflict, if_neg conflict]

/-- The end of loading the secret: the right to the cell is given back, with the secret if there is one. -/
def settle : Outcome String → Program Operator (Outcome String)
  | .ok value => .ask (I := Operator) (.fillCell value) fun _ => .done (.ok value)
  | outcome => .ask (I := Operator) .leaveCell fun _ => .done outcome

theorem fill_eq (ns : String) : fill ns = Program.bind (loadOrCreate ns) settle :=
  congrArg (Program.bind _) (funext fun o => by cases o <;> rfl)

end CookieSecret
end SignOnOperator
