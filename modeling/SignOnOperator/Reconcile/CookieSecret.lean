import SignOnOperator.Cluster.Call
import SignOnOperator.Labels
/-!
# The cookie secret

All proxies sign their cookies with one secret.  It is kept in the operator's namespace; the first operator that does
not find it there generates it, and if two do so at once the one that comes second takes the first one's.
-/
namespace SignOnOperator.CookieSecret

open Kubernetes

/-- The object that holds the secret. -/
def objectName : String := "operator-secret"

/-- The key under which the object holds it. -/
def key : String := "ssoCookieKey"

/-- Letters and digits. -/
def alphabet : List Char := "ABCDEFGHIJKLMNOPQRSTUVWXYZabcdefghijklmnopqrstuvwxyz0123456789".toList

/-- The secret that random choices of letters and digits make. -/
def generate (choices : Fin secretLength → Fin alphabetSize) : String :=
  String.ofList (List.ofFn fun i => alphabet.getD (choices i) 'A')

/-- The secret that an object holds, as bytes or else as text. -/
def stored? (secret : Secret) : Except Error (Option String) :=
  match secret.data.bind fun data => data.get? key with
  | some bytes =>
    match bytes.toString? with
    | some value => .ok (some value)
    | none => .error (.operatorSecret s!"{key} is not valid UTF-8")
  | none => .ok (secret.stringData.bind fun data => data.get? key)

/-- The secret that an object must hold. -/
def required (secret : Secret) (ns : String) : Except Error String := do
  match ← stored? secret with
  | some value => return value
  | none => throw (.operatorSecret s!"secret {ns}/{objectName} has no {key} key")

/-- The object that holds a secret. -/
def buildSecret (ns value : String) : Secret where
  metadata := { name := some objectName, namespaceName := some ns, labels := some Labels.common }
  data := some (.ofList [(key, Bytes.ofString value)])

/-- Reads the secret of the operators in a namespace, or generates it. -/
def loadOrCreate (ns : String) : Routine String := do
  match ← Routine.call (.getSecret ns objectName) with
  | some secret => Action.ofExcept (required secret ns)
  | none =>
    let value := generate (← Routine.draw)
    match ← (Routine.call (.createSecret (buildSecret ns value))).attempt with
    | .ok () => return value
    | .error e =>
      if e.isConflict then
        let found ← Routine.call (.getSecret ns objectName)
        let secret ← Action.require found
          (.operatorSecret s!"secret {ns}/{objectName} disappeared after creation")
        Action.ofExcept (required secret ns)
      else Action.fail e

/-- Loads the secret with the right to the cell, and gives that right back. -/
def fill (ns : String) : Routine String :=
  Program.bind (loadOrCreate ns) fun
    | .ok value => Program.ask (I := Operator) (.fillCell value) fun _ => .done (.ok value)
    | outcome => Program.ask (I := Operator) .leaveCell fun _ => .done outcome

/-- The secret, loaded by the first reconciliation that needs it. -/
def get (ns : String) : Routine String := do
  match ← Routine.enterCell with
  | some value => return value
  | none => fill ns

end SignOnOperator.CookieSecret
