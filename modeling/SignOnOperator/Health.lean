/-!
# Signs of life

What the operator answers to those who ask over HTTP whether it is alive.
-/
namespace SignOnOperator.Health

/-- An answer: its status, the headers that matter, and its body. -/
structure Response where
  status : Nat
  contentType : Option String := none
  allow : Option String := none
  body : String := ""
  deriving DecidableEq, Repr

/-- The path of a request's target, without query and fragment.  The target may name the server first. -/
def pathOf (target : List Char) : List Char :=
  let upToQuery := target.takeWhile fun c => c ≠ '?' && c ≠ '#'
  match upToQuery with
  | '/' :: _ => upToQuery
  | _ =>
    let afterScheme := upToQuery.dropWhile (· ≠ ':')
    match afterScheme with
    | ':' :: '/' :: '/' :: rest =>
      let path := rest.dropWhile (· ≠ '/')
      if path.isEmpty then ['/'] else path
    | _ => upToQuery

/-- The paths under which the question is asked. -/
def isKnown (path : String) : Bool := path = "/" || path = "/healthz"

def respond (method target : String) : Response :=
  if !isKnown (String.ofList (pathOf target.toList)) then { status := 404 }
  else if method = "GET" ∨ method = "HEAD" then
    { status := 200, contentType := some "text/plain; charset=utf-8", body := if method = "GET" then "ok" else "" }
  else { status := 405, allow := some "GET,HEAD" }

end SignOnOperator.Health
