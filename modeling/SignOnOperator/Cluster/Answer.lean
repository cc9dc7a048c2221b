import SignOnOperator.Error
import SignOnOperator.Http.Message
import SignOnOperator.Json.Shape
import SignOnOperator.Kubernetes.Shapes.Metadata
/-!
# Answers of the cluster's server

What a reply says: the object asked for, a list of them, or why not.  An error that the server does not put into its
own form is told by the status and the text of the reply.
-/
namespace SignOnOperator.Answer

open Http (Reply)

/-- The form in which the server tells errors. -/
def refusalShape : Shape :=
  .strict "ErrorResponse"
    [.required "status" .text, .defaulted "message" .text (.str ""), .defaulted "reason" .text (.str ""),
      .required "code" .uint16]

/-- The reason given for an error in no known form. -/
def unknownReason : String := "Failed to parse error data"

/-- Why a request was refused. -/
def refusal (reply : Reply) : Refusal :=
  match refusalShape.ofText reply.body with
  | .ok j =>
    { status := (j.get "status").text
      message := (j.get "message").text
      reason := (j.get "reason").text
      code := ((j.get "code").int?.getD 0).toNat }
  | .error _ =>
    { status := Http.describeStatus reply.status
      message := Text.quoted reply.body
      reason := unknownReason
      code := reply.status }

/-- The text of a reply that is no error. -/
def accepted (reply : Reply) : Except ClusterError String :=
  if Http.isError reply.status then .error (.refused (refusal reply)) else .ok reply.body

/-- A text in a shape. -/
def parse (shape : Shape) (text : String) : Except ClusterError Json := (shape.ofText text).mapError .unreadable

/-- An object. -/
def object (shape : Shape) (reply : Reply) : Except ClusterError Json := do parse shape (← accepted reply)

/-- The reason given for an object that does not exist. -/
def absentReason : String := "NotFound"

/-- An object, or nothing if the server says that there is none. -/
def object? (shape : Shape) (reply : Reply) : Except ClusterError (Option Json) :=
  match object shape reply with
  | .ok j => .ok (some j)
  | .error (.refused r) => if r.reason = absentReason then .ok none else .error (.refused r)
  | .error e => .error e

/-! ## Lists -/

/-- A member that is read even by a reader that has no use for it. -/
def examined (m : Member Document) : Member Document :=
  match m.value.toJson with
  | .ok _ => m
  | .error fault => { m with passing := some fault }

/-- A list of objects.  Only its items and its metadata have a meaning, but all of it is read. -/
def listShape (item : Shape) : Shape where
  read
    | .arr items span inner => .error ((Document.arr items span inner).wrongType "struct ObjectList")
    | .obj ms stop span => members.read (.obj (ms.map examined) stop span)
    | d => members.read d
where
  members : Shape := .strict "ObjectList"
    [.defaulted "metadata" Kubernetes.Shapes.listMeta (.obj []), .required "items" (Shape.list item).optional]

def list (item : Shape) (reply : Reply) : Except ClusterError (List Json) := do
  let j ← parse (listShape item) (← accepted reply)
  return (j.get "items").items

/-! ## Removals -/

/-- How a request ended. -/
def summary : Shape where
  read
    | .str s span =>
      if s = "Success" ∨ s = "Failure" then .ok (.str s)
      else .error ⟨s!"unknown variant \x60{s}\x60, expected \x60Success\x60 or \x60Failure\x60", span.last⟩
    | .broken fault => .error fault
    | d => .error ⟨"expected value", ⟨d.first.line, d.first.column + 1⟩⟩

def uint32 : Shape := .integer "u32" 0 4294967295

def causeShape : Shape :=
  .strict "StatusCause"
    [.defaulted "reason" .text (.str ""), .defaulted "message" .text (.str ""), .defaulted "field" .text (.str "")]

def detailsShape : Shape :=
  .strict "StatusDetails"
    [.defaulted "name" .text (.str ""), .defaulted "group" .text (.str ""), .defaulted "kind" .text (.str ""),
      .defaulted "uid" .text (.str ""), .defaulted "causes" (.list causeShape) (.arr []),
      .defaulted "retryAfterSeconds" uint32 (.int 0)]

/-- What the server says about a request instead of an object. -/
def statusShape : Shape :=
  .strict "Status"
    [.defaulted "status" summary.optional .null, .defaulted "code" .uint16 (.int 0),
      .defaulted "message" .text (.str ""), .defaulted "metadata" Kubernetes.Shapes.listMeta.optional .null,
      .defaulted "reason" .text (.str ""), .defaulted "details" detailsShape.optional .null]

/-- The answer to a removal: the object, or a status. -/
def removed (shape : Shape) (reply : Reply) : Except ClusterError Unit := do
  let text ← accepted reply
  let j ← parse .anything text
  let _ ← parse (if (j.get "kind").str? = some "Status" then statusShape else shape) text
  return ()

end SignOnOperator.Answer
