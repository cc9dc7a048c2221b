import SignOnOperator.Json.Basic
import SignOnOperator.Program
/-!
# HTTP

Requests to a server with their replies.  The body of a request is a JSON value; that of a reply is any text.
-/
namespace SignOnOperator.Http

inductive Method where
  | get | post | put | patch | delete
  deriving DecidableEq, Repr

def Method.name : Method → String
  | get => "GET"
  | post => "POST"
  | put => "PUT"
  | patch => "PATCH"
  | delete => "DELETE"

/-- What a request carries, and how it is to be understood. -/
structure Content where
  type : String
  body : Json

structure Request where
  method : Method
  uri : String
  content : Option Content := none

structure Reply where
  status : Nat
  body : String
  deriving DecidableEq, Repr

/-- Requests to one server. -/
def Server : Interface := ⟨Request, fun _ => Reply⟩

/-- What the standard calls the statuses that stand for errors. -/
def errorPhrases : List (Nat × String) :=
  [(400, "Bad Request"), (401, "Unauthorized"), (402, "Payment Required"), (403, "Forbidden"), (404, "Not Found"),
    (405, "Method Not Allowed"), (406, "Not Acceptable"), (407, "Proxy Authentication Required"),
    (408, "Request Timeout"), (409, "Conflict"), (410, "Gone"), (411, "Length Required"),
    (412, "Precondition Failed"), (413, "Payload Too Large"), (414, "URI Too Long"),
    (415, "Unsupported Media Type"), (416, "Range Not Satisfiable"), (417, "Expectation Failed"),
    (418, "I'm a teapot"), (421, "Misdirected Request"), (422, "Unprocessable Entity"), (423, "Locked"),
    (424, "Failed Dependency"), (425, "Too Early"), (426, "Upgrade Required"), (428, "Precondition Required"),
    (429, "Too Many Requests"), (431, "Request Header Fields Too Large"),
    (451, "Unavailable For Legal Reasons"), (500, "Internal Server Error"), (501, "Not Implemented"),
    (502, "Bad Gateway"), (503, "Service Unavailable"), (504, "Gateway Timeout"),
    (505, "HTTP Version Not Supported"), (506, "Variant Also Negotiates"), (507, "Insufficient Storage"),
    (508, "Loop Detected"), (510, "Not Extended"), (511, "Network Authentication Required")]

/-- A status with what it is called. -/
def describeStatus (status : Nat) : String :=
  s!"{status} " ++ ((errorPhrases.lookup status).getD "<unknown status code>")

/-- Whether a status stands for an error of the client or of the server. -/
def isError (status : Nat) : Bool := 400 ≤ status && status < 600

end SignOnOperator.Http
