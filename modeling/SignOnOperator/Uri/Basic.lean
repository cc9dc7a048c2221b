/-!
# Addresses of resources

Which texts are addresses, as paths on a server or in full.  An address is cut off before a `#`.
-/
namespace SignOnOperator.Uri

/-- Why a text is no address. -/
inductive Fault where
  | character
  | authority
  | format
  | tooLong
  deriving DecidableEq, Repr

def Fault.message : Fault → String
  | character => "invalid uri character"
  | authority => "invalid authority"
  | format => "invalid format"
  | tooLong => "uri too long"

/-- The greatest number of bytes of an address. -/
def maxLength : Nat := 65534

def checkLength (text : String) : Except Fault Unit :=
  if maxLength < text.utf8ByteSize then .error .tooLong else .ok ()

/-! ## Paths and queries -/

/-- The characters of a path.  Outside of ASCII all are. -/
def isPathChar (c : Char) : Bool :=
  let n := c.toNat
  n = 0x21 || n = 0x22 || (0x24 ≤ n && n ≤ 0x3B) || n = 0x3D || (0x40 ≤ n && n ≤ 0x5F) || 0x61 ≤ n

/-- The characters of a query.  Outside of ASCII all are. -/
def isQueryChar (c : Char) : Bool :=
  let n := c.toNat
  n = 0x21 || (0x24 ≤ n && n ≤ 0x3B) || n = 0x3D || 0x3F ≤ n

def readQuery : List Char → Except Fault (List Char)
  | [] => .ok []
  | c :: rest =>
    if c = '#' then .ok []
    else if isQueryChar c then (readQuery rest).map (c :: ·)
    else .error .character

/-- A path, and a query after the first question mark. -/
def readPath : List Char → Except Fault (List Char)
  | [] => .ok []
  | c :: rest =>
    if c = '?' then (readQuery rest).map (c :: ·)
    else if c = '#' then .ok []
    else if isPathChar c then (readPath rest).map (c :: ·)
    else .error .character

/-- The address of a path on a server, up to its fragment. -/
def ofPath (text : String) : Except Fault String := do
  checkLength text
  return String.ofList (← readPath text.toList)

/-! ## Servers -/

/-- The characters of a user, host and port besides `%`. -/
def isAuthorityChar (c : Char) : Bool := c.isAlphanum || "-._~!$&'()*+,;=:[]@".toList.contains c

/-- What was seen of a user, host and port: the colons, the percent signs and the brackets of an IPv6 host that
count, and whether the last character was an `@`. -/
structure Authority where
  colons : Nat := 0
  percent : Bool := false
  opened : Bool := false
  closed : Bool := false
  endsInAt : Bool := false

namespace Authority

/-- More colons than this never are an address. -/
def maxColons : Nat := 8

/-- One more character.  A closing bracket ends a host and an `@` ends a user, whose colons and percent signs do not
count. -/
def next (a : Authority) (c : Char) : Except Fault Authority :=
  let a := { a with endsInAt := c = '@' }
  if c = ':' then
    if maxColons ≤ a.colons then .error .authority else .ok { a with colons := a.colons + 1 }
  else if c = '[' then
    if a.percent || a.opened then .error .authority else .ok { a with opened := true }
  else if c = ']' then
    if !a.opened || a.closed then .error .authority
    else .ok { a with closed := true, colons := 0, percent := false }
  else if c = '@' then .ok { a with colons := 0, percent := false }
  else if c = '%' then .ok { a with percent := true }
  else if isAuthorityChar c then .ok a
  else .error .character

/-- Whether the whole may stand: one port at most, both brackets or none, and a host after a user. -/
def isComplete (a : Authority) : Bool := a.opened == a.closed && a.colons ≤ 1 && !a.endsInAt && !a.percent

/-- Reads up to a slash, a question mark or a fragment. -/
def read : Authority → List Char → Except Fault (Authority × List Char)
  | a, [] => .ok (a, [])
  | a, c :: rest =>
    if c = '/' ∨ c = '?' ∨ c = '#' then .ok (a, c :: rest)
    else do read (← a.next c) rest

end Authority

/-- Whether a text after `https://` makes up an address: a host, possibly with a user and a port, and then a path. -/
def checkHttps (text : String) : Except Fault Unit := do
  checkLength ("https://" ++ text)
  let (authority, rest) ← Authority.read {} text.toList
  if !authority.isComplete then throw .authority
  if rest.length = text.length then throw .format
  let _ ← readPath rest
  return ()

end SignOnOperator.Uri
