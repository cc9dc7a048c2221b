import SignOnOperator.Text.Basic
/-!
# Names of objects

A derived name joins two fragments with a dash and stays within the length that the cluster allows.  If they are too
long together, a short fragment is kept whole and the other one is cut, or both are cut to half each; dashes at the
end of a cut fragment are dropped.
-/
namespace SignOnOperator.Naming

/-- The greatest length of a name. -/
def maxLength : Nat := 63

/-- The bytes that characters take in UTF-8. -/
def byteCount (cs : List Char) : Nat := cs.foldr (·.utf8Size + ·) 0

/-- The fragment's first `n` characters without dashes at the end. -/
def truncate (fragment : List Char) (n : Nat) : List Char := Text.trimEnd '-' (fragment.take n)

/-- The room for two fragments of the given sizes that do not fit together. -/
def shares (base suffix : Nat) : Nat × Nat :=
  let available := maxLength - 1
  let half := available / 2
  if suffix ≤ half then (available - suffix, suffix)
  else if base ≤ half then (base, available - base)
  else (half, half)

/-- Two fragments joined; sizes are compared in bytes, and the cut counts characters. -/
def joinFragments (base suffix : List Char) : List Char :=
  if byteCount base + byteCount suffix + 1 ≤ maxLength then base ++ '-' :: suffix
  else
    let (forBase, forSuffix) := shares (byteCount base) (byteCount suffix)
    truncate base forBase ++ '-' :: truncate suffix forSuffix

/-- The derived name of two fragments. -/
def buildName (base suffix : String) : String := String.ofList (joinFragments base.toList suffix.toList)

end SignOnOperator.Naming
