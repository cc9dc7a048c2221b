import SignOnOperator.Sso.Schema
import SignOnOperator.Yaml.Block
/-!
# The definition of SSOs, printed

The program that a cluster's administrator runs to get the definition that makes SSOs known to the cluster.
-/

/-- Prints the definition. -/
def main : IO Unit := do
  let out ← IO.getStdout
  out.putStr (SignOnOperator.Yaml.ofJson (.arr [SignOnOperator.Sso.definition])).render
