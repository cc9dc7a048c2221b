import SignOnOperator.Waiting.Polling
/-!
# Configuration

How the operator is set up: where it keeps its own things, how it reaches the identity provider, and how long it waits
for what.
-/
namespace SignOnOperator

/-- How the identity provider is reached: its address, and the files with the client's certificate, its key, and the
authority that signed the provider's certificate. -/
structure DexConfig where
  hostAndPort : String
  clientCrt : String
  clientKey : String
  clientCa : String
  deriving DecidableEq, Repr

/-- How the operator waits for each kind of thing. -/
structure Timeouts where
  service : Polling
  pods : Polling
  deployment : Polling
  expose : Polling
  cleanup : Polling
  deriving DecidableEq, Repr

structure Config where
  operatorNamespace : String
  watchNamespace : Option String
  dex : DexConfig
  clusterRoleName : String
  healthPort : Nat
  timeouts : Timeouts
  deriving DecidableEq, Repr

end SignOnOperator
