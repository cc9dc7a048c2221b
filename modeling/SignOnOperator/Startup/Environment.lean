import SignOnOperator.Config
/-!
# Starting up

The operator is set up by environment variables, and by files that they name.  It starts only if all of them are there;
the first thing that is wrong is reported.
-/
namespace SignOnOperator

/-- The value of each variable that is set. -/
abbrev Environment := String → Option String

namespace Timeouts

/-- How long the operator waits unless it is told otherwise. -/
def standard : Timeouts where
  service := ⟨.ofSeconds 10, .ofSeconds 60⟩
  pods := ⟨.ofMillis 500, .ofSeconds 300⟩
  deployment := ⟨.ofSeconds 2, .ofSeconds 300⟩
  expose := ⟨.ofSeconds 10, .ofSeconds 300⟩
  cleanup := ⟨.ofSeconds 10, .ofSeconds 120⟩

end Timeouts

namespace Config

/-- The number that digits after an optional plus sign denote, if it is a port. -/
def parsePort? (text : String) : Option Nat :=
  let digits := match text.toList with
    | '+' :: rest => rest
    | cs => cs
  if digits.isEmpty || !digits.all Char.isDigit then none
  else
    let n := digits.foldl (fun n c => n * 10 + (c.toNat - '0'.toNat)) 0
    if n ≤ 65535 then some n else none

/-- The port on which the operator says that it is alive. -/
def healthPortOf (env : Environment) : Except Error Nat :=
  match env "HEALTH_PORT" with
  | none => .ok 8080
  | some text =>
    match parsePort? text with
    | some port => .ok port
    | none => .error (.config s!"HEALTH_PORT '{text}' is not a port")

/-- A variable that must be set and not empty. -/
def requiredVariable (env : Environment) (name : String) : Except Error String :=
  match env name with
  | some value => if value = "" then .error (.config s!"{name} must be set") else .ok value
  | none => .error (.config s!"{name} must be set")

/-- The configuration that the environment gives. -/
def ofEnvironment (env : Environment) : Except Error Config := do
  let healthPort ← healthPortOf env
  let operatorNamespace ← requiredVariable env "OPERATOR_NAMESPACE"
  let watchNamespace := (env "WATCH_NAMESPACE").filter fun ns => ns ≠ ""
  let hostAndPort ← requiredVariable env "DEX_GRPC_HOST_PORT"
  let clientCrt ← requiredVariable env "DEX_GRPC_CLIENT_CRT"
  let clientKey ← requiredVariable env "DEX_GRPC_CLIENT_KEY"
  let clientCa ← requiredVariable env "DEX_GRPC_CLIENT_CA"
  let clusterRoleName ← requiredVariable env "CLUSTER_ROLE_NAME"
  return {
    operatorNamespace, watchNamespace, clusterRoleName, healthPort
    dex := { hostAndPort, clientCrt, clientKey, clientCa }
    timeouts := .standard }

/-- A credential that must be a file. -/
def checkFile (isFile : String → Bool) (what path : String) : Except Error Unit :=
  if isFile path then .ok () else .error (.config s!"Dex gRPC {what} '{path}' does not exist")

/-- Checks that the credentials for the identity provider are files. -/
def validate (config : Config) (isFile : String → Bool) : Except Error Unit := do
  checkFile isFile "client certificate" config.dex.clientCrt
  checkFile isFile "client key" config.dex.clientKey
  checkFile isFile "CA certificate" config.dex.clientCa

/-- The configuration of an operator that may start. -/
def load (env : Environment) (isFile : String → Bool) : Except Error Config := do
  let config ← ofEnvironment env
  config.validate isFile
  return config

end Config
end SignOnOperator
