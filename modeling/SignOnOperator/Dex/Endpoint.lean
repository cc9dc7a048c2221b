import SignOnOperator.Bytes.Basic
import SignOnOperator.Config
import SignOnOperator.Uri.Basic
/-!
# Reaching the identity provider

What a connection to the identity provider needs: its address, and the files by which both sides prove who they are.
-/
namespace SignOnOperator.Dex

/-- All that a connection is made of.  The server's certificate must be for `serverName`. -/
structure Endpoint where
  address : String
  serverName : String
  authority : Bytes
  certificate : Bytes
  key : Bytes
  deriving DecidableEq, Repr

/-- The host of an address: what stands before its last colon, or all of it. -/
def hostOf (hostAndPort : String) : String :=
  let parts := hostAndPort.splitOn ":"
  if parts.length < 2 then hostAndPort else ":".intercalate parts.dropLast

namespace Endpoint

/-- What is said about a file that does not exist. -/
def noSuchFile : Error := .io "No such file or directory (os error 2)"

/-- What is said when no connection comes about. -/
def unreachable : Error := .dexTransport "transport error"

/-- Reads the files, and then checks the address. -/
def load (config : DexConfig) (file : String → Option Bytes) : Except Error Endpoint := do
  let read (path : String) : Except Error Bytes :=
    match file path with
    | some bytes => .ok bytes
    | none => .error noSuchFile
  let authority ← read config.clientCa
  let certificate ← read config.clientCrt
  let key ← read config.clientKey
  match Uri.checkHttps config.hostAndPort with
  | .error fault => throw (.config s!"invalid Dex address '{config.hostAndPort}': {fault.message}")
  | .ok () =>
    return { address := "https://" ++ config.hostAndPort, serverName := hostOf config.hostAndPort, authority,
             certificate, key }

end Endpoint
end SignOnOperator.Dex
