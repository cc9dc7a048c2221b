import SignOnOperator.Dex.Messages
import SignOnOperator.Program
/-!
# Calls of the identity provider

Clients are created, updated and deleted by remote calls over gRPC: each sends one message to a path and gets one
message back, or a status that says why not.
-/
namespace SignOnOperator

/-- A remote call: the path of the procedure, and the message sent. -/
structure GrpcRequest where
  path : String
  message : Bytes
  deriving DecidableEq, Repr

/-- What comes back: a message, a status that the server gives, or an HTTP response that is none of gRPC. -/
inductive GrpcReply where
  | message (bytes : Bytes)
  | status (code : Nat) (message : String)
  | http (code : Nat)
  deriving DecidableEq, Repr

/-- Remote calls. -/
def Grpc : Interface := ⟨GrpcRequest, fun _ => GrpcReply⟩

namespace GrpcReply

/-- The headers of a response of gRPC. -/
def grpcHeaders : List (String × String) := [("content-type", "application/grpc")]

/-- The status that stands for an HTTP response without one. -/
def codeOfHttp : Nat → GrpcCode
  | 400 => .internal
  | 401 => .unauthenticated
  | 403 => .permissionDenied
  | 404 => .unimplemented
  | 429 | 502 | 503 | 504 => .unavailable
  | _ => .unknown

/-- A response ended well, but there was no message in it. -/
def missingMessage : GrpcStatus := { code := .internal, message := "Missing response message." }

/-- The message that came back. -/
def read {α : Type} (form : Wire.Record α) : GrpcReply → Except GrpcStatus α
  | message bytes =>
    (form.decode bytes).mapError fun fault =>
      { code := .internal, message := fault.message, headers := grpcHeaders }
  | status 0 _ | http 200 => .error missingMessage
  | status code text => .error { code := .ofNumber code, message := text, headers := grpcHeaders }
  | http code =>
    .error
      { code := codeOfHttp code
        message := s!"grpc-status header missing, mapped from HTTP status code {code}" }

end GrpcReply

namespace Dex

/-- Sends one message and reads the one that comes back. -/
def call {α β : Type} (procedure : String) (request : Wire.Record α) (response : Wire.Record β) (a : α) :
    Action Grpc β := do
  let reply ← Action.request (I := Grpc) { path := "/api.Dex/" ++ procedure, message := request.encode a }
  Action.ofExcept ((reply.read response).mapError .dex)

/-- Registers a new client; the identity provider chooses its id and secret. -/
def createClient (redirectUris trustedPeers : List String) (isPublic : Bool) (name logoUrl : String) :
    Action Grpc OidcClient := do
  let wanted : OidcClient := { redirectUris, trustedPeers, isPublic, name, logoUrl }
  let response ← call "CreateClient" createRequest createResponse { client := some wanted }
  let client := response.client.getD {}
  if response.alreadyExists then Action.fail (.clientAlreadyExists client.id) else return client

/-- Replaces what may change of a client. -/
def updateClient (id : String) (redirectUris trustedPeers : List String) (name logoUrl : String) :
    Action Grpc Unit := do
  let response ← call "UpdateClient" updateRequest updateResponse { id, redirectUris, trustedPeers, name, logoUrl }
  if response.notFound then Action.fail (.clientNotFound id)

def deleteClient (id : String) : Action Grpc Unit := do
  let response ← call "DeleteClient" deleteRequest deleteResponse { id }
  if response.notFound then Action.fail (.clientNotFound id)

end Dex
end SignOnOperator
