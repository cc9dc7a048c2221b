import SignOnOperator.Cluster.Operations
import SignOnOperator.Dex.Client
import SignOnOperator.Json.Printer
/-!
# Servers, rehearsed

Programs that talk to a server, run against replies that are given beforehand.  What they send is kept.
-/
namespace SignOnOperator.Rehearsal

/-- The replies to come, and the requests so far, the latest first. -/
structure Exchange (Request Reply : Type) where
  replies : List Reply
  sent : List Request := []

/-- Takes a request and gives the next reply, or another one when none is left. -/
def Exchange.answer {Request Reply : Type} (otherwise : Reply) (e : Exchange Request Reply) (r : Request) :
    Reply × Exchange Request Reply :=
  match e.replies with
  | [] => (otherwise, { e with sent := r :: e.sent })
  | reply :: rest => (reply, { replies := rest, sent := r :: e.sent })

/-- What the cluster's server replies when no reply is left. -/
def notScripted : Http.Reply where
  status := 404
  body := Json.print <| .object
    [("apiVersion", .str "v1"), ("code", .int 404), ("kind", .str "Status"), ("message", .str "not scripted"),
      ("metadata", .obj []), ("reason", .str "NotFound"), ("status", .str "Failure")]

/-- Runs a program against the cluster's server. -/
def runServer {α : Type} (p : Program Http.Server α) (replies : List Http.Reply) : α × List Http.Request :=
  let (a, e) := p.runWith (I := Http.Server) (Exchange.answer notScripted) { replies }
  (a, e.sent.reverse)

/-- Runs a program against the identity provider, which always gives one reply. -/
def runGrpc {α : Type} (p : Program Grpc α) (reply : GrpcReply) : α × List GrpcRequest :=
  let (a, e) := p.runWith (I := Grpc) (Exchange.answer reply) { replies := [] }
  (a, e.sent.reverse)

end SignOnOperator.Rehearsal
