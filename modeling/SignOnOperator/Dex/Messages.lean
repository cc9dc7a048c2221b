import SignOnOperator.OidcClient
import SignOnOperator.Wire.Record
/-!
# Messages of the identity provider

What is sent to the identity provider to create, update and delete clients, and what it sends back.
-/
namespace SignOnOperator.Dex

open Wire (Record Slot)

structure CreateRequest where
  client : Option OidcClient := none
  deriving DecidableEq, Repr

structure CreateResponse where
  alreadyExists : Bool := false
  client : Option OidcClient := none
  deriving DecidableEq, Repr

structure UpdateRequest where
  id : String := ""
  redirectUris : List String := []
  trustedPeers : List String := []
  name : String := ""
  logoUrl : String := ""
  deriving DecidableEq, Repr

structure UpdateResponse where
  notFound : Bool := false
  deriving DecidableEq, Repr

structure DeleteRequest where
  id : String := ""
  deriving DecidableEq, Repr

structure DeleteResponse where
  notFound : Bool := false
  deriving DecidableEq, Repr

/-! ## Forms on the wire -/

def client : Record OidcClient where
  name := "Client"
  initial := {}
  slots :=
    [.text 1 "id" (·.id) fun v c => { c with id := v },
      .text 2 "secret" (·.secret) fun v c => { c with secret := v },
      .texts 3 "redirect_uris" (·.redirectUris) fun v c => { c with redirectUris := v },
      .texts 4 "trusted_peers" (·.trustedPeers) fun v c => { c with trustedPeers := v },
      .flag 5 "public" (·.isPublic) fun v c => { c with isPublic := v },
      .text 6 "name" (·.name) fun v c => { c with name := v },
      .text 7 "logo_url" (·.logoUrl) fun v c => { c with logoUrl := v }]

def createRequest : Record CreateRequest where
  name := "CreateClientReq"
  initial := {}
  slots := [.record 1 "client" client (·.client) fun v r => { r with client := v }]

def createResponse : Record CreateResponse where
  name := "CreateClientResp"
  initial := {}
  slots :=
    [.flag 1 "already_exists" (·.alreadyExists) fun v r => { r with alreadyExists := v },
      .record 2 "client" client (·.client) fun v r => { r with client := v }]

def updateRequest : Record UpdateRequest where
  name := "UpdateClientReq"
  initial := {}
  slots :=
    [.text 1 "id" (·.id) fun v r => { r with id := v },
      .texts 2 "redirect_uris" (·.redirectUris) fun v r => { r with redirectUris := v },
      .texts 3 "trusted_peers" (·.trustedPeers) fun v r => { r with trustedPeers := v },
      .text 4 "name" (·.name) fun v r => { r with name := v },
      .text 5 "logo_url" (·.logoUrl) fun v r => { r with logoUrl := v }]

def updateResponse : Record UpdateResponse where
  name := "UpdateClientResp"
  initial := {}
  slots := [.flag 1 "not_found" (·.notFound) fun v r => { r with notFound := v }]

def deleteRequest : Record DeleteRequest where
  name := "DeleteClientReq"
  initial := {}
  slots := [.text 1 "id" (·.id) fun v r => { r with id := v }]

def deleteResponse : Record DeleteResponse where
  name := "DeleteClientResp"
  initial := {}
  slots := [.flag 1 "not_found" (·.notFound) fun v r => { r with notFound := v }]

end SignOnOperator.Dex
