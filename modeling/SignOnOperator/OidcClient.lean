/-!
# Clients of the identity provider

What the identity provider knows of an application that signs users on: its identity and secret, where it may send
users back to, and how it is shown to them.
-/
namespace SignOnOperator

structure OidcClient where
  id : String := ""
  secret : String := ""
  redirectUris : List String := []
  trustedPeers : List String := []
  isPublic : Bool := false
  name : String := ""
  logoUrl : String := ""
  deriving DecidableEq, Repr, Inhabited

end SignOnOperator
