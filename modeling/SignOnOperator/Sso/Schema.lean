import SignOnOperator.Sso.Form
/-!
# The published schema

The definition by which the cluster learns of SSOs: how they are called, and a schema that the specification and the
status of each must satisfy before it is stored.
-/
namespace SignOnOperator

/-- The kinds of values that a schema tells apart. -/
inductive SchemaType where
  | object | string | boolean
  deriving DecidableEq, Repr

def SchemaType.name : SchemaType → String
  | object => "object"
  | string => "string"
  | boolean => "boolean"

/-- A structural schema. -/
inductive Schema where
  | mk (type : SchemaType) (properties : List (String × Schema)) (required : List String) (isNullable : Bool)
    (beginning : Option String) (default : Option Json) (description title : Option String)

namespace Schema

def type : Schema → SchemaType
  | mk t _ _ _ _ _ _ _ => t

def properties : Schema → List (String × Schema)
  | mk _ p _ _ _ _ _ _ => p

def required : Schema → List String
  | mk _ _ r _ _ _ _ _ => r

def isNullable : Schema → Bool
  | mk _ _ _ n _ _ _ _ => n

/-- The text that an admitted text begins with. -/
def beginning : Schema → Option String
  | mk _ _ _ _ b _ _ _ => b

/-- Texts. -/
def text : Schema := mk .string [] [] false none none none none

def boolean : Schema := mk .boolean [] [] false none none none none

/-- Objects with members of these schemas, some of them required. -/
def object (properties : List (String × Schema)) (required : List String) : Schema :=
  mk .object properties required false none none none none

def orNull : Schema → Schema
  | mk t p r _ b d desc title => mk t p r true b d desc title

def beginningWith (start : String) : Schema → Schema
  | mk t p r n _ d desc title => mk t p r n (some start) d desc title

def withDefault (value : Json) : Schema → Schema
  | mk t p r n b _ desc title => mk t p r n b (some value) desc title

def described (description : String) : Schema → Schema
  | mk t p r n b d _ title => mk t p r n b d (some description) title

def titled (title : String) : Schema → Schema
  | mk t p r n b d desc _ => mk t p r n b d desc (some title)

mutual

/-- Whether a value satisfies the schema.  Members that the schema does not know are allowed. -/
def admits : Schema → Json → Bool
  | mk _ _ _ isNullable _ _ _ _, .null => isNullable
  | mk .object properties required _ _ _ _ _, .obj members =>
    (required.all fun name => members.any fun m => m.1 = name) && admitsMembers properties members
  | mk .string _ _ _ beginning _ _ _, .str s => beginning.all fun start => start.toList.isPrefixOf s.toList
  | mk .boolean _ _ _ _ _ _ _, .bool _ => true
  | _, _ => false

/-- Whether the members satisfy the schemas of their names. -/
def admitsMembers : List (String × Schema) → List (String × Json) → Bool
  | [], _ => true
  | (name, schema) :: rest, members =>
    ((members.filter fun m => m.1 = name).all fun m => admits schema m.2) && admitsMembers rest members

end

mutual

/-- The schema as it is published. -/
def toJson : Schema → Json
  | mk type properties required isNullable beginning default description title =>
    .objectOf
      [("default", default), ("description", description.map .str),
        ("nullable", if isNullable then some (.bool true) else none),
        ("pattern", beginning.map fun start => .str ("^" ++ start)),
        ("properties", if properties.isEmpty then none else some (.object (propertiesToJson properties))),
        ("required", if required.isEmpty then none else some (.strings required)),
        ("title", title.map .str), ("type", some (.str type.name))]

def propertiesToJson : List (String × Schema) → List (String × Json)
  | [] => []
  | (name, schema) :: rest => (name, toJson schema) :: propertiesToJson rest

end

end Schema

namespace ResourceSpec

def schema : Schema := .object [("cpu", Schema.text.orNull), ("memory", Schema.text.orNull)] []

end ResourceSpec

namespace ProxyResources

def schema : Schema :=
  (Schema.object [("limits", ResourceSpec.schema.orNull), ("requests", ResourceSpec.schema.orNull)] []).withDefault
    (toJson {})

end ProxyResources

namespace CookieSpec

def schema : Schema :=
  (Schema.object
    [("expire", (Schema.text.withDefault (.str "")).described "Cookie lifetime, e.g. \"168h0m0s\""),
      ("httpOnly", Schema.boolean.withDefault (.bool false)),
      ("name", Schema.text.withDefault (.str "")),
      ("refresh", (Schema.text.withDefault (.str "")).described "Refresh interval, e.g. \"60m\""),
      ("secure", Schema.boolean.withDefault (.bool false))] []).withDefault (toJson {})

end CookieSpec

namespace SsoSpec

def schema : Schema :=
  (Schema.object
    [("certIssuerName",
        (Schema.text.withDefault (.str "")).described "cert-manager issuer used for the proxy ingress"),
      ("cookieSpec", CookieSpec.schema),
      ("domain",
        (Schema.text.withDefault (.str "")).described "Domain the proxy is exposed on, also used as cookie domain"),
      ("forwardToken",
        (Schema.boolean.withDefault (.bool false)).described "Forward the OIDC access token to the upstream"),
      ("oidcIssuerUrl",
        (Schema.text.beginningWith "https://").described "Issuer of the OIDC provider, must be an https URL"),
      ("proxyImage", Schema.text),
      ("proxyImageTag", Schema.text),
      ("proxyResources", ProxyResources.schema),
      ("skipExposeService",
        (Schema.boolean.withDefault (.bool false)).described
          "Do not run the exposecontroller for the proxy service"),
      ("upstreamService", Schema.text.described "Service in the same namespace to put behind the proxy"),
      ("urlTemplate", Schema.text.orNull.described "URL template handed to the exposecontroller")]
    ["oidcIssuerUrl", "proxyImage", "proxyImageTag", "upstreamService"]).described
    "SSO protects an upstream service with an oauth2_proxy backed by a Dex OIDC client"

end SsoSpec

namespace SsoStatus

def schema : Schema :=
  Schema.orNull (.object
    [("clientId", Schema.text.orNull.described "Id of the OIDC client registered for this resource"),
      ("initialized", Schema.boolean.withDefault (.bool false))] [])

end SsoStatus

namespace Sso

/-- The schema of the whole resource; its metadata are the cluster's own affair. -/
def schema : Schema :=
  ((Schema.object [("spec", SsoSpec.schema), ("status", SsoStatus.schema)] ["spec"]).described
    "Auto-generated derived type for SSOSpec via \x60CustomResource\x60").titled "SSO"

/-- A column of the cluster's listing of resources. -/
def column (name type path : String) : Json :=
  .object [("jsonPath", .str path), ("name", .str name), ("type", .str type)]

/-- The definition of the resource. -/
def definition : Json :=
  .object
    [("apiVersion", .str "apiextensions.k8s.io/v1"), ("kind", .str "CustomResourceDefinition"),
      ("metadata", .object [("name", .str "ssos.jenkins.io")]),
      ("spec", .object
        [("group", .str "jenkins.io"),
          ("names", .object
            [("categories", .arr []), ("kind", .str kind), ("plural", .str "ssos"), ("shortNames", .arr []),
              ("singular", .str "sso")]),
          ("scope", .str "Namespaced"),
          ("versions", .arr [.object
            [("additionalPrinterColumns", .arr
                [column "Upstream" "string" ".spec.upstreamService",
                  column "Initialized" "boolean" ".status.initialized",
                  column "Age" "date" ".metadata.creationTimestamp"]),
              ("name", .str "v1"),
              ("schema", .object [("openAPIV3Schema", schema.toJson)]),
              ("served", .bool true), ("storage", .bool true),
              ("subresources", .object [("status", .object [])])]])])]

end Sso
end SignOnOperator
