import SignOnOperator.Sso.Basic
/-!
# The written form of SSOs

An SSO is written as JSON with all fields but the absent status, client and URL template.  Reading accepts every record
as an object or as the list of its fields; defaults stand in for missing fields, and version and kind do not count.
-/
namespace SignOnOperator

open Kubernetes (ObjectMeta)

/-- A value, or `null` for nothing. -/
def Json.nullable {α : Type} (write : α → Json) : Option α → Json
  | some a => write a
  | none => .null

/-- Reads what is not `null`. -/
def Json.present? {α : Type} (read : Json → α) : Json → Option α
  | .null => none
  | j => some (read j)

namespace ResourceSpec

def shape : Shape := .strict "ResourceSpec" [.optional "cpu" .text, .optional "memory" .text]

def ofJson (j : Json) : ResourceSpec where
  cpu := (j.get "cpu").str?
  memory := (j.get "memory").str?

def toJson (r : ResourceSpec) : Json := .object [("cpu", .nullable .str r.cpu), ("memory", .nullable .str r.memory)]

end ResourceSpec

namespace ProxyResources

def shape : Shape :=
  .strict "ProxyResources" [.optional "limits" ResourceSpec.shape, .optional "requests" ResourceSpec.shape]

def ofJson (j : Json) : ProxyResources where
  limits := (j.get "limits").present? ResourceSpec.ofJson
  requests := (j.get "requests").present? ResourceSpec.ofJson

def toJson (p : ProxyResources) : Json :=
  .object [("limits", .nullable ResourceSpec.toJson p.limits), ("requests", .nullable ResourceSpec.toJson p.requests)]

end ProxyResources

namespace CookieSpec

def shape : Shape :=
  .strict "CookieSpec"
    [.defaulted "name" .text (.str ""), .defaulted "expire" .text (.str ""), .defaulted "refresh" .text (.str ""),
      .defaulted "secure" .boolean (.bool false), .defaulted "httpOnly" .boolean (.bool false)]

def ofJson (j : Json) : CookieSpec where
  name := (j.get "name").text
  expire := (j.get "expire").text
  refresh := (j.get "refresh").text
  secure := (j.get "secure").bool?.getD false
  httpOnly := (j.get "httpOnly").bool?.getD false

def toJson (c : CookieSpec) : Json :=
  .object
    [("expire", .str c.expire), ("httpOnly", .bool c.httpOnly), ("name", .str c.name), ("refresh", .str c.refresh),
      ("secure", .bool c.secure)]

end CookieSpec

namespace SsoSpec

def shape : Shape :=
  .strict "SSOSpec"
    [.required "oidcIssuerUrl" .text, .required "upstreamService" .text, .defaulted "domain" .text (.str ""),
      .defaulted "certIssuerName" .text (.str ""), .required "proxyImage" .text, .required "proxyImageTag" .text,
      .defaulted "proxyResources" ProxyResources.shape (ProxyResources.toJson {}),
      .defaulted "forwardToken" .boolean (.bool false), .defaulted "cookieSpec" CookieSpec.shape (CookieSpec.toJson {}),
      .defaulted "skipExposeService" .boolean (.bool false), .defaulted "urlTemplate" (.optional .text) .null]

def ofJson (j : Json) : SsoSpec where
  oidcIssuerUrl := (j.get "oidcIssuerUrl").text
  upstreamService := (j.get "upstreamService").text
  domain := (j.get "domain").text
  certIssuerName := (j.get "certIssuerName").text
  proxyImage := (j.get "proxyImage").text
  proxyImageTag := (j.get "proxyImageTag").text
  proxyResources := .ofJson (j.get "proxyResources")
  forwardToken := (j.get "forwardToken").bool?.getD false
  cookieSpec := .ofJson (j.get "cookieSpec")
  skipExposeService := (j.get "skipExposeService").bool?.getD false
  urlTemplate := (j.get "urlTemplate").str?

def toJson (s : SsoSpec) : Json :=
  .objectOf
    [("oidcIssuerUrl", some (.str s.oidcIssuerUrl)), ("upstreamService", some (.str s.upstreamService)),
      ("domain", some (.str s.domain)), ("certIssuerName", some (.str s.certIssuerName)),
      ("proxyImage", some (.str s.proxyImage)), ("proxyImageTag", some (.str s.proxyImageTag)),
      ("proxyResources", some s.proxyResources.toJson), ("forwardToken", some (.bool s.forwardToken)),
      ("cookieSpec", some s.cookieSpec.toJson), ("skipExposeService", some (.bool s.skipExposeService)),
      ("urlTemplate", s.urlTemplate.map .str)]

end SsoSpec

namespace SsoStatus

def shape : Shape :=
  .strict "SSOStatus"
    [.defaulted "clientId" (.optional .text) .null, .defaulted "initialized" .boolean (.bool false)]

def ofJson (j : Json) : SsoStatus where
  clientId := (j.get "clientId").str?
  initialized := (j.get "initialized").bool?.getD false

def toJson (s : SsoStatus) : Json :=
  .objectOf [("clientId", s.clientId.map .str), ("initialized", some (.bool s.initialized))]

end SsoStatus

namespace Sso

def shape : Shape :=
  .strict "SSO"
    [.required "metadata" Kubernetes.Shapes.objectMeta, .required "spec" SsoSpec.shape,
      .optional "status" SsoStatus.shape]

/-- Reads the normal form of `shape`. -/
def ofNormal (j : Json) : Sso where
  metadata := .ofJson (j.get "metadata")
  spec := .ofJson (j.get "spec")
  status := (j.get "status").present? SsoStatus.ofJson

def toJson (sso : Sso) : Json :=
  .objectOf
    [("apiVersion", some (.str apiVersion)), ("kind", some (.str kind)), ("metadata", some sso.metadata.toJson),
      ("spec", some sso.spec.toJson), ("status", sso.status.map SsoStatus.toJson)]

/-- The SSO that a value stands for. -/
def ofJson (j : Json) : Except String Sso := (shape.ofJson j).map ofNormal

/-- The SSO that a JSON text stands for. -/
def ofText (text : String) : Except String Sso := (shape.ofText text).map ofNormal

end Sso
end SignOnOperator
