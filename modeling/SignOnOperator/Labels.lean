import SignOnOperator.KeyMap
/-!
# Labels

The labels by which the operator marks what it makes, and finds the pods of a proxy again.
-/
namespace SignOnOperator.Labels

/-- The label that names an application. -/
def app : String := "app"

/-- The label that names the release an object was installed with. -/
def release : String := "release"

/-- The label that names the SSO to which an object belongs. -/
def sso : String := "sso"

/-- The labels of everything the operator makes. -/
def common : KeyMap String := .ofList [("app.kubernetes.io/managed-by", "sso-operator")]

/-- The labels that tell the pods of one proxy from all others. -/
def proxySelector (ssoName appName : String) : KeyMap String := .ofList [(app, appName), (sso, ssoName)]

/-- The labels of the objects of a proxy. -/
def proxy (ssoName appName : String) : KeyMap String := common.union (proxySelector ssoName appName)

/-- The query for the pods of a proxy. -/
def podSelector (ssoName : String) : String := s!"{sso}={ssoName}"

end SignOnOperator.Labels
