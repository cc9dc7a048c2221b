import SignOnOperator.Exposure.Run
import SignOnOperator.Proxy.Rollout
import SignOnOperator.Reconcile.CookieSecret
/-!
# Provisioning

Putting the service of an SSO behind its proxy: a client of the identity provider, the proxy itself, its exposure, and
last the status that says it is done.  Once there is a client, any failure deletes it again.
-/
namespace SignOnOperator.Provision

/-- The steps, in their order. -/
inductive Step where
  | bindRole | loadCookieSecret | createClient | deployProxy | exposeService | resolveHosts | updateClient
  | updateProxy | updateStatus
  deriving DecidableEq, Repr

def Step.name : Step → String
  | bindRole => "binding the operator cluster role"
  | loadCookieSecret => "loading the cookie secret"
  | createClient => "creating the OIDC client"
  | deployProxy => "deploying the proxy"
  | exposeService => "exposing the proxy service"
  | resolveHosts => "resolving ingress hosts"
  | updateClient => "updating the OIDC client"
  | updateProxy => "updating the proxy"
  | updateStatus => "updating the SSO status"

/-- An action as a step for an SSO: its failure names the step. -/
def Step.run {α : Type} (step : Step) (sso : Sso) (ns : String) (action : Routine α) : Routine α :=
  action.mapError (.pipeline step.name ns sso.name)

/-- The hosts under which an application is published; there has to be one. -/
def resolveHosts (ns appName : String) : Routine (List String) := do
  let hosts ← Routine.call (.ingressHosts ns appName)
  if (show List String from hosts).isEmpty then Action.fail (.noIngressHosts ns appName)
  return hosts

/-- Everything from the new client on, up to the status. -/
def configure (config : Config) (sso : Sso) (ns account cookieSecret : String) (client : OidcClient) :
    Routine Unit := do
  let bundle ← Step.deployProxy.run sso ns (Proxy.deploy config sso client cookieSecret)
  if !sso.spec.skipExposeService then
    Step.exposeService.run sso ns (Exposure.run config .expose sso bundle.service.metadata.nameAny account)
  let hosts ← Step.resolveHosts.run sso ns (resolveHosts ns bundle.appName)
  let client := { client with redirectUris := Proxy.hostRedirectUrls hosts }
  Step.updateClient.run sso ns
    (Routine.call (.updateClient client.id client.redirectUris client.trustedPeers sso.name client.logoUrl))
  let _ ← Step.updateProxy.run sso ns (Proxy.update config sso client cookieSecret bundle)
  Step.updateStatus.run sso ns
    (Routine.call (.patchSsoStatus ns sso.name { clientId := some client.id, initialized := true }))

/-- Deletes a client after a failure; that this may fail too does not count. -/
def compensate (id : String) : Routine Unit := do
  Routine.count .compensated
  let _ ← (Routine.call (.deleteClient id)).attempt
  return ()

/-- Provisions an SSO. -/
def run (config : Config) (sso : Sso) : Routine Unit := do
  let ns ← Action.ofExcept sso.requireNamespace
  let account ← Step.bindRole.run sso ns (Routine.call (.ensureClusterRoleBinding config.clusterRoleName ns))
  let cookieSecret ← Step.loadCookieSecret.run sso ns (CookieSecret.get config.operatorNamespace)
  let client ← Step.createClient.run sso ns
    (Routine.call (.createClient [Proxy.placeholderRedirectUrl] [] false sso.name ""))
  match ← (configure config sso ns account cookieSecret client).attempt with
  | .ok () => return ()
  | .error e =>
    compensate (show OidcClient from client).id
    Action.fail e

end SignOnOperator.Provision
