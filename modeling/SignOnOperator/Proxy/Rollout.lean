import SignOnOperator.Config
import SignOnOperator.Proxy.Address
import SignOnOperator.Proxy.Bundle
import SignOnOperator.Waiting.Conditions
/-!
# Rolling out a proxy

Setting up the proxy of an SSO in front of its upstream service, and later giving it another configuration.  Both end
when the pods run.
-/
namespace SignOnOperator.Proxy

open Kubernetes

/-- Applies all objects of a proxy and waits for its service and its pods. -/
def applyAndWait (config : Config) (sso : Sso) (ns : String) (bundle : Bundle) : Routine Unit := do
  Routine.call (.applySecret bundle.secret)
  Routine.call (.applyDeployment bundle.deployment)
  Routine.call (.applyService bundle.service)
  Waiting.forService ns bundle.service.metadata.nameAny true config.timeouts.service
  Waiting.forPods ns (Labels.podSelector sso.name) config.timeouts.pods

/-- The objects of a proxy for an upstream service. -/
def plan (sso : Sso) (client : OidcClient) (cookieSecret : String) (upstream : Service) : Except Error Bundle := do
  let upstreamUrl ← upstreamUrl upstream
  let rendered ← render sso client cookieSecret upstreamUrl port
  buildBundle sso (appName upstream) upstreamUrl (secretData rendered)

/-- Sets up the proxy of an SSO with a client, and waits until it runs. -/
def deploy (config : Config) (sso : Sso) (client : OidcClient) (cookieSecret : String) : Routine Bundle := do
  let ns ← Action.ofExcept sso.requireNamespace
  let found ← Routine.call (.getService ns sso.spec.upstreamService)
  let upstream ← Action.require found (.serviceNotFound ns sso.spec.upstreamService)
  let bundle ← Action.ofExcept (plan sso client cookieSecret upstream)
  applyAndWait config sso ns bundle
  return bundle

/-- The objects of a proxy with the configuration for another client. -/
def revise (sso : Sso) (client : OidcClient) (cookieSecret : String) (bundle : Bundle) : Except Error Bundle := do
  let rendered ← render sso client cookieSecret bundle.upstreamUrl port
  buildBundle sso bundle.appName bundle.upstreamUrl (secretData rendered)

/-- Gives a proxy the configuration for another client, and waits until all pods run on it. -/
def update (config : Config) (sso : Sso) (client : OidcClient) (cookieSecret : String) (bundle : Bundle) :
    Routine Bundle := do
  let ns ← Action.ofExcept sso.requireNamespace
  let updated ← Action.ofExcept (revise sso client cookieSecret bundle)
  Routine.call (.applySecret updated.secret)
  Routine.call (.applyDeployment updated.deployment)
  Waiting.forDeployment ns updated.deployment.metadata.nameAny config.timeouts.deployment
  Waiting.forCurrentPods ns (Labels.podSelector sso.name)
    (fun pod => podFingerprint? pod == deployedFingerprint? updated.deployment) config.timeouts.pods
  return updated

end SignOnOperator.Proxy
