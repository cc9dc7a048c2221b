import SignOnOperator.Bytes.Hex
import SignOnOperator.Bytes.Sha256
import SignOnOperator.OidcClient
import SignOnOperator.Sso.Basic
import SignOnOperator.Text.Basic
/-!
# The configuration of a proxy

The file of settings that the proxy reads, as lines of which each holds at most one given value, and the fingerprint
of the data that hold it.  Values are written as they are.
-/
namespace SignOnOperator.Proxy

/-- The values that the settings are made of. -/
structure Settings where
  port : Int
  redirectUrl : String
  loginUrl : String
  redeemUrl : String
  upstreamUrl : String
  clientId : String
  clientSecret : String
  forwardToken : Bool
  cookieName : String
  cookieSecret : String
  cookieDomain : String
  cookieExpire : String
  cookieRefresh : String
  cookieSecure : Bool
  cookieHttpOnly : Bool
  issuerUrl : String

/-- A line of the file: always the same, a text between quotes after a beginning, or a truth value after one. -/
inductive Line where
  | fixed (text : String)
  | quoted (lead value : String)
  | flag (lead : String) (value : Bool)

/-- The line without its end. -/
def Line.text : Line → String
  | fixed text => text
  | quoted lead value => lead ++ value ++ "\""
  | flag lead value => lead ++ (if value then "true" else "false")

/-- The lines of the file. -/
def Settings.lines (s : Settings) : List Line :=
  [.quoted "http_address = \":" (toString s.port),
    .quoted "redirect_url = \"" s.redirectUrl,
    .quoted "login_url = \"" s.loginUrl,
    .quoted "redeem_url = \"" s.redeemUrl,
    .fixed "upstreams = [",
    .quoted "  \"" s.upstreamUrl,
    .fixed "]",
    .fixed "request_logging = true",
    .fixed "",
    .quoted "client_id = \"" s.clientId,
    .quoted "client_secret = \"" s.clientSecret,
    .fixed "",
    .fixed "pass_basic_auth = false",
    .fixed "pass_host_header = false",
    .flag "pass_access_token = " s.forwardToken,
    .fixed "",
    .fixed "email_domains = [",
    .fixed "  \"*\"",
    .fixed "]",
    .fixed "",
    .quoted "cookie_name = \"" s.cookieName,
    .quoted "cookie_secret = \"" s.cookieSecret,
    .quoted "cookie_domain = \"" s.cookieDomain,
    .quoted "cookie_expire = \"" s.cookieExpire,
    .quoted "cookie_refresh = \"" s.cookieRefresh,
    .flag "cookie_secure = " s.cookieSecure,
    .flag "cookie_httponly = " s.cookieHttpOnly,
    .fixed "",
    .fixed "provider = \"oidc\"",
    .quoted "oidc_issuer_url = \"" s.issuerUrl,
    .fixed "scope = \"openid email profile\"",
    .fixed "skip_provider_button = true"]

/-- The whole file; the last line has no end. -/
def Settings.render (s : Settings) : String := Text.join "\n" (s.lines.map Line.text)

/-- What an issuer's address must begin with. -/
def secureScheme : List Char := "https://".toList

/-- The settings of the proxy of an SSO with its client.  The issuer must be reached securely, and the client must know
where to send users back to. -/
def settings (sso : Sso) (client : OidcClient) (cookieSecret upstreamUrl : String) (port : Int) :
    Except Error Settings :=
  let issuerUrl := sso.spec.oidcIssuerUrl
  let issuer := Text.trimEnd '/' issuerUrl.toList
  if !secureScheme.isPrefixOf issuer then
    .error (.proxyConfig s!"OIDC issuer URL '{issuerUrl}' must use https")
  else
    match client.redirectUris with
    | [] => .error (.proxyConfig "no redirect URL provided")
    | redirectUrl :: _ =>
      .ok {
        port, redirectUrl, upstreamUrl, cookieSecret, issuerUrl
        loginUrl := String.ofList issuer ++ "/auth"
        redeemUrl := String.ofList issuer ++ "/token"
        clientId := client.id
        clientSecret := client.secret
        forwardToken := sso.spec.forwardToken
        cookieName := sso.spec.cookieSpec.name
        cookieDomain := sso.spec.domain
        cookieExpire := sso.spec.cookieSpec.expire
        cookieRefresh := sso.spec.cookieSpec.refresh
        cookieSecure := sso.spec.cookieSpec.secure
        cookieHttpOnly := sso.spec.cookieSpec.httpOnly }

/-- The configuration of the proxy of an SSO. -/
def render (sso : Sso) (client : OidcClient) (cookieSecret upstreamUrl : String) (port : Int) :
    Except Error String :=
  (settings sso client cookieSecret upstreamUrl port).map Settings.render

/-- The key under which the configuration is kept, which is also the name of its file. -/
def configFile : String := "oauth2_proxy.cfg"

/-- The data that hold a configuration. -/
def secretData (rendered : String) : KeyMap String := .ofList [(configFile, rendered)]

/-- The bytes that stand for data: each key and each value with a zero byte after it, in the order of the keys. -/
def fingerprintInput (data : KeyMap String) : Bytes :=
  data.entries.flatMap fun e => Bytes.ofString e.1 ++ 0 :: Bytes.ofString e.2 ++ [0]

/-- The first sixteen digits of the hash of data. -/
def fingerprint (data : KeyMap String) : String :=
  String.ofList ((Sha256.hash (fingerprintInput data)).toHexDigits.take 16)

end SignOnOperator.Proxy
