import Mathlib.Data.List.DropRight
import SignOnOperator.Proxy.Config
/-!
# The template of a configuration

The file of settings as a template.  Each of its lines is always the same, or shows one parameter of the configuration
after a beginning of its own; only the address of the issuer is shown on three lines, on two of them without the slashes
at its end and with a path after it.  A configuration is the template filled in (`Recipe.render_eq_ok_iff`).
-/
namespace SignOnOperator

theorem intercalate_append_cons {α : Type} (sep : List α) (before : List (List α)) (x : List α)
    (after : List (List α)) :
    sep.intercalate (before ++ x :: after) =
      before.flatMap (fun line => line ++ sep) ++ (x ++ after.flatMap (fun line => sep ++ line)) := by
  induction before with
  | nil =>
    induction after generalizing x with
    | nil => simp [List.intercalate]
    | cons y ys ih =>
      have := ih y
      simp only [List.nil_append, List.flatMap_nil, List.flatMap_cons] at this ⊢
      rw [List.intercalate_cons_cons, this, List.append_assoc, List.append_assoc]
  | cons y ys ih =>
    obtain ⟨z, zs, h⟩ := List.exists_cons_of_ne_nil (l := ys ++ x :: after) (by simp)
    rw [List.cons_append, h, List.intercalate_cons_cons, ← h, ih]
    simp

namespace Proxy

/-- What a configuration depends on. -/
inductive Parameter where
  | port | redirectUrl | upstreamUrl | clientId | clientSecret | cookieSecret | issuerUrl | domain | forwardToken
  | cookieName | expire | refresh | secure | httpOnly
  deriving DecidableEq, Repr

/-- A value of a parameter. -/
inductive Value where
  | number (n : Int)
  | text (s : String)
  | flag (b : Bool)
  deriving DecidableEq, Repr

/-- How a value is written: as it is. -/
def Value.chars : Value → List Char
  | number n => (toString n).toList
  | text s => s.toList
  | flag b => (if b then "true" else "false").toList

/-- What a configuration is made from. -/
structure Recipe where
  sso : Sso
  client : OidcClient
  cookieSecret : String
  upstreamUrl : String
  port : Int

namespace Recipe

def render (r : Recipe) : Except Error String := Proxy.render r.sso r.client r.cookieSecret r.upstreamUrl r.port

def value (r : Recipe) : Parameter → Value
  | .port => .number r.port
  | .redirectUrl => .text (r.client.redirectUris.headD "")
  | .upstreamUrl => .text r.upstreamUrl
  | .clientId => .text r.client.id
  | .clientSecret => .text r.client.secret
  | .cookieSecret => .text r.cookieSecret
  | .issuerUrl => .text r.sso.spec.oidcIssuerUrl
  | .domain => .text r.sso.spec.domain
  | .forwardToken => .flag r.sso.spec.forwardToken
  | .cookieName => .text r.sso.spec.cookieSpec.name
  | .expire => .text r.sso.spec.cookieSpec.expire
  | .refresh => .text r.sso.spec.cookieSpec.refresh
  | .secure => .flag r.sso.spec.cookieSpec.secure
  | .httpOnly => .flag r.sso.spec.cookieSpec.httpOnly

end Recipe

/-- A line of the template: always the same text, a parameter between quotes or without them, or an endpoint of the
issuer between quotes. -/
inductive Form where
  | fixed (text : String)
  | quoted (lead : String) (p : Parameter)
  | bare (lead : String) (p : Parameter)
  | endpoint (lead path : String)

namespace Form

/-- What the line begins with. -/
def lead : Form → List Char
  | fixed text => text.toList
  | quoted lead _ | bare lead _ | endpoint lead _ => lead.toList

/-- What the line shows after its beginning. -/
def content (v : Parameter → Value) : Form → List Char
  | fixed _ => []
  | quoted _ p | bare _ p => (v p).chars
  | endpoint _ path => Text.trimEnd '/' (v .issuerUrl).chars ++ path.toList

def closing : Form → List Char
  | fixed _ | bare _ _ => []
  | quoted _ _ | endpoint _ _ => ['"']

/-- The line filled in. -/
def text (v : Parameter → Value) (f : Form) : List Char := f.lead ++ f.content v ++ f.closing

/-- The parameter that the line shows. -/
def parameter? : Form → Option Parameter
  | fixed _ => none
  | quoted _ p | bare _ p => some p
  | endpoint _ _ => some .issuerUrl

theorem content_congr {v v' : Parameter → Value} {f : Form} (same : ∀ p, f.parameter? = some p → v p = v' p) :
    f.content v = f.content v' := by
  cases f with
  | fixed _ => rfl
  | quoted _ p => exact congrArg Value.chars (same p rfl)
  | bare _ p => exact congrArg Value.chars (same p rfl)
  | endpoint _ path => exact congrArg (fun value => Text.trimEnd '/' (Value.chars value) ++ path.toList) (same _ rfl)

end Form

def template : List Form :=
  [.quoted "http_address = \":" .port,
    .quoted "redirect_url = \"" .redirectUrl,
    .endpoint "login_url = \"" "/auth",
    .endpoint "redeem_url = \"" "/token",
    .fixed "upstreams = [",
    .quoted "  \"" .upstreamUrl,
    .fixed "]",
    .fixed "request_logging = true",
    .fixed "",
    .quoted "client_id = \"" .clientId,
    .quoted "client_secret = \"" .clientSecret,
    .fixed "",
    .fixed "pass_basic_auth = false",
    .fixed "pass_host_header = false",
    .bare "pass_access_token = " .forwardToken,
    .fixed "",
    .fixed "email_domains = [",
    .fixed "  \"*\"",
    .fixed "]",
    .fixed "",
    .quoted "cookie_name = \"" .cookieName,
    .quoted "cookie_secret = \"" .cookieSecret,
    .quoted "cookie_domain = \"" .domain,
    .quoted "cookie_expire = \"" .expire,
    .quoted "cookie_refresh = \"" .refresh,
    .bare "cookie_secure = " .secure,
    .bare "cookie_httponly = " .httpOnly,
    .fixed "",
    .fixed "provider = \"oidc\"",
    .quoted "oidc_issuer_url = \"" .issuerUrl,
    .fixed "scope = \"openid email profile\"",
    .fixed "skip_provider_button = true"]

/-- The template with every line filled in, and line breaks between the lines. -/
def filledIn (v : Parameter → Value) : List Char := ['\n'].intercalate (template.map (Form.text v))

/-- A line that is neither the first nor the last one stands between two line breaks. -/
theorem infix_filledIn (v : Parameter → Value) {f : Form} {before after : List Form}
    (split : template = before ++ f :: after) (notFirst : before ≠ []) (notLast : after ≠ []) :
    '\n' :: f.text v ++ ['\n'] <:+: filledIn v := by
  obtain ⟨earlier, last, rfl⟩ := (List.eq_nil_or_concat' before).resolve_left notFirst
  obtain ⟨next, later, rfl⟩ := List.exists_cons_of_ne_nil notLast
  unfold filledIn
  rw [split, List.map_append, List.map_cons, intercalate_append_cons]
  refine ⟨(earlier.map (Form.text v)).flatMap (· ++ ['\n']) ++ last.text v,
    next.text v ++ (later.map (Form.text v)).flatMap (['\n'] ++ ·), ?_⟩
  simp

namespace Recipe

/-- The issuer without the slashes at the end of its address. -/
def issuer (r : Recipe) : List Char := Text.trimEnd '/' r.sso.spec.oidcIssuerUrl.toList

/-- A configuration can be made if the issuer is reached securely and there is a place to send users back to. -/
structure Usable (r : Recipe) : Prop where
  secure : secureScheme <+: r.issuer
  redirects : r.client.redirectUris ≠ []

theorem Usable.issuer_ne_nil {r : Recipe} (usable : r.Usable) : r.issuer ≠ [] := by
  intro empty
  have := usable.secure
  rw [empty, List.prefix_nil] at this
  revert this
  decide

/-- The settings that a recipe gives, if it can be used. -/
def settings (r : Recipe) : Settings where
  port := r.port
  redirectUrl := r.client.redirectUris.headD ""
  loginUrl := String.ofList r.issuer ++ "/auth"
  redeemUrl := String.ofList r.issuer ++ "/token"
  upstreamUrl := r.upstreamUrl
  clientId := r.client.id
  clientSecret := r.client.secret
  forwardToken := r.sso.spec.forwardToken
  cookieName := r.sso.spec.cookieSpec.name
  cookieSecret := r.cookieSecret
  cookieDomain := r.sso.spec.domain
  cookieExpire := r.sso.spec.cookieSpec.expire
  cookieRefresh := r.sso.spec.cookieSpec.refresh
  cookieSecure := r.sso.spec.cookieSpec.secure
  cookieHttpOnly := r.sso.spec.cookieSpec.httpOnly
  issuerUrl := r.sso.spec.oidcIssuerUrl

theorem render_of_usable {r : Recipe} (usable : r.Usable) : r.render = .ok r.settings.render := by
  have reached : ¬(!secureScheme.isPrefixOf r.issuer) = true := by
    simp [List.isPrefixOf_iff_prefix.2 usable.secure]
  obtain ⟨uri, rest, uris⟩ := List.exists_cons_of_ne_nil usable.redirects
  unfold issuer at reached
  unfold render Proxy.render Proxy.settings settings issuer
  simp only [if_neg reached, uris]
  rfl

theorem usable_of_render {r : Recipe} {text : String} (made : r.render = .ok text) : r.Usable := by
  unfold render Proxy.render Proxy.settings at made
  refine ⟨?_, fun noUris => ?_⟩
  · by_contra insecure
    have : (!secureScheme.isPrefixOf (Text.trimEnd '/' r.sso.spec.oidcIssuerUrl.toList)) = true := by
      simpa [← List.isPrefixOf_iff_prefix, issuer] using insecure
    rw [if_pos this] at made
    cases made
  · simp only [noUris] at made
    split_ifs at made <;> cases made

/-- What is written is the template, line by line. -/
theorem toList_render (r : Recipe) : r.settings.render.toList = filledIn r.value := by
  simp only [Settings.render, Text.join, String.toList_intercalate, List.map_map, filledIn]
  refine congrArg (List.intercalate ['\n']) ?_
  simp [Settings.lines, template, Line.text, Form.text, Form.lead, Form.content, Form.closing, value, Value.chars,
    settings, issuer]

/-- A configuration is the template filled in. -/
theorem render_eq_ok_iff {r : Recipe} {text : String} :
    r.render = .ok text ↔ r.Usable ∧ text.toList = filledIn r.value := by
  rw [← toList_render, String.toList_inj]
  constructor
  · intro made
    have usable := usable_of_render made
    rw [render_of_usable usable] at made
    exact ⟨usable, (Except.ok.inj made).symm⟩
  · rintro ⟨usable, rfl⟩
    exact render_of_usable usable

/-- The first line of a configuration is the port on which the proxy listens. -/
theorem render_port {r : Recipe} {text : String} (made : r.render = .ok text) :
    ("http_address = \":" ++ toString r.port ++ "\"\n").toList <+: text.toList := by
  have line : ("http_address = \":" ++ toString r.port ++ "\"\n").toList =
      Form.text r.value (.quoted "http_address = \":" .port) ++ ['\n'] := by
    simp [Form.text, Form.lead, Form.content, Form.closing, value, Value.chars]
  rw [line, (render_eq_ok_iff.1 made).2]
  exact ⟨['\n'].intercalate (template.tail.map (Form.text r.value)), (List.intercalate_cons_cons ..).symm⟩

/-- One line of a configuration is the cookie secret. -/
theorem render_cookieSecret {r : Recipe} {text : String} (made : r.render = .ok text) :
    ("\ncookie_secret = \"" ++ r.cookieSecret ++ "\"\n").toList <:+: text.toList := by
  have line : ("\ncookie_secret = \"" ++ r.cookieSecret ++ "\"\n").toList =
      '\n' :: Form.text r.value (.quoted "cookie_secret = \"" .cookieSecret) ++ ['\n'] := by
    simp [Form.text, Form.lead, Form.content, Form.closing, value, Value.chars]
  rw [line, (render_eq_ok_iff.1 made).2]
  have split : template =
      template.take 21 ++ .quoted "cookie_secret = \"" .cookieSecret :: template.drop 22 := rfl
  exact infix_filledIn r.value split (by decide) (by decide)

/-- A recipe with the given issuer and domain. -/
def sample (issuer domain : String) : Recipe where
  sso := {
    metadata := { name := some "app", namespaceName := some "jx" }
    spec := { oidcIssuerUrl := issuer, upstreamService := "web", domain, proxyImage := "proxy", proxyImageTag := "1" } }
  client := { id := "client", redirectUris := ["https://app.jx/oauth2/callback"] }
  cookieSecret := "secret"
  upstreamUrl := "http://web.jx:80"
  port := 4180

end Recipe
end Proxy
end SignOnOperator
