import SignOnOperator.Proofs.MetadataForm
import SignOnOperator.Proofs.StrictRecords
/-!
# SSOs written and read

Every part of an SSO keeps all that it holds, whatever its texts and whichever of its fields are there.  The metadata do
if they were read.
-/
namespace SignOnOperator

variable {j : Json}

/-! ## The parts of an SSO -/

open Shape.Slot.Keeps (nullable present of_given)

theorem ResourceSpec.shape_keeps (r : ResourceSpec) : shape.Keeps r.toJson ofJson r := by
  obtain ⟨n, read, cpu, memory, -⟩ : ∃ n, shape.read (.ofJson r.toJson) = .ok n ∧ _ :=
    Shape.KeepsAll.exists_read [("cpu", some (.nullable .str r.cpu)), ("memory", some (.nullable .str r.memory))]
      (by simp) (by decide)
      (.cons (nullable .someText nofun rfl rfl r.cpu) (by simp) <|
        .cons (nullable .someText nofun rfl rfl r.memory) (by simp) .nil)
  exact ⟨n, read, (ResourceSpec.mk.injEq ..).mpr ⟨cpu, memory⟩⟩

theorem ProxyResources.shape_keeps (p : ProxyResources) : shape.Keeps p.toJson ofJson p := by
  have part (r : ResourceSpec) := Shape.Keeps.present r.shape_keeps
  obtain ⟨n, read, limits, requests, -⟩ : ∃ n, shape.read (.ofJson p.toJson) = .ok n ∧ _ :=
    Shape.KeepsAll.exists_read
      [("limits", some (.nullable ResourceSpec.toJson p.limits)),
        ("requests", some (.nullable ResourceSpec.toJson p.requests))]
      (by simp) (by decide)
      (.cons (nullable part (fun _ => nofun) rfl rfl p.limits) (by simp) <|
        .cons (nullable part (fun _ => nofun) rfl rfl p.requests) (by simp) .nil)
  exact ⟨n, read, (ProxyResources.mk.injEq ..).mpr ⟨limits, requests⟩⟩

theorem CookieSpec.shape_keeps (c : CookieSpec) : shape.Keeps c.toJson ofJson c := by
  obtain ⟨n, read, name, expire, refresh, secure, httpOnly, -⟩ : ∃ n, shape.read (.ofJson c.toJson) = .ok n ∧ _ :=
    Shape.KeepsAll.exists_read
      [("expire", some (.str c.expire)), ("httpOnly", some (.bool c.httpOnly)), ("name", some (.str c.name)),
        ("refresh", some (.str c.refresh)), ("secure", some (.bool c.secure))]
      (by simp) (by decide)
      (.cons (of_given (.text c.name)) (by simp) <| .cons (of_given (.text c.expire)) (by simp) <|
        .cons (of_given (.text c.refresh)) (by simp) <| .cons (of_given (.boolean c.secure)) (by simp) <|
        .cons (of_given (.boolean c.httpOnly)) (by simp) .nil)
  exact ⟨n, read, (CookieSpec.mk.injEq ..).mpr ⟨name, expire, refresh, secure, httpOnly⟩⟩

theorem SsoSpec.shape_keeps (s : SsoSpec) : shape.Keeps s.toJson ofJson s := by
  obtain ⟨n, read, issuer, upstream, domain, certIssuer, image, tag, resources, forward, cookie, skip, template, -⟩ :
      ∃ n, shape.read (.ofJson s.toJson) = .ok n ∧ _ :=
    Shape.KeepsAll.exists_read
      [("oidcIssuerUrl", some (.str s.oidcIssuerUrl)), ("upstreamService", some (.str s.upstreamService)),
        ("domain", some (.str s.domain)), ("certIssuerName", some (.str s.certIssuerName)),
        ("proxyImage", some (.str s.proxyImage)), ("proxyImageTag", some (.str s.proxyImageTag)),
        ("proxyResources", some s.proxyResources.toJson), ("forwardToken", some (.bool s.forwardToken)),
        ("cookieSpec", some s.cookieSpec.toJson), ("skipExposeService", some (.bool s.skipExposeService)),
        ("urlTemplate", s.urlTemplate.map .str)]
      (by simp) (by decide)
      (.cons (of_given (.text s.oidcIssuerUrl)) (by simp) <| .cons (of_given (.text s.upstreamService)) (by simp) <|
        .cons (of_given (.text s.domain)) (by simp) <| .cons (of_given (.text s.certIssuerName)) (by simp) <|
        .cons (of_given (.text s.proxyImage)) (by simp) <| .cons (of_given (.text s.proxyImageTag)) (by simp) <|
        .cons (of_given s.proxyResources.shape_keeps) (by simp) <|
        .cons (of_given (.boolean s.forwardToken)) (by simp) <| .cons (of_given s.cookieSpec.shape_keeps) (by simp) <|
        .cons (of_given (.boolean s.skipExposeService)) (by simp) <|
        .cons (present .someText nofun rfl rfl rfl s.urlTemplate) (by simp) .nil)
  exact ⟨n, read, (SsoSpec.mk.injEq ..).mpr
    ⟨issuer, upstream, domain, certIssuer, image, tag, resources, forward, cookie, skip, template⟩⟩

theorem SsoStatus.shape_keeps (s : SsoStatus) : shape.Keeps s.toJson ofJson s := by
  obtain ⟨n, read, clientId, initialized, -⟩ : ∃ n, shape.read (.ofJson s.toJson) = .ok n ∧ _ :=
    Shape.KeepsAll.exists_read [("clientId", s.clientId.map .str), ("initialized", some (.bool s.initialized))]
      (by simp) (by decide)
      (.cons (present .someText nofun rfl rfl rfl s.clientId) (by simp) <|
        .cons (of_given (.boolean s.initialized)) (by simp) .nil)
  exact ⟨n, read, (SsoStatus.mk.injEq ..).mpr ⟨clientId, initialized⟩⟩

/-! ## The whole -/

namespace Sso

open Kubernetes (ObjectMeta)

/-- Reading an SSO is reading its shape. -/
theorem ofJson_eq_ok_iff {sso : Sso} : Sso.ofJson j = .ok sso ↔ shape.Keeps j ofNormal sso :=
  Shape.map_ofJson_eq_ok_iff

/-- An SSO survives being written and read if its metadata do. -/
theorem ofJson_toJson {sso : Sso} (survives : sso.metadata.Survives) : Sso.ofJson sso.toJson = .ok sso := by
  obtain ⟨normal, survives⟩ : Kubernetes.Shapes.objectMeta.Keeps _ _ _ := Shape.map_ofJson_eq_ok_iff.1 survives
  have statuses (s : SsoStatus) := Shape.Keeps.present s.shape_keeps
  obtain ⟨n, read, metadata, spec, status, -⟩ : ∃ n, shape.read (.ofJson sso.toJson) = .ok n ∧ _ :=
    Shape.KeepsAll.exists_read
      [("apiVersion", some (.str apiVersion)), ("kind", some (.str kind)), ("metadata", some sso.metadata.toJson),
        ("spec", some sso.spec.toJson), ("status", sso.status.map SsoStatus.toJson)]
      (by simp) (by decide)
      (.cons (of_given ⟨normal, survives⟩) (by simp) <| .cons (of_given sso.spec.shape_keeps) (by simp) <|
        .cons (present statuses (fun _ => nofun) rfl rfl rfl sso.status) (by simp) .nil)
  exact ofJson_eq_ok_iff.2 ⟨n, read, (Sso.mk.injEq ..).mpr ⟨metadata, spec, status⟩⟩

/-- A text that a value gives as a point in time in the metadata of an SSO. -/
def GivesTime (text : String) (j : Json) : Prop :=
  ∃ metadata, Shape.GivesFirst "metadata" metadata j ∧ ObjectMeta.GivesTime text metadata

theorem metadata_survives {sso : Sso} (read : Sso.ofJson j = .ok sso)
    (inYears : ∀ text, GivesTime text j → Timestamp.InYears text) : sso.metadata.Survives := by
  obtain ⟨n, known, rfl⟩ := ofJson_eq_ok_iff.1 read
  obtain ⟨metadata, given, known⟩ := Shape.exists_first_of_read (by decide) ⟨rfl, rfl⟩ known
  exact ObjectMeta.survives_of_read known fun text gives => inYears text ⟨metadata, given, gives⟩

/-- **An SSO survives being written and read if its metadata do.**  Those of an SSO that was read from any value do,
with an object or a list at every level, if the points in time that are given there lie in the years 0 to 9999.  So what
was read and written is read as the same SSO, and written as the same value. -/
theorem read_written_same :
    (∀ sso : Sso, sso.metadata.Survives → Sso.ofJson sso.toJson = .ok sso) ∧
      ∀ (j : Json) (sso : Sso), Sso.ofJson j = .ok sso → (∀ text, GivesTime text j → Timestamp.InYears text) →
        Sso.ofJson sso.toJson = .ok sso :=
  ⟨fun _ survives => ofJson_toJson survives, fun _ _ read inYears => ofJson_toJson (metadata_survives read inYears)⟩

/-- An SSO with a field at every level that is there and one that is not. -/
def halfFilled : Sso where
  metadata :=
    { name := some "jenkins", generation := some 1, labels := some (.ofList [("release", "jx"), ("app", "ci")]) }
  spec :=
    { oidcIssuerUrl := "https://dex", upstreamService := "jenkins", proxyImage := "proxy", proxyImageTag := "v7",
      proxyResources := { requests := some { memory := some "1Gi" } }, cookieSpec := { secure := true } }
  status := some { initialized := true }

/-- An SSO as lists and objects, with fields missing, null, extra and out of order, and with points in time that are
not in their normal form. -/
def asGiven : Json :=
  .arr
    [.obj
        [("name", .str "jenkins"), ("extra", .float ⟨false, 1, -1⟩), ("labels", .null),
          ("creationTimestamp", .str "2024-01-01T00:30:00+01:00"),
          ("managedFields", .arr [.obj [("time", .str "2024-02-29 12:00:00.5Z"), ("extra", .bool true)]])],
      .obj
        [("proxyImageTag", .str "v7"), ("proxyImage", .str "proxy"), ("upstreamService", .str "jenkins"),
          ("extra", .arr []), ("oidcIssuerUrl", .str "https://dex"),
          ("proxyResources", .arr [.null, .obj [("memory", .str "1Gi")]])],
      .null]

theorem halfFilled_asGiven_read_written_same :
    (halfFilled.metadata.Survives ∧ Sso.ofJson halfFilled.toJson = .ok halfFilled) ∧
      ∃ sso : Sso, Sso.ofJson asGiven = .ok sso ∧
        sso.metadata.creationTimestamp = some "2023-12-31T23:30:00Z" ∧ sso.status = none ∧
          (∀ text, GivesTime text asGiven → Timestamp.InYears text) ∧ Sso.ofJson sso.toJson = .ok sso := by
  have survives : halfFilled.metadata.Survives := by rfl
  have read : (Sso.ofJson asGiven).map (fun sso => (sso.metadata.creationTimestamp, sso.status)) =
      .ok (some "2023-12-31T23:30:00Z", none) := by decide +kernel
  obtain ⟨sso, read, facts⟩ := Except.map_eq_ok_iff.1 read
  have inYears : ∀ text, GivesTime text asGiven → Timestamp.InYears text := by
    rintro text ⟨_, _ | _, gives⟩
    cases gives with
    | creation mem =>
      obtain rfl : text = "2024-01-01T00:30:00+01:00" := by simpa using mem
      exact Timestamp.inYears_of_parse (t := ⟨2023, 12, 31, 23, 30, 0⟩) rfl (by decide)
    | deletion mem => simp at mem
    | @management _ fields entries mem entry time =>
      obtain rfl : entries = [.obj [("time", .str "2024-02-29 12:00:00.5Z"), ("extra", .bool true)]] := by
        simpa using mem
      cases List.mem_singleton.1 entry
      obtain rfl : text = "2024-02-29 12:00:00.5Z" := by simpa using time
      exact Timestamp.inYears_of_parse (t := ⟨2024, 2, 29, 12, 0, 0⟩) rfl (by decide)
  exact ⟨⟨survives, read_written_same.1 halfFilled survives⟩, sso, read, (Prod.mk.inj facts).1, (Prod.mk.inj facts).2,
    inYears, read_written_same.2 asGiven sso read inYears⟩

end Sso
end SignOnOperator
