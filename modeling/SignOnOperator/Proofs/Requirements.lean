import Mathlib.Data.Nat.Digits.Defs
import SignOnOperator.Startup.Environment
/-!
# What the operator needs to start

The environment has to meet ten requirements, which are looked at in a fixed order: the port, the variables, and the
files that some of these name.  Each part of starting up looks at some of them (`Examined`), and so does the whole: it
comes to a configuration with the values that were given, or to a complaint about the first requirement that is not met
(`complete_environment_starts`).
-/
namespace SignOnOperator.Config

/-! ## Ports as texts -/

/-- Decimal digits, at least one, perhaps with a plus sign before them, that denote a number which is a port. -/
structure DenotesPort (text : String) (port : Nat) : Prop where
  written : ∃ sign digits, text.toList = sign ++ digits ∧ (sign = [] ∨ sign = ['+']) ∧ digits ≠ [] ∧
    (∀ c ∈ digits, c.isDigit = true) ∧ Nat.ofDigits 10 (digits.reverse.map fun c => c.toNat - '0'.toNat) = port
  small : port ≤ 65535

/-- The characters after a plus sign, if they begin with one. -/
def unsigned : List Char → List Char
  | '+' :: rest => rest
  | cs => cs

theorem exists_sign_unsigned (cs : List Char) : ∃ sign, (sign = [] ∨ sign = ['+']) ∧ cs = sign ++ unsigned cs := by
  unfold unsigned
  split
  · exact ⟨['+'], .inr rfl, rfl⟩
  · exact ⟨[], .inl rfl, rfl⟩

theorem unsigned_append {sign digits : List Char} (signs : sign = [] ∨ sign = ['+'])
    (ascii : ∀ c ∈ digits, c.isDigit = true) : unsigned (sign ++ digits) = digits := by
  rcases signs with rfl | rfl
  · -- The first of the digits is no sign.
    rw [List.nil_append]
    unfold unsigned
    split
    · cases ascii '+' List.mem_cons_self
    · rfl
  · rfl

/-- Reading from the left is reading by the place of each digit. -/
theorem foldl_eq_ofDigits (digits : List Char) :
    digits.foldl (fun n c => n * 10 + (c.toNat - '0'.toNat)) 0 =
      Nat.ofDigits 10 (digits.reverse.map fun c => c.toNat - '0'.toNat) := by
  rw [Nat.ofDigits_eq_foldr, List.foldr_map, List.foldl_eq_foldr_reverse]
  simp only [Nat.cast_id, Nat.add_comm, Nat.mul_comm]

theorem parsePort?_eq_some_iff {text : String} {port : Nat} :
    parsePort? text = some port ↔ DenotesPort text port := by
  have shape : parsePort? text =
      if (unsigned text.toList).isEmpty || !(unsigned text.toList).all Char.isDigit then none
      else if Nat.ofDigits 10 ((unsigned text.toList).reverse.map fun c => c.toNat - '0'.toNat) ≤ 65535 then
        some (Nat.ofDigits 10 ((unsigned text.toList).reverse.map fun c => c.toNat - '0'.toNat))
      else none := by
    rw [← foldl_eq_ofDigits]
    rfl
  rw [shape]
  constructor
  · intro read
    split at read
    · cases read
    rename_i digits
    split at read
    · rename_i small
      obtain rfl := Option.some.inj read
      obtain ⟨sign, signs, whole⟩ := exists_sign_unsigned text.toList
      have digits : unsigned text.toList ≠ [] ∧ ∀ c ∈ unsigned text.toList, c.isDigit = true := by
        simpa using digits
      exact ⟨⟨sign, _, whole, signs, digits.1, digits.2, rfl⟩, small⟩
    · cases read
  · rintro ⟨⟨sign, digits, whole, signs, ne_nil, ascii, rfl⟩, small⟩
    rw [whole, unsigned_append signs ascii, if_pos small, if_neg]
    simpa using ⟨ne_nil, ascii⟩

theorem DenotesPort.unique {text : String} {port port' : Nat} (denoted : DenotesPort text port)
    (denoted' : DenotesPort text port') : port = port' :=
  Option.some.inj ((parsePort?_eq_some_iff.2 denoted).symm.trans (parsePort?_eq_some_iff.2 denoted'))

instance (text : String) : Decidable (∃ port, DenotesPort text port) :=
  decidable_of_iff ((parsePort? text).isSome = true) <|
    Option.isSome_iff_exists.trans (exists_congr fun _ => parsePort?_eq_some_iff)

/-! ## Requirements -/

/-- Something that the environment has to provide: a port, if any, a variable, or the file that a variable names. -/
inductive Requirement where
  | port
  | given (name : String)
  | file (what name : String)
  deriving DecidableEq, Repr

namespace Requirement

/-- A port may be left out, but a variable has to be set to a text that is not empty. -/
def Met (env : Environment) (isFile : String → Bool) : Requirement → Prop
  | port => ∀ text ∈ env "HEALTH_PORT", ∃ n, DenotesPort text n
  | given name => ∃ value ∈ env name, value ≠ ""
  | file _ name => ∃ path ∈ env name, isFile path = true

instance (env : Environment) (isFile : String → Bool) : ∀ r : Requirement, Decidable (r.Met env isFile)
  | port => inferInstanceAs (Decidable (∀ text ∈ env "HEALTH_PORT", ∃ n, DenotesPort text n))
  | given name => inferInstanceAs (Decidable (∃ value ∈ env name, value ≠ ""))
  | file _ name => inferInstanceAs (Decidable (∃ path ∈ env name, isFile path = true))

/-- What is reported if the requirement is not met. -/
def complaint (env : Environment) : Requirement → Error
  | port =>
    let text := (env "HEALTH_PORT").getD ""
    .config s!"HEALTH_PORT '{text}' is not a port"
  | given name => .config s!"{name} must be set"
  | file what name =>
    let path := (env name).getD ""
    .config s!"Dex gRPC {what} '{path}' does not exist"

end Requirement

/-- What has to be set, in the order in which it is read. -/
def settingsNeeded : List Requirement :=
  [.port, .given "OPERATOR_NAMESPACE", .given "DEX_GRPC_HOST_PORT", .given "DEX_GRPC_CLIENT_CRT",
    .given "DEX_GRPC_CLIENT_KEY", .given "DEX_GRPC_CLIENT_CA", .given "CLUSTER_ROLE_NAME"]

/-- What has to be among the files, in the order in which it is looked for. -/
def filesNeeded : List Requirement :=
  [.file "client certificate" "DEX_GRPC_CLIENT_CRT", .file "client key" "DEX_GRPC_CLIENT_KEY",
    .file "CA certificate" "DEX_GRPC_CLIENT_CA"]

/-- What the operator needs, the settings before the files. -/
def requirements : List Requirement := settingsNeeded ++ filesNeeded

/-- The configuration has the values that the environment gives, and otherwise the usual ones. -/
structure Carries (config : Config) (env : Environment) : Prop where
  operatorNamespace : env "OPERATOR_NAMESPACE" = some config.operatorNamespace
  hostAndPort : env "DEX_GRPC_HOST_PORT" = some config.dex.hostAndPort
  clientCrt : env "DEX_GRPC_CLIENT_CRT" = some config.dex.clientCrt
  clientKey : env "DEX_GRPC_CLIENT_KEY" = some config.dex.clientKey
  clientCa : env "DEX_GRPC_CLIENT_CA" = some config.dex.clientCa
  clusterRoleName : env "CLUSTER_ROLE_NAME" = some config.clusterRoleName
  givenPort : ∀ text, env "HEALTH_PORT" = some text → DenotesPort text config.healthPort
  usualPort : env "HEALTH_PORT" = none → config.healthPort = 8080
  watchNamespace : ∀ ns, config.watchNamespace = some ns ↔ env "WATCH_NAMESPACE" = some ns ∧ ns ≠ ""
  timeouts : config.timeouts = .standard

/-! ## Looking at requirements one after another -/

def firstUnmet? (env : Environment) (isFile : String → Bool) (needs : List Requirement) : Option Requirement :=
  needs.find? fun r => ¬r.Met env isFile

/-- The result of looking at some requirements: a value that is as it should be, or the complaint about the first one
that is not met. -/
inductive Examined {α : Type} (env : Environment) (isFile : String → Bool) (needs : List Requirement)
    (good : α → Prop) : Except Error α → Prop
  | passed {a : α} (met : firstUnmet? env isFile needs = none) (isGood : good a) :
    Examined env isFile needs good (.ok a)
  | failed {r : Requirement} (first : firstUnmet? env isFile needs = some r) :
    Examined env isFile needs good (.error (r.complaint env))

variable {α β : Type} {env : Environment} {isFile : String → Bool} {needs needs' : List Requirement}

theorem firstUnmet?_eq_none_iff : firstUnmet? env isFile needs = none ↔ ∀ r ∈ needs, r.Met env isFile := by
  simp [firstUnmet?, List.find?_eq_none]

theorem firstUnmet?_eq_some_iff {r : Requirement} : firstUnmet? env isFile needs = some r ↔
    ∃ before after, needs = before ++ r :: after ∧ (∀ q ∈ before, q.Met env isFile) ∧ ¬r.Met env isFile := by
  rw [firstUnmet?, List.find?_eq_some_iff_append]
  simp only [decide_not, Bool.not_eq_true', decide_eq_false_iff_not, Bool.not_not, decide_eq_true_eq]
  exact ⟨fun ⟨unmet, before, after, split, met⟩ => ⟨before, after, split, met, unmet⟩,
    fun ⟨before, after, split, met, unmet⟩ => ⟨unmet, before, after, split, met⟩⟩

theorem firstUnmet?_append :
    firstUnmet? env isFile (needs ++ needs') = (firstUnmet? env isFile needs).or (firstUnmet? env isFile needs') :=
  List.find?_append

namespace Examined

variable {good : α → Prop} {good' : β → Prop} {x : Except Error α}

theorem pure {a : α} (isGood : good a) : Examined env isFile [] good (.ok a) := .passed rfl isGood

/-- One requirement that decides the result. -/
theorem single {r : Requirement} (met : r.Met env isFile → ∃ a, x = .ok a ∧ good a)
    (unmet : ¬r.Met env isFile → x = .error (r.complaint env)) : Examined env isFile [r] good x := by
  by_cases h : r.Met env isFile
  · obtain ⟨a, rfl, isGood⟩ := met h
    exact .passed (firstUnmet?_eq_none_iff.2 (List.forall_mem_singleton.2 h)) isGood
  · rw [unmet h]
    exact .failed (List.find?_cons_of_pos (decide_eq_true h))

/-- What goes on with a value looks at its requirements after those of the value. -/
theorem bind {f : α → Except Error β} (first : Examined env isFile needs good x)
    (later : ∀ a, good a → Examined env isFile needs' good' (f a)) :
    Examined env isFile (needs ++ needs') good' (x >>= f) := by
  cases first with
  | @passed a met isGood =>
    have rest : Examined env isFile needs' good' (f a) := later a isGood
    have sameFirst : firstUnmet? env isFile (needs ++ needs') = firstUnmet? env isFile needs' := by
      rw [firstUnmet?_append, met, Option.none_or]
    change Examined env isFile (needs ++ needs') good' (f a)
    generalize f a = y at rest ⊢
    cases rest with
    | passed met' isGood' => exact .passed (sameFirst.trans met') isGood'
    | failed first' => exact .failed (sameFirst.trans first')
  | failed first =>
    refine .failed ?_
    rw [firstUnmet?_append, first, Option.some_or]

end Examined

/-! ## The parts of starting up -/

theorem healthPortOf_examined :
    Examined env isFile [.port]
      (fun n => (∀ text, env "HEALTH_PORT" = some text → DenotesPort text n) ∧ (env "HEALTH_PORT" = none → n = 8080))
      (healthPortOf env) := by
  unfold healthPortOf
  cases given : env "HEALTH_PORT" with
  | none =>
    have met : Requirement.port.Met env isFile := fun text set => nomatch given.symm.trans set
    exact .single (fun _ => ⟨8080, rfl, nofun, fun _ => rfl⟩) fun unmet => absurd met unmet
  | some text =>
    dsimp only
    cases read : parsePort? text with
    | some n =>
      have denoted := parsePort?_eq_some_iff.1 read
      have met : Requirement.port.Met env isFile := fun text' given' =>
        ⟨n, Option.some.inj (given.symm.trans given') ▸ denoted⟩
      refine .single (fun _ => ⟨n, rfl, fun text' same => ?_, nofun⟩) fun unmet => absurd met unmet
      exact Option.some.inj same ▸ denoted
    | none =>
      refine .single (fun met => ?_) fun _ => ?_
      · obtain ⟨n, denoted⟩ := met text given
        cases read.symm.trans (parsePort?_eq_some_iff.2 denoted)
      · simp only [Requirement.complaint, given, Option.getD_some]

theorem requiredVariable_examined (name : String) :
    Examined env isFile [.given name] (fun value => env name = some value) (requiredVariable env name) := by
  unfold requiredVariable
  refine .single (fun ⟨value, given, ne⟩ => ⟨value, ?_, given⟩) fun unmet => ?_
  · rw [given]
    exact if_neg ne
  · cases given : env name with
    | none => rfl
    | some value =>
      have empty : value = "" := Classical.byContradiction fun ne => unmet ⟨value, given, ne⟩
      exact if_pos empty

theorem checkFile_examined {name path : String} (what : String) (named : env name = some path) :
    Examined env isFile [.file what name] (fun _ => True) (checkFile isFile what path) := by
  unfold checkFile
  refine .single (fun ⟨path', named', there⟩ => ⟨(), ?_, trivial⟩) fun unmet => ?_
  · obtain rfl := Option.some.inj (named.symm.trans named')
    exact if_pos there
  · rw [if_neg fun there => unmet ⟨path, named, there⟩]
    simp only [Requirement.complaint, named, Option.getD_some]

theorem ofEnvironment_examined :
    Examined env isFile settingsNeeded (fun config => config.Carries env) (ofEnvironment env) := by
  refine healthPortOf_examined.bind fun healthPort ⟨givenPort, usualPort⟩ => ?_
  refine (requiredVariable_examined "OPERATOR_NAMESPACE").bind fun operatorNamespace hns => ?_
  refine (requiredVariable_examined "DEX_GRPC_HOST_PORT").bind fun hostAndPort hhost => ?_
  refine (requiredVariable_examined "DEX_GRPC_CLIENT_CRT").bind fun clientCrt hcrt => ?_
  refine (requiredVariable_examined "DEX_GRPC_CLIENT_KEY").bind fun clientKey hkey => ?_
  refine (requiredVariable_examined "DEX_GRPC_CLIENT_CA").bind fun clientCa hca => ?_
  refine (requiredVariable_examined "CLUSTER_ROLE_NAME").bind fun clusterRoleName hrole => .pure ?_
  exact {
    operatorNamespace := hns, hostAndPort := hhost, clientCrt := hcrt, clientKey := hkey, clientCa := hca
    clusterRoleName := hrole, givenPort, usualPort, timeouts := rfl
    watchNamespace := fun ns => by simp [Option.filter_eq_some_iff] }

theorem validate_examined {config : Config} (carries : config.Carries env) :
    Examined env isFile filesNeeded (fun _ => True) (config.validate isFile) :=
  (checkFile_examined _ carries.clientCrt).bind fun _ _ =>
    (checkFile_examined _ carries.clientKey).bind fun _ _ => checkFile_examined _ carries.clientCa

theorem load_examined (env : Environment) (isFile : String → Bool) :
    Examined env isFile requirements (fun config => config.Carries env) (load env isFile) := by
  refine ofEnvironment_examined.bind fun config carries => ?_
  have checked : Examined env isFile (filesNeeded ++ []) (fun config => config.Carries env)
      (config.validate isFile >>= fun _ => .ok config) := (validate_examined carries).bind fun _ _ => .pure carries
  rwa [List.append_nil] at checked

theorem Carries.unique {config config' : Config} (carries : config.Carries env) (carries' : config'.Carries env) :
    config = config' := by
  have same {name value value' : String} (given : env name = some value) (given' : env name = some value') :
      value = value' := Option.some.inj (given.symm.trans given')
  have port : config.healthPort = config'.healthPort := by
    cases given : env "HEALTH_PORT" with
    | none => rw [carries.usualPort given, carries'.usualPort given]
    | some text => exact (carries.givenPort text given).unique (carries'.givenPort text given)
  have watch : config.watchNamespace = config'.watchNamespace :=
    Option.ext fun ns => (carries.watchNamespace ns).trans (carries'.watchNamespace ns).symm
  have timeouts : config.timeouts = config'.timeouts := carries.timeouts.trans carries'.timeouts.symm
  obtain ⟨ns, watched, ⟨host, crt, key, ca⟩, role, n, limits⟩ := config
  obtain ⟨ns', watched', ⟨host', crt', key', ca'⟩, role', n', limits'⟩ := config'
  simp only [mk.injEq, DexConfig.mk.injEq]
  exact ⟨same carries.operatorNamespace carries'.operatorNamespace, watch,
    ⟨same carries.hostAndPort carries'.hostAndPort, same carries.clientCrt carries'.clientCrt,
      same carries.clientKey carries'.clientKey, same carries.clientCa carries'.clientCa⟩,
    same carries.clusterRoleName carries'.clusterRoleName, port, timeouts⟩

/-- **Exactly a complete environment lets the operator start.**  It gets a configuration if all requirements are met,
and this is the one with the values that the environment gives.  Otherwise it fails with the complaint about the first
requirement that is not met. -/
theorem complete_environment_starts (env : Environment) (isFile : String → Bool) :
    ((∃ config, load env isFile = .ok config) ↔ ∀ r ∈ requirements, r.Met env isFile) ∧
      (∀ config, load env isFile = .ok config ↔ (∀ r ∈ requirements, r.Met env isFile) ∧ config.Carries env) ∧
      ∀ e, load env isFile = .error e ↔ ∃ before r after, requirements = before ++ r :: after ∧
        (∀ q ∈ before, q.Met env isFile) ∧ ¬r.Met env isFile ∧ e = r.complaint env := by
  have examined := load_examined env isFile
  generalize load env isFile = result at examined ⊢
  cases examined with
  | @passed config none carries =>
    have met := firstUnmet?_eq_none_iff.1 none
    refine ⟨⟨fun _ => met, fun _ => ⟨config, rfl⟩⟩, fun config' => ⟨?_, ?_⟩, fun e => ⟨nofun, ?_⟩⟩
    · rintro ⟨⟩
      exact ⟨met, carries⟩
    · rintro ⟨-, carries'⟩
      exact congrArg _ (carries.unique carries')
    · rintro ⟨before, r, after, split, -, unmet, -⟩
      exact absurd (met r (split ▸ List.mem_append_right before List.mem_cons_self)) unmet
  | @failed r first =>
    have incomplete : ¬∀ r ∈ requirements, r.Met env isFile := fun met =>
      nomatch first.symm.trans (firstUnmet?_eq_none_iff.2 met)
    refine ⟨⟨nofun, fun met => absurd met incomplete⟩, fun config => ⟨nofun, fun ⟨met, _⟩ => absurd met incomplete⟩,
      fun e => ⟨?_, ?_⟩⟩
    · rintro ⟨⟩
      obtain ⟨before, after, split, met, unmet⟩ := firstUnmet?_eq_some_iff.1 first
      exact ⟨before, r, after, split, met, unmet, rfl⟩
    · rintro ⟨before, r', after, split, met, unmet, rfl⟩
      have first' := firstUnmet?_eq_some_iff.2 ⟨before, after, split, met, unmet⟩
      rw [Option.some.inj (first.symm.trans first')]

/-! ### An environment with one file missing, and then with all of them -/

def sampleEnvironment : Environment
  | "HEALTH_PORT" => some "+0080"
  | "OPERATOR_NAMESPACE" => some "jx"
  | "DEX_GRPC_HOST_PORT" => some "dex.jx:5557"
  | "DEX_GRPC_CLIENT_CRT" => some "tls.crt"
  | "DEX_GRPC_CLIENT_KEY" => some "tls.key"
  | "DEX_GRPC_CLIENT_CA" => some "ca.crt"
  | "CLUSTER_ROLE_NAME" => some "role"
  | _ => none

theorem sample_starts :
    load sampleEnvironment (["tls.crt", "ca.crt"].contains ·) =
        .error (.config "Dex gRPC client key 'tls.key' does not exist") ∧
      ∃ config, load sampleEnvironment (["tls.crt", "tls.key", "ca.crt"].contains ·) = .ok config ∧
        config.healthPort = 80 ∧ config.watchNamespace = none := by
  obtain ⟨-, -, refused⟩ := complete_environment_starts sampleEnvironment (["tls.crt", "ca.crt"].contains ·)
  obtain ⟨complete, carried, -⟩ :=
    complete_environment_starts sampleEnvironment (["tls.crt", "tls.key", "ca.crt"].contains ·)
  obtain ⟨config, started⟩ := complete.2 (by decide)
  obtain ⟨-, carries⟩ := (carried config).1 started
  have port : DenotesPort "+0080" 80 := parsePort?_eq_some_iff.1 (by decide)
  refine ⟨(refused _).2 ⟨requirements.take 8, .file "client key" "DEX_GRPC_CLIENT_KEY", requirements.drop 9, rfl,
    by decide, by decide, rfl⟩, config, started, (carries.givenPort _ rfl).unique port, ?_⟩
  exact Option.eq_none_iff_forall_not_mem.2 fun ns mem => nomatch ((carries.watchNamespace ns).1 mem).1

end SignOnOperator.Config
