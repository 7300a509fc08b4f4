import SspOperator.Meta

/-
  The TLS settings derived from `spec.tlsSecurityProfile` of the SSP
  (`internal/common/crypto_policy.go`), and the three places that use them: the
  operator's own servers (`getConfigForClient` in `main.go`), the template validator
  (`NewSSPTLSOptions`, written to its ConfigMap and read back by
  `TLSInfo.updateTLSOptions`), and the vm-console-proxy (`createTlsConfigFile`).

  Profile types and protocol versions are Go strings; `TLSSecurityProfile.Admitted` is
  what the CRD schema lets through (the enum values, or nothing). The predefined
  profiles are `ocpv1.TLSProfiles` as vendored, and a map lookup of any other type is
  a nil `*TLSProfileSpec`.

  Two tables stay parameters: the OpenSSL-to-IANA cipher name map of library-go,
  which is only looked up, and `tls.CipherSuites()`, whose entries depend on the Go
  toolchain.

  The three paths do not agree on every admitted profile. With `type: Custom` and no
  `custom` block, the operator's servers and the validator's options dereference a
  nil pointer while the console proxy returns an error
  (`custom_profile_without_spec_panics`). On the well-formed profiles (a predefined
  type with no custom block, or `Custom` with a block naming a version) all three
  yield the same minimum version and cipher suites (`tls_paths_agree`).
-/

namespace SspOperator.Common

/-! ## Profiles -/

/-- `ocpv1.TLSProfileCustomType`. -/
def TLSProfileCustomType : String := "Custom"

/-- `ocpv1.TLSProfileSpec`. -/
structure TLSProfileSpec where
  ciphers : List String := []
  minTLSVersion : String := ""
deriving DecidableEq

/-- `ocpv1.TLSSecurityProfile`. The `old`, `intermediate` and `modern` blocks carry no
    data and no code reads them. -/
structure TLSSecurityProfile where
  type : String := ""
  custom : Option TLSProfileSpec := none
deriving DecidableEq

/-- The values of `ocpv1.TLSProtocolVersion`. -/
def tlsProtocolVersions : List String :=
  ["VersionTLS10", "VersionTLS11", "VersionTLS12", "VersionTLS13"]

/-- What the SSP CRD schema admits: `type` and the custom `minTLSVersion` are one of
    their enum values, or unset. -/
def TLSSecurityProfile.Admitted (p : TLSSecurityProfile) : Prop :=
  p.type ∈ ["", "Old", "Intermediate", "Modern", "Custom"] ∧
    ∀ s, p.custom = some s → s.minTLSVersion ∈ "" :: tlsProtocolVersions

instance (p : TLSSecurityProfile) : Decidable p.Admitted := by
  unfold TLSSecurityProfile.Admitted
  cases p.custom <;> infer_instance

/-- `ocpv1.TLSProfiles`: the predefined profiles; any other type maps to nil. -/
def TLSProfiles : String → Option TLSProfileSpec
  | "Old" => some
      { ciphers := ["TLS_AES_128_GCM_SHA256", "TLS_AES_256_GCM_SHA384",
          "TLS_CHACHA20_POLY1305_SHA256", "ECDHE-ECDSA-AES128-GCM-SHA256",
          "ECDHE-RSA-AES128-GCM-SHA256", "ECDHE-ECDSA-AES256-GCM-SHA384",
          "ECDHE-RSA-AES256-GCM-SHA384", "ECDHE-ECDSA-CHACHA20-POLY1305",
          "ECDHE-RSA-CHACHA20-POLY1305", "DHE-RSA-AES128-GCM-SHA256",
          "DHE-RSA-AES256-GCM-SHA384", "DHE-RSA-CHACHA20-POLY1305",
          "ECDHE-ECDSA-AES128-SHA256", "ECDHE-RSA-AES128-SHA256", "ECDHE-ECDSA-AES128-SHA",
          "ECDHE-RSA-AES128-SHA", "ECDHE-ECDSA-AES256-SHA384", "ECDHE-RSA-AES256-SHA384",
          "ECDHE-ECDSA-AES256-SHA", "ECDHE-RSA-AES256-SHA", "DHE-RSA-AES128-SHA256",
          "DHE-RSA-AES256-SHA256", "AES128-GCM-SHA256", "AES256-GCM-SHA384", "AES128-SHA256",
          "AES256-SHA256", "AES128-SHA", "AES256-SHA", "DES-CBC3-SHA"]
        minTLSVersion := "VersionTLS10" }
  | "Intermediate" => some
      { ciphers := ["TLS_AES_128_GCM_SHA256", "TLS_AES_256_GCM_SHA384",
          "TLS_CHACHA20_POLY1305_SHA256", "ECDHE-ECDSA-AES128-GCM-SHA256",
          "ECDHE-RSA-AES128-GCM-SHA256", "ECDHE-ECDSA-AES256-GCM-SHA384",
          "ECDHE-RSA-AES256-GCM-SHA384", "ECDHE-ECDSA-CHACHA20-POLY1305",
          "ECDHE-RSA-CHACHA20-POLY1305", "DHE-RSA-AES128-GCM-SHA256",
          "DHE-RSA-AES256-GCM-SHA384"]
        minTLSVersion := "VersionTLS12" }
  | "Modern" => some
      { ciphers := ["TLS_AES_128_GCM_SHA256", "TLS_AES_256_GCM_SHA384",
          "TLS_CHACHA20_POLY1305_SHA256"]
        minTLSVersion := "VersionTLS13" }
  | _ => none

/-! ## Versions and cipher suites -/

/-- `tls.VersionTLS10` to `tls.VersionTLS13`. -/
def VersionTLS10 : UInt16 := 0x0301
def VersionTLS11 : UInt16 := 0x0302
def VersionTLS12 : UInt16 := 0x0303
def VersionTLS13 : UInt16 := 0x0304

/-- library-go's `versions` table. -/
def versions : String → Option UInt16
  | "VersionTLS10" => some VersionTLS10
  | "VersionTLS11" => some VersionTLS11
  | "VersionTLS12" => some VersionTLS12
  | "VersionTLS13" => some VersionTLS13
  | _ => none

/-- `crypto.DefaultTLSVersion`. -/
def DefaultTLSVersion : UInt16 := VersionTLS12

/-- `crypto.TLSVersion`: an empty name is the default version. -/
def TLSVersion (versionName : String) : Except String UInt16 :=
  if versionName.length = 0 then .ok DefaultTLSVersion
  else
    match versions versionName with
    | some version => .ok version
    | none => .error ("unknown tls version \"" ++ versionName ++ "\"")

/-- An entry of `tls.CipherSuites()`. -/
structure CipherSuite where
  id : UInt16
  name : String

section ciphers

variable (openSSLToIANACiphersMap : String → Option String) (cipherSuites : List CipherSuite)

/-- `crypto.OpenSSLToIANACipherSuites`: names the map does not know are dropped. -/
def OpenSSLToIANACipherSuites (ciphers : List String) : List String :=
  ciphers.filterMap openSSLToIANACiphersMap

/-- `GetKnownCipherId`: the first suite of that name. -/
def GetKnownCipherId (IANACipherName : String) : Option UInt16 :=
  (cipherSuites.find? fun knownCipher => knownCipher.name = IANACipherName).map (·.id)

/-- `CipherIDs`: the ids of the known suites among the translated names. -/
def CipherIDs (names : List String) : List UInt16 :=
  (OpenSSLToIANACipherSuites openSSLToIANACiphersMap names).filterMap
    (GetKnownCipherId cipherSuites)

end ciphers

/-! ## The validator's options -/

/-- `SSPTLSOptions`, the JSON the operator writes to the validator's ConfigMap. -/
structure SSPTLSOptions where
  minTLSVersion : String := ""
  openSSLCipherNames : List String := []
deriving DecidableEq

/-- `SSPTLSOptions.IsEmpty`. -/
def SSPTLSOptions.isEmpty (s : SSPTLSOptions) : Bool :=
  s.openSSLCipherNames.length = 0 && s.minTLSVersion = ""

/-- `SSPTLSOptions.MinTLSVersionId`: an empty version is TLS 1.0. -/
def SSPTLSOptions.minTLSVersionId (s : SSPTLSOptions) : Except String UInt16 :=
  match s.minTLSVersion with
  | "" => .ok VersionTLS10
  | "1.0" => .ok VersionTLS10
  | "1.1" => .ok VersionTLS11
  | "1.2" => .ok VersionTLS12
  | "1.3" => .ok VersionTLS13
  | v => .error ("invalid TLSMinVersion " ++ v ++ ": expects 1.0, 1.1, 1.2, 1.3 or empty")

/-- `selectCipherSuitesAndMinTLSVersion`: a custom block wins whatever the type;
    otherwise the predefined profile of the type, dereferenced unchecked. -/
def selectCipherSuitesAndMinTLSVersion :
    Option TLSSecurityProfile → Except Fault (List String × String)
  | none => .ok ([], "")
  | some profile =>
      match profile.custom with
      | some custom => .ok (custom.ciphers, custom.minTLSVersion)
      | none => do
          let tlsProfileSpec ← deref (TLSProfiles profile.type)
          pure (tlsProfileSpec.ciphers, tlsProfileSpec.minTLSVersion)

/-- `tlsVersionToHumanReadable`. -/
def tlsVersionToHumanReadable (version : String) : Except String String :=
  match version with
  | "" => .ok ""
  | "VersionTLS10" => .ok "1.0"
  | "VersionTLS11" => .ok "1.1"
  | "VersionTLS12" => .ok "1.2"
  | "VersionTLS13" => .ok "1.3"
  | v => .error ("invalid ocpv1.VersionTLS " ++ v)

/-- `NewSSPTLSOptions`. -/
def NewSSPTLSOptions (tlsSecurityProfile : Option TLSSecurityProfile) :
    Except Fault SSPTLSOptions := do
  let (ciphers, tlsProfile) ← selectCipherSuitesAndMinTLSVersion tlsSecurityProfile
  let minVersion ← (tlsVersionToHumanReadable tlsProfile).mapError Fault.error
  pure { minTLSVersion := minVersion, openSSLCipherNames := ciphers }

/-- The TLS fields of the validator's `TLSInfo`; a zero version and no suites mean
    Go's defaults. -/
structure TLSInfo where
  minTLSVersion : UInt16
  cipherSuites : List UInt16
  tlsOptionsError : Option String

section paths

variable (openSSLToIANACiphersMap : String → Option String) (cipherSuites : List CipherSuite)

/-- `TLSInfo.updateTLSOptions`, on what `loadTLSOptions` read from the mounted
    ConfigMap; it overwrites all three fields. -/
def updateTLSOptions (loaded : Except String SSPTLSOptions) : TLSInfo :=
  match loaded with
  | .error err => { minTLSVersion := 0, cipherSuites := [], tlsOptionsError := some err }
  | .ok tlsOptions =>
      if tlsOptions.isEmpty then { minTLSVersion := 0, cipherSuites := [], tlsOptionsError := none }
      else
        match tlsOptions.minTLSVersionId with
        | .error err =>
            { minTLSVersion := 0, cipherSuites := []
              tlsOptionsError := some ("TLS Configuration broken, min version misconfigured: " ++ err) }
        | .ok minVersion =>
            { minTLSVersion := minVersion
              cipherSuites := CipherIDs openSSLToIANACiphersMap cipherSuites tlsOptions.openSSLCipherNames
              tlsOptionsError := none }

/-- The validator's settings for a profile: the operator computes the options in
    `reconcileConfigMap` (a failure stops the reconcile), and the validator loads
    them back. `encoding/json` gives back the struct of strings it encoded. -/
def validatorTLSInfo (tlsSecurityProfile : Option TLSSecurityProfile) : Except Fault TLSInfo := do
  let options ← NewSSPTLSOptions tlsSecurityProfile
  pure (updateTLSOptions openSSLToIANACiphersMap cipherSuites (.ok options))

/-- The two fields of `tls.Config` that `getConfigForClient` sets. -/
structure TLSConfig where
  minVersion : UInt16
  cipherSuites : List UInt16

/-- `getConfigForClient`, on the result of listing the SSPs (their profiles). -/
def getConfigForClient (sspList : Except String (List (Option TLSSecurityProfile))) :
    Except Fault TLSConfig := do
  let items ← sspList.mapError Fault.error
  match items.head? with
  | none | some none => pure { minVersion := DefaultTLSVersion, cipherSuites := [] }
  | some (some tlsProfile) =>
      if tlsProfile.type = TLSProfileCustomType then do
        let custom ← deref tlsProfile.custom
        let minVersion ← (TLSVersion custom.minTLSVersion).mapError Fault.error
        pure { minVersion := minVersion
               cipherSuites := CipherIDs openSSLToIANACiphersMap cipherSuites custom.ciphers }
      else do
        let spec ← deref (TLSProfiles tlsProfile.type)
        let minVersion ← (TLSVersion spec.minTLSVersion).mapError Fault.error
        pure { minVersion := minVersion
               cipherSuites := CipherIDs openSSLToIANACiphersMap cipherSuites spec.ciphers }

/-- `proxyv1.TlsProfile`, which `createTlsConfigFile` writes as YAML. -/
structure TlsProfile where
  ciphers : List String := []
  minTLSVersion : String := ""
deriving DecidableEq

/-- `createTlsConfigFile`; `none` is the empty configuration `{}`. -/
def createTlsConfigFile (tlsProfile : Option TLSSecurityProfile) :
    Except String (Option TlsProfile) :=
  match tlsProfile with
  | none => .ok none
  | some tlsProfile => do
      let profileSpec ←
        if tlsProfile.type = TLSProfileCustomType then
          match tlsProfile.custom with
          | none => .error "tlsProfile is invalid: custom filed is empty"
          | some custom => pure custom
        else
          match TLSProfiles tlsProfile.type with
          | none => .error ("tlsProfile type is invalid: " ++ tlsProfile.type)
          | some predefinedProfile => pure predefinedProfile
      let minTLSVersion ←
        if profileSpec.minTLSVersion ∈ tlsProtocolVersions then pure profileSpec.minTLSVersion
        else .error ("unsupported TLS version: " ++ profileSpec.minTLSVersion)
      let secureCiphers := cipherSuites.map (·.name)
      pure (some
        { minTLSVersion := minTLSVersion
          ciphers := (OpenSSLToIANACipherSuites openSSLToIANACiphersMap profileSpec.ciphers).filter
            (· ∈ secureCiphers) })

end paths

/-! ## Where the paths part -/

/-- `tlsSecurityProfile: \x7btype: Custom\x7d`, with no custom block. -/
def customProfileWithoutSpec : TLSSecurityProfile :=
  { type := TLSProfileCustomType }

theorem custom_profile_without_spec_panics
    (openSSLToIANACiphersMap : String → Option String) (cipherSuites : List CipherSuite) :
    customProfileWithoutSpec.Admitted ∧
    getConfigForClient openSSLToIANACiphersMap cipherSuites (.ok [some customProfileWithoutSpec]) =
      .error nilDereference ∧
    validatorTLSInfo openSSLToIANACiphersMap cipherSuites (some customProfileWithoutSpec) =
      .error nilDereference ∧
    createTlsConfigFile openSSLToIANACiphersMap cipherSuites (some customProfileWithoutSpec) =
      .error "tlsProfile is invalid: custom filed is empty" := by
  refine ⟨by decide, rfl, rfl, rfl⟩

/-! ## Where the paths agree -/

/-- The profiles the three paths read the same way, and the spec each stands for: a
    predefined type with no custom block, or `Custom` with a block naming a version. -/
inductive TLSSecurityProfile.Selects : TLSSecurityProfile → TLSProfileSpec → Prop
  | predefined {p : TLSSecurityProfile} {spec : TLSProfileSpec} :
      p.custom = none → TLSProfiles p.type = some spec → p.Selects spec
  | custom {p : TLSSecurityProfile} {spec : TLSProfileSpec} :
      p.type = TLSProfileCustomType → p.custom = some spec →
        spec.minTLSVersion ∈ tlsProtocolVersions → p.Selects spec

/-- Every predefined profile names one of the four versions. -/
theorem TLSProfiles_minTLSVersion_mem {type : String} {spec : TLSProfileSpec}
    (h : TLSProfiles type = some spec) : spec.minTLSVersion ∈ tlsProtocolVersions := by
  unfold TLSProfiles at h
  split at h <;> simp only [Option.some.injEq, reduceCtorEq] at h <;> subst h <;> decide

theorem TLSProfiles_custom : TLSProfiles TLSProfileCustomType = none := rfl

namespace TLSSecurityProfile.Selects

variable {p : TLSSecurityProfile} {spec : TLSProfileSpec}

theorem version_mem (h : p.Selects spec) : spec.minTLSVersion ∈ tlsProtocolVersions := by
  cases h with
  | predefined _ hspec => exact TLSProfiles_minTLSVersion_mem hspec
  | custom _ _ hmem => exact hmem

/-- The spec is the custom block for type `Custom` and the predefined profile for any
    other type, as `getConfigForClient` and `createTlsConfigFile` read it. -/
theorem byType (h : p.Selects spec) :
    (p.type = TLSProfileCustomType ∧ p.custom = some spec) ∨
      (p.type ≠ TLSProfileCustomType ∧ TLSProfiles p.type = some spec) := by
  cases h with
  | predefined _ hspec =>
      refine Or.inr ⟨?_, hspec⟩
      intro htype
      rw [htype, TLSProfiles_custom] at hspec
      cases hspec
  | custom htype hcustom _ => exact Or.inl ⟨htype, hcustom⟩

/-- `selectCipherSuitesAndMinTLSVersion` prefers the custom block, which agrees here. -/
theorem select (h : p.Selects spec) :
    selectCipherSuitesAndMinTLSVersion (some p) = .ok (spec.ciphers, spec.minTLSVersion) := by
  cases h with
  | predefined hnone hspec => simp [selectCipherSuitesAndMinTLSVersion, hnone, hspec, deref]
  | custom _ hcustom _ => simp [selectCipherSuitesAndMinTLSVersion, hcustom]

end TLSSecurityProfile.Selects

/-- A named version has the same id in library-go's table and, through its short
    name, in `MinTLSVersionId`. -/
theorem exists_version_of_mem {v : String} (h : v ∈ tlsProtocolVersions) :
    ∃ version human, TLSVersion v = .ok version ∧ versions v = some version ∧
      tlsVersionToHumanReadable v = .ok human ∧ human ≠ "" ∧
      ∀ s : SSPTLSOptions, s.minTLSVersion = human → s.minTLSVersionId = .ok version := by
  simp only [tlsProtocolVersions, List.mem_cons, List.not_mem_nil, or_false] at h
  rcases h with rfl | rfl | rfl | rfl
  all_goals
    refine ⟨_, _, rfl, rfl, rfl, by decide, fun s hs => ?_⟩
    simp [SSPTLSOptions.minTLSVersionId, hs]

section agree

variable (openSSLToIANACiphersMap : String → Option String) (cipherSuites : List CipherSuite)

/-- A name that is no suite's has no id. -/
theorem GetKnownCipherId_eq_none {name : String}
    (h : name ∉ cipherSuites.map (·.name)) : GetKnownCipherId cipherSuites name = none := by
  rw [GetKnownCipherId, Option.map_eq_none_iff, List.find?_eq_none]
  intro c hc heq
  exact h (List.mem_map.mpr ⟨c, hc, by simpa using heq⟩)

/-- Keeping the names of known suites loses no id: the proxy's names and the
    servers' ids are the same suites. -/
theorem filterMap_GetKnownCipherId_filter (names : List String) :
    (names.filter (· ∈ cipherSuites.map (·.name))).filterMap (GetKnownCipherId cipherSuites) =
      names.filterMap (GetKnownCipherId cipherSuites) := by
  induction names with
  | nil => rfl
  | cons name names ih =>
      by_cases hname : name ∈ cipherSuites.map (·.name)
      · simp only [List.filter_cons, hname, decide_true, ↓reduceIte, List.filterMap_cons, ih]
      · simp only [List.filter_cons, hname, decide_false, Bool.false_eq_true, ↓reduceIte, ih,
          List.filterMap_cons, GetKnownCipherId_eq_none cipherSuites hname]

variable {p : TLSSecurityProfile} {spec : TLSProfileSpec}

/-- The operator's servers on a profile that selects `spec`. -/
theorem getConfigForClient_of_selects (h : p.Selects spec) {version : UInt16}
    (hversion : TLSVersion spec.minTLSVersion = .ok version) :
    getConfigForClient openSSLToIANACiphersMap cipherSuites (.ok [some p]) =
      .ok { minVersion := version
            cipherSuites := CipherIDs openSSLToIANACiphersMap cipherSuites spec.ciphers } := by
  rcases h.byType with ⟨htype, hcustom⟩ | ⟨htype, hspec⟩
  · simp [getConfigForClient, htype, hcustom, deref, hversion]
  · simp [getConfigForClient, htype, hspec, deref, hversion]

/-- The validator on a profile that selects `spec`, given the short name of its version. -/
theorem validatorTLSInfo_of_selects (h : p.Selects spec) {version : UInt16} {human : String}
    (hhuman : tlsVersionToHumanReadable spec.minTLSVersion = .ok human) (hne : human ≠ "")
    (hid : ∀ s : SSPTLSOptions, s.minTLSVersion = human → s.minTLSVersionId = .ok version) :
    validatorTLSInfo openSSLToIANACiphersMap cipherSuites (some p) =
      .ok { minTLSVersion := version
            cipherSuites := CipherIDs openSSLToIANACiphersMap cipherSuites spec.ciphers
            tlsOptionsError := none } := by
  -- the options carry a version, so they are not the empty, default ones
  have hempty :
      ({ minTLSVersion := human, openSSLCipherNames := spec.ciphers } : SSPTLSOptions).isEmpty =
        false := by
    simp [SSPTLSOptions.isEmpty, hne]
  have hver := hid { minTLSVersion := human, openSSLCipherNames := spec.ciphers } rfl
  simp [validatorTLSInfo, NewSSPTLSOptions, h.select, hhuman, updateTLSOptions, hempty, hver]

/-- The console proxy on a profile that selects `spec`. -/
theorem createTlsConfigFile_of_selects (h : p.Selects spec) :
    createTlsConfigFile openSSLToIANACiphersMap cipherSuites (some p) =
      .ok (some
        { minTLSVersion := spec.minTLSVersion
          ciphers := (OpenSSLToIANACipherSuites openSSLToIANACiphersMap spec.ciphers).filter
            (· ∈ cipherSuites.map (·.name)) }) := by
  have hmem := h.version_mem
  rcases h.byType with ⟨htype, hcustom⟩ | ⟨htype, hspec⟩
  · simp [createTlsConfigFile, htype, hcustom, hmem]
  · simp [createTlsConfigFile, htype, hspec, hmem]

/-- On a well-formed profile the operator's servers, the template validator and the
    console proxy settle on one minimum version and one list of cipher suites. -/
theorem tls_paths_agree (h : p.Selects spec) :
    ∃ version, TLSVersion spec.minTLSVersion = .ok version ∧
      getConfigForClient openSSLToIANACiphersMap cipherSuites (.ok [some p]) =
        .ok { minVersion := version
              cipherSuites := CipherIDs openSSLToIANACiphersMap cipherSuites spec.ciphers } ∧
      validatorTLSInfo openSSLToIANACiphersMap cipherSuites (some p) =
        .ok { minTLSVersion := version
              cipherSuites := CipherIDs openSSLToIANACiphersMap cipherSuites spec.ciphers
              tlsOptionsError := none } ∧
      ∃ proxy : TlsProfile,
        createTlsConfigFile openSSLToIANACiphersMap cipherSuites (some p) = .ok (some proxy) ∧
        versions proxy.minTLSVersion = some version ∧
        proxy.ciphers.filterMap (GetKnownCipherId cipherSuites) =
          CipherIDs openSSLToIANACiphersMap cipherSuites spec.ciphers := by
  obtain ⟨version, human, hversion, hversions, hhuman, hne, hid⟩ :=
    exists_version_of_mem h.version_mem
  refine ⟨version, hversion, getConfigForClient_of_selects _ _ h hversion,
    validatorTLSInfo_of_selects _ _ h hhuman hne hid, _,
    createTlsConfigFile_of_selects _ _ h, hversions, ?_⟩
  -- the proxy keeps names, the servers ids: the same suites
  exact filterMap_GetKnownCipherId_filter cipherSuites _

theorem modern_profile_paths_agree :
    ∃ (p : TLSSecurityProfile) (spec : TLSProfileSpec), p = { type := "Modern" } ∧
      ∃ version, TLSVersion spec.minTLSVersion = .ok version ∧
        getConfigForClient (Function.const String none) [] (.ok [some p]) =
          .ok { minVersion := version
                cipherSuites := CipherIDs (Function.const String none) [] spec.ciphers } ∧
        validatorTLSInfo (Function.const String none) [] (some p) =
          .ok { minTLSVersion := version
                cipherSuites := CipherIDs (Function.const String none) [] spec.ciphers
                tlsOptionsError := none } ∧
        ∃ proxy : TlsProfile,
          createTlsConfigFile (Function.const String none) [] (some p) = .ok (some proxy) ∧
          versions proxy.minTLSVersion = some version ∧
          proxy.ciphers.filterMap (GetKnownCipherId []) =
            CipherIDs (Function.const String none) [] spec.ciphers :=
  ⟨_, _, rfl, tls_paths_agree (Function.const String none) [] (.predefined rfl rfl)⟩

end agree

end SspOperator.Common
