import SspOperator.Architecture
import SspOperator.Lib.Run

/-
  The validating webhook of the SSP resource (`webhooks/ssp_webhook.go`), and the creation
  of SSPs through the API server.

  `ValidateCreate` lists the SSPs through the manager's client, which reads the informer
  cache, and refuses a new SSP when the list is not empty. The API server writes a request
  after the webhook has allowed it, and the cache learns of a stored SSP when the informer
  delivers its event. Across requests these steps interleave: the webhook's check and the
  API server's write are two steps, and the cache lags behind storage.

  `ClusterState` holds the API server's SSPs, how many of them the cache has seen, and the
  create requests with where each stands; `step` is one admission, one write, or one event
  delivered to the cache. Two requests admitted before either is written store two SSPs,
  and so do two requests admitted one after the other's write while the cache has not seen
  it (`concurrent_creates_store_two_ssps`). Where every admission waits until every
  admitted request is written and the cache has seen every stored SSP (`Serialized`), the
  API server never holds more than one (`serialized_admission_keeps_singleton`).

  An SSP that passes the cluster check gives `GetSSPArchs` what it needs: the reconcilers get
  a non-empty list of architectures without repetitions, in the order of their first
  occurrences (`accepted_ssp_archs`). Their use of `clusterArchs[0]` is then in range.

  A `v1beta2` request is converted and validated by the same function; the requests here
  are the converted SSPs. A converted SSP has no cluster block and no multi-architecture
  flag. The placement check dry-runs a Deployment through the API server,
  with the template validator's placement, which the model of the spec leaves out: it is
  the parameter `validateOperandPlacement`. Warnings are always nil and left out.
-/

namespace SspOperator.Webhooks

/-- `validateCluster`. -/
def validateCluster (ssp : SSP) : Except String Unit := do
  if ssp.spec.isMultiarch && ssp.spec.cluster.isNone then
    throw ".spec.cluster needs to be non-nil, if multi-architecture is enabled"
  match ssp.spec.cluster with
  | none => pure ()
  | some cluster =>
    if cluster.workloadArchitectures.isEmpty && cluster.controlPlaneArchitectures.isEmpty then
      throw "at least one architecture needs to be defined, if multi-architecture is enabled"
    cluster.workloadArchitectures.forM fun archStr =>
      discard <| (ToArch archStr).mapError ("invalid workload architecture: " ++ ·)
    cluster.controlPlaneArchitectures.forM fun archStr =>
      discard <| (ToArch archStr).mapError ("invalid control plane architecture: " ++ ·)

/-- `validateDataImportCronTemplates`. -/
def validateDataImportCronTemplates (ssp : SSP) : Except String Unit :=
  ssp.spec.commonTemplates.dataImportCronTemplates.forM fun cron =>
    if cron.objectMeta.name = "" then throw "missing name in DataImportCronTemplate" else pure ()

variable (validateOperandPlacement : SSP → Except String Unit)

/-- `validatePlacement`: the dry run happens only for an SSP with a template validator. -/
def validatePlacement (ssp : SSP) : Except String Unit :=
  match ssp.spec.templateValidator with
  | none => pure ()
  | some _ => validateOperandPlacement ssp

/-- `validateSspObject`. -/
def validateSspObject (ssp : SSP) : Except String Unit := do
  (validateCluster ssp).mapError ("cluster validation error: " ++ ·)
  (validateDataImportCronTemplates ssp).mapError ("dataImportCronTemplates validation error: " ++ ·)
  (validatePlacement validateOperandPlacement ssp).mapError ("placement api validation error: " ++ ·)

/-- `sspValidator.ValidateCreate`, given the result of listing the SSPs. -/
def ValidateCreate (ssps : Except String (List SSP)) (obj : SSP) : Except String Unit := do
  let ssps ← ssps.mapError ("could not list SSPs for validation, please try again: " ++ ·)
  match ssps with
  | first :: _ =>
    throw ("creation failed, an SSP CR already exists in namespace " ++ first.objectMeta.ns ++
      ": " ++ first.objectMeta.name)
  | [] => validateSspObject validateOperandPlacement obj

/-- The webhook refuses a new SSP whenever the list holds one. -/
theorem ValidateCreate_of_cons (first : SSP) (rest : List SSP) (obj : SSP) :
    ValidateCreate validateOperandPlacement (.ok (first :: rest)) obj =
      .error ("creation failed, an SSP CR already exists in namespace " ++ first.objectMeta.ns ++
        ": " ++ first.objectMeta.name) := rfl

/-! ## The architectures of an accepted SSP -/

/-- A check of `validateCluster`'s loops passes only on an architecture. -/
theorem discard_ToArch_eq_ok {g : String → String} {s : String}
    (h : discard ((ToArch s).mapError g) = (.ok () : Except String Unit)) :
    ∃ arch, ToArch s = .ok arch := by
  cases hs : ToArch s with
  | error e => rw [hs, mapError_error] at h; cases h
  | ok arch => exact ⟨arch, rfl⟩

/-- What `validateCluster` accepts: without a cluster block, no multi-architecture support;
    with one, at least one architecture, and only known ones. -/
theorem validateCluster_eq_ok {ssp : SSP} (h : validateCluster ssp = .ok ()) :
    match ssp.spec.cluster with
    | none => ssp.spec.isMultiarch = false
    | some cluster =>
        cluster.controlPlaneArchitectures ++ cluster.workloadArchitectures ≠ [] ∧
          ∀ s ∈ cluster.controlPlaneArchitectures ++ cluster.workloadArchitectures,
            ∃ arch, ToArch s = .ok arch := by
  unfold validateCluster at h
  cases hc : ssp.spec.cluster with
  | none =>
      cases hm : ssp.spec.isMultiarch
      · rfl
      · simp [hc, hm] at h
  | some cluster =>
      simp only [hc, Option.isNone_some, Bool.and_false, Bool.false_eq_true, if_false] at h
      have hne : ¬(cluster.workloadArchitectures.isEmpty &&
          cluster.controlPlaneArchitectures.isEmpty) = true := by
        intro hempty
        rw [if_pos hempty] at h
        cases h
      rw [if_neg hne] at h
      -- the workload architectures are checked first, then the control-plane ones
      obtain ⟨⟨⟩, hwl, hcp⟩ := except_bind_eq_ok.mp h
      have hknown : ∀ (l : List String) (g : String → String),
          (l.forM fun archStr => discard ((ToArch archStr).mapError g) : Except String Unit) =
            .ok () →
            ∀ s ∈ l, ∃ arch, ToArch s = .ok arch := fun l g hl s hs =>
        discard_ToArch_eq_ok ((except_forM_eq_ok _ l).mp hl s hs)
      refine ⟨?_, ?_⟩
      · simp only [Bool.and_eq_true, List.isEmpty_iff] at hne
        intro happ
        rw [List.append_eq_nil_iff] at happ
        exact hne ⟨happ.2, happ.1⟩
      · intro s hs
        rcases List.mem_append.mp hs with hs | hs
        · exact hknown _ _ hcp s hs
        · exact hknown _ _ hwl s hs

/-- The architectures the reconcilers use, for an SSP that passes the webhook's cluster check
    and an operator built for a known architecture: `GetSSPArchs` returns a non-empty list
    without repetitions, which names the control-plane architectures and then the workload ones
    at their first occurrences (all of them with multi-architecture support, the first one
    without), or the operator's own architecture when there is no cluster block. -/
theorem accepted_ssp_archs {goarch : String} {goArch : Arch} (hgo : ToArch goarch = .ok goArch)
    {ssp : SSP} (hvalid : validateCluster ssp = .ok ()) :
    ∃ archs, GetSSPArchs goarch ssp.spec = .ok archs ∧ archs ≠ [] ∧ archs.Nodup ∧
      archs.map Arch.toString =
        match ssp.spec.cluster with
        | none => [goarch]
        | some cluster =>
            (if ssp.spec.isMultiarch then id else List.take 1)
              (firstOccurrences
                (cluster.controlPlaneArchitectures ++ cluster.workloadArchitectures)) := by
  have hspec := validateCluster_eq_ok hvalid
  cases hc : ssp.spec.cluster with
  | none =>
      rw [hc] at hspec
      -- the architecture the operator was built for
      refine ⟨[goArch], ?_, List.cons_ne_nil _ _, List.nodup_singleton _, ?_⟩
      · simp [GetSSPArchs, hc, hspec, hgo]
      · simp [toString_of_ToArch hgo]
  | some cluster =>
      rw [hc] at hspec
      obtain ⟨archs, hget, hstrs⟩ := GetSSPArchs_of_known hc hspec.1 hspec.2
      generalize hfirst : firstOccurrences
        (cluster.controlPlaneArchitectures ++ cluster.workloadArchitectures) = first at hstrs
      have hfirst_ne : first ≠ [] := fun h => hspec.1 (firstOccurrences_eq_nil.mp (hfirst.trans h))
      have hfirst_nodup : first.Nodup := hfirst ▸ nodup_firstOccurrences _
      -- without multi-architecture support only the first one is kept
      have hselected : ((if ssp.spec.isMultiarch then id else List.take 1) first) ≠ [] ∧
          ((if ssp.spec.isMultiarch then id else List.take 1) first).Nodup := by
        cases ssp.spec.isMultiarch
        · simp only [Bool.false_eq_true, if_false, ne_eq, List.take_eq_nil_iff, one_ne_zero,
            false_or]
          exact ⟨hfirst_ne, hfirst_nodup.sublist (List.take_sublist _ _)⟩
        · exact ⟨hfirst_ne, hfirst_nodup⟩
      refine ⟨archs, hget, ?_, List.Nodup.of_map _ (hstrs ▸ hselected.2), ?_⟩
      · intro hnil
        rw [hnil, List.map_nil] at hstrs
        exact hselected.1 hstrs.symm
      · show _ = (if ssp.spec.isMultiarch then id else List.take 1) (firstOccurrences _)
        rw [hfirst]
        exact hstrs

/-- An SSP whose cluster runs amd64 and arm64 in the control plane and arm64 and s390x for
    workloads, with multi-architecture support. -/
def multiarchSsp : SSP :=
  { objectMeta := { name := "ssp-sample", ns := "kubevirt" }
    spec :=
      { enableMultipleArchitectures := some true
        cluster := some { controlPlaneArchitectures := ["amd64", "arm64"],
                          workloadArchitectures := ["arm64", "s390x"] }
        commonTemplates := { ns := "openshift" } } }

theorem multiarch_ssp_archs :
    ∃ archs, GetSSPArchs "amd64" multiarchSsp.spec = .ok archs ∧ archs ≠ [] ∧ archs.Nodup ∧
      archs.map Arch.toString = ["amd64", "arm64", "s390x"] :=
  @accepted_ssp_archs "amd64" .amd64 rfl multiarchSsp rfl

/-! ## Creating SSPs through the API server -/

/-- Where a create request stands. -/
inductive RequestPhase
  | received
  | allowed
  | denied (reason : String)
  | created
  | alreadyExists
deriving DecidableEq

/-- The API server's SSPs in the order they were written, how many of them the manager's
    cache has seen (the informer delivers them in that order), and the create requests. -/
structure ClusterState where
  stored : List SSP
  observed : Nat
  requests : List (SSP × RequestPhase)

/-- One step of the system. -/
inductive Action
  /-- The webhook validates request `i` against the SSPs the cached client lists. -/
  | review (i : Nat)
  /-- The API server writes request `i`, which the webhook allowed. -/
  | persist (i : Nat)
  /-- The informer delivers the next stored SSP to the cache. -/
  | observe

/-- What the manager's cached client lists. -/
def ClusterState.cachedSsps (s : ClusterState) : List SSP := s.stored.take s.observed

/-- The requests the webhook allowed and the API server has not written yet. -/
def ClusterState.allowedCount (s : ClusterState) : Nat :=
  s.requests.countP (·.2 == .allowed)

/-- A cluster with the SSPs `stored`, all seen by the cache, and the create requests
    `requests`, none admitted yet. -/
def ClusterState.init (stored requests : List SSP) : ClusterState :=
  { stored := stored, observed := stored.length, requests := requests.map (·, .received) }

/-- The webhook's answer as the phase of the request. -/
def admissionPhase (ssps : List SSP) (obj : SSP) : RequestPhase :=
  match ValidateCreate validateOperandPlacement (.ok ssps) obj with
  | .ok () => .allowed
  | .error reason => .denied reason

/-- One step: an admission, a write that fails if an SSP of the same key is stored, or an
    event delivered to the cache. -/
def step (s : ClusterState) : Action → ClusterState
  | .review i =>
    match s.requests[i]? with
    | some (obj, .received) =>
      { s with requests :=
          s.requests.set i (obj, admissionPhase validateOperandPlacement s.cachedSsps obj) }
    | _ => s
  | .persist i =>
    match s.requests[i]? with
    | some (obj, .allowed) =>
      if s.stored.any (fun o => decide (o.objectMeta.key = obj.objectMeta.key)) then
        { s with requests := s.requests.set i (obj, .alreadyExists) }
      else
        { s with stored := s.stored ++ [obj], requests := s.requests.set i (obj, .created) }
    | _ => s
  | .observe => { s with observed := min (s.observed + 1) s.stored.length }

/-- An SSP in namespace `ns` with name `name` and the default spec. -/
def sspNamed (ns name : String) : SSP :=
  { objectMeta := { name := name, ns := ns }, spec := default }

/-- Two create requests for SSPs in different namespaces both reach storage: when both
    are admitted before either is written, with a cache that is never behind, and when the
    second is admitted after the first is written but before the cache has seen it. The
    SSPs have no template validator, so the placement check is not run. -/
theorem concurrent_creates_store_two_ssps :
    (Machine.run (step (Function.const SSP (.ok ())))
        (ClusterState.init [] [sspNamed "ns-a" "ssp-a", sspNamed "ns-b" "ssp-b"])
        [.review 0, .review 1, .persist 0, .persist 1]).stored.length = 2 ∧
    (Machine.run (step (Function.const SSP (.ok ())))
        (ClusterState.init [] [sspNamed "ns-a" "ssp-a", sspNamed "ns-b" "ssp-b"])
        [.review 0, .persist 0, .review 1, .persist 1]).stored.length = 2 := by
  constructor <;> rfl

/-! ## Serialized admissions keep one SSP -/

/-- An admission waits until the cache has seen every stored SSP and every allowed request
    is written. -/
def Serialized (s : ClusterState) : Action → Prop
  | .review _ => s.observed = s.stored.length ∧ s.allowedCount = 0
  | .persist _ => True
  | .observe => True

instance (s : ClusterState) (a : Action) : Decidable (Serialized s a) :=
  match a with
  | .review _ => inferInstanceAs (Decidable (_ ∧ _))
  | .persist _ => inferInstanceAs (Decidable True)
  | .observe => inferInstanceAs (Decidable True)

/-- At most one SSP is stored or allowed on its way to storage, and the cache is not ahead
    of storage. -/
def AtMostOne (s : ClusterState) : Prop :=
  s.stored.length + s.allowedCount ≤ 1 ∧ s.observed ≤ s.stored.length

variable {validateOperandPlacement}

/-- What a step can do: nothing, review a received request, write an allowed one (storing
    it or not), or let the cache see one more stored SSP. -/
theorem step_cases (s : ClusterState) (a : Action) :
    step validateOperandPlacement s a = s ∨
    (∃ i obj phase, a = .review i ∧ s.requests[i]? = some (obj, .received) ∧
      phase = admissionPhase validateOperandPlacement s.cachedSsps obj ∧
      step validateOperandPlacement s a = { s with requests := s.requests.set i (obj, phase) }) ∨
    (∃ i obj phase added, a = .persist i ∧ s.requests[i]? = some (obj, .allowed) ∧
      phase ≠ .allowed ∧ added.length ≤ 1 ∧
      step validateOperandPlacement s a =
        { s with stored := s.stored ++ added, requests := s.requests.set i (obj, phase) }) ∨
    (a = .observe ∧
      step validateOperandPlacement s a = { s with observed := min (s.observed + 1) s.stored.length }) := by
  cases a with
  | review i =>
    cases hr : s.requests[i]? with
    | none => exact .inl (by simp [step, hr])
    | some r =>
      obtain ⟨obj, phase⟩ := r
      cases phase with
      | received => exact .inr (.inl ⟨i, obj, _, rfl, hr, rfl, by simp [step, hr]⟩)
      | allowed | denied _ | created | alreadyExists => exact .inl (by simp [step, hr])
  | persist i =>
    cases hr : s.requests[i]? with
    | none => exact .inl (by simp [step, hr])
    | some r =>
      obtain ⟨obj, phase⟩ := r
      cases phase with
      | allowed =>
        refine .inr (.inr (.inl ?_))
        by_cases hkey : s.stored.any (fun o => decide (o.objectMeta.key = obj.objectMeta.key))
        · exact ⟨i, obj, .alreadyExists, [], rfl, hr, by decide, by simp, by simp [step, hr, hkey]⟩
        · exact ⟨i, obj, .created, [obj], rfl, hr, by decide, by simp, by simp [step, hr, hkey]⟩
      | received | denied _ | created | alreadyExists => exact .inl (by simp [step, hr])
  | observe => exact .inr (.inr (.inr ⟨rfl, rfl⟩))

/-- How setting request `i` changes the count of allowed requests. -/
theorem allowedCount_set {s : ClusterState} {i : Nat} {r : SSP × RequestPhase}
    (hr : s.requests[i]? = some r) (r' : SSP × RequestPhase) :
    (s.requests.set i r').countP (·.2 == .allowed) =
      s.allowedCount - (if r.2 == .allowed then 1 else 0) + (if r'.2 == .allowed then 1 else 0) := by
  obtain ⟨hi, hget⟩ := List.getElem?_eq_some_iff.1 hr
  rw [List.countP_set hi, hget]
  rfl

/-- The webhook allows a request exactly when the list is empty and the SSP is valid. -/
theorem admissionPhase_eq_allowed (ssps : List SSP) (obj : SSP) :
    admissionPhase validateOperandPlacement ssps obj = .allowed ↔
      ssps = [] ∧ validateSspObject validateOperandPlacement obj = .ok () := by
  cases ssps with
  | cons first rest =>
    rw [admissionPhase, ValidateCreate_of_cons]
    simp
  | nil =>
    simp only [admissionPhase, ValidateCreate, true_and]
    cases validateSspObject validateOperandPlacement obj <;> simp

/-- A review under `Serialized` keeps `AtMostOne`: the webhook sees every stored SSP, and
    no other request is allowed. -/
theorem AtMostOne.review {s : ClusterState} {i : Nat} {obj : SSP} {phase : RequestPhase}
    (hs : AtMostOne s) (hobserved : s.observed = s.stored.length) (hnone : s.allowedCount = 0)
    (hr : s.requests[i]? = some (obj, .received))
    (hphase : phase = admissionPhase validateOperandPlacement s.cachedSsps obj) :
    AtMostOne { s with requests := s.requests.set i (obj, phase) } := by
  have hcount : (s.requests.set i (obj, phase)).countP (·.2 == .allowed) =
      if phase = .allowed then 1 else 0 := by
    rw [allowedCount_set hr, hnone]
    simp
  refine ⟨?_, hs.2⟩
  show s.stored.length + (s.requests.set i (obj, phase)).countP _ ≤ 1
  rw [hcount]
  have hstored : s.stored.length ≤ 1 := by
    have := hs.1
    rw [hnone] at this
    exact this
  by_cases hallowed : phase = .allowed
  · -- allowed only on an empty list, which is all of storage
    have hcached := ((admissionPhase_eq_allowed _ _).1 (hphase ▸ hallowed)).1
    rw [ClusterState.cachedSsps, hobserved, List.take_length] at hcached
    simp [hallowed, hcached]
  · simpa [hallowed] using hstored

/-- A write keeps `AtMostOne`: the allowed request leaves the count, and at most one SSP is
    stored in its place. -/
theorem AtMostOne.persist {s : ClusterState} {i : Nat} {obj : SSP} {phase : RequestPhase}
    {added : List SSP} (hs : AtMostOne s) (hr : s.requests[i]? = some (obj, .allowed))
    (hphase : phase ≠ .allowed) (hadded : added.length ≤ 1) :
    AtMostOne { s with stored := s.stored ++ added, requests := s.requests.set i (obj, phase) } := by
  have hmem : (obj, RequestPhase.allowed) ∈ s.requests := List.mem_of_getElem? hr
  have hpos : 0 < s.allowedCount := List.countP_pos_iff.2 ⟨_, hmem, by simp⟩
  have hcount : (s.requests.set i (obj, phase)).countP (·.2 == .allowed) = s.allowedCount - 1 := by
    rw [allowedCount_set hr]
    simp [hphase]
  refine ⟨?_, ?_⟩
  · show (s.stored ++ added).length + (s.requests.set i (obj, phase)).countP _ ≤ 1
    rw [hcount, List.length_append]
    have := hs.1
    omega
  · have := hs.2
    simp only [List.length_append]
    omega

/-- Under `Serialized`, every step keeps `AtMostOne`. -/
theorem AtMostOne.step {s : ClusterState} {a : Action} (hs : AtMostOne s) (hg : Serialized s a) :
    AtMostOne (step validateOperandPlacement s a) := by
  rcases step_cases s a with heq | ⟨i, obj, phase, rfl, hr, hphase, heq⟩ |
      ⟨i, obj, phase, added, rfl, hr, hphase, hadded, heq⟩ | ⟨rfl, heq⟩
  · rw [heq]
    exact hs
  · rw [heq]
    exact hs.review hg.1 hg.2 hr hphase
  · rw [heq]
    exact hs.persist hr hphase hadded
  · rw [heq]
    exact ⟨hs.1, Nat.min_le_right _ _⟩

/-- Where every admission waits until the cache has seen every stored SSP and every allowed
    request is written, no state that the creation of SSPs reaches from a cluster with at
    most one SSP stores more than one. -/
theorem serialized_admission_keeps_singleton (stored requests : List SSP) (s : ClusterState)
    (hstored : stored.length ≤ 1)
    (hreach : Machine.Reachable (step validateOperandPlacement) Serialized
      (ClusterState.init stored requests) s) :
    s.stored.length ≤ 1 := by
  have hinit : AtMostOne (ClusterState.init stored requests) := by
    have hnone : (ClusterState.init stored requests).allowedCount = 0 := by
      simp [ClusterState.allowedCount, ClusterState.init, List.countP_map]
    refine ⟨?_, le_refl _⟩
    rw [hnone]
    exact hstored
  have hinv := Machine.Reachable.inv hinit (fun _ _ hs hg => hs.step hg) hreach
  exact le_trans (Nat.le_add_right _ _) hinv.1

theorem serialized_creates_store_one_ssp :
    (Machine.run (step (Function.const SSP (.ok ())))
        (ClusterState.init [] [sspNamed "ns-a" "ssp-a", sspNamed "ns-b" "ssp-b"])
        [.review 0, .persist 0, .observe, .review 1, .persist 1]).stored.length ≤ 1 :=
  serialized_admission_keeps_singleton [] _ _ (by decide)
    (Machine.Reachable.init.run _ ⟨by decide, by decide, by decide, by decide, by decide, trivial⟩)

end SspOperator.Webhooks
