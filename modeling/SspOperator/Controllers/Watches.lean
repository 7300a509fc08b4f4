import Mathlib.Data.Finset.Basic
import SspOperator.Operands.DataSourcesReconcile

/-
  The watches the SSP controller registers for the objects of its operands
  (`watchResources` in `internal/controllers/ssp_controller.go`).

  Each operand lists the types it watches (`WatchType`): the Go type of the object, the CRD
  that defines it (empty for built-in types) and whether the full object is watched. The
  controller first deduplicates the lists of all operands into a map keyed by the type:
  each entry replaces the one kept before it and watches the full object when either does.
  It then registers one watch per type in the map, unless the kept entry names a CRD that
  the CRD list reports missing. A type not watched on the full object is watched through
  `relevantChangesPredicate`.

  The registered watches form a set: the map's range order decides only the order of the
  registrations. A registered type watches the full object when any of its entries does,
  but the CRD it is checked against is the one of its last entry (`mem_watchResources`).
  Where the entries of each type name one CRD, the order of the operands does not matter
  (`watchResources_perm`); where the last entry of each type names none or the one the
  others name, a type is watched as soon as one entry allows it
  (`mem_watchResources_iff_listed`).

  The operands `CreateControllers` makes are of both kinds (`watch_registration_of_operands`).
  Only the metrics operand names a CRD for types that others list without one, the cluster
  roles and their bindings on OpenShift, and the VM console proxy, which lists them without
  a CRD, comes last. Putting the metrics operand last instead drops those watches when the
  PrometheusRule CRD is missing (`metrics_last_drops_cluster_role_watch`).

  The watching code is generic over the operands, a type parameter `ω`, with the function
  that lists an operand's watch types (the Go code passes `Operand.WatchTypes` or
  `Operand.WatchClusterTypes`); the Go types of the objects (`reflect.TypeOf`) are a type `τ`
  with decidable equality. `crdList.CrdExists` is the function `crdExists`.
-/

namespace SspOperator.Controllers

variable {τ ω : Type} [DecidableEq τ]

/-- `operands.WatchType`; `object` is the Go type of its object. -/
structure WatchType (τ : Type) where
  object : τ
  crd : String := ""
  watchFullObject : Bool := false
deriving DecidableEq

/-- One entry of the deduplication loop: it replaces the entry kept for its type, and it
    watches the full object when either of them does. -/
def dedupStep (watchedTypes : τ → Option (WatchType τ)) (watchType : WatchType τ) :
    τ → Option (WatchType τ) :=
  let key := watchType.object
  let watchType :=
    match watchedTypes key with
    | some wt =>
        { watchType with watchFullObject := watchType.watchFullObject || wt.watchFullObject }
    | none => watchType
  Function.update watchedTypes key (some watchType)

/-- The map `watchedTypes` after the nested loop over the operands' watch types. -/
def dedupWatchTypes (watchTypes : List (WatchType τ)) : τ → Option (WatchType τ) :=
  watchTypes.foldl dedupStep fun _ => none

/-- The watch registered for the entry kept for a type: the type, and whether the full object
    is watched; nothing when the entry's CRD is missing. -/
def registration (crdExists : String → Bool) (watchType : WatchType τ) : Option (τ × Bool) :=
  if watchType.crd ≠ "" ∧ crdExists watchType.crd = false then none
  else some (watchType.object, watchType.watchFullObject)

/-- `watchResources`: the set of watches registered. The range over the map visits each type
    listed once; here each listed entry looks its type up, and the set forgets repeats. -/
def watchResources (crdExists : String → Bool) (sspOperands : List ω)
    (watchTypesFunc : ω → List (WatchType τ)) : Finset (τ × Bool) :=
  let watchTypes := sspOperands.flatMap watchTypesFunc
  let watchedTypes := dedupWatchTypes watchTypes
  (watchTypes.filterMap fun wt => (watchedTypes wt.object).bind (registration crdExists)).toFinset

/-! ## The entry kept for a type -/

/-- The entries listed for a type, in order. -/
def entriesFor (watchTypes : List (WatchType τ)) (t : τ) : List (WatchType τ) :=
  watchTypes.filter (·.object = t)

/-- The entry the loop keeps for a type: the last one listed, watching the full object when
    any entry for the type does. -/
def keptWatchType (watchTypes : List (WatchType τ)) (t : τ) : Option (WatchType τ) :=
  (entriesFor watchTypes t).getLast?.map fun wt =>
    { wt with watchFullObject := (entriesFor watchTypes t).any (·.watchFullObject) }

theorem entriesFor_append_self (prior : List (WatchType τ)) (watchType : WatchType τ) :
    entriesFor (prior ++ [watchType]) watchType.object =
      entriesFor prior watchType.object ++ [watchType] := by
  simp [entriesFor, List.filter_append]

theorem entriesFor_append_of_ne {prior : List (WatchType τ)} {watchType : WatchType τ} {t : τ}
    (ht : t ≠ watchType.object) :
    entriesFor (prior ++ [watchType]) t = entriesFor prior t := by
  simp [entriesFor, List.filter_append, Ne.symm ht]

theorem keptWatchType_eq_none {watchTypes : List (WatchType τ)} {t : τ} :
    keptWatchType watchTypes t = none ↔ entriesFor watchTypes t = [] := by
  simp [keptWatchType]

/-- One entry of the loop keeps the invariant: the map holds the kept entry of every type. -/
theorem dedupStep_kept (prior : List (WatchType τ)) (watchType : WatchType τ) :
    dedupStep (keptWatchType prior) watchType = keptWatchType (prior ++ [watchType]) := by
  funext t
  by_cases ht : t = watchType.object
  · subst ht
    simp only [dedupStep]
    cases hprev : keptWatchType prior watchType.object with
    | none =>
        -- the first entry for its type is kept as it is
        have hnil := keptWatchType_eq_none.mp hprev
        simp [keptWatchType, entriesFor_append_self, hnil]
    | some prev =>
        obtain ⟨last, -, rfl⟩ := Option.map_eq_some_iff.mp hprev
        simp [keptWatchType, entriesFor_append_self, Bool.or_comm]
  · simp only [dedupStep, Function.update_of_ne ht]
    simp only [keptWatchType, entriesFor_append_of_ne ht]

/-- The loop leaves the kept entry of every type in the map. -/
theorem foldl_dedupStep (prior rest : List (WatchType τ)) :
    rest.foldl dedupStep (keptWatchType prior) = keptWatchType (prior ++ rest) := by
  induction rest generalizing prior with
  | nil => simp
  | cons watchType rest ih =>
      rw [List.foldl_cons, dedupStep_kept, ih, List.append_assoc, List.singleton_append]

theorem dedupWatchTypes_eq (watchTypes : List (WatchType τ)) :
    dedupWatchTypes watchTypes = keptWatchType watchTypes := by
  have hinit : keptWatchType ([] : List (WatchType τ)) = fun _ => none := by
    funext t
    simp [keptWatchType, entriesFor]
  rw [dedupWatchTypes, ← hinit, foldl_dedupStep, List.nil_append]

/-! ## The registered watches -/

omit [DecidableEq τ] in
theorem registration_eq_some {crdExists : String → Bool} {watchType : WatchType τ}
    {watch : τ × Bool} :
    registration crdExists watchType = some watch ↔
      (watchType.crd = "" ∨ crdExists watchType.crd = true) ∧
        watch = (watchType.object, watchType.watchFullObject) := by
  unfold registration
  by_cases hcrd : watchType.crd = ""
  · simp only [hcrd, ne_eq, not_true_eq_false, false_and, if_false, true_or, true_and,
      Option.some.injEq]
    exact eq_comm
  · cases hexists : crdExists watchType.crd
    · simp [hcrd]
    · simp only [hcrd, ne_eq, not_false_eq_true, Bool.true_eq_false, and_false,
        if_false, or_true, true_and, Option.some.injEq]
      exact eq_comm

theorem mem_of_getLast?_entriesFor {watchTypes : List (WatchType τ)} {t : τ}
    {last : WatchType τ} (h : (entriesFor watchTypes t).getLast? = some last) :
    last ∈ watchTypes ∧ last.object = t := by
  have hmem := List.mem_of_getLast? h
  simpa [entriesFor] using hmem

/-- A type is watched exactly when an operand lists it and its last entry names no CRD, or one
    that exists; it is watched on the full object exactly when one of its entries asks for
    that. -/
theorem mem_watchResources {crdExists : String → Bool} {sspOperands : List ω}
    {watchTypesFunc : ω → List (WatchType τ)} {t : τ} {full : Bool} :
    (t, full) ∈ watchResources crdExists sspOperands watchTypesFunc ↔
      ∃ last, (entriesFor (sspOperands.flatMap watchTypesFunc) t).getLast? = some last ∧
        (last.crd = "" ∨ crdExists last.crd = true) ∧
        full = (entriesFor (sspOperands.flatMap watchTypesFunc) t).any (·.watchFullObject) := by
  unfold watchResources
  simp only [dedupWatchTypes_eq, List.mem_toFinset, List.mem_filterMap]
  constructor
  · rintro ⟨wt, -, hreg⟩
    obtain ⟨kept, hkept, hreg⟩ := Option.bind_eq_some_iff.mp hreg
    obtain ⟨last, hlast, rfl⟩ := Option.map_eq_some_iff.mp hkept
    obtain ⟨hcrd, hwatch⟩ := registration_eq_some.mp hreg
    -- the kept entry is of the entry's own type
    have htype : last.object = wt.object := (mem_of_getLast?_entriesFor hlast).2
    simp only [Prod.mk.injEq] at hwatch
    obtain ⟨rfl, rfl⟩ := hwatch
    rw [htype]
    exact ⟨last, hlast, hcrd, rfl⟩
  · rintro ⟨last, hlast, hcrd, rfl⟩
    obtain ⟨hmem, htype⟩ := mem_of_getLast?_entriesFor hlast
    refine ⟨last, hmem, ?_⟩
    rw [htype]
    simp only [keptWatchType, hlast, Option.map_some, Option.bind_some]
    exact registration_eq_some.mpr ⟨hcrd, by rw [htype]⟩

/-- Entries of one type that all name the same CRD. -/
def UniformCrds (watchTypes : List (WatchType τ)) : Prop :=
  ∀ wt ∈ watchTypes, ∀ wt' ∈ watchTypes, wt.object = wt'.object → wt.crd = wt'.crd

instance (watchTypes : List (WatchType τ)) : Decidable (UniformCrds watchTypes) :=
  inferInstanceAs (Decidable (∀ wt ∈ watchTypes, ∀ wt' ∈ watchTypes,
    wt.object = wt'.object → wt.crd = wt'.crd))

/-- One direction of `watchResources_perm`: what the operands in one order register, they
    register in the other. -/
theorem mem_watchResources_of_perm {crdExists : String → Bool} {sspOperands sspOperands' : List ω}
    {watchTypesFunc : ω → List (WatchType τ)} (hperm : sspOperands.Perm sspOperands')
    (huniform : UniformCrds (sspOperands.flatMap watchTypesFunc)) {watch : τ × Bool}
    (h : watch ∈ watchResources crdExists sspOperands watchTypesFunc) :
    watch ∈ watchResources crdExists sspOperands' watchTypesFunc := by
  obtain ⟨t, full⟩ := watch
  have hentries : (entriesFor (sspOperands.flatMap watchTypesFunc) t).Perm
      (entriesFor (sspOperands'.flatMap watchTypesFunc) t) :=
    (hperm.flatMap_right watchTypesFunc).filter _
  rw [mem_watchResources] at h ⊢
  obtain ⟨last, hlast, hcrd, rfl⟩ := h
  -- the type is listed in the other order too, with a last entry of the same CRD
  obtain ⟨last', hlast'⟩ : ∃ last', (entriesFor (sspOperands'.flatMap watchTypesFunc) t).getLast? =
      some last' := by
    cases hnone : (entriesFor (sspOperands'.flatMap watchTypesFunc) t).getLast? with
    | none =>
        rw [List.getLast?_eq_none_iff] at hnone
        have hnil : entriesFor (sspOperands.flatMap watchTypesFunc) t = [] :=
          List.eq_nil_of_length_eq_zero (by rw [hentries.length_eq, hnone, List.length_nil])
        rw [hnil] at hlast
        cases hlast
    | some last' => exact ⟨last', rfl⟩
  have hmem' : last' ∈ entriesFor (sspOperands.flatMap watchTypesFunc) t :=
    hentries.mem_iff.mpr (List.mem_of_getLast? hlast')
  have hmem : last ∈ entriesFor (sspOperands.flatMap watchTypesFunc) t := List.mem_of_getLast? hlast
  have hsame : last'.crd = last.crd := by
    simp only [entriesFor, List.mem_filter, decide_eq_true_eq] at hmem hmem'
    exact huniform last' hmem'.1 last hmem.1 (hmem'.2.trans hmem.2.symm)
  exact ⟨last', hlast', hsame ▸ hcrd, hentries.any_eq⟩

/-- Where all entries of a type name the same CRD, the registered watches do not depend on
    the order of the operands. -/
theorem watchResources_perm {crdExists : String → Bool} {sspOperands sspOperands' : List ω}
    {watchTypesFunc : ω → List (WatchType τ)} (hperm : sspOperands.Perm sspOperands')
    (huniform : UniformCrds (sspOperands.flatMap watchTypesFunc)) :
    watchResources crdExists sspOperands watchTypesFunc =
      watchResources crdExists sspOperands' watchTypesFunc := by
  have huniform' : UniformCrds (sspOperands'.flatMap watchTypesFunc) := fun wt hwt wt' hwt' =>
    huniform wt ((hperm.flatMap_right watchTypesFunc).mem_iff.mpr hwt) wt'
      ((hperm.flatMap_right watchTypesFunc).mem_iff.mpr hwt')
  ext watch
  exact ⟨mem_watchResources_of_perm hperm huniform, mem_watchResources_of_perm hperm.symm huniform'⟩

/-! ## Which entry is last -/

/-- Every entry of a type names the CRD of the type's last entry, or that last entry names
    none: a type is then watched whenever one of its entries would be. -/
def LastCrdCovers (watchTypes : List (WatchType τ)) : Prop :=
  ∀ wt ∈ watchTypes, ∀ last ∈ (entriesFor watchTypes wt.object).getLast?,
    last.crd = "" ∨ wt.crd = last.crd

instance (watchTypes : List (WatchType τ)) : Decidable (LastCrdCovers watchTypes) :=
  inferInstanceAs (Decidable (∀ wt ∈ watchTypes, ∀ last ∈ (entriesFor watchTypes wt.object).getLast?,
    last.crd = "" ∨ wt.crd = last.crd))

/-- Entries of one type that all name the same CRD leave nothing to the last one. -/
theorem LastCrdCovers.of_uniform {watchTypes : List (WatchType τ)}
    (huniform : UniformCrds watchTypes) : LastCrdCovers watchTypes := by
  intro wt hwt last hlast
  have hmem := (mem_of_getLast?_entriesFor hlast)
  exact .inr (huniform wt hwt last hmem.1 hmem.2.symm)

/-- Where the last entry of each type covers the others, a type is watched exactly when some
    entry lists it with no CRD or one that exists, and on the full object exactly when some
    entry asks for that. -/
theorem mem_watchResources_iff_listed {crdExists : String → Bool} {sspOperands : List ω}
    {watchTypesFunc : ω → List (WatchType τ)}
    (hcovers : LastCrdCovers (sspOperands.flatMap watchTypesFunc)) {t : τ} {full : Bool} :
    (t, full) ∈ watchResources crdExists sspOperands watchTypesFunc ↔
      (∃ wt ∈ sspOperands.flatMap watchTypesFunc, wt.object = t ∧
        (wt.crd = "" ∨ crdExists wt.crd = true)) ∧
      full = (entriesFor (sspOperands.flatMap watchTypesFunc) t).any (·.watchFullObject) := by
  rw [mem_watchResources]
  constructor
  · rintro ⟨last, hlast, hcrd, rfl⟩
    obtain ⟨hmem, htype⟩ := mem_of_getLast?_entriesFor hlast
    exact ⟨⟨last, hmem, htype, hcrd⟩, rfl⟩
  · rintro ⟨⟨wt, hwt, rfl, hcrd⟩, rfl⟩
    -- the type has a last entry, and it covers `wt`
    have hentry : wt ∈ entriesFor (sspOperands.flatMap watchTypesFunc) wt.object := by
      simp [entriesFor, hwt]
    obtain ⟨last, hlast⟩ : ∃ last,
        (entriesFor (sspOperands.flatMap watchTypesFunc) wt.object).getLast? = some last :=
      Option.isSome_iff_exists.mp
        (List.getLast?_isSome.mpr (List.ne_nil_of_mem hentry))
    refine ⟨last, hlast, ?_, rfl⟩
    rcases hcovers wt hwt last hlast with hempty | hsame
    · exact .inl hempty
    · exact hsame ▸ hcrd

/-! ## The operands of `CreateControllers` -/

/-- The Go types of the objects the operands watch. -/
inductive GoType
  | serviceAccount | service | deployment | configMap | networkPolicy | podDisruptionBudget
  | clusterRole | clusterRoleBinding | validatingWebhookConfiguration | prometheusRule
  | serviceMonitor | role | roleBinding | namespace | dataSource | dataImportCron
  | validatingAdmissionPolicy | validatingAdmissionPolicyBinding | apiService | route | template
deriving DecidableEq

/-- The operands `CreateControllers` makes. -/
inductive SspOperand
  | dataSources | vmDeleteProtection | metrics | templateValidator | commonTemplates
  | vmConsoleProxy
deriving DecidableEq

/-- `prometheusRulesCrd` of the metrics operand. -/
def prometheusRulesCrd : String := "prometheusrules.monitoring.coreos.com"

/-- `Operand.WatchTypes`, the namespaced types of each operand. -/
def SspOperand.WatchTypes : SspOperand → List (WatchType GoType)
  | .templateValidator =>
      [{ object := .serviceAccount }, { object := .service },
        { object := .deployment, watchFullObject := true }, { object := .configMap },
        { object := .networkPolicy }, { object := .podDisruptionBudget }]
  | .metrics => [{ object := .prometheusRule }, { object := .serviceMonitor }]
  | .vmConsoleProxy =>
      [{ object := .serviceAccount }, { object := .service },
        { object := .deployment, watchFullObject := true }, { object := .configMap },
        { object := .route }, { object := .networkPolicy }]
  | .dataSources | .vmDeleteProtection | .commonTemplates => []

/-- `Operand.WatchClusterTypes`, the cluster types of each operand. The data-sources operand
    watches the status of its DataSources, to notice a deleted PVC. -/
def SspOperand.WatchClusterTypes : SspOperand → List (WatchType GoType)
  | .dataSources =>
      [{ object := .clusterRole }, { object := .role }, { object := .roleBinding },
        { object := .namespace },
        { object := .dataSource, crd := Operands.dataSourceCrd, watchFullObject := true },
        { object := .dataImportCron, crd := Operands.dataImportCronCrd },
        { object := .networkPolicy }]
  | .vmDeleteProtection =>
      [{ object := .validatingAdmissionPolicy }, { object := .validatingAdmissionPolicyBinding }]
  | .metrics =>
      [{ object := .clusterRole, crd := prometheusRulesCrd },
        { object := .clusterRoleBinding, crd := prometheusRulesCrd }]
  | .templateValidator =>
      [{ object := .clusterRole }, { object := .clusterRoleBinding },
        { object := .validatingWebhookConfiguration }]
  | .commonTemplates => [{ object := .template }]
  | .vmConsoleProxy =>
      [{ object := .clusterRole }, { object := .clusterRoleBinding }, { object := .apiService }]

/-- The operands of `CreateControllers`, in its order: on OpenShift the metrics, the template
    validator, the common templates and the VM console proxy follow. -/
def sspOperands (runningOnOpenShift : Bool) : List SspOperand :=
  [.dataSources, .vmDeleteProtection] ++
    if runningOnOpenShift then [.metrics, .templateValidator, .commonTemplates, .vmConsoleProxy]
    else []

/-- The namespaced types of one CRD each, whatever the platform. -/
theorem uniformCrds_WatchTypes (runningOnOpenShift : Bool) :
    UniformCrds ((sspOperands runningOnOpenShift).flatMap SspOperand.WatchTypes) := by
  cases runningOnOpenShift <;> decide

/-- Without OpenShift the cluster types are of one CRD each too. -/
theorem uniformCrds_WatchClusterTypes_kubernetes :
    UniformCrds ((sspOperands false).flatMap SspOperand.WatchClusterTypes) := by
  decide

/-- On OpenShift the metrics operand names the PrometheusRule CRD for the cluster roles and
    their bindings, which other operands list without one; the VM console proxy, last,
    lists them without one. -/
theorem lastCrdCovers_WatchClusterTypes_openShift :
    LastCrdCovers ((sspOperands true).flatMap SspOperand.WatchClusterTypes) := by
  decide

/-- For the operands `CreateControllers` makes, on either platform, for the namespaced and
    the cluster watches and every CRD list: a type is watched exactly when some operand lists
    it with no CRD or one that exists, and on the full object exactly when some operand asks
    for that. Reordering the operands keeps the watches wherever the entries of each type
    name one CRD: for the namespaced watches, and for all of them off OpenShift. -/
theorem watch_registration_of_operands (runningOnOpenShift : Bool) (crdExists : String → Bool)
    (watchTypesFunc : SspOperand → List (WatchType GoType))
    (hfunc : watchTypesFunc = SspOperand.WatchTypes ∨
      watchTypesFunc = SspOperand.WatchClusterTypes) :
    (∀ t full, (t, full) ∈ watchResources crdExists (sspOperands runningOnOpenShift)
        watchTypesFunc ↔
      (∃ wt ∈ (sspOperands runningOnOpenShift).flatMap watchTypesFunc, wt.object = t ∧
        (wt.crd = "" ∨ crdExists wt.crd = true)) ∧
      full = (entriesFor ((sspOperands runningOnOpenShift).flatMap watchTypesFunc) t).any
        (·.watchFullObject)) ∧
    (runningOnOpenShift = false ∨ watchTypesFunc = SspOperand.WatchTypes →
      ∀ sspOperands' : List SspOperand, sspOperands'.Perm (sspOperands runningOnOpenShift) →
        watchResources crdExists sspOperands' watchTypesFunc =
          watchResources crdExists (sspOperands runningOnOpenShift) watchTypesFunc) := by
  -- the entries of a type are of one CRD, except for the cluster types on OpenShift
  have huniform : runningOnOpenShift = false ∨ watchTypesFunc = SspOperand.WatchTypes →
      UniformCrds ((sspOperands runningOnOpenShift).flatMap watchTypesFunc) := by
    rintro (rfl | rfl)
    · rcases hfunc with rfl | rfl
      · exact uniformCrds_WatchTypes false
      · exact uniformCrds_WatchClusterTypes_kubernetes
    · exact uniformCrds_WatchTypes runningOnOpenShift
  have hcovers : LastCrdCovers ((sspOperands runningOnOpenShift).flatMap watchTypesFunc) := by
    by_cases hcase : runningOnOpenShift = false ∨ watchTypesFunc = SspOperand.WatchTypes
    · exact .of_uniform (huniform hcase)
    · obtain ⟨hopen, hcluster⟩ : runningOnOpenShift = true ∧
          watchTypesFunc = SspOperand.WatchClusterTypes := by
        simp only [not_or, Bool.not_eq_false] at hcase
        exact ⟨hcase.1, hfunc.resolve_left hcase.2⟩
      subst hopen hcluster
      exact lastCrdCovers_WatchClusterTypes_openShift
  refine ⟨fun t full => mem_watchResources_iff_listed hcovers, ?_⟩
  intro hcase sspOperands' hperm
  exact watchResources_perm hperm.symm (huniform hcase) |>.symm

/-- On OpenShift without the PrometheusRule CRD, the cluster roles are watched: the template
    validator lists them without a CRD. -/
theorem cluster_roles_watched_without_prometheus :
    (SspOperand.WatchClusterTypes = SspOperand.WatchTypes ∨
      SspOperand.WatchClusterTypes = SspOperand.WatchClusterTypes) ∧
    (GoType.clusterRole, false) ∈ watchResources (fun crd => crd ≠ prometheusRulesCrd)
      (sspOperands true) SspOperand.WatchClusterTypes :=
  ⟨.inr rfl, ((watch_registration_of_operands true (fun crd => crd ≠ prometheusRulesCrd)
    SspOperand.WatchClusterTypes (.inr rfl)).1 GoType.clusterRole false).mpr
      ⟨⟨{ object := .clusterRole }, by decide, rfl, .inl rfl⟩, by decide⟩⟩

/-- Reordering the operands of `CreateControllers` on OpenShift so that the metrics operand
    comes last drops the watch on the cluster roles when the PrometheusRule CRD is missing,
    although the data-sources operand, the template validator and the VM console proxy list
    them without a CRD. -/
theorem metrics_last_drops_cluster_role_watch :
    [SspOperand.dataSources, .vmDeleteProtection, .templateValidator, .commonTemplates,
        .vmConsoleProxy, .metrics].Perm (sspOperands true) ∧
      (GoType.clusterRole, false) ∈ watchResources (fun crd => crd ≠ prometheusRulesCrd)
        (sspOperands true) SspOperand.WatchClusterTypes ∧
      (GoType.clusterRole, false) ∉ watchResources (fun crd => crd ≠ prometheusRulesCrd)
        [.dataSources, .vmDeleteProtection, .templateValidator, .commonTemplates,
          .vmConsoleProxy, .metrics] SspOperand.WatchClusterTypes := by
  decide

end SspOperator.Controllers
