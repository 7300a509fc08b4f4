import SspOperator.Lib.Loop
import SspOperator.Lib.KeyedMap
import SspOperator.Lib.Semver
import SspOperator.TemplateBundle

/-
  The desired DataSources of the data-sources operand
  (`internal/operands/data-sources/reconcile.go`, `resource.go`).

  Without multi-architecture support there is one DataSource per collected name that
  the cluster's architecture needs. With it, each collected name `d` gets a reference
  DataSource `d` pointing at `d-arch` for its default architecture, and a DataSource
  `d-arch` for each of its architectures the cluster runs.

  The reads of the cluster are parameters (`ClientReads`): the cached `Get` of a
  DataSource and the uncached `Get` of a PVC. The crons of the SSP are filed by the
  DataSource they manage (`getCronsByDataSource`, `getCronsByDataSourceMultiArch`);
  `getDataSourcesAndCrons` takes the two functions as parameters, and the theorems about
  the desired state pass the modelled ones.
-/

namespace SspOperator.Operands

open TemplateBundle

/-! ## Objects -/

/-- `cdiv1beta1.DataVolumeSourcePVC`. -/
structure DataVolumeSourcePVC where
  name : String
  ns : String
deriving DecidableEq

/-- `cdiv1beta1.DataSourceSource`; snapshot sources are never set here. -/
structure DataSourceSource where
  pvc : Option DataVolumeSourcePVC := none
  dataSource : Option NamespacedName := none
deriving DecidableEq

/-- `corev1.ConditionStatus`. -/
inductive ConditionStatus
  | true
  | false
  | unknown
deriving DecidableEq

/-- `cdiv1beta1.DataSource`: metadata, `spec.source`, and the status of its `Ready`
    condition when it has one (`getDataSourceReadyCondition`). -/
structure DataSource where
  objectMeta : ObjectMeta
  source : DataSourceSource
  readyCondition : Option ConditionStatus := none
deriving DecidableEq

/-- `newDataSource`: a DataSource over the golden-image PVC of the same name. -/
def newDataSource (name : String) : DataSource :=
  { objectMeta := { name := name, ns := GoldenImagesNamespace }
    source := { pvc := some { name := name, ns := GoldenImagesNamespace } } }

/-- `newDataSourceReference`: a DataSource pointing at another one. -/
def newDataSourceReference (name referenceName : String) : DataSource :=
  { objectMeta := { name := name, ns := GoldenImagesNamespace }
    source := { dataSource := some { ns := GoldenImagesNamespace, name := referenceName } } }

/-- `cdiv1beta1.DataImportCron`: its metadata and `spec.managedDataSource`. -/
structure DataImportCron where
  objectMeta : ObjectMeta
  managedDataSource : String
deriving DecidableEq

/-- The key `addToCronMap` files a cron under: the DataSource it manages, in its
    namespace. -/
def DataImportCron.key (cron : DataImportCron) : NamespacedName :=
  { ns := cron.objectMeta.ns, name := cron.managedDataSource }

/-- `map[client.ObjectKey]*DataImportCron`, in one of Go's iteration orders. -/
abbrev CronMap := List (NamespacedName × DataImportCron)

/-- `dataSourceInfo`. -/
structure DataSourceInfo where
  dataSource : DataSource
  autoUpdateEnabled : Bool := false
  dataImportCronName : String := ""
deriving DecidableEq

/-- `dataSourcesAndCrons`. -/
structure DataSourcesAndCrons where
  dataSourceInfos : List DataSourceInfo
  dataImportCrons : List DataImportCron

/-- The label of a DataSource that an import cron keeps up to date. -/
def dataImportCronLabel : String := "cdi.kubevirt.io/dataImportCron"

/-- `DataImportCronArchsAnnotation`. -/
def DataImportCronArchsAnnotation : String := "ssp.kubevirt.io/dict.architectures"

/-- Reads of the cluster made while computing the desired DataSources. -/
structure ClientReads where
  /-- The cached `Get` of a DataSource; `none` is not found. -/
  getDataSource : NamespacedName → Except String (Option DataSource)
  /-- The uncached `Get` of a PVC: whether it exists. -/
  pvcExists : NamespacedName → Except String Bool

/-- Wraps a returned error as `fmt.Errorf(prefix + "%w", err)`; a panic passes. -/
def Fault.wrap (pre : String) : Fault → Fault
  | .error msg => .error (pre ++ msg)
  | .panic msg => .panic msg

/-! ## Auto-update and the default DataSource -/

section client

variable (client : ClientReads)

/-- `checkIfPvcExists`. -/
def checkIfPvcExists (dataSource : DataSource) : Except Fault Bool :=
  match dataSource.source.pvc with
  | none => .ok false
  | some pvc => (client.pvcExists { ns := pvc.ns, name := pvc.name }).mapError Fault.error

/-- `dataSourceAutoUpdateEnabled`. The comparison of the found and the desired
    `Spec.Source.PVC` compares two pointers to different objects, which are equal only
    when both are nil. -/
def dataSourceAutoUpdateEnabled (dataSource : DataSource) (cronByDataSource : CronMap) :
    Except Fault Bool := do
  let objectKey := dataSource.objectMeta.key
  if (cronByDataSource.lookup objectKey).isNone then return false
  match ← (client.getDataSource objectKey).mapError Fault.error with
  | none =>
      let pvcExists ← checkIfPvcExists client dataSource
      pure !pvcExists
  | some foundDataSource =>
      if foundDataSource.objectMeta.labels.contains dataImportCronLabel then return true
      match foundDataSource.readyCondition with
      | some status =>
          if foundDataSource.source.pvc.isNone && dataSource.source.pvc.isNone then
            return status != .true
      | none => pure ()
      let pvcExists ← checkIfPvcExists client dataSource
      pure !pvcExists

/-- `handleDefaultDataSource`: the default-architecture DataSource keeps pointing at
    the original PVC where one is in use. -/
def handleDefaultDataSource (dataSource : DataSource) (autoUpdate : Bool)
    (originalPvcName : String) : Except Fault (DataSource × Bool) := do
  let withOriginalPvc : DataSource :=
    { dataSource with
      source := { dataSource.source with
        pvc := dataSource.source.pvc.map fun pvc => { pvc with name := originalPvcName } } }
  match ← (client.getDataSource dataSource.objectMeta.key).mapError Fault.error with
  | none =>
      let pvc ← deref dataSource.source.pvc
      let pvcExists ← (client.pvcExists { ns := pvc.ns, name := originalPvcName }).mapError
        Fault.error
      -- for backward compatibility an existing original PVC stays the source
      if pvcExists then pure (withOriginalPvc, false) else pure (dataSource, autoUpdate)
  | some foundDataSource =>
      if foundDataSource.objectMeta.labels.contains dataImportCronLabel then
        return (dataSource, autoUpdate)
      match foundDataSource.readyCondition with
      | none =>
          -- CDI has not seen the DataSource yet: it is left as it is
          pure ({ dataSource with source := foundDataSource.source }, false)
      | some status =>
          match foundDataSource.source.pvc with
          | some sourcePVC =>
              if status = .true && sourcePVC.name = originalPvcName &&
                  sourcePVC.ns = dataSource.objectMeta.ns then
                pure (withOriginalPvc, false)
              else pure (dataSource, autoUpdate)
          | none => pure (dataSource, autoUpdate)

/-- `dataSourceAutoUpdateEnabled` turns auto-update on only for a DataSource that a cron
    is kept for. -/
theorem dataSourceAutoUpdateEnabled_lookup {dataSource : DataSource} {cronByDataSource : CronMap}
    (h : dataSourceAutoUpdateEnabled client dataSource cronByDataSource = .ok true) :
    (cronByDataSource.lookup dataSource.objectMeta.key).isSome := by
  unfold dataSourceAutoUpdateEnabled at h
  cases hlookup : cronByDataSource.lookup dataSource.objectMeta.key with
  | none => simp [hlookup] at h
  | some cron => rfl

/-- The DataSource that `handleDefaultDataSource` returns has the metadata it was given,
    and its auto-update is the one given or off. -/
theorem handleDefaultDataSource_spec {dataSource result : DataSource} {autoUpdate au : Bool}
    {originalPvcName : String}
    (h : handleDefaultDataSource client dataSource autoUpdate originalPvcName = .ok (result, au)) :
    result.objectMeta = dataSource.objectMeta ∧ (au = autoUpdate ∨ au = false) := by
  -- every branch returns a DataSource with the given metadata, with the given auto-update or
  -- with none
  have hleaf : ∀ (ds : DataSource) (a : Bool),
      (pure (ds, a) : Except Fault (DataSource × Bool)) = .ok (result, au) →
      ds.objectMeta = dataSource.objectMeta → (a = autoUpdate ∨ a = false) →
      result.objectMeta = dataSource.objectMeta ∧ (au = autoUpdate ∨ au = false) := by
    intro ds a hpure hmeta ha
    simp only [except_pure, Except.ok.injEq, Prod.mk.injEq] at hpure
    obtain ⟨rfl, rfl⟩ := hpure
    exact ⟨hmeta, ha⟩
  unfold handleDefaultDataSource at h
  cases hget : client.getDataSource dataSource.objectMeta.key with
  | error e => simp [hget] at h
  | ok found =>
      cases found with
      | none =>
          cases hpvc : dataSource.source.pvc with
          | none => simp [hget, hpvc] at h
          | some pvc =>
              cases hexists : client.pvcExists { ns := pvc.ns, name := originalPvcName } with
              | error e => simp [hget, hpvc, hexists] at h
              | ok pvcExists =>
                  -- an existing original PVC stays the source, without auto-update
                  cases pvcExists <;> simp only [hget, hpvc, hexists, mapError_ok, except_ok_bind,
                    deref_some, Bool.false_eq_true, ↓reduceIte] at h
                  · exact hleaf _ _ h rfl (.inl rfl)
                  · exact hleaf _ _ h rfl (.inr rfl)
      | some foundDataSource =>
          simp only [hget, mapError_ok, except_ok_bind] at h
          split at h
          · -- kept up to date by a cron
            exact hleaf _ _ h rfl (.inl rfl)
          · split at h
            · -- not seen by CDI yet: the found source stays
              exact hleaf _ _ h rfl (.inr rfl)
            · split at h
              · -- a ready DataSource on the original PVC stays on it
                split at h
                · exact hleaf _ _ h rfl (.inr rfl)
                · exact hleaf _ _ h rfl (.inl rfl)
              · exact hleaf _ _ h rfl (.inl rfl)

end client

/-! ## The desired DataSources -/

/-- `getDefaultDataSourceArch`: the first cluster architecture the DataSource has;
    `none` is Go's `""`. -/
def getDefaultDataSourceArch (clusterArchs dataSourceArchs : List Arch) : Option Arch :=
  clusterArchs.find? (· ∈ dataSourceArchs)

/-- `parseArchsAnnotation`: unknown architectures are skipped. -/
def parseArchsAnnotation (value : String) : List Arch :=
  (value.splitOn ",").filterMap fun archStr =>
    match ToArch (String.ofList (Semver.TrimSpace archStr.toList)) with
    | .ok arch => some arch
    | .error _ => none

/-- The name of the cron that keeps a DataSource up to date, or `""`. -/
def dataImportCronNameFor (cronByDataSource : CronMap) (dataSource : DataSource) : String :=
  match cronByDataSource.lookup dataSource.objectMeta.key with
  | some dic => dic.objectMeta.name
  | none => ""

/-! ## The crons of the SSP -/

/-- `DataImportCronDataSourceNameLabel`. -/
def DataImportCronDataSourceNameLabel : String := "cdi.kubevirt.io/storage.import.datasource-name"

/-- A cron map being built: one cron for each key. -/
abbrev CronTable := AList fun _ : NamespacedName => DataImportCron

/-- The entries of a built cron map. -/
def CronTable.toCronMap (cronByDataSource : CronTable) : CronMap :=
  cronByDataSource.entries.map fun entry => (entry.1, entry.2)

/-- `addToCronMap`: a later cron for the same DataSource replaces an earlier one. -/
def addToCronMap (cronMap : CronTable) (cron : DataImportCron) : CronTable :=
  cronMap.insert cron.key cron

/-- `DataImportCronTemplate.AsDataImportCron`. -/
def DataImportCronTemplate.AsDataImportCron (t : DataImportCronTemplate) : DataImportCron :=
  { objectMeta := t.objectMeta, managedDataSource := t.managedDataSource }

/-- `setDataImportCronArchFields`; the registry platform of the cron's source is not
    modelled. -/
def setDataImportCronArchFields (cron : DataImportCron) (arch : Arch) : DataImportCron :=
  let archStr := arch.toString
  let managedSource := cron.managedDataSource
  { cron with
    objectMeta.labels := (cron.objectMeta.labels.set TemplateArchitectureLabel archStr).set
      DataImportCronDataSourceNameLabel managedSource
    managedDataSource := managedSource ++ "-" ++ archStr }

/-- `getCronsByDataSource`. -/
def getCronsByDataSource (sspSpec : SSPSpec) : CronMap :=
  let cronByDataSource := sspSpec.commonTemplates.dataImportCronTemplates.foldl
    (fun cronByDataSource cronTemplate =>
      let cron := DataImportCronTemplate.AsDataImportCron cronTemplate
      let cron : DataImportCron := if cron.objectMeta.ns = "" then
        { cron with objectMeta.ns := GoldenImagesNamespace } else cron
      -- the architecture annotation is not in the created cron
      let annotations := cron.objectMeta.annotations.delete DataImportCronArchsAnnotation
      let cron : DataImportCron := { cron with objectMeta.annotations := annotations }
      addToCronMap cronByDataSource cron)
    ∅
  cronByDataSource.toCronMap

/-- The body of `getCronsByDataSourceMultiArch`'s loop, for one cron template. -/
def cronsForTemplateMultiArch (sourceCollection : DataSourceCollection)
    (clusterArchs : List Arch) (cronByDataSource : CronTable)
    (cronTemplate : DataImportCronTemplate) : CronTable :=
  let cron := DataImportCronTemplate.AsDataImportCron cronTemplate
  let cron : DataImportCron := if cron.objectMeta.ns = "" then
    { cron with objectMeta.ns := GoldenImagesNamespace } else cron
  let archsAnnotationValue := cron.objectMeta.annotations.get DataImportCronArchsAnnotation
  let annotations := cron.objectMeta.annotations.delete DataImportCronArchsAnnotation
  let cron : DataImportCron := { cron with objectMeta.annotations := annotations }
  if archsAnnotationValue = "" then
    -- the managed DataSource is the one of the default architecture, where there is one
    match sourceCollection.lookup cron.managedDataSource with
    | none => addToCronMap cronByDataSource cron
    | some dsArchs =>
        match getDefaultDataSourceArch clusterArchs dsArchs with
        | none => addToCronMap cronByDataSource cron
        | some defaultArch =>
            addToCronMap cronByDataSource
              { cron with managedDataSource := cron.managedDataSource ++ "-" ++ defaultArch.toString }
  else
    -- one cron for each architecture of the annotation that the cluster runs
    let cronArchs := parseArchsAnnotation archsAnnotationValue
    cronArchs.foldl
      (fun cronByDataSource arch =>
        if arch ∉ clusterArchs then cronByDataSource
        else
          let cronCopy : DataImportCron :=
            { cron with objectMeta.name := cron.objectMeta.name ++ "-" ++ arch.toString }
          addToCronMap cronByDataSource (setDataImportCronArchFields cronCopy arch))
      cronByDataSource

/-- `getCronsByDataSourceMultiArch`. -/
def getCronsByDataSourceMultiArch (goarch : String) (sspSpec : SSPSpec)
    (sourceCollection : DataSourceCollection) : Except String CronMap := do
  if !sspSpec.isMultiarch then throw "multi-architecture needs to be enabled"
  let clusterArchs ← GetSSPArchs goarch sspSpec
  pure (sspSpec.commonTemplates.dataImportCronTemplates.foldl
    (cronsForTemplateMultiArch sourceCollection clusterArchs) ∅).toCronMap

section infos

variable (client : ClientReads) (goarch : String)

/-- The body of `getDataSourceInfos`'s loop, for one collected name. -/
def dataSourceInfoFor (sourceCollection : DataSourceCollection) (cronByDataSource : CronMap)
    (clusterArch : Arch) (dataSourceInfos : List DataSourceInfo) (name : String) :
    Except Fault (List DataSourceInfo) := do
  if !sourceCollection.Contains name clusterArch then return dataSourceInfos
  let dataSource := newDataSource name
  let autoUpdateEnabled ← dataSourceAutoUpdateEnabled client dataSource cronByDataSource
  pure (dataSourceInfos ++
    [{ dataSource := dataSource, autoUpdateEnabled := autoUpdateEnabled
       dataImportCronName := dataImportCronNameFor cronByDataSource dataSource }])

/-- `getDataSourceInfos`: the names the cluster's single architecture needs. -/
def getDataSourceInfos (sourceCollection : DataSourceCollection) (cronByDataSource : CronMap)
    (sspSpec : SSPSpec) : Except Fault (List DataSourceInfo) := do
  if sspSpec.isMultiarch then throw (.error ".spec.enableMultipleArchitectures needs to be false")
  let clusterArchs ← (GetSSPArchs goarch sspSpec).mapError Fault.error
  let clusterArch ← match clusterArchs with
    | arch :: _ => pure arch
    | [] => throw (.panic "runtime error: index out of range [0] with length 0")
  (sourceCollection.map (·.1)).foldlM
    (dataSourceInfoFor client sourceCollection cronByDataSource clusterArch) []

/-- The inner loop of `getDataSourceInfosMultiArch`, for one architecture of a name. -/
def dataSourceInfoForArch (cronByDataSource : CronMap) (clusterArchs : List Arch)
    (name : String) (defaultArch : Arch) (dataSourceInfos : List DataSourceInfo) (arch : Arch) :
    Except Fault (List DataSourceInfo) := do
  if arch ∉ clusterArchs then return dataSourceInfos
  let dsName := name ++ "-" ++ arch.toString
  let dataSource : DataSource :=
    { newDataSource dsName with
      objectMeta.labels := StringMap.ofList [(TemplateArchitectureLabel, arch.toString)] }
  let autoUpdateEnabled ← dataSourceAutoUpdateEnabled client dataSource cronByDataSource
  -- the default architecture's DataSource keeps backward compatibility
  let (dataSource, autoUpdateEnabled) ←
    if arch = defaultArch then
      (handleDefaultDataSource client dataSource autoUpdateEnabled name).mapError
        (Fault.wrap "faield to handle default DataSource: ")
    else pure (dataSource, autoUpdateEnabled)
  pure (dataSourceInfos ++
    [{ dataSource := dataSource, autoUpdateEnabled := autoUpdateEnabled
       dataImportCronName := dataImportCronNameFor cronByDataSource dataSource }])

/-- The outer loop of `getDataSourceInfosMultiArch`, for one collected name. -/
def dataSourceInfosForName (cronByDataSource : CronMap) (clusterArchs : List Arch)
    (dataSourceInfos : List DataSourceInfo) (entry : String × List Arch) :
    Except Fault (List DataSourceInfo) :=
  let (name, dsArchs) := entry
  match getDefaultDataSourceArch clusterArchs dsArchs with
  | none => pure dataSourceInfos
  | some defaultArch =>
      dsArchs.foldlM (dataSourceInfoForArch client cronByDataSource clusterArchs name defaultArch)
        (dataSourceInfos ++
          [{ dataSource := newDataSourceReference name (name ++ "-" ++ defaultArch.toString) }])

/-- `getDataSourceInfosMultiArch`. -/
def getDataSourceInfosMultiArch (sourceCollection : DataSourceCollection)
    (cronByDataSource : CronMap) (sspSpec : SSPSpec) : Except Fault (List DataSourceInfo) := do
  if !sspSpec.isMultiarch then throw (.error "multi-architecture needs to be enabled")
  let clusterArchs ← (GetSSPArchs goarch sspSpec).mapError Fault.error
  sourceCollection.foldlM (dataSourceInfosForName client cronByDataSource clusterArchs) []

/-- `addDataSourceReferenceForCrons`: references for the multi-architecture crons of the
    SSP that no template asked for. -/
def addDataSourceReferenceForCrons (dataSourceInfos : List DataSourceInfo)
    (cronTemplates : List DataImportCronTemplate) (clusterArchs : List Arch) :
    List DataSourceInfo :=
  cronTemplates.foldl
    (fun dataSourceInfos cronTemplate =>
      let dsName := cronTemplate.managedDataSource
      if dataSourceInfos.any (·.dataSource.objectMeta.name = dsName) then dataSourceInfos
      else
        let archsAnnotationValue := cronTemplate.objectMeta.annotations.get
          DataImportCronArchsAnnotation
        if archsAnnotationValue = "" then dataSourceInfos
        else
          let cronArchs := parseArchsAnnotation archsAnnotationValue
          match getDefaultDataSourceArch clusterArchs cronArchs with
          | none => dataSourceInfos
          | some defaultArch =>
              dataSourceInfos ++
                [{ dataSource := newDataSourceReference dsName (dsName ++ "-" ++ defaultArch.toString) }])
    dataSourceInfos

/-- `dataSources.getDataSourcesAndCrons`. The crons by DataSource come from
    `getCronsByDataSource` or, with multi-architecture support,
    `getCronsByDataSourceMultiArch`, given here as functions. -/
def getDataSourcesAndCrons (getCronsByDataSource : SSPSpec → CronMap)
    (getCronsByDataSourceMultiArch : SSPSpec → DataSourceCollection → Except String CronMap)
    (sourceCollection : DataSourceCollection) (sspSpec : SSPSpec) :
    Except Fault DataSourcesAndCrons := do
  let isMultiarch := sspSpec.isMultiarch
  let cronByDataSource ←
    if isMultiarch then
      (getCronsByDataSourceMultiArch sspSpec sourceCollection).mapError fun err =>
        .error ("failed to get DataImportCrons: " ++ err)
    else pure (getCronsByDataSource sspSpec)
  let dataSourceInfos ←
    if isMultiarch then do
      let dataSourceInfos ← (getDataSourceInfosMultiArch client goarch sourceCollection
        cronByDataSource sspSpec).mapError (Fault.wrap "failed to get DataSources: ")
      let clusterArchs ← (GetSSPArchs goarch sspSpec).mapError fun err =>
        .error ("failed to get ClusterArchs: " ++ err)
      pure (addDataSourceReferenceForCrons dataSourceInfos
        sspSpec.commonTemplates.dataImportCronTemplates clusterArchs)
    else
      (getDataSourceInfos client goarch sourceCollection cronByDataSource sspSpec).mapError
        (Fault.wrap "failed to get DataSources: ")
  -- crons of DataSources without auto-update are not created
  let crons := dataSourceInfos.foldl
    (fun crons info =>
      if !info.autoUpdateEnabled then crons.filter (·.1 ≠ info.dataSource.objectMeta.key)
      else crons)
    cronByDataSource
  pure { dataSourceInfos := dataSourceInfos, dataImportCrons := crons.map (·.2) }

end infos

/-! ## Which names are desired -/

/-- An info for the DataSource `name` in the golden-images namespace. -/
def HasDataSource (dataSourceInfos : List DataSourceInfo) (name : String) : Prop :=
  ∃ info ∈ dataSourceInfos, info.dataSource.objectMeta.name = name ∧
    info.dataSource.objectMeta.ns = GoldenImagesNamespace

theorem HasDataSource.mono {infos infos' : List DataSourceInfo} {name : String}
    (h : HasDataSource infos name) (hsub : infos <+: infos') : HasDataSource infos' name := by
  obtain ⟨info, hmem, hname, hns⟩ := h
  exact ⟨info, hsub.subset hmem, hname, hns⟩

theorem hasDataSource_append_singleton (infos : List DataSourceInfo) (info : DataSourceInfo)
    (hns : info.dataSource.objectMeta.ns = GoldenImagesNamespace) :
    HasDataSource (infos ++ [info]) info.dataSource.objectMeta.name :=
  ⟨info, List.mem_append_right _ (List.mem_singleton_self _), rfl, hns⟩

/-- An info whose auto-update is on has a cron kept for its DataSource, and records that
    cron's name. -/
def CronAgrees (cronByDataSource : CronMap) (info : DataSourceInfo) : Prop :=
  info.autoUpdateEnabled = true → ∃ cron,
    cronByDataSource.lookup info.dataSource.objectMeta.key = some cron ∧
      cron.objectMeta.name = info.dataImportCronName

/-- An info that records `dataImportCronNameFor` of its DataSource, and whose auto-update
    needs a cron, agrees with the crons. -/
theorem cronAgrees_of_lookup {cronByDataSource : CronMap} {info : DataSourceInfo}
    (hlookup : info.autoUpdateEnabled = true →
      (cronByDataSource.lookup info.dataSource.objectMeta.key).isSome)
    (hname : info.dataImportCronName = dataImportCronNameFor cronByDataSource info.dataSource) :
    CronAgrees cronByDataSource info := by
  intro hauto
  obtain ⟨cron, hcron⟩ := Option.isSome_iff_exists.mp (hlookup hauto)
  refine ⟨cron, hcron, ?_⟩
  rw [hname, dataImportCronNameFor, hcron]

/-- The default architecture exists whenever the cluster runs one of the DataSource's
    architectures. -/
theorem getDefaultDataSourceArch_isSome {clusterArchs dataSourceArchs : List Arch} {arch : Arch}
    (hcluster : arch ∈ clusterArchs) (hds : arch ∈ dataSourceArchs) :
    (getDefaultDataSourceArch clusterArchs dataSourceArchs).isSome := by
  unfold getDefaultDataSourceArch
  rw [List.find?_isSome]
  exact ⟨arch, hcluster, by simpa using hds⟩

/-- A name with architectures is an entry of the collection. -/
theorem mem_of_mem_get {d : DataSourceCollection} {name : String} {arch : Arch}
    (h : arch ∈ d.get name) : (name, d.get name) ∈ d := by
  unfold DataSourceCollection.get at h ⊢
  cases hl : d.lookup name with
  | none => simp [hl] at h
  | some archs =>
      obtain ⟨l₁, l₂, rfl, -⟩ := List.lookup_eq_some_iff.mp hl
      simp

section desired

variable (client : ClientReads) (goarch : String)

/-- What one step of the inner loop does: nothing for an architecture the cluster does
    not run, and otherwise it appends the DataSource `name-arch`, in agreement with the
    crons. -/
theorem dataSourceInfoForArch_cases {cronByDataSource : CronMap} {clusterArchs : List Arch}
    {name : String} {defaultArch arch : Arch} {infos infos' : List DataSourceInfo}
    (h : dataSourceInfoForArch client cronByDataSource clusterArchs name defaultArch infos arch =
      .ok infos') :
    (arch ∉ clusterArchs ∧ infos' = infos) ∨
      (arch ∈ clusterArchs ∧ ∃ info : DataSourceInfo, infos' = infos ++ [info] ∧
        info.dataSource.objectMeta =
          { name := name ++ "-" ++ arch.toString, ns := GoldenImagesNamespace,
            labels := StringMap.ofList [(TemplateArchitectureLabel, arch.toString)] } ∧
        CronAgrees cronByDataSource info) := by
  unfold dataSourceInfoForArch at h
  by_cases harch : arch ∈ clusterArchs
  · simp only [harch, not_true_eq_false, ↓reduceIte] at h
    refine Or.inr ⟨harch, ?_⟩
    cases hauto : dataSourceAutoUpdateEnabled client
        { newDataSource (name ++ "-" ++ arch.toString) with
          objectMeta.labels := StringMap.ofList [(TemplateArchitectureLabel, arch.toString)] }
        cronByDataSource with
    | error e => simp [hauto] at h
    | ok autoUpdateEnabled =>
        simp only [hauto, except_ok_bind] at h
        have hlookup := fun hon : autoUpdateEnabled = true =>
          dataSourceAutoUpdateEnabled_lookup client (hon ▸ hauto)
        by_cases hdefault : arch = defaultArch
        · -- the default architecture's DataSource, as `handleDefaultDataSource` leaves it
          subst hdefault
          simp only [↓reduceIte] at h
          cases hhandle : handleDefaultDataSource client
              { newDataSource (name ++ "-" ++ arch.toString) with
                objectMeta.labels := StringMap.ofList [(TemplateArchitectureLabel, arch.toString)] }
              autoUpdateEnabled name with
          | error e => simp [hhandle] at h
          | ok pair =>
              simp only [hhandle, mapError_ok, except_ok_bind, except_pure, Except.ok.injEq] at h
              obtain ⟨hmeta, hau⟩ := handleDefaultDataSource_spec client hhandle
              refine ⟨_, h.symm, hmeta, cronAgrees_of_lookup ?_ rfl⟩
              intro hon
              rw [hmeta]
              rcases hau with hau | hau
              · exact hlookup (hau ▸ hon)
              · rw [hau] at hon
                cases hon
        · simp only [hdefault, ↓reduceIte, except_ok_bind, except_pure, Except.ok.injEq] at h
          exact ⟨_, h.symm, rfl, cronAgrees_of_lookup hlookup rfl⟩
  · have hnot : arch ∉ clusterArchs := harch
    simp only [hnot, not_false_eq_true, ↓reduceIte, except_pure, Except.ok.injEq] at h
    exact Or.inl ⟨harch, h.symm⟩

/-- One step of the inner loop only appends, and adds `name-arch` for an architecture
    of the cluster. -/
theorem dataSourceInfoForArch_spec {cronByDataSource : CronMap} {clusterArchs : List Arch}
    {name : String} {defaultArch arch : Arch} {infos infos' : List DataSourceInfo}
    (h : dataSourceInfoForArch client cronByDataSource clusterArchs name defaultArch infos arch =
      .ok infos') :
    infos <+: infos' ∧ (arch ∈ clusterArchs → HasDataSource infos' (name ++ "-" ++ arch.toString)) := by
  rcases dataSourceInfoForArch_cases client h with ⟨harch, rfl⟩ | ⟨-, info, rfl, hmeta, -⟩
  · exact ⟨List.prefix_refl _, fun hin => absurd hin harch⟩
  · refine ⟨List.prefix_append _ _, fun _ => ?_⟩
    have hname : info.dataSource.objectMeta.name = name ++ "-" ++ arch.toString := by rw [hmeta]
    have hns : info.dataSource.objectMeta.ns = GoldenImagesNamespace := by rw [hmeta]
    exact hname ▸ hasDataSource_append_singleton infos _ hns

/-- One name of the outer loop: nothing without a default architecture, and otherwise the
    inner loop over its architectures, after the reference named after it. -/
theorem dataSourceInfosForName_cases {cronByDataSource : CronMap} {clusterArchs : List Arch}
    {infos infos' : List DataSourceInfo} {name : String} {dsArchs : List Arch}
    (h : dataSourceInfosForName client cronByDataSource clusterArchs infos (name, dsArchs) =
      .ok infos') :
    (getDefaultDataSourceArch clusterArchs dsArchs = none ∧ infos' = infos) ∨
      ∃ defaultArch, getDefaultDataSourceArch clusterArchs dsArchs = some defaultArch ∧
        dsArchs.foldlM (dataSourceInfoForArch client cronByDataSource clusterArchs name defaultArch)
          (infos ++ [{ dataSource := newDataSourceReference name (name ++ "-" ++ defaultArch.toString) }]) =
          .ok infos' := by
  unfold dataSourceInfosForName at h
  cases hdefault : getDefaultDataSourceArch clusterArchs dsArchs with
  | none =>
      simp only [hdefault, except_pure, Except.ok.injEq] at h
      exact Or.inl ⟨rfl, h.symm⟩
  | some defaultArch =>
      simp only [hdefault] at h
      exact Or.inr ⟨defaultArch, rfl, h⟩

/-- One name of the outer loop: every architecture of the name that the cluster runs
    gets its DataSource. -/
theorem dataSourceInfosForName_spec {cronByDataSource : CronMap} {clusterArchs : List Arch}
    {infos infos' : List DataSourceInfo} {entry : String × List Arch}
    (h : dataSourceInfosForName client cronByDataSource clusterArchs infos entry = .ok infos') :
    infos <+: infos' ∧ ∀ arch ∈ entry.2, arch ∈ clusterArchs →
      HasDataSource infos' (entry.1 ++ "-" ++ arch.toString) := by
  obtain ⟨name, dsArchs⟩ := entry
  rcases dataSourceInfosForName_cases client h with ⟨hdefault, rfl⟩ | ⟨defaultArch, -, h⟩
  · -- an architecture of the cluster would have been the default one
    refine ⟨List.prefix_refl _, fun arch hds hcluster => ?_⟩
    have hsome := getDefaultDataSourceArch_isSome hcluster hds
    rw [hdefault] at hsome
    cases hsome
  · -- the inner loop over the name's architectures
    have hloop := Loop.foldlM_inv
      (dataSourceInfoForArch client cronByDataSource clusterArchs name defaultArch)
      (fun done acc => infos <+: acc ∧ ∀ arch ∈ done, arch ∈ clusterArchs →
        HasDataSource acc (name ++ "-" ++ arch.toString))
      (by
        intro done acc arch acc' ⟨hpre, hdone⟩ hstep
        obtain ⟨hpre', hnew⟩ := dataSourceInfoForArch_spec client hstep
        refine ⟨hpre.trans hpre', fun a ha hcluster => ?_⟩
        rcases List.mem_append.mp ha with ha | ha
        · exact (hdone a ha hcluster).mono hpre'
        · rw [List.mem_singleton.mp ha]
          exact hnew (List.mem_singleton.mp ha ▸ hcluster))
      dsArchs [] _ infos' ⟨List.prefix_append _ _, fun _ ha => by cases ha⟩ h
    simpa using hloop

/-- A successful `getDataSourceInfosMultiArch` is its loop over the collection, for the
    cluster's architectures. -/
theorem getDataSourceInfosMultiArch_eq_ok {sourceCollection : DataSourceCollection}
    {cronByDataSource : CronMap} {sspSpec : SSPSpec} {infos : List DataSourceInfo}
    (h : getDataSourceInfosMultiArch client goarch sourceCollection cronByDataSource sspSpec =
      .ok infos) :
    sspSpec.isMultiarch = true ∧ ∃ clusterArchs, GetSSPArchs goarch sspSpec = .ok clusterArchs ∧
      sourceCollection.foldlM (dataSourceInfosForName client cronByDataSource clusterArchs) [] =
        .ok infos := by
  unfold getDataSourceInfosMultiArch at h
  cases hmulti : sspSpec.isMultiarch with
  | false => simp [hmulti] at h
  | true =>
      cases harchs : GetSSPArchs goarch sspSpec with
      | error e => simp [hmulti, harchs] at h
      | ok clusterArchs =>
          simp only [hmulti, Bool.not_true, Bool.false_eq_true, ↓reduceIte, mapError_ok,
            except_ok_bind, harchs] at h
          exact ⟨rfl, clusterArchs, rfl, h⟩

/-- With multi-architecture support, every architecture of a collected name that the
    cluster runs has its DataSource `name-arch`. -/
theorem getDataSourceInfosMultiArch_spec {sourceCollection : DataSourceCollection}
    {cronByDataSource : CronMap} {sspSpec : SSPSpec} {clusterArchs : List Arch}
    {infos : List DataSourceInfo}
    (harchs : GetSSPArchs goarch sspSpec = .ok clusterArchs)
    (h : getDataSourceInfosMultiArch client goarch sourceCollection cronByDataSource sspSpec =
      .ok infos) :
    ∀ name, ∀ arch ∈ sourceCollection.get name, arch ∈ clusterArchs →
      HasDataSource infos (name ++ "-" ++ arch.toString) := by
  obtain ⟨-, clusterArchs', harchs', h⟩ := getDataSourceInfosMultiArch_eq_ok client goarch h
  rw [harchs, Except.ok.injEq] at harchs'
  subst harchs'
  -- the outer loop over the collection
  have hloop := Loop.foldlM_inv (dataSourceInfosForName client cronByDataSource clusterArchs)
    (fun done acc => ∀ entry ∈ done, ∀ arch ∈ entry.2, arch ∈ clusterArchs →
      HasDataSource acc (entry.1 ++ "-" ++ arch.toString))
    (by
      intro done acc entry acc' hdone hstep
      obtain ⟨hpre, hnew⟩ := dataSourceInfosForName_spec client hstep
      intro e he arch harch hcluster
      rcases List.mem_append.mp he with he | he
      · exact (hdone e he arch harch hcluster).mono hpre
      · rw [List.mem_singleton.mp he] at harch ⊢
        exact hnew arch harch hcluster)
    sourceCollection [] [] infos (fun _ he => by cases he) h
  intro name arch harch hcluster
  exact hloop _ (by simpa using mem_of_mem_get harch) arch harch hcluster

/-- What one name of `getDataSourceInfos`'s loop does: nothing for a name the cluster's
    architecture does not need, and otherwise it appends the DataSource `newDataSource name`. -/
theorem dataSourceInfoFor_cases {sourceCollection : DataSourceCollection}
    {cronByDataSource : CronMap} {arch : Arch} {infos infos' : List DataSourceInfo}
    {name : String}
    (h : dataSourceInfoFor client sourceCollection cronByDataSource arch infos name = .ok infos') :
    (arch ∉ sourceCollection.get name ∧ infos' = infos) ∨
      ∃ info : DataSourceInfo, infos' = infos ++ [info] ∧ info.dataSource = newDataSource name := by
  unfold dataSourceInfoFor at h
  by_cases hcontains : sourceCollection.Contains name arch = true
  · simp only [hcontains, Bool.not_true, Bool.false_eq_true, ↓reduceIte] at h
    obtain ⟨autoUpdateEnabled, -, h⟩ := except_bind_eq_ok.mp h
    simp only [except_pure, Except.ok.injEq] at h
    exact Or.inr ⟨_, h.symm, rfl⟩
  · simp only [Bool.not_eq_true] at hcontains
    simp only [hcontains, Bool.not_false, ↓reduceIte, except_pure, Except.ok.injEq] at h
    refine Or.inl ⟨fun harch => ?_, h.symm⟩
    simp [DataSourceCollection.Contains, harch] at hcontains

/-- One name of `getDataSourceInfos`'s loop only appends, and adds the name when the
    cluster's architecture needs it. -/
theorem dataSourceInfoFor_spec {sourceCollection : DataSourceCollection}
    {cronByDataSource : CronMap} {arch : Arch} {infos infos' : List DataSourceInfo}
    {name : String}
    (h : dataSourceInfoFor client sourceCollection cronByDataSource arch infos name = .ok infos') :
    infos <+: infos' ∧ (arch ∈ sourceCollection.get name → HasDataSource infos' name) := by
  rcases dataSourceInfoFor_cases client h with ⟨harch, rfl⟩ | ⟨info, rfl, hds⟩
  · exact ⟨List.prefix_refl _, fun hin => absurd hin harch⟩
  · have hname : info.dataSource.objectMeta.name = name := by rw [hds]; rfl
    refine ⟨List.prefix_append _ _, fun _ => ?_⟩
    exact hname ▸ hasDataSource_append_singleton infos _ (by rw [hds]; rfl)

/-- A successful `getDataSourceInfos` is its loop over the collected names, for the first
    architecture of the cluster. -/
theorem getDataSourceInfos_eq_ok {sourceCollection : DataSourceCollection}
    {cronByDataSource : CronMap} {sspSpec : SSPSpec} {infos : List DataSourceInfo}
    (h : getDataSourceInfos client goarch sourceCollection cronByDataSource sspSpec = .ok infos) :
    sspSpec.isMultiarch = false ∧ ∃ arch rest, GetSSPArchs goarch sspSpec = .ok (arch :: rest) ∧
      (sourceCollection.map (·.1)).foldlM
        (dataSourceInfoFor client sourceCollection cronByDataSource arch) [] = .ok infos := by
  unfold getDataSourceInfos at h
  cases hmulti : sspSpec.isMultiarch with
  | true => simp [hmulti] at h
  | false =>
      cases harchs : GetSSPArchs goarch sspSpec with
      | error e => simp [hmulti, harchs] at h
      | ok clusterArchs =>
          cases clusterArchs with
          | nil => simp [hmulti, harchs] at h
          | cons arch rest =>
              simp only [hmulti, Bool.false_eq_true, ↓reduceIte, harchs, mapError_ok,
                except_ok_bind, except_pure] at h
              exact ⟨rfl, arch, rest, rfl, h⟩

/-- Without multi-architecture support, every collected name that the cluster's
    architecture needs has its DataSource. -/
theorem getDataSourceInfos_spec {sourceCollection : DataSourceCollection}
    {cronByDataSource : CronMap} {sspSpec : SSPSpec} {arch : Arch} {rest : List Arch}
    {infos : List DataSourceInfo}
    (harchs : GetSSPArchs goarch sspSpec = .ok (arch :: rest))
    (h : getDataSourceInfos client goarch sourceCollection cronByDataSource sspSpec = .ok infos) :
    ∀ name, arch ∈ sourceCollection.get name → HasDataSource infos name := by
  obtain ⟨-, arch', rest', harchs', h⟩ := getDataSourceInfos_eq_ok client goarch h
  rw [harchs, Except.ok.injEq, List.cons.injEq] at harchs'
  obtain ⟨rfl, -⟩ := harchs'
  -- the loop over the collected names
  have hloop := Loop.foldlM_inv (dataSourceInfoFor client sourceCollection cronByDataSource arch)
    (fun done acc => ∀ name ∈ done, arch ∈ sourceCollection.get name → HasDataSource acc name)
    (by
      intro done acc name acc' hdone hstep
      obtain ⟨hpre, hnew⟩ := dataSourceInfoFor_spec client hstep
      intro n hn harch
      rcases List.mem_append.mp hn with hn | hn
      · exact (hdone n hn harch).mono hpre
      · rw [List.mem_singleton.mp hn] at harch ⊢
        exact hnew harch)
    (sourceCollection.map (·.1)) [] [] infos (fun _ hn => by cases hn) h
  intro name harch
  have hkey : name ∈ sourceCollection.map (·.1) :=
    List.mem_map.mpr ⟨_, mem_of_mem_get harch, rfl⟩
  exact hloop name (by simpa using hkey) harch

/-- What one cron template does to the references: nothing, or it appends a reference named
    after its DataSource, a name no DataSource has yet. -/
theorem addDataSourceReferenceForCrons_single (infos : List DataSourceInfo)
    (cronTemplate : DataImportCronTemplate) (clusterArchs : List Arch) :
    addDataSourceReferenceForCrons infos [cronTemplate] clusterArchs = infos ∨
      ∃ referenceName, cronTemplate.managedDataSource ∉ infos.map (·.dataSource.objectMeta.name) ∧
        addDataSourceReferenceForCrons infos [cronTemplate] clusterArchs =
          infos ++
            [{ dataSource := newDataSourceReference cronTemplate.managedDataSource referenceName }] := by
  unfold addDataSourceReferenceForCrons
  simp only [List.foldl_cons, List.foldl_nil]
  -- a name already taken, no annotation and no architecture of the cluster keep the list
  split
  · exact Or.inl rfl
  · rename_i htaken
    split
    · exact Or.inl rfl
    · split
      · exact Or.inl rfl
      · refine Or.inr ⟨_, ?_, rfl⟩
        simpa using htaken

/-- The cron templates are handled one after the other. -/
theorem addDataSourceReferenceForCrons_cons (infos : List DataSourceInfo)
    (cronTemplate : DataImportCronTemplate) (rest : List DataImportCronTemplate)
    (clusterArchs : List Arch) :
    addDataSourceReferenceForCrons infos (cronTemplate :: rest) clusterArchs =
      addDataSourceReferenceForCrons (addDataSourceReferenceForCrons infos [cronTemplate]
        clusterArchs) rest clusterArchs :=
  rfl

/-- The references added for the SSP's own crons come after the operand's DataSources. -/
theorem prefix_addDataSourceReferenceForCrons (cronTemplates : List DataImportCronTemplate)
    (clusterArchs : List Arch) :
    ∀ infos : List DataSourceInfo,
      infos <+: addDataSourceReferenceForCrons infos cronTemplates clusterArchs := by
  induction cronTemplates with
  | nil => intro infos; exact List.prefix_refl _
  | cons cronTemplate rest ih =>
      intro infos
      rw [addDataSourceReferenceForCrons_cons]
      refine List.IsPrefix.trans ?_ (ih _)
      rcases addDataSourceReferenceForCrons_single infos cronTemplate clusterArchs with
        hsame | ⟨_, -, happend⟩
      · rw [hsame]
      · rw [happend]
        exact List.prefix_append _ _

/-- The DataSources of `getDataSourcesAndCrons` are those of the operand's own
    computation for the cluster, followed, with multi-architecture support, by the
    references for the SSP's crons. -/
theorem getDataSourcesAndCrons_infos
    {getCronsByDataSource : SSPSpec → CronMap}
    {getCronsByDataSourceMultiArch : SSPSpec → DataSourceCollection → Except String CronMap}
    {sourceCollection : DataSourceCollection} {sspSpec : SSPSpec} {result : DataSourcesAndCrons}
    (h : getDataSourcesAndCrons client goarch getCronsByDataSource getCronsByDataSourceMultiArch
      sourceCollection sspSpec = .ok result) :
    ∃ cronByDataSource : CronMap,
      (sspSpec.isMultiarch = true → ∃ infos,
        getDataSourceInfosMultiArch client goarch sourceCollection cronByDataSource sspSpec =
          .ok infos ∧ infos <+: result.dataSourceInfos) ∧
      (sspSpec.isMultiarch = false →
        getDataSourceInfos client goarch sourceCollection cronByDataSource sspSpec =
          .ok result.dataSourceInfos) := by
  unfold getDataSourcesAndCrons at h
  cases hmulti : sspSpec.isMultiarch with
  | false =>
      simp only [hmulti, Bool.false_eq_true, ↓reduceIte, except_pure, except_ok_bind] at h
      obtain ⟨infos, hinfos, h⟩ := except_bind_eq_ok.mp h
      simp only [Except.ok.injEq] at h
      subst h
      refine ⟨getCronsByDataSource sspSpec, fun hcontra => ?_, fun _ => ?_⟩
      · cases hcontra
      · simpa using hinfos
  | true =>
      simp only [hmulti, ↓reduceIte] at h
      obtain ⟨cronByDataSource, -, h⟩ := except_bind_eq_ok.mp h
      obtain ⟨infos, hinfos, h⟩ := except_bind_eq_ok.mp h
      obtain ⟨clusterArchs, -, h⟩ := except_bind_eq_ok.mp h
      simp only [except_pure, except_ok_bind, Except.ok.injEq] at h
      subst h
      -- the operand's own DataSources, then the references for the SSP's crons
      refine ⟨cronByDataSource, fun _ => ⟨infos, ?_, prefix_addDataSourceReferenceForCrons _ _ infos⟩,
        fun hcontra => ?_⟩
      · simpa using hinfos
      · cases hcontra

end desired

/-! ## Deployed templates and desired DataSources -/

section agreement

variable {ο : Type}

/-- Every template the common-templates operand deploys that takes its disk from a
    DataSource names, in `DATA_SOURCE_NAME`, a DataSource the data-sources operand
    creates in the golden-images namespace: `d-arch` with multi-architecture support,
    `d` without, where `d` is the bundle's value and `arch` the template's architecture. -/
theorem deployed_template_data_source_is_desired
    (decode : ο → Except String (List (String × JsonValue))) (bundle : List (Template ο))
    {sourceCollection : DataSourceCollection}
    (hcollect : CollectDataSources decode bundle = .ok sourceCollection)
    {c : CommonTemplatesOperand ο} (hnew : New bundle = .ok c)
    (client : ClientReads) (goarch : String) (sspSpec : SSPSpec) {clusterArchs : List Arch}
    (harchs : GetSSPArchs goarch sspSpec = .ok clusterArchs)
    (getCronsByDataSource : SSPSpec → CronMap)
    (getCronsByDataSourceMultiArch : SSPSpec → DataSourceCollection → Except String CronMap)
    {result : DataSourcesAndCrons}
    (hresult : getDataSourcesAndCrons client goarch getCronsByDataSource
      getCronsByDataSourceMultiArch sourceCollection sspSpec = .ok result)
    {template : Template ο} (hdeployed : template ∈ c.getTemplatesForArchs clusterArchs sspSpec)
    (huses : vmTemplateUsesSourceRef decode template = .ok true)
    {v : String} (hv : findParameterValue TemplateDataSourceParameterName template = some v) :
    HasDataSource result.dataSourceInfos v ∧
      ∃ t₀ ∈ bundle, ∃ arch ∈ clusterArchs, ∃ d, GetTemplateArch t₀ = .ok arch ∧
        findParameterValue TemplateDataSourceParameterName t₀ = some d ∧
        v = if sspSpec.isMultiarch then d ++ "-" ++ arch.toString else d := by
  obtain ⟨arch, harch, t₀, ht₀, rfl⟩ := mem_getTemplatesForArchs.mp hdeployed
  obtain ⟨hbundle, harch₀⟩ := New_groupedByArch hnew arch t₀ ht₀
  -- the bundle template behind the deployed one: its DataSource use and its value `d`
  have huses₀ : vmTemplateUsesSourceRef decode t₀ = .ok true := by
    split at huses
    · rwa [vmTemplateUsesSourceRef_addArchSuffix] at huses
    · exact huses
  obtain ⟨d, hd, hvd⟩ : ∃ d, findParameterValue TemplateDataSourceParameterName t₀ = some d ∧
      v = if sspSpec.isMultiarch then d ++ "-" ++ arch.toString else d := by
    cases hmulti : sspSpec.isMultiarch
    · simp only [hmulti, Bool.false_eq_true, ↓reduceIte] at hv ⊢
      exact ⟨v, hv, rfl⟩
    · simp only [hmulti, ↓reduceIte, findParameterValue_addArchSuffix, Option.map_eq_some_iff]
        at hv ⊢
      obtain ⟨d, hd, rfl⟩ := hv
      exact ⟨d, hd, rfl⟩
  have hname : findDataSourceName t₀ = some d := by
    simp [findDataSourceName, hd]
  have hcollected : arch ∈ sourceCollection.get d :=
    CollectDataSources_spec hcollect t₀ hbundle huses₀ d arch hname harch₀
  refine ⟨?_, t₀, hbundle, arch, harch, d, harch₀, hd, hvd⟩
  obtain ⟨cronByDataSource, hmultiInfos, hsingleInfos⟩ := getDataSourcesAndCrons_infos client goarch hresult
  cases hmulti : sspSpec.isMultiarch
  · -- one architecture, and the name itself
    obtain ⟨a₀, rfl⟩ := GetSSPArchs_single hmulti harchs
    obtain rfl : arch = a₀ := List.mem_singleton.mp harch
    rw [hvd, hmulti]
    exact getDataSourceInfos_spec client goarch harchs (hsingleInfos hmulti) d hcollected
  · -- the DataSource of the template's architecture
    obtain ⟨infos, hinfos, hpre⟩ := hmultiInfos hmulti
    rw [hvd, hmulti]
    exact (getDataSourceInfosMultiArch_spec client goarch harchs hinfos d arch hcollected
      harch).mono hpre

/-- A VM that takes its disk from a DataSource. -/
def fedoraVm : List (String × JsonValue) :=
  [("apiVersion", .string "kubevirt.io/v1"), ("kind", .string "VirtualMachine"),
   ("spec", .object [("dataVolumeTemplates", .array
      [.object [("spec", .object [("sourceRef", .object [("kind", .string "DataSource")])])]])])]

/-- A bundle template for `fedoraVm`, with `DATA_SOURCE_NAME` set. -/
def fedoraTemplate : Template Unit :=
  { objectMeta := { name := "fedora-server-small", ns := "openshift" }
    objects := [()]
    parameters := [{ name := "DATA_SOURCE_NAME", value := "fedora" }] }

theorem fedora_template_data_source_is_desired :
    HasDataSource [{ dataSource := newDataSource "fedora" }] "fedora" ∧
      ∃ t₀ ∈ [fedoraTemplate], ∃ arch ∈ [Arch.amd64], ∃ d, GetTemplateArch t₀ = .ok arch ∧
        findParameterValue TemplateDataSourceParameterName t₀ = some d ∧
        "fedora" = if (({ commonTemplates := { ns := "openshift" } } : SSPSpec).isMultiarch) then
          d ++ "-" ++ arch.toString else d :=
  @deployed_template_data_source_is_desired Unit (fun _ => .ok fedoraVm) [fedoraTemplate]
    [("fedora", [.amd64])] rfl
    { templatesByArch := Function.update (fun _ => []) .amd64 [fedoraTemplate] } rfl
    { getDataSource := fun _ => .ok none, pvcExists := fun _ => .ok false } "amd64"
    { commonTemplates := { ns := "openshift" } } [.amd64] rfl (fun _ => []) (fun _ _ => .ok [])
    { dataSourceInfos := [{ dataSource := newDataSource "fedora" }], dataImportCrons := [] } rfl
    fedoraTemplate (List.mem_singleton_self _) rfl "fedora" rfl

end agreement

end SspOperator.Operands
