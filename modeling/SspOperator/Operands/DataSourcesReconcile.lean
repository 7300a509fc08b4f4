import SspOperator.Common.Collect
import SspOperator.Operands.DesiredDataSources

/-
  The writes of the data-sources operand (`reconcileDataSources`, `reconcileDataSource`,
  `reconcileDataImportCrons`, `reconcileDataImportCron` and `dataSources.Cleanup` in
  `internal/operands/data-sources/reconcile.go`).

  `reconcileDataSources` and `reconcileDataImportCrons` return the same kind of functions
  (`reconcileOwnedFuncs`): a reconcile function for each desired object, then a delete of
  each object the SSP owns that no desired object stands for. DataImportCrons are matched
  by their key, in every namespace; DataSources by name, in the golden-images namespace, and
  one that is being deleted already is left to the API server. After a successful run every
  key no desired object has holds what it held, less what the SSP owns
  (`reconcileDataImportCrons_prunes`, `reconcileDataSources_prunes`).

  The update function of a DataSource depends on whether a DataImportCron keeps it up to
  date. If one does, the function only restores the cron's label, so the operator never
  writes the DataSource's source: one it creates has none, and one it finds keeps the source
  the cron gave it (`reconcileDataSource_source`). Otherwise it writes the desired source and
  removes the label. Either way it writes its labels whatever the map holds, so a second
  call writes the same, and on a DataSource of the desired state, whose only label is the
  architecture label, it keeps the labels the operator asks for: it settles them in the sense
  of `SettlingUpdate` (`dataSourceUpdateFunc_settles`, `desired_dataSource_prepare_admitted`).
  Where no two desired DataSources share a name, a successful run of all
  the functions leaves each of them as its own reconcile wrote it: the other reconciles and
  the deletes act at other keys (`reconcileDataSources_establishes`).

  `dataSources.Cleanup` cleans up the DataImportCrons the SSP owns first, and deletes the
  DataSources only in a call that finds every cron gone: a call that finds one deletes no
  DataSource and reports that something is left (`cleanup_keeps_dataSources_while_crons`).
  Its report that everything is deleted, on which the SSP's finalizer is removed, is sound:
  a call whose flags all say deleted found no cron and no DataSource the SSP owns
  (`cleanup_done_only_when_nothing_owned`).
  The golden-images namespace, the roles and the network policies, which the operand writes
  and deletes next to the DataSources, are left out.
-/

namespace SspOperator.Operands

open Common

/-- `operandName` and `operandComponent` of the operand. -/
def dataSourcesOperandName : String := "data-sources"
def dataSourcesOperandComponent : String := "templating"

/-- `dataSourceCrd` and `dataImportCronCrd`. -/
def dataSourceCrd : String := "datasources.cdi.kubevirt.io"
def dataImportCronCrd : String := "dataimportcrons.cdi.kubevirt.io"

/-- The Go types of DataSources and DataImportCrons. -/
def dataSourceType : ObjectType := { typeName := "*v1beta1.DataSource", kind := "DataSource" }
def dataImportCronType : ObjectType :=
  { typeName := "*v1beta1.DataImportCron", kind := "DataImportCron" }

instance : Inhabited DataSourceSource := ⟨{}⟩

/-- A DataSource as the operator writes it: its metadata and its spec. -/
def DataSource.toClientObject (dataSource : DataSource) : ClientObject DataSourceSource :=
  { objectMeta := dataSource.objectMeta, body := dataSource.source }

/-- A DataImportCron as the operator writes it: its metadata and its spec, of which the model
    keeps `managedDataSource`. -/
def DataImportCron.toClientObject (cron : DataImportCron) : ClientObject String :=
  { objectMeta := cron.objectMeta, body := cron.managedDataSource }

/-! ## Desired and owned objects -/

section Owned

variable {σ δ κ : Type} [DecidableEq κ]

/-- The functions `reconcileDataSources` and `reconcileDataImportCrons` return: one for each
    desired object, then one for each owned object whose key is no desired object's. -/
def reconcileOwnedFuncs (desiredKey : δ → κ) (ownedKey : ClientObject σ → κ)
    (reconcileOne : δ → ReconcileFunc σ) (deleteOne : ClientObject σ → ReconcileFunc σ)
    (desired : List δ) (owned : List (ClientObject σ)) : List (ReconcileFunc σ) :=
  let used := desired.map desiredKey
  desired.map reconcileOne ++ (owned.filter fun o => !used.contains (ownedKey o)).map deleteOne

variable {reconcileOne : δ → ReconcileFunc σ} {deleteOne : ClientObject σ → ReconcileFunc σ}

/-- The reconcile functions of the desired objects leave every key no desired object has. -/
theorem foldlM_reconcileOne_get {target : δ → NamespacedName}
    (hone : ∀ d st out, reconcileOne d st = .ok out →
      ∀ k, k ≠ target d → out.2.1.get k = st.1.get k) {k : NamespacedName} :
    ∀ (desired : List δ) (acc acc' : List (ReconcileResult σ) × Store σ × VersionCache),
      (∀ d ∈ desired, target d ≠ k) →
      desired.foldlM (fun acc d => collectStep acc (reconcileOne d)) acc = .ok acc' →
      acc'.2.1.get k = acc.2.1.get k
  | [], acc, acc', _, h => by
      cases h
      rfl
  | d :: rest, acc, acc', hk, h => by
      rw [List.foldlM_cons] at h
      obtain ⟨mid, hmid, hrest⟩ := except_bind_eq_ok.mp h
      obtain ⟨status, st, hf, rfl⟩ := collectStep_eq_ok.mp hmid
      rw [foldlM_reconcileOne_get hone rest _ _ (fun d' hd' => hk d' (List.mem_cons_of_mem d hd'))
        hrest]
      exact hone d _ _ hf k (hk d List.mem_cons_self).symm

/-- Where no two desired objects have one target, each target ends holding what the function
    of its own object made of what the target held first: the functions before it and after
    it leave the key. `Q` says what one function makes of the key it writes. -/
theorem foldlM_reconcileOne_at {target : δ → NamespacedName}
    (hone : ∀ d st out, reconcileOne d st = .ok out →
      ∀ k, k ≠ target d → out.2.1.get k = st.1.get k)
    (Q : δ → Option (ClientObject σ) → Option (ClientObject σ) → Prop)
    (hQ : ∀ d st out, reconcileOne d st = .ok out →
      Q d (st.1.get (target d)) (out.2.1.get (target d))) :
    ∀ (desired : List δ) (acc acc' : List (ReconcileResult σ) × Store σ × VersionCache),
      (desired.map target).Nodup →
      desired.foldlM (fun acc d => collectStep acc (reconcileOne d)) acc = .ok acc' →
      ∀ d ∈ desired, Q d (acc.2.1.get (target d)) (acc'.2.1.get (target d))
  | [], _, _, _, _ => by simp
  | d₀ :: rest, acc, acc', hnodup, h => by
      rw [List.foldlM_cons] at h
      obtain ⟨mid, hmid, hrest⟩ := except_bind_eq_ok.mp h
      obtain ⟨status, st, hf, rfl⟩ := collectStep_eq_ok.mp hmid
      rw [List.map_cons, List.nodup_cons] at hnodup
      have hfresh : ∀ d ∈ rest, target d ≠ target d₀ :=
        fun d hd heq => hnodup.1 (heq ▸ List.mem_map_of_mem hd)
      intro d hd
      rcases List.mem_cons.mp hd with rfl | hd
      · -- its own function wrote the key, and the rest leave it
        rw [foldlM_reconcileOne_get hone rest _ _ hfresh hrest]
        exact hQ d _ _ hf
      · -- the first function left the key, and the rest are the induction
        have hlater := foldlM_reconcileOne_at hone Q hQ rest _ _ hnodup.2 hrest d hd
        rwa [hone d₀ _ _ hf _ (hfresh d hd)] at hlater

/-- The deletes empty the key of each object they remove, and leave every other key. -/
theorem foldlM_deleteOne_get {dropKey : ClientObject σ → NamespacedName}
    {removes : ClientObject σ → Bool}
    (hdel : ∀ o st out, deleteOne o st = .ok out →
      ∀ k, out.2.1.get k = if k = dropKey o ∧ removes o = true then none else st.1.get k)
    (k : NamespacedName) :
    ∀ (pruned : List (ClientObject σ)) (acc acc' : List (ReconcileResult σ) × Store σ × VersionCache),
      pruned.foldlM (fun acc o => collectStep acc (deleteOne o)) acc = .ok acc' →
      acc'.2.1.get k =
        if ∃ o ∈ pruned, k = dropKey o ∧ removes o = true then none else acc.2.1.get k
  | [], acc, acc', h => by
      cases h
      simp
  | o :: rest, acc, acc', h => by
      rw [List.foldlM_cons] at h
      obtain ⟨mid, hmid, hrest⟩ := except_bind_eq_ok.mp h
      obtain ⟨status, st, hf, rfl⟩ := collectStep_eq_ok.mp hmid
      rw [foldlM_deleteOne_get hdel k rest _ _ hrest, hdel o _ _ hf k]
      -- removed by this delete, by a later one, or by neither
      by_cases hnow : k = dropKey o ∧ removes o = true
      · simp [hnow]
      · by_cases hlater : ∃ o' ∈ rest, k = dropKey o' ∧ removes o' = true
        · simp [hlater]
        · simp only [hlater, hnow, if_false, List.mem_cons, exists_eq_or_imp, false_or]

/-- After a successful run of the functions, a key no desired object has is empty where an
    owned object no desired object stands for was removed from it, and holds what it held
    otherwise. -/
theorem reconcileOwnedFuncs_get {desiredKey : δ → κ} {ownedKey : ClientObject σ → κ}
    {target : δ → NamespacedName} {dropKey : ClientObject σ → NamespacedName}
    {removes : ClientObject σ → Bool}
    (hone : ∀ d st out, reconcileOne d st = .ok out →
      ∀ k, k ≠ target d → out.2.1.get k = st.1.get k)
    (hdel : ∀ o st out, deleteOne o st = .ok out →
      ∀ k, out.2.1.get k = if k = dropKey o ∧ removes o = true then none else st.1.get k)
    {desired : List δ} {owned : List (ClientObject σ)} {st : Store σ × VersionCache}
    {acc : List (ReconcileResult σ) × Store σ × VersionCache}
    (hrun : CollectResourceStatus st
      (reconcileOwnedFuncs desiredKey ownedKey reconcileOne deleteOne desired owned) = .ok acc)
    {k : NamespacedName} (hk : ∀ d ∈ desired, target d ≠ k) :
    acc.2.1.get k =
      if ∃ o ∈ owned, (desired.map desiredKey).contains (ownedKey o) = false ∧ k = dropKey o ∧
          removes o = true then none
      else st.1.get k := by
  obtain ⟨mid, hmid, hrest⟩ := CollectResourceStatus_append hrun
  unfold CollectResourceStatus at hmid
  rw [List.foldlM_map] at hmid hrest
  -- the desired objects leave the key; the deletes decide what is left at it
  have hdesired := foldlM_reconcileOne_get hone desired _ _ hk hmid
  rw [foldlM_deleteOne_get hdel k _ _ _ hrest, hdesired]
  simp only [List.mem_filter, Bool.not_eq_eq_eq_not, Bool.not_true, and_assoc]

/-- After a successful run of the functions, each desired object's target holds what its own
    function made of what the target held, where no two desired objects have one target and
    a delete's key names the object it stands for, so that no delete reaches a desired
    target. -/
theorem reconcileOwnedFuncs_at {desiredKey : δ → κ} {ownedKey : ClientObject σ → κ}
    {target : δ → NamespacedName} {dropKey : ClientObject σ → NamespacedName}
    {removes : ClientObject σ → Bool}
    (hone : ∀ d st out, reconcileOne d st = .ok out →
      ∀ k, k ≠ target d → out.2.1.get k = st.1.get k)
    (hdel : ∀ o st out, deleteOne o st = .ok out →
      ∀ k, out.2.1.get k = if k = dropKey o ∧ removes o = true then none else st.1.get k)
    (Q : δ → Option (ClientObject σ) → Option (ClientObject σ) → Prop)
    (hQ : ∀ d st out, reconcileOne d st = .ok out →
      Q d (st.1.get (target d)) (out.2.1.get (target d)))
    (hkeys : ∀ d o, dropKey o = target d → ownedKey o = desiredKey d)
    {desired : List δ} {owned : List (ClientObject σ)} {st : Store σ × VersionCache}
    {acc : List (ReconcileResult σ) × Store σ × VersionCache}
    (hrun : CollectResourceStatus st
      (reconcileOwnedFuncs desiredKey ownedKey reconcileOne deleteOne desired owned) = .ok acc)
    (hnodup : (desired.map target).Nodup) :
    ∀ d ∈ desired, Q d (st.1.get (target d)) (acc.2.1.get (target d)) := by
  obtain ⟨mid, hmid, hrest⟩ := CollectResourceStatus_append hrun
  unfold CollectResourceStatus at hmid
  rw [List.foldlM_map] at hmid hrest
  intro d hd
  have hwritten := foldlM_reconcileOne_at hone Q hQ desired _ _ hnodup hmid d hd
  rw [foldlM_deleteOne_get hdel (target d) _ _ _ hrest, if_neg]
  · exact hwritten
  · -- a delete at the target stands for an object with the desired key, which is kept
    rintro ⟨o, ho, htarget, -⟩
    have hkept := (List.mem_filter.mp ho).2
    have hused : desiredKey d ∈ desired.map desiredKey := List.mem_map_of_mem hd
    rw [hkeys d o htarget.symm] at hkept
    simp [hused] at hkept

end Owned

/-! ## DataImportCrons -/

/-- The builder of `reconcileDataImportCron`: the spec is immutable, so a cron whose spec
    changed is deleted, to be created by the next call. -/
def reconcileDataImportCron (dataImportCron : ClientObject String) : ReconcileBuilder String :=
  { resource := dataImportCron, isClusterResource := true, addLabels := true
    operandName := dataSourcesOperandName, operandComponent := dataSourcesOperandComponent
    updateFunc := specUpdateFunc, immutableSpec := true, sameSpec := fun a b => a.body == b.body }

/-- The function `reconcileDataImportCrons` returns for a cron the SSP owns and does not
    want: its delete, where not finding it is no failure. The result names the cron and no
    operation, the zero value, which nothing reads. -/
def deleteDataImportCron (cron : ClientObject String) : ReconcileFunc String := fun st =>
  match st.1.delete cron with
  | .error _ => .ok ({ resource := cron, operationResult := .none }, st)
  | .ok store => .ok ({ resource := cron, operationResult := .none }, store, st.2)

/-- `reconcileDataImportCrons`, on what `Client.List` of DataImportCrons returned. -/
def reconcileDataImportCrons (requestInstance : SSP) (dataImportCrons : List DataImportCron)
    (listed : Except String (List (ClientObject String))) :
    Except String (List (ReconcileFunc String)) := do
  let ownedCrons ← ListOwnedResources requestInstance listed
  pure (reconcileOwnedFuncs (·.objectMeta.key) (·.objectMeta.key)
    (fun cron => (reconcileDataImportCron cron).reconcileFunc dataImportCronType requestInstance)
    deleteDataImportCron (dataImportCrons.map DataImportCron.toClientObject) ownedCrons)

theorem deleteDataImportCron_get {cron : ClientObject String} {st : Store String × VersionCache}
    {out : ReconcileResult String × Store String × VersionCache}
    (h : deleteDataImportCron cron st = .ok out) (k : NamespacedName) :
    out.2.1.get k = if k = cron.objectMeta.key ∧ true = true then none else st.1.get k := by
  have hk := delete_get st.1 cron k
  unfold deleteDataImportCron at h
  split at h <;> rename_i hdel <;> rw [hdel] at hk <;> cases h <;> simpa using hk

/-- After a successful run of the functions of `reconcileDataImportCrons`, on a listing of
    every cron the cluster holds: at every key no desired cron has, the cluster keeps the
    crons the SSP does not own, and only those. -/
theorem reconcileDataImportCrons_prunes {requestInstance : SSP}
    {dataImportCrons : List DataImportCron} {listed : List (ClientObject String)}
    {store : Store String} {cache : VersionCache} {funcs : List (ReconcileFunc String)}
    {acc : List (ReconcileResult String) × Store String × VersionCache}
    (hcomplete : ∀ k o, store.get k = some o → o ∈ listed)
    (hcurrent : ∀ o ∈ listed, store.get o.objectMeta.key = some o)
    (hfuncs : reconcileDataImportCrons requestInstance dataImportCrons (.ok listed) = .ok funcs)
    (hrun : CollectResourceStatus (store, cache) funcs = .ok acc)
    (k : NamespacedName) (hk : ∀ cron ∈ dataImportCrons, cron.objectMeta.key ≠ k) :
    acc.2.1.get k =
      (store.get k).filter fun o => ! CheckOwnerAnnotation o.objectMeta requestInstance := by
  simp only [reconcileDataImportCrons, ListOwnedResources_ok, except_ok_bind, except_pure,
    Except.ok.injEq] at hfuncs
  subst hfuncs
  have htarget : ∀ d ∈ dataImportCrons.map DataImportCron.toClientObject, d.objectMeta.key ≠ k := by
    simp only [List.mem_map]
    rintro d ⟨cron, hcron, rfl⟩
    exact hk cron hcron
  have hone : ∀ (cron : ClientObject String) st out,
      (reconcileDataImportCron cron).reconcileFunc dataImportCronType requestInstance st = .ok out →
        ∀ k, k ≠ cron.objectMeta.key → out.2.1.get k = st.1.get k :=
    fun _ _ _ hf _ hk => reconcileFunc_get_of_ne hf hk
  have hdel : ∀ cron st out, deleteDataImportCron cron st = .ok out →
      ∀ k, out.2.1.get k = if k = cron.objectMeta.key ∧ true = true then none else st.1.get k :=
    fun _ _ _ h k => deleteDataImportCron_get h k
  rw [reconcileOwnedFuncs_get hone hdel hrun htarget]
  have hfree : ∀ o : ClientObject String, o.objectMeta.key = k →
      (List.map (·.objectMeta.key) (dataImportCrons.map DataImportCron.toClientObject)).contains
        o.objectMeta.key = false := by
    intro o ho
    simpa [ho, DataImportCron.toClientObject] using hk
  cases hget : store.get k with
  | none =>
      -- no listed cron is at the key, for the listing is of the store
      rw [if_neg, Option.filter_none]
      rintro ⟨o, ho, -, rfl, -⟩
      rw [hcurrent o (List.mem_filter.mp ho).1] at hget
      cases hget
  | some o =>
      have hkey : o.objectMeta.key = k := Store.get_key hget
      have ho : o ∈ listed := hcomplete k o hget
      rw [Option.filter_some]
      by_cases howned : CheckOwnerAnnotation o.objectMeta requestInstance = true
      · rw [if_pos ⟨o, List.mem_filter.mpr ⟨ho, howned⟩, hfree o hkey, hkey.symm, rfl⟩]
        simp [howned]
      · -- a listed owned cron at the key would be the stored one
        rw [if_neg]
        · simp [howned]
        · rintro ⟨o', ho', -, rfl, -⟩
          obtain ⟨ho'l, ho'owned⟩ := List.mem_filter.mp ho'
          rw [hcurrent o' ho'l] at hget
          cases hget
          exact howned ho'owned

/-- The owner annotations `setOwner` writes on the sample SSP's cluster resources. -/
def sampleOwnerAnnotations : StringMap :=
  StringMap.ofList [( NamespacedNameAnnotation, "kubevirt/ssp-sample"),
    ( TypeAnnotation, "SSP.ssp.kubevirt.io")]

/-- A cron the SSP made for a DataSource it no longer wants, and a cron of a user. -/
def staleCron : ClientObject String :=
  { objectMeta := { name := "centos-stream8-image-cron", ns := GoldenImagesNamespace
                    annotations := sampleOwnerAnnotations }
    body := "centos-stream8" }

def userCron : ClientObject String :=
  { objectMeta := { name := "my-image-cron", ns := GoldenImagesNamespace }, body := "my-image" }

theorem stale_cron_pruned_user_cron_kept :
    ∃ funcs acc,
      reconcileDataImportCrons ReconcileBuilder.sampleSSP [] (.ok [staleCron, userCron]) =
        .ok funcs ∧
      CollectResourceStatus (Store.ofList [staleCron, userCron] false, VersionCache.empty) funcs =
        .ok acc ∧
      acc.2.1.get staleCron.objectMeta.key = none ∧
      acc.2.1.get userCron.objectMeta.key = some userCron := by
  have hcomplete : ∀ k o, (Store.ofList [staleCron, userCron] false).get k = some o →
      o ∈ [staleCron, userCron] := fun _ _ h => Store.mem_of_ofList_get h
  have hcurrent : ∀ o ∈ [staleCron, userCron],
      (Store.ofList [staleCron, userCron] false).get o.objectMeta.key = some o := by decide
  obtain ⟨funcs, hfuncs⟩ : ∃ funcs, reconcileDataImportCrons ReconcileBuilder.sampleSSP []
      (.ok [staleCron, userCron]) = .ok funcs := ⟨_, rfl⟩
  obtain ⟨acc, hrun⟩ : ∃ acc, CollectResourceStatus
      (Store.ofList [staleCron, userCron] false, VersionCache.empty) funcs = .ok acc := by
    cases hfuncs
    exact ⟨_, rfl⟩
  refine ⟨funcs, acc, hfuncs, hrun, ?_, ?_⟩
  · rw [reconcileDataImportCrons_prunes hcomplete hcurrent hfuncs hrun _ (by simp)]
    decide
  · rw [reconcileDataImportCrons_prunes hcomplete hcurrent hfuncs hrun _ (by simp)]
    decide

/-! ## DataSources -/

/-- The update function of `reconcileDataSource`. -/
def dataSourceUpdateFunc (requestInstance : SSP) (dsInfo : DataSourceInfo) :
    ResourceUpdateFunc DataSourceSource := fun newRes foundRes =>
  if dsInfo.autoUpdateEnabled then
    -- the label is restored in case it was removed: without it CDI stops watching the
    -- DataSource
    { foundRes with objectMeta := { foundRes.objectMeta with
        labels := foundRes.objectMeta.labels.set dataImportCronLabel dsInfo.dataImportCronName } }
  else
    let objectMeta := AddAppLabels requestInstance dataSourcesOperandName
      dataSourcesOperandComponent foundRes.objectMeta
    { objectMeta := { objectMeta with labels := objectMeta.labels.delete dataImportCronLabel }
      body := newRes.body }

/-- The builder of `reconcileDataSource`. -/
def reconcileDataSource (requestInstance : SSP) (dsInfo : DataSourceInfo) :
    ReconcileBuilder DataSourceSource :=
  { resource := dsInfo.dataSource.toClientObject, isClusterResource := true
    updateFunc := dataSourceUpdateFunc requestInstance dsInfo
    options := { alwaysCallUpdateFunc := true } }

/-- The labels `dataSourceUpdateFunc` writes: the cron's label where a cron keeps the
    DataSource up to date, and otherwise the app labels without the cron's label. -/
def dataSourceLabels (requestInstance : SSP) (dsInfo : DataSourceInfo) (labels : StringMap) :
    StringMap :=
  if dsInfo.autoUpdateEnabled then labels.set dataImportCronLabel dsInfo.dataImportCronName
  else
    (addCommonLabels (some (labels.getD ∅)) requestInstance dataSourcesOperandName
      dataSourcesOperandComponent).delete dataImportCronLabel

/-- `dataSourceUpdateFunc` writes those labels and leaves the rest of the metadata; it writes
    the desired spec only where no cron keeps the DataSource up to date. -/
theorem dataSourceUpdateFunc_eq (requestInstance : SSP) (dsInfo : DataSourceInfo)
    (newRes foundRes : ClientObject DataSourceSource) :
    dataSourceUpdateFunc requestInstance dsInfo newRes foundRes =
      { objectMeta := { foundRes.objectMeta with
          labels := dataSourceLabels requestInstance dsInfo foundRes.objectMeta.labels }
        body := if dsInfo.autoUpdateEnabled then foundRes.body else newRes.body } := by
  unfold dataSourceUpdateFunc dataSourceLabels
  cases dsInfo.autoUpdateEnabled <;> rfl

theorem dataSourceLabels_overrides (requestInstance : SSP) (dsInfo : DataSourceInfo) :
    ∃ c, StringMap.Overrides (dataSourceLabels requestInstance dsInfo) c := by
  unfold dataSourceLabels
  cases dsInfo.autoUpdateEnabled with
  | true => exact ⟨_, StringMap.Overrides.set _ _⟩
  | false =>
      obtain ⟨c, hc⟩ := overrides_addCommonLabels requestInstance dataSourcesOperandName
        dataSourcesOperandComponent
      exact ⟨_, hc.comp (StringMap.Overrides.delete _)⟩

theorem dataSourceLabels_ne_none (requestInstance : SSP) (dsInfo : DataSourceInfo)
    (labels : StringMap) : dataSourceLabels requestInstance dsInfo labels ≠ none := by
  unfold dataSourceLabels addCommonLabels
  cases dsInfo.autoUpdateEnabled <;> simp

/-- The DataSource update function settles the desired DataSources whose labels it keeps:
    the labels it writes are entries written whatever the map holds, so on what it made it
    writes them again to the same values, and the spec it writes, if any, is the desired
    one. -/
theorem dataSourceUpdateFunc_settles (requestInstance : SSP) (dsInfo : DataSourceInfo) :
    SettlingUpdate (dataSourceUpdateFunc requestInstance dsInfo) fun e =>
      e.objectMeta.labels.Subset (dataSourceLabels requestInstance dsInfo e.objectMeta.labels) := by
  obtain ⟨c, hc⟩ := dataSourceLabels_overrides requestInstance dsInfo
  refine ⟨fun _ _ => by rw [dataSourceUpdateFunc_eq]; rfl,
    fun _ _ => by rw [dataSourceUpdateFunc_eq],
    fun _ _ => by rw [dataSourceUpdateFunc_eq],
    fun _ _ _ _ _ => by simp only [dataSourceUpdateFunc_eq]; rfl, ?_, ?_⟩
  · intro e g hD
    rw [dataSourceUpdateFunc_eq]
    exact ⟨hc.subset_step hD (subset_updateMap _ _), subset_updateMap _ _⟩
  · intro e g e' _ hbetween
    have hu := dataSourceUpdateFunc_eq requestInstance dsInfo e (mergeMeta e g)
    generalize dataSourceUpdateFunc requestInstance dsInfo e (mergeMeta e g) = u at hu hbetween ⊢
    have hul : u.objectMeta.labels =
        dataSourceLabels requestInstance dsInfo (updateMap e.objectMeta.labels g.objectMeta.labels) := by
      rw [hu]
      rfl
    refine ⟨hc.subset_self (hul ▸ hbetween.labels.2), ?_⟩
    -- the labels: written again over what the first call wrote
    have hlabels : dataSourceLabels requestInstance dsInfo
        (updateMap e'.objectMeta.labels u.objectMeta.labels) =
        updateMap e'.objectMeta.labels u.objectMeta.labels := by
      have hne : u.objectMeta.labels ≠ none := by
        rw [hul]
        exact dataSourceLabels_ne_none _ _ _
      have hm : ∀ k, (updateMap e'.objectMeta.labels u.objectMeta.labels).lookup k =
          (dataSourceLabels requestInstance dsInfo
            (updateMap e.objectMeta.labels g.objectMeta.labels)).lookup k := by
        intro k
        rw [lookup_updateMap_of_subset hbetween.labels.2, hul]
      exact StringMap.eq_of_lookup ⟨fun h => absurd h (dataSourceLabels_ne_none _ _ _),
        fun h => absurd h (updateMap_ne_none _ hne)⟩ (hc.lookup_fixed hm)
    -- the spec: the desired one, which the first call wrote already
    have hbody : (if dsInfo.autoUpdateEnabled then u.body else e'.body) = u.body := by
      cases hauto : dsInfo.autoUpdateEnabled
      · have he : e'.body = e.body := by rw [hbetween.eq]
        rw [hu, hauto, he]
        rfl
      · rfl
    rw [dataSourceUpdateFunc_eq]
    simp only [mergeMeta_objectMeta, mergeMeta_body, hlabels, hbody]
    rfl

/-- The update function leaves the architecture label alone. -/
theorem lookup_dataSourceLabels_architecture (requestInstance : SSP) (dsInfo : DataSourceInfo)
    (labels : StringMap) :
    (dataSourceLabels requestInstance dsInfo labels).lookup TemplateArchitectureLabel =
      labels.lookup TemplateArchitectureLabel := by
  unfold dataSourceLabels addCommonLabels addInstanceLabels copyLabel
  cases dsInfo.autoUpdateEnabled <;> cases requestInstance.objectMeta.labels <;>
    simp [TemplateArchitectureLabel, dataImportCronLabel, AppKubernetesNameLabel,
      AppKubernetesComponentLabel, AppKubernetesManagedByLabel, AppKubernetesPartOfLabel,
      AppKubernetesVersionLabel] <;>
    exact (StringMap.lookup_eq_semantic _ _).symm

/-- A desired DataSource that carries no label but the architecture label is one the update
    function settles: preparing it writes the owner only, and the update function keeps its
    labels. -/
theorem reconcileDataSource_prepare_admitted {requestInstance : SSP} {dsInfo : DataSourceInfo}
    (hlabels : ArchLabelOnly dsInfo)
    {e : ClientObject DataSourceSource}
    (hprep : (reconcileDataSource requestInstance dsInfo).prepare requestInstance = .ok e) :
    e.objectMeta.labels.Subset (dataSourceLabels requestInstance dsInfo e.objectMeta.labels) := by
  rw [ReconcileBuilder.prepare_eq] at hprep
  obtain ⟨m, hown, he⟩ := except_bind_eq_ok.mp hprep
  simp only [except_pure, Except.ok.injEq] at he
  subst he
  -- the owner is written into the annotations; the labels are the desired DataSource's
  have hm : m.labels = dsInfo.dataSource.objectMeta.labels :=
    (congrArg ObjectMeta.labels (setOwner_eq hown)).trans rfl
  show m.labels.Subset (dataSourceLabels requestInstance dsInfo m.labels)
  rw [hm]
  intro k v hk
  obtain rfl := hlabels k v hk
  rw [lookup_dataSourceLabels_architecture]
  exact hk

/-- Every DataSource of the desired state is one the update function settles. -/
theorem desired_dataSource_prepare_admitted (client : ClientReads) (goarch : String)
    {getCronsByDataSource : SSPSpec → CronMap}
    {getCronsByDataSourceMultiArch : SSPSpec → TemplateBundle.DataSourceCollection → Except String CronMap}
    {sourceCollection : TemplateBundle.DataSourceCollection} {sspSpec : SSPSpec} {result : DataSourcesAndCrons}
    (h : getDataSourcesAndCrons client goarch getCronsByDataSource getCronsByDataSourceMultiArch
      sourceCollection sspSpec = .ok result)
    {requestInstance : SSP} {dsInfo : DataSourceInfo} (hmem : dsInfo ∈ result.dataSourceInfos)
    {e : ClientObject DataSourceSource}
    (hprep : (reconcileDataSource requestInstance dsInfo).prepare requestInstance = .ok e) :
    e.objectMeta.labels.Subset (dataSourceLabels requestInstance dsInfo e.objectMeta.labels) :=
  reconcileDataSource_prepare_admitted
    (getDataSourcesAndCrons_archLabelOnly client goarch h dsInfo hmem) hprep

/-- The function `reconcileDataSources` returns for a DataSource the SSP owns and does not
    want: one being deleted already is reported so; otherwise its delete, where not finding
    it is no failure. -/
def deleteDataSource (dataSource : ClientObject DataSourceSource) :
    ReconcileFunc DataSourceSource := fun st =>
  if dataSource.objectMeta.deletionTimestamp.isSome then
    .ok (ResourceDeletedResult dataSource .deleted, st)
  else
    match st.1.delete dataSource with
    | .error _ => .ok ({ resource := dataSource, operationResult := .none }, st)
    | .ok store => .ok (ResourceDeletedResult dataSource .deleted, store, st.2)

/-- `reconcileDataSources`, on what `Client.List` of DataSources in the golden-images
    namespace returned. -/
def reconcileDataSources (requestInstance : SSP) (dataSourceInfos : List DataSourceInfo)
    (listed : Except String (List (ClientObject DataSourceSource))) :
    Except String (List (ReconcileFunc DataSourceSource)) := do
  let ownedDataSources ← ListOwnedResources requestInstance listed
  pure (reconcileOwnedFuncs (·.dataSource.objectMeta.name) (·.objectMeta.name)
    (fun dsInfo =>
      (reconcileDataSource requestInstance dsInfo).reconcileFunc dataSourceType requestInstance)
    (fun dataSource => deleteDataSource
      { dataSource with objectMeta := { dataSource.objectMeta with ns := GoldenImagesNamespace } })
    dataSourceInfos ownedDataSources)

theorem deleteDataSource_get {dataSource : ClientObject DataSourceSource}
    {st : Store DataSourceSource × VersionCache}
    {out : ReconcileResult DataSourceSource × Store DataSourceSource × VersionCache}
    (h : deleteDataSource dataSource st = .ok out) (k : NamespacedName) :
    out.2.1.get k =
      if k = dataSource.objectMeta.key ∧ dataSource.objectMeta.deletionTimestamp.isNone = true
      then none else st.1.get k := by
  unfold deleteDataSource at h
  split_ifs at h with hdeleting
  · -- being deleted: the store is left to the API server
    cases h
    rw [if_neg]
    rintro ⟨-, hnone⟩
    simp [Option.isNone_iff_eq_none.mp hnone] at hdeleting
  · have hlive : dataSource.objectMeta.deletionTimestamp.isNone = true := by
      simpa using hdeleting
    have hk := delete_get st.1 dataSource k
    split at h <;> rename_i hdel <;> rw [hdel] at hk <;> cases h <;> simpa [hlive] using hk

/-- After a successful run of the functions of `reconcileDataSources`, on a listing of the
    golden-images namespace: at every name of that namespace no desired DataSource has, the
    cluster keeps the DataSources the SSP does not own and those being deleted already, and
    only those. -/
theorem reconcileDataSources_prunes {requestInstance : SSP}
    {dataSourceInfos : List DataSourceInfo} {listed : List (ClientObject DataSourceSource)}
    {store : Store DataSourceSource} {cache : VersionCache}
    {funcs : List (ReconcileFunc DataSourceSource)}
    {acc : List (ReconcileResult DataSourceSource) × Store DataSourceSource × VersionCache}
    (hcomplete : ∀ k o, k.ns = GoldenImagesNamespace → store.get k = some o → o ∈ listed)
    (hcurrent : ∀ o ∈ listed,
      o.objectMeta.ns = GoldenImagesNamespace ∧ store.get o.objectMeta.key = some o)
    (hfuncs : reconcileDataSources requestInstance dataSourceInfos (.ok listed) = .ok funcs)
    (hrun : CollectResourceStatus (store, cache) funcs = .ok acc)
    (k : NamespacedName) (hns : k.ns = GoldenImagesNamespace)
    (hk : ∀ dsInfo ∈ dataSourceInfos, dsInfo.dataSource.objectMeta.name ≠ k.name) :
    acc.2.1.get k = (store.get k).filter fun o =>
      ! CheckOwnerAnnotation o.objectMeta requestInstance || o.objectMeta.deletionTimestamp.isSome := by
  simp only [reconcileDataSources, ListOwnedResources_ok, except_ok_bind, except_pure,
    Except.ok.injEq] at hfuncs
  subst hfuncs
  have htarget : ∀ dsInfo ∈ dataSourceInfos, dsInfo.dataSource.objectMeta.key ≠ k := by
    intro dsInfo hdsInfo hkey
    exact hk dsInfo hdsInfo (by rw [← hkey]; rfl)
  have hone : ∀ (dsInfo : DataSourceInfo) st out,
      (reconcileDataSource requestInstance dsInfo).reconcileFunc dataSourceType requestInstance st =
        .ok out → ∀ k, k ≠ dsInfo.dataSource.objectMeta.key → out.2.1.get k = st.1.get k :=
    fun _ _ _ hf _ hk => reconcileFunc_get_of_ne hf hk
  -- the delete acts at the name in the golden-images namespace
  have hdel : ∀ (dataSource : ClientObject DataSourceSource) st out,
      deleteDataSource { dataSource with
        objectMeta := { dataSource.objectMeta with ns := GoldenImagesNamespace } } st = .ok out →
      ∀ k, out.2.1.get k =
        if k = ⟨GoldenImagesNamespace, dataSource.objectMeta.name⟩ ∧
          dataSource.objectMeta.deletionTimestamp.isNone = true then none else st.1.get k :=
    fun _ _ _ h k => deleteDataSource_get h k
  rw [reconcileOwnedFuncs_get hone hdel hrun htarget]
  have hfree : ∀ o : ClientObject DataSourceSource, o.objectMeta.name = k.name →
      (dataSourceInfos.map (·.dataSource.objectMeta.name)).contains o.objectMeta.name = false := by
    intro o ho
    simpa [ho] using hk
  -- a listed DataSource at the golden-images name of `k` is the one stored at `k`
  have hat : ∀ o ∈ listed, k = ⟨GoldenImagesNamespace, o.objectMeta.name⟩ →
      store.get k = some o := by
    intro o ho hko
    obtain ⟨hons, hstored⟩ := hcurrent o ho
    rw [hko, ← hons]
    exact hstored
  cases hget : store.get k with
  | none =>
      rw [if_neg, Option.filter_none]
      rintro ⟨o, ho, -, hko, -⟩
      rw [hat o (List.mem_filter.mp ho).1 hko] at hget
      cases hget
  | some o =>
      have hkey : o.objectMeta.key = k := Store.get_key hget
      have ho : o ∈ listed := hcomplete k o hns hget
      have hko : k = ⟨GoldenImagesNamespace, o.objectMeta.name⟩ := by
        rw [← hkey, ← hns, ← hkey]
        rfl
      rw [Option.filter_some]
      by_cases hremoved : CheckOwnerAnnotation o.objectMeta requestInstance = true ∧
          o.objectMeta.deletionTimestamp.isNone = true
      · rw [if_pos ⟨o, List.mem_filter.mpr ⟨ho, hremoved.1⟩,
          hfree o (by rw [← hkey]; rfl), hko, hremoved.2⟩]
        simp [hremoved.1, Option.isNone_iff_eq_none.mp hremoved.2]
      · rw [if_neg]
        · simp only [not_and, Option.isNone_iff_eq_none] at hremoved
          by_cases howned : CheckOwnerAnnotation o.objectMeta requestInstance = true
          · have hdeleting := hremoved howned
            simp [Option.isSome_iff_ne_none.mpr hdeleting]
          · simp [howned]
        · rintro ⟨o', ho', -, hko', hlive'⟩
          obtain ⟨ho'l, ho'owned⟩ := List.mem_filter.mp ho'
          rw [hat o' ho'l hko'] at hget
          cases hget
          exact hremoved ⟨ho'owned, hlive'⟩

/-- A DataSource the SSP made for a name it no longer wants, another one it made that is
    being deleted already, and a DataSource of a user. -/
def staleDataSource : ClientObject DataSourceSource :=
  { objectMeta := { (newDataSource "centos-stream8").objectMeta with
                    annotations := sampleOwnerAnnotations }
    body := (newDataSource "centos-stream8").source }

def deletingDataSource : ClientObject DataSourceSource :=
  { objectMeta := { (newDataSource "centos7").objectMeta with
                    annotations := sampleOwnerAnnotations, deletionTimestamp := some 1 }
    body := (newDataSource "centos7").source }

def userDataSource : ClientObject DataSourceSource := (newDataSource "my-image").toClientObject

theorem stale_dataSource_pruned_others_kept :
    ∃ funcs acc,
      reconcileDataSources ReconcileBuilder.sampleSSP []
        (.ok [staleDataSource, deletingDataSource, userDataSource]) = .ok funcs ∧
      CollectResourceStatus (Store.ofList [staleDataSource, deletingDataSource, userDataSource] false,
        VersionCache.empty) funcs = .ok acc ∧
      acc.2.1.get staleDataSource.objectMeta.key = none ∧
      acc.2.1.get deletingDataSource.objectMeta.key = some deletingDataSource ∧
      acc.2.1.get userDataSource.objectMeta.key = some userDataSource := by
  have hcomplete : ∀ k o, k.ns = GoldenImagesNamespace →
      (Store.ofList [staleDataSource, deletingDataSource, userDataSource] false).get k = some o →
        o ∈ [staleDataSource, deletingDataSource, userDataSource] :=
    fun _ _ _ h => Store.mem_of_ofList_get h
  have hcurrent : ∀ o ∈ [staleDataSource, deletingDataSource, userDataSource],
      o.objectMeta.ns = GoldenImagesNamespace ∧
        (Store.ofList [staleDataSource, deletingDataSource, userDataSource] false).get
          o.objectMeta.key = some o := by decide
  obtain ⟨funcs, hfuncs⟩ : ∃ funcs, reconcileDataSources ReconcileBuilder.sampleSSP []
      (.ok [staleDataSource, deletingDataSource, userDataSource]) = .ok funcs := ⟨_, rfl⟩
  obtain ⟨acc, hrun⟩ : ∃ acc, CollectResourceStatus
      (Store.ofList [staleDataSource, deletingDataSource, userDataSource] false,
        VersionCache.empty) funcs = .ok acc := by
    cases hfuncs
    exact ⟨_, rfl⟩
  refine ⟨funcs, acc, hfuncs, hrun, ?_, ?_, ?_⟩
  · rw [reconcileDataSources_prunes hcomplete hcurrent hfuncs hrun _ rfl (by simp)]
    decide
  · rw [reconcileDataSources_prunes hcomplete hcurrent hfuncs hrun _ rfl (by simp)]
    decide
  · rw [reconcileDataSources_prunes hcomplete hcurrent hfuncs hrun _ rfl (by simp)]
    decide

/-- What a reconcile of a DataSource writes, for the object `mutateFn` starts from: its
    source, and the cron's label, are as the update function leaves them. -/
theorem dataSourceUpdateFunc_spec (requestInstance : SSP) (dsInfo : DataSourceInfo)
    (e g : ClientObject DataSourceSource) :
    (dataSourceUpdateFunc requestInstance dsInfo e g).body =
        (if dsInfo.autoUpdateEnabled then g.body else e.body) ∧
      (dataSourceUpdateFunc requestInstance dsInfo e g).objectMeta.labels.lookup dataImportCronLabel =
        (if dsInfo.autoUpdateEnabled then some dsInfo.dataImportCronName else none) := by
  unfold dataSourceUpdateFunc
  cases dsInfo.autoUpdateEnabled <;> simp

/-- What a reconcile of a DataSource leaves at its key, from what the key held: where a
    DataImportCron keeps it up to date, a DataSource with the source the key held, none where
    it held nothing, and the cron's label; otherwise one with the desired source and no such
    label. -/
def DataSourceWritten (dsInfo : DataSourceInfo)
    (before after : Option (ClientObject DataSourceSource)) : Prop :=
  ∃ ds, after = some ds ∧
    if dsInfo.autoUpdateEnabled then
      ds.body = (before.map (·.body)).getD default ∧
        ds.objectMeta.labels.lookup dataImportCronLabel = some dsInfo.dataImportCronName
    else
      ds.body = dsInfo.dataSource.source ∧
        ds.objectMeta.labels.lookup dataImportCronLabel = none

theorem reconcileDataSource_written {requestInstance : SSP} {dsInfo : DataSourceInfo}
    {store : Store DataSourceSource} {cache : VersionCache}
    {out : ReconcileOutcome DataSourceSource}
    (hlive : ∀ found ∈ store.get dsInfo.dataSource.objectMeta.key,
      found.objectMeta.deletionTimestamp = none)
    (h : (reconcileDataSource requestInstance dsInfo).Reconcile dataSourceType requestInstance
      store cache = .ok out) :
    DataSourceWritten dsInfo (store.get dsInfo.dataSource.objectMeta.key)
      (out.store.get dsInfo.dataSource.objectMeta.key) := by
  set r := reconcileDataSource requestInstance dsInfo with hr
  obtain ⟨e, w, hprep, hw, rfl⟩ := r.Reconcile_eq_ok.mp h
  have hkey : (ReconcileBuilder.emptyResource e).objectMeta.key =
      dsInfo.dataSource.objectMeta.key :=
    (show (ReconcileBuilder.emptyResource e).objectMeta.key = e.objectMeta.key from rfl).trans
      (r.prepare_key hprep)
  -- the spec is not immutable, so the call never deletes
  have hres : w.res ≠ .deleted := r.createOrUpdate_res_ne_deleted rfl hw
  obtain ⟨g, o, d, hmut, hfound, hstored, hbody, hlabels⟩ := r.createOrUpdate_stored hw hres
  rw [hkey] at hmut hfound hstored
  -- `mutateFn` runs the update function on the found object, which is not being deleted
  have hglive : g.objectMeta.deletionTimestamp = none := by
    rcases hfound with hget | ⟨-, rfl⟩
    · exact hlive g hget
    · rfl
  have hupdated : o.2 = dataSourceUpdateFunc requestInstance dsInfo e (mergeMeta e g) := by
    rw [((r.mutate_eq_ok).mp hmut).1]
    simp [ReconcileBuilder.mutateFn, hglive, hr, reconcileDataSource]
  have hlookup : d.objectMeta.labels.lookup dataImportCronLabel =
      o.2.objectMeta.labels.lookup dataImportCronLabel := by
    rw [StringMap.lookup_eq_semantic, hlabels, ← StringMap.lookup_eq_semantic]
  obtain ⟨hspecBody, hspecLabel⟩ :=
    dataSourceUpdateFunc_spec requestInstance dsInfo e (mergeMeta e g)
  refine ⟨d, by rw [ReconcileBuilder.finish_store]; exact hstored, ?_⟩
  rw [hbody, hlookup, hupdated, hspecBody, hspecLabel]
  cases hauto : dsInfo.autoUpdateEnabled
  · -- the desired source, from the desired object the builder prepared
    simp only [Bool.false_eq_true, if_false, and_true]
    rw [r.prepare_body hprep]
    rfl
  · -- the found source, or none where the DataSource is created
    simp only [if_true, and_true, mergeMeta_body]
    rcases hfound with hget | ⟨hnone, rfl⟩
    · rw [hget]
      rfl
    · rw [hnone]
      rfl

/-- A reconcile of a DataSource that is not being deleted never writes its source when a
    DataImportCron keeps it up to date: the stored DataSource has the source it had, none
    where it is created, and the cron's label. Otherwise the stored DataSource has the
    desired source and no such label. -/
theorem reconcileDataSource_source {requestInstance : SSP} {dsInfo : DataSourceInfo}
    {store : Store DataSourceSource} {cache : VersionCache}
    {out : ReconcileOutcome DataSourceSource}
    (hlive : ∀ found ∈ store.get dsInfo.dataSource.objectMeta.key,
      found.objectMeta.deletionTimestamp = none)
    (h : (reconcileDataSource requestInstance dsInfo).Reconcile dataSourceType requestInstance
      store cache = .ok out) :
    ∃ ds, out.store.get dsInfo.dataSource.objectMeta.key = some ds ∧
      if dsInfo.autoUpdateEnabled then
        ds.body = ((store.get dsInfo.dataSource.objectMeta.key).map (·.body)).getD default ∧
          ds.objectMeta.labels.lookup dataImportCronLabel = some dsInfo.dataImportCronName
      else
        ds.body = dsInfo.dataSource.source ∧
          ds.objectMeta.labels.lookup dataImportCronLabel = none :=
  reconcileDataSource_written hlive h

/-- The fedora DataSource that a DataImportCron keeps up to date, and the cluster holding it
    with the source the cron gave it. -/
def fedoraAutoUpdate : DataSourceInfo :=
  { dataSource := newDataSource "fedora", autoUpdateEnabled := true
    dataImportCronName := "fedora-image-cron" }

def cronSource : DataSourceSource :=
  { pvc := some { name := "fedora-9e2f6b1c", ns := GoldenImagesNamespace } }

def fedoraStore : Store DataSourceSource :=
  Store.ofList [{ objectMeta := (newDataSource "fedora").objectMeta, body := cronSource }] false

theorem auto_updated_dataSource_keeps_cron_source :
    ∃ out ds, (reconcileDataSource ReconcileBuilder.sampleSSP fedoraAutoUpdate).Reconcile
        dataSourceType ReconcileBuilder.sampleSSP fedoraStore VersionCache.empty = .ok out ∧
      out.store.get (newDataSource "fedora").objectMeta.key = some ds ∧ ds.body = cronSource ∧
      ds.objectMeta.labels.lookup dataImportCronLabel = some "fedora-image-cron" := by
  obtain ⟨out, hout⟩ : ∃ out, (reconcileDataSource ReconcileBuilder.sampleSSP fedoraAutoUpdate).Reconcile
      dataSourceType ReconcileBuilder.sampleSSP fedoraStore VersionCache.empty = .ok out :=
    ⟨_, rfl⟩
  have hlive : ∀ found ∈ fedoraStore.get fedoraAutoUpdate.dataSource.objectMeta.key,
      found.objectMeta.deletionTimestamp = none := by decide
  obtain ⟨ds, hds, hbody, hlabel⟩ := reconcileDataSource_source hlive hout
  exact ⟨out, ds, hout, hds, hbody.trans rfl, hlabel⟩

/-- After a successful run of the functions of `reconcileDataSources`, where no two desired
    DataSources have one name: every desired DataSource that was not being deleted is in the
    cluster as its own reconcile writes it, whatever the other functions did. -/
theorem reconcileDataSources_establishes {requestInstance : SSP}
    {dataSourceInfos : List DataSourceInfo} {listed : List (ClientObject DataSourceSource)}
    {store : Store DataSourceSource} {cache : VersionCache}
    {funcs : List (ReconcileFunc DataSourceSource)}
    {acc : List (ReconcileResult DataSourceSource) × Store DataSourceSource × VersionCache}
    (hfuncs : reconcileDataSources requestInstance dataSourceInfos (.ok listed) = .ok funcs)
    (hrun : CollectResourceStatus (store, cache) funcs = .ok acc)
    (hnodup : (dataSourceInfos.map (·.dataSource.objectMeta.name)).Nodup)
    (dsInfo : DataSourceInfo) (hmem : dsInfo ∈ dataSourceInfos)
    (hlive : ∀ found ∈ store.get dsInfo.dataSource.objectMeta.key,
      found.objectMeta.deletionTimestamp = none) :
    DataSourceWritten dsInfo (store.get dsInfo.dataSource.objectMeta.key)
      (acc.2.1.get dsInfo.dataSource.objectMeta.key) := by
  simp only [reconcileDataSources, ListOwnedResources_ok, except_ok_bind, except_pure,
    Except.ok.injEq] at hfuncs
  subst hfuncs
  have hone : ∀ (dsInfo : DataSourceInfo) st out,
      (reconcileDataSource requestInstance dsInfo).reconcileFunc dataSourceType requestInstance st =
        .ok out → ∀ k, k ≠ dsInfo.dataSource.objectMeta.key → out.2.1.get k = st.1.get k :=
    fun _ _ _ hf _ hk => reconcileFunc_get_of_ne hf hk
  have hdel : ∀ (dataSource : ClientObject DataSourceSource) st out,
      deleteDataSource { dataSource with
        objectMeta := { dataSource.objectMeta with ns := GoldenImagesNamespace } } st = .ok out →
      ∀ k, out.2.1.get k =
        if k = ⟨GoldenImagesNamespace, dataSource.objectMeta.name⟩ ∧
          dataSource.objectMeta.deletionTimestamp.isNone = true then none else st.1.get k :=
    fun _ _ _ h k => deleteDataSource_get h k
  -- what one reconcile makes of its key, for a DataSource that is not being deleted
  have hwritten : ∀ (dsInfo : DataSourceInfo) st out,
      (reconcileDataSource requestInstance dsInfo).reconcileFunc dataSourceType requestInstance st =
        .ok out →
      ((∀ found ∈ st.1.get dsInfo.dataSource.objectMeta.key,
          found.objectMeta.deletionTimestamp = none) →
        DataSourceWritten dsInfo (st.1.get dsInfo.dataSource.objectMeta.key)
          (out.2.1.get dsInfo.dataSource.objectMeta.key)) := by
    rintro dsInfo st ⟨status, st'⟩ hf hlive
    obtain ⟨o, ho, -, rfl⟩ := reconcileFunc_eq_ok.mp hf
    exact reconcileDataSource_written hlive ho
  have hkeys : ∀ (dsInfo : DataSourceInfo) (o : ClientObject DataSourceSource),
      (⟨GoldenImagesNamespace, o.objectMeta.name⟩ : NamespacedName) =
        dsInfo.dataSource.objectMeta.key →
      o.objectMeta.name = dsInfo.dataSource.objectMeta.name :=
    fun _ _ h => congrArg NamespacedName.name h
  -- distinct names are distinct keys
  have hnodupKeys : (dataSourceInfos.map (·.dataSource.objectMeta.key)).Nodup := by
    refine List.Nodup.of_map NamespacedName.name ?_
    rw [List.map_map]
    exact hnodup
  exact reconcileOwnedFuncs_at hone hdel
    (fun dsInfo before after => (∀ found ∈ before, found.objectMeta.deletionTimestamp = none) →
      DataSourceWritten dsInfo before after)
    hwritten hkeys hrun hnodupKeys dsInfo hmem hlive

/-- The CentOS Stream 9 DataSource, which no DataImportCron keeps up to date. -/
def centosStream9 : DataSourceInfo := { dataSource := newDataSource "centos-stream9" }

theorem fedora_and_centos_written_in_one_pass :
    ∃ funcs acc,
      reconcileDataSources ReconcileBuilder.sampleSSP [fedoraAutoUpdate, centosStream9] (.ok []) =
        .ok funcs ∧
      CollectResourceStatus (fedoraStore, VersionCache.empty) funcs = .ok acc ∧
      (∃ ds, acc.2.1.get fedoraAutoUpdate.dataSource.objectMeta.key = some ds ∧
        ds.body = cronSource) ∧
      (∃ ds, acc.2.1.get centosStream9.dataSource.objectMeta.key = some ds ∧
        ds.body = (newDataSource "centos-stream9").source) := by
  obtain ⟨funcs, hfuncs⟩ : ∃ funcs, reconcileDataSources ReconcileBuilder.sampleSSP
      [fedoraAutoUpdate, centosStream9] (.ok []) = .ok funcs := ⟨_, rfl⟩
  obtain ⟨acc, hrun⟩ : ∃ acc,
      CollectResourceStatus (fedoraStore, VersionCache.empty) funcs = .ok acc := by
    cases hfuncs
    exact ⟨_, rfl⟩
  obtain ⟨fedora, hfedora, hfedoraBody, -⟩ := reconcileDataSources_establishes hfuncs hrun
    (by decide) fedoraAutoUpdate (by simp) (by decide)
  obtain ⟨centos, hcentos, hcentosBody, -⟩ := reconcileDataSources_establishes hfuncs hrun
    (by decide) centosStream9 (by simp) (by decide)
  exact ⟨funcs, acc, hfuncs, hrun, ⟨fedora, hfedora, hfedoraBody.trans rfl⟩,
    ⟨centos, hcentos, hcentosBody⟩⟩

/-! ## Cleanup -/

/-- The loop of `dataSources.Cleanup` over the DataImportCrons the SSP owns: the results,
    whether all of them say deleted, and the store of crons after it. -/
def cleanupDataImportCrons (requestInstance : SSP) (crons : Store String)
    (ownedCrons : List (ClientObject String)) :
    Except Fault (List (CleanupResult String) × Bool × Store String) :=
  ownedCrons.foldlM
    (fun acc cron => do
      let (result, store) ← Cleanup requestInstance acc.2.2 cron
      pure (acc.1 ++ [result], acc.2.1 && result.deleted, store))
    ([], true, crons)

/-- `dataSources.Cleanup`, on the stores of DataImportCrons and DataSources: the `Deleted`
    flags of its results, and the two stores after it. -/
def dataSourcesCleanup (requestInstance : SSP) (crdExists : String → Bool)
    (listedCrons : Except String (List (ClientObject String)))
    (listedDataSources : Except String (List (ClientObject DataSourceSource)))
    (crons : Store String) (dataSources : Store DataSourceSource) :
    Except Fault (List Bool × Store String × Store DataSourceSource) := do
  let (pending, crons) ←
    if crdExists dataImportCronCrd then do
      let ownedCrons ← (ListOwnedResources requestInstance listedCrons).mapError Fault.error
      let (results, allDataImportCronsDeleted, crons) ←
        cleanupDataImportCrons requestInstance crons ownedCrons
      pure (if allDataImportCronsDeleted then none else some (results.map (·.deleted)), crons)
    else pure (none, crons)
  match pending with
  -- the rest of the objects are deleted once all DataImportCrons are deleted
  | some flags => pure (flags, crons, dataSources)
  | none => do
      let ownedDataSources ←
        if crdExists dataSourceCrd then
          (ListOwnedResources requestInstance listedDataSources).mapError Fault.error
        else pure []
      let (results, dataSources) ← DeleteAll requestInstance dataSources ownedDataSources
      pure (results.map (·.deleted), crons, dataSources)

/-- While every cron cleaned up so far was gone, the loop has written nothing, and each of
    those crons is one a cleanup of the first store reports gone; once one was not, the
    results say so. -/
theorem cleanupDataImportCrons_inv {requestInstance : SSP} {crons : Store String}
    {ownedCrons : List (ClientObject String)}
    {out : List (CleanupResult String) × Bool × Store String}
    (h : cleanupDataImportCrons requestInstance crons ownedCrons = .ok out) :
    (out.2.1 = true → out.2.2 = crons ∧ ∀ o ∈ ownedCrons, ∀ result store,
      Cleanup requestInstance crons o = .ok (result, store) → result.deleted = true) ∧
    (out.2.1 = false → false ∈ out.1.map (·.deleted)) := by
  refine Loop.foldlM_inv _ (fun done acc =>
      (acc.2.1 = true → acc.2.2 = crons ∧ ∀ o ∈ done, ∀ result store,
        Cleanup requestInstance crons o = .ok (result, store) → result.deleted = true) ∧
      (acc.2.1 = false → false ∈ acc.1.map (·.deleted)))
    ?_ ownedCrons [] _ out ⟨fun _ => ⟨rfl, by simp⟩, by simp⟩ h
  intro done acc cron acc' ⟨hgone, hpending⟩ hstep
  obtain ⟨⟨result, store⟩, hcleanup, hacc'⟩ := except_bind_eq_ok.mp hstep
  cases hacc'
  refine ⟨fun hall => ?_, fun hall => ?_⟩
  · -- every cron so far gone: the store is the first one, and so is this cron's cleanup
    simp only [Bool.and_eq_true] at hall
    obtain ⟨hstore, hdone⟩ := hgone hall.1
    rw [hstore] at hcleanup
    refine ⟨Cleanup_store_of_deleted hcleanup hall.2, fun o ho result' store' hcl => ?_⟩
    rcases List.mem_append.mp ho with ho | ho
    · exact hdone o ho result' store' hcl
    · rw [List.mem_singleton.mp ho, hcleanup] at hcl
      cases hcl
      exact hall.2
  · simp only [Bool.and_eq_false_iff] at hall
    simp only [List.map_append, List.map_cons, List.map_nil, List.mem_append,
      List.mem_singleton]
    rcases hall with hall | hall
    · exact .inl (hpending hall)
    · exact .inr hall.symm

/-- What a successful call of `dataSources.Cleanup` does where the cron CRD exists: the loop
    over the owned crons, then the crons' flags where one was not gone, and otherwise
    `DeleteAll` of the owned DataSources, listed where their CRD exists, and its flags. -/
theorem dataSourcesCleanup_eq_ok {requestInstance : SSP} {crdExists : String → Bool}
    {listedCrons : List (ClientObject String)}
    {listedDataSources : Except String (List (ClientObject DataSourceSource))}
    {crons crons' : Store String} {dataSources dataSources' : Store DataSourceSource}
    {flags : List Bool}
    (hcrd : crdExists dataImportCronCrd = true)
    (h : dataSourcesCleanup requestInstance crdExists (.ok listedCrons) listedDataSources
      crons dataSources = .ok (flags, crons', dataSources')) :
    ∃ results all, cleanupDataImportCrons requestInstance crons
        (listedCrons.filter fun item => CheckOwnerAnnotation item.objectMeta requestInstance) =
        .ok (results, all, crons') ∧
      (all = false → flags = results.map (·.deleted) ∧ dataSources' = dataSources) ∧
      (all = true → ∃ ownedDataSources dsResults,
        (if crdExists dataSourceCrd then
          (ListOwnedResources requestInstance listedDataSources).mapError Fault.error
        else pure []) = .ok ownedDataSources ∧
        DeleteAll requestInstance dataSources ownedDataSources = .ok (dsResults, dataSources') ∧
        flags = dsResults.map (·.deleted)) := by
  unfold dataSourcesCleanup at h
  simp only [hcrd, if_true, ListOwnedResources_ok, mapError_ok, except_ok_bind] at h
  cases hloop : cleanupDataImportCrons requestInstance crons
      (listedCrons.filter fun item => CheckOwnerAnnotation item.objectMeta requestInstance) with
  | error e =>
      rw [hloop] at h
      cases h
  | ok out =>
      obtain ⟨results, all, crons''⟩ := out
      rw [hloop] at h
      cases all
      · -- a cron is left: the call stops with the crons' flags
        simp only [except_ok_bind, Bool.false_eq_true, if_false, except_pure, Except.ok.injEq,
          Prod.mk.injEq] at h
        obtain ⟨rfl, rfl, rfl⟩ := h
        exact ⟨results, false, rfl, fun _ => ⟨rfl, rfl⟩, fun hall => absurd hall (by simp)⟩
      · -- every cron is gone: the owned DataSources, listed where their CRD exists, are
        -- deleted
        simp only [except_ok_bind, if_true, except_pure] at h
        split at h
        · rename_i hds
          obtain ⟨ownedDataSources, howned, h⟩ := except_bind_eq_ok.mp h
          obtain ⟨⟨dsResults, dataSources''⟩, hdel, h⟩ := except_bind_eq_ok.mp h
          cases h
          exact ⟨results, true, rfl, fun hall => absurd hall (by simp),
            fun _ => ⟨ownedDataSources, dsResults, by rw [if_pos hds]; exact howned, hdel, rfl⟩⟩
        · rename_i hds
          obtain ⟨⟨dsResults, dataSources''⟩, hdel, h⟩ := except_bind_eq_ok.mp h
          cases h
          exact ⟨results, true, rfl, fun hall => absurd hall (by simp),
            fun _ => ⟨[], dsResults, by rw [if_neg hds]; rfl, hdel, rfl⟩⟩

/-- A call of `dataSources.Cleanup` that finds a DataImportCron the SSP owns, as the store
    holds it, deletes no DataSource, and reports that something is left. -/
theorem cleanup_keeps_dataSources_while_crons {requestInstance : SSP}
    {crdExists : String → Bool} {listedCrons : List (ClientObject String)}
    {listedDataSources : Except String (List (ClientObject DataSourceSource))}
    {crons crons' : Store String} {dataSources dataSources' : Store DataSourceSource}
    {flags : List Bool}
    (hname : requestInstance.objectMeta.name ≠ "")
    (hcrd : crdExists dataImportCronCrd = true)
    (hcurrent : ∀ o ∈ listedCrons, crons.get o.objectMeta.key = some o)
    (howned : ∃ o ∈ listedCrons, CheckOwnerAnnotation o.objectMeta requestInstance = true)
    (h : dataSourcesCleanup requestInstance crdExists (.ok listedCrons) listedDataSources crons
      dataSources = .ok (flags, crons', dataSources')) :
    dataSources' = dataSources ∧ false ∈ flags := by
  obtain ⟨o, ho, hoowned⟩ := howned
  obtain ⟨results, all, hloop, hstopped, -⟩ := dataSourcesCleanup_eq_ok hcrd h
  obtain ⟨hgone, hpending⟩ := cleanupDataImportCrons_inv hloop
  -- the owned cron, found as the store holds it, is not gone, so not all crons are
  have hnot : all = false := by
    cases hall : all
    · rfl
    · obtain ⟨-, hdone⟩ := hgone hall
      rw [not_owned_of_cleanup_deleted hname (hcurrent o ho) ho hdone] at hoowned
      cases hoowned
  obtain ⟨hflags, hkept⟩ := hstopped hnot
  exact ⟨hkept, hflags ▸ hpending hnot⟩

/-- A cron and a DataSource the sample SSP owns. -/
def ownedCron : ClientObject String :=
  { objectMeta := { name := "fedora-image-cron", ns := GoldenImagesNamespace
                    annotations := sampleOwnerAnnotations }
    body := "fedora" }

def ownedDataSource : ClientObject DataSourceSource :=
  { objectMeta := { (newDataSource "fedora").objectMeta with annotations := sampleOwnerAnnotations }
    body := (newDataSource "fedora").source }

theorem cleanup_with_owned_cron_keeps_dataSource :
    ∃ flags crons',
      dataSourcesCleanup ReconcileBuilder.sampleSSP (fun _ => true) (.ok [ownedCron])
        (.ok [ownedDataSource]) (Store.ofList [ownedCron] false)
        (Store.ofList [ownedDataSource] false) =
        .ok (flags, crons', Store.ofList [ownedDataSource] false) ∧ false ∈ flags := by
  obtain ⟨flags, crons', dataSources', h⟩ : ∃ flags crons' dataSources',
      dataSourcesCleanup ReconcileBuilder.sampleSSP (fun _ => true) (.ok [ownedCron])
        (.ok [ownedDataSource]) (Store.ofList [ownedCron] false)
        (Store.ofList [ownedDataSource] false) = .ok (flags, crons', dataSources') :=
    ⟨_, _, _, rfl⟩
  obtain ⟨rfl, hpending⟩ := cleanup_keeps_dataSources_while_crons (by decide) rfl (by decide)
    ⟨ownedCron, List.mem_singleton_self _, by decide⟩ h
  exact ⟨flags, crons', h, hpending⟩

/-- The report of `dataSources.Cleanup` that everything is deleted is sound: on listings of
    every cron, and of every DataSource of the golden-images namespace, as the stores hold
    them, a call whose flags all say deleted has written nothing, and no cron and no
    DataSource of that namespace is left that the SSP owns. -/
theorem cleanup_done_only_when_nothing_owned {requestInstance : SSP}
    {crdExists : String → Bool} {listedCrons : List (ClientObject String)}
    {listedDataSources : List (ClientObject DataSourceSource)}
    {crons crons' : Store String} {dataSources dataSources' : Store DataSourceSource}
    {flags : List Bool}
    (hname : requestInstance.objectMeta.name ≠ "")
    (hcrds : crdExists dataImportCronCrd = true ∧ crdExists dataSourceCrd = true)
    (hcompleteCrons : ∀ k o, crons.get k = some o → o ∈ listedCrons)
    (hcurrentCrons : ∀ o ∈ listedCrons, crons.get o.objectMeta.key = some o)
    (hcompleteDataSources : ∀ k o, k.ns = GoldenImagesNamespace → dataSources.get k = some o →
      o ∈ listedDataSources)
    (hcurrentDataSources : ∀ o ∈ listedDataSources, dataSources.get o.objectMeta.key = some o)
    (h : dataSourcesCleanup requestInstance crdExists (.ok listedCrons) (.ok listedDataSources)
      crons dataSources = .ok (flags, crons', dataSources'))
    (hdone : ∀ b ∈ flags, b = true) :
    crons' = crons ∧ dataSources' = dataSources ∧
      (∀ k o, crons.get k = some o → CheckOwnerAnnotation o.objectMeta requestInstance = false) ∧
      (∀ k o, k.ns = GoldenImagesNamespace → dataSources.get k = some o →
        CheckOwnerAnnotation o.objectMeta requestInstance = false) := by
  obtain ⟨results, all, hloop, hstopped, hdeleted⟩ := dataSourcesCleanup_eq_ok hcrds.1 h
  obtain ⟨hgone, hpending⟩ := cleanupDataImportCrons_inv hloop
  cases all
  · -- a cron left would be a flag that says not deleted
    obtain ⟨rfl, -⟩ := hstopped rfl
    exact absurd (hdone false (hpending rfl)) (by simp)
  obtain ⟨ownedDataSources, dsResults, howned, hdel, rfl⟩ := hdeleted rfl
  simp only [hcrds.2, if_true, ListOwnedResources_ok, mapError_ok, Except.ok.injEq] at howned
  subst howned
  obtain ⟨hcrons, hcronsGone⟩ := hgone rfl
  obtain ⟨hdataSources, hdataSourcesGone⟩ :=
    DeleteAll_of_all_deleted hdel (fun r hr => hdone _ (List.mem_map_of_mem hr))
  -- every object the stores hold is listed, and an owned one would not be reported gone
  refine ⟨hcrons, hdataSources, fun k o hget => ?_, fun k o hns hget => ?_⟩
  · have hlisted := hcompleteCrons k o hget
    exact not_owned_of_cleanup_deleted hname (hcurrentCrons o hlisted) hlisted hcronsGone
  · have hlisted := hcompleteDataSources k o hns hget
    exact not_owned_of_cleanup_deleted hname (hcurrentDataSources o hlisted) hlisted
      hdataSourcesGone

theorem user_objects_kept_by_finished_cleanup :
    ∃ flags, dataSourcesCleanup ReconcileBuilder.sampleSSP (fun _ => true) (.ok [userCron])
        (.ok [userDataSource]) (Store.ofList [userCron] false)
        (Store.ofList [userDataSource] false) =
        .ok (flags, Store.ofList [userCron] false, Store.ofList [userDataSource] false) ∧
      CheckOwnerAnnotation userDataSource.objectMeta ReconcileBuilder.sampleSSP = false := by
  obtain ⟨flags, crons', dataSources', h⟩ : ∃ flags crons' dataSources',
      dataSourcesCleanup ReconcileBuilder.sampleSSP (fun _ => true) (.ok [userCron])
        (.ok [userDataSource]) (Store.ofList [userCron] false)
        (Store.ofList [userDataSource] false) = .ok (flags, crons', dataSources') :=
    ⟨_, _, _, rfl⟩
  have hdone : ∀ b ∈ flags, b = true := by
    cases h
    decide
  obtain ⟨rfl, rfl, -, hdataSources⟩ := cleanup_done_only_when_nothing_owned (by decide)
    ⟨rfl, rfl⟩ (fun _ _ hget => Store.mem_of_ofList_get hget) (by decide)
    (fun _ _ _ hget => Store.mem_of_ofList_get hget) (by decide) h hdone
  exact ⟨flags, h, hdataSources userDataSource.objectMeta.key userDataSource rfl (by decide)⟩

end SspOperator.Operands
