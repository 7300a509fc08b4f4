import SspOperator.Operands.DataSources

/-
  The desired state of the data-sources operand: the DataSources of
  `getDataSourcesAndCrons` and the crons it keeps.

  Every cron of `getCronsByDataSource` and `getCronsByDataSourceMultiArch` sits under the
  key of the DataSource it manages, and the deletion loop keeps the cron of no DataSource
  whose auto-update is off (`no_cron_without_auto_update`). With multi-architecture
  support, a collected name `d` gives a reference DataSource `d` and the DataSources
  `d-arch`. When no collected name is another one with an architecture suffix, the names
  of the desired DataSources are pairwise distinct, and every DataSource with auto-update
  keeps the cron it was computed with (`desired_data_sources_keep_their_crons`).

  Nothing in the code rules such a collection out: with `fedora` and `fedora-amd64`
  collected, two desired DataSources are named `fedora-amd64`, and the reference one,
  without auto-update, takes away the cron of the other
  (`suffixed_name_gives_two_data_sources`).
-/

namespace SspOperator.Operands

open TemplateBundle

/-! ## Names with an architecture suffix -/

theorem Arch.length_toString (arch : Arch) : arch.toString.length = 5 := by
  cases arch <;> rfl

theorem Arch.toString_injective {a b : Arch} (h : a.toString = b.toString) : a = b := by
  have hto : ToArch a.toString = ToArch b.toString := by rw [h]
  simpa using hto

/-- The name and the architecture come back from `name-arch`. -/
theorem suffixed_inj {n₁ n₂ : String} {a₁ a₂ : Arch}
    (h : n₁ ++ "-" ++ a₁.toString = n₂ ++ "-" ++ a₂.toString) : n₁ = n₂ ∧ a₁ = a₂ := by
  have hlist := congrArg String.toList h
  simp only [String.toList_append] at hlist
  -- the suffixes have the same length, and so have the dashes before them
  obtain ⟨hdash, harch⟩ := List.append_inj' hlist
    (by rw [String.length_toList, String.length_toList, Arch.length_toString, Arch.length_toString])
  obtain ⟨hname, -⟩ := List.append_inj' hdash rfl
  exact ⟨String.toList_inj.mp hname, Arch.toString_injective (String.toList_inj.mp harch)⟩

/-- A name is never itself with a suffix. -/
theorem ne_suffixed (n : String) (arch : Arch) : n ≠ n ++ "-" ++ arch.toString := by
  intro h
  have hlen := congrArg String.length h
  simp only [String.length_append, Arch.length_toString] at hlen
  omega

/-! ## Crons under their own keys -/

/-- Every cron of a cron map sits under the key of the DataSource it manages. -/
def CronMap.Keyed (cronByDataSource : CronMap) : Prop :=
  ∀ entry ∈ cronByDataSource, entry.2.key = entry.1

theorem keyedBy_addToCronMap {cronMap : CronTable}
    (hm : KeyedMap.KeyedBy DataImportCron.key cronMap) (cron : DataImportCron) :
    KeyedMap.KeyedBy DataImportCron.key (addToCronMap cronMap cron) :=
  hm.insert cron

theorem CronTable.keyed_toCronMap {cronMap : CronTable}
    (hm : KeyedMap.KeyedBy DataImportCron.key cronMap) : cronMap.toCronMap.Keyed := by
  intro entry hentry
  obtain ⟨e, he, rfl⟩ := List.mem_map.mp hentry
  exact hm e he

theorem keyedBy_cronsForTemplateMultiArch (sourceCollection : DataSourceCollection)
    (clusterArchs : List Arch) {cronByDataSource : CronTable}
    (hm : KeyedMap.KeyedBy DataImportCron.key cronByDataSource)
    (cronTemplate : DataImportCronTemplate) :
    KeyedMap.KeyedBy DataImportCron.key
      (cronsForTemplateMultiArch sourceCollection clusterArchs cronByDataSource cronTemplate) := by
  unfold cronsForTemplateMultiArch
  dsimp only
  -- every branch adds crons with `addToCronMap`, whichever cron the template prepares: one
  -- without the annotation, one for each architecture of the annotation with it
  repeat' split
  all_goals first
    | exact keyedBy_addToCronMap hm _
    | refine KeyedMap.KeyedBy.foldl (fun m arch hm' => ?_) _ hm
      split
      · exact hm'
      · exact keyedBy_addToCronMap hm' _

theorem keyed_getCronsByDataSourceMultiArch {goarch : String} {sspSpec : SSPSpec}
    {sourceCollection : DataSourceCollection} {cronByDataSource : CronMap}
    (h : getCronsByDataSourceMultiArch goarch sspSpec sourceCollection = .ok cronByDataSource) :
    cronByDataSource.Keyed := by
  unfold getCronsByDataSourceMultiArch at h
  cases hmulti : sspSpec.isMultiarch with
  | false => simp [hmulti] at h
  | true =>
      cases harchs : GetSSPArchs goarch sspSpec with
      | error e => simp [hmulti, harchs] at h
      | ok clusterArchs =>
          simp only [hmulti, harchs, Bool.not_true, Bool.false_eq_true, ↓reduceIte,
            except_ok_bind, except_pure, Except.ok.injEq] at h
          rw [← h]
          exact CronTable.keyed_toCronMap (KeyedMap.KeyedBy.foldl
            (fun _ cronTemplate hm =>
              keyedBy_cronsForTemplateMultiArch sourceCollection clusterArchs hm cronTemplate) _
            KeyedMap.keyedBy_empty)

theorem keyed_getCronsByDataSource (sspSpec : SSPSpec) : (getCronsByDataSource sspSpec).Keyed :=
  CronTable.keyed_toCronMap
    (KeyedMap.KeyedBy.foldl (fun _ _ hm => keyedBy_addToCronMap hm _) _ KeyedMap.keyedBy_empty)

/-! ## The DataSources of multi-architecture support -/

/-- The names `getDataSourceInfosMultiArch` gives a collected name: the reference named
    after it, then the name with each of its architectures that the cluster runs. -/
def namesForEntry (clusterArchs : List Arch) (entry : String × List Arch) : List String :=
  match getDefaultDataSourceArch clusterArchs entry.2 with
  | none => []
  | some _ =>
      entry.1 :: (entry.2.filter (· ∈ clusterArchs)).map fun arch => entry.1 ++ "-" ++ arch.toString

/-- A DataSource of the desired state: in the golden-images namespace, and in agreement with
    the crons. -/
def DesiredInfo (cronByDataSource : CronMap) (info : DataSourceInfo) : Prop :=
  info.dataSource.objectMeta.ns = GoldenImagesNamespace ∧ CronAgrees cronByDataSource info

/-- A reference DataSource has no auto-update. -/
theorem desiredInfo_reference (cronByDataSource : CronMap) (name referenceName : String) :
    DesiredInfo cronByDataSource { dataSource := newDataSourceReference name referenceName } :=
  ⟨rfl, fun hauto => by cases hauto⟩

section desired

variable (client : ClientReads) (goarch : String)

/-- One name of the outer loop appends the names `namesForEntry` gives it, as DataSources of
    the desired state. -/
theorem dataSourceInfosForName_names {cronByDataSource : CronMap} {clusterArchs : List Arch}
    {infos infos' : List DataSourceInfo} {entry : String × List Arch}
    (h : dataSourceInfosForName client cronByDataSource clusterArchs infos entry = .ok infos')
    (hinfos : ∀ info ∈ infos, DesiredInfo cronByDataSource info) :
    infos'.map (·.dataSource.objectMeta.name) =
        infos.map (·.dataSource.objectMeta.name) ++ namesForEntry clusterArchs entry ∧
      ∀ info ∈ infos', DesiredInfo cronByDataSource info := by
  obtain ⟨name, dsArchs⟩ := entry
  rcases dataSourceInfosForName_cases client h with ⟨hdefault, rfl⟩ | ⟨defaultArch, hdefault, h⟩
  · exact ⟨by simp [namesForEntry, hdefault], hinfos⟩
  · -- the inner loop appends `name-arch` for each architecture of the cluster, in order
    have hloop := Loop.foldlM_inv
      (dataSourceInfoForArch client cronByDataSource clusterArchs name defaultArch)
      (fun done acc => acc.map (·.dataSource.objectMeta.name) =
          infos.map (·.dataSource.objectMeta.name) ++
            name :: (done.filter (· ∈ clusterArchs)).map (fun arch => name ++ "-" ++ arch.toString) ∧
        ∀ info ∈ acc, DesiredInfo cronByDataSource info)
      (by
        intro done acc arch acc' ⟨hnames, hdesired⟩ hstep
        rcases dataSourceInfoForArch_cases client hstep with
          ⟨harch, rfl⟩ | ⟨harch, info, rfl, hmeta, hagrees⟩
        · exact ⟨by simp [hnames, harch], hdesired⟩
        · refine ⟨by simp [hnames, harch, hmeta], ?_⟩
          intro i hi
          rcases List.mem_append.mp hi with hi | hi
          · exact hdesired i hi
          · rw [List.mem_singleton.mp hi]
            exact ⟨by rw [hmeta], hagrees⟩)
      dsArchs [] _ infos'
      ⟨by simp [newDataSourceReference], by
        intro info hinfo
        rcases List.mem_append.mp hinfo with hinfo | hinfo
        · exact hinfos info hinfo
        · rw [List.mem_singleton.mp hinfo]
          exact desiredInfo_reference _ _ _⟩
      h
    obtain ⟨hnames, hdesired⟩ := hloop
    refine ⟨?_, hdesired⟩
    rw [hnames]
    simp [namesForEntry, hdefault]

/-- The names of the DataSources of `getDataSourceInfosMultiArch` are those `namesForEntry`
    gives the collected names, in the collection's order, and each is a DataSource of the
    desired state. -/
theorem getDataSourceInfosMultiArch_names {sourceCollection : DataSourceCollection}
    {cronByDataSource : CronMap} {sspSpec : SSPSpec} {clusterArchs : List Arch}
    {infos : List DataSourceInfo}
    (harchs : GetSSPArchs goarch sspSpec = .ok clusterArchs)
    (h : getDataSourceInfosMultiArch client goarch sourceCollection cronByDataSource sspSpec =
      .ok infos) :
    infos.map (·.dataSource.objectMeta.name) =
        sourceCollection.flatMap (namesForEntry clusterArchs) ∧
      ∀ info ∈ infos, DesiredInfo cronByDataSource info := by
  obtain ⟨-, clusterArchs', harchs', h⟩ := getDataSourceInfosMultiArch_eq_ok client goarch h
  rw [harchs, Except.ok.injEq] at harchs'
  subst harchs'
  -- the outer loop over the collection
  have hloop := Loop.foldlM_inv (dataSourceInfosForName client cronByDataSource clusterArchs)
    (fun done acc => acc.map (·.dataSource.objectMeta.name) =
        done.flatMap (namesForEntry clusterArchs) ∧
      ∀ info ∈ acc, DesiredInfo cronByDataSource info)
    (by
      intro done acc entry acc' ⟨hnames, hdesired⟩ hstep
      obtain ⟨hnames', hdesired'⟩ := dataSourceInfosForName_names client hstep hdesired
      exact ⟨by simp [hnames', hnames], hdesired'⟩)
    sourceCollection [] [] infos ⟨rfl, fun _ hinfo => by cases hinfo⟩ h
  simpa using hloop

end desired

/-- The references for the SSP's own crons keep the names distinct, and are DataSources of
    the desired state. -/
theorem addDataSourceReferenceForCrons_desired (cronByDataSource : CronMap)
    (cronTemplates : List DataImportCronTemplate) (clusterArchs : List Arch) :
    ∀ infos : List DataSourceInfo, (infos.map (·.dataSource.objectMeta.name)).Nodup →
      (∀ info ∈ infos, DesiredInfo cronByDataSource info) →
      ((addDataSourceReferenceForCrons infos cronTemplates clusterArchs).map
          (·.dataSource.objectMeta.name)).Nodup ∧
        ∀ info ∈ addDataSourceReferenceForCrons infos cronTemplates clusterArchs,
          DesiredInfo cronByDataSource info := by
  induction cronTemplates with
  | nil => intro infos hnodup hdesired; exact ⟨hnodup, hdesired⟩
  | cons cronTemplate rest ih =>
      intro infos hnodup hdesired
      rw [addDataSourceReferenceForCrons_cons]
      rcases addDataSourceReferenceForCrons_single infos cronTemplate clusterArchs with
        hsame | ⟨referenceName, hfree, happend⟩
      · rw [hsame]
        exact ih infos hnodup hdesired
      · -- the reference takes a name no DataSource has, and has no auto-update
        rw [happend]
        refine ih _ ?_ ?_
        · rw [List.map_append, List.nodup_append]
          refine ⟨hnodup, List.nodup_singleton _, ?_⟩
          intro a ha b hb heq
          rw [List.mem_singleton.mp hb] at heq
          have hname : a = cronTemplate.managedDataSource := heq
          exact hfree (hname ▸ ha)
        · intro info hinfo
          rcases List.mem_append.mp hinfo with hinfo | hinfo
          · exact hdesired info hinfo
          · rw [List.mem_singleton.mp hinfo]
            exact desiredInfo_reference _ _ _

/-! ## Distinct names -/

/-- Each name of an entry is the entry's name, or that name with an architecture suffix. -/
theorem mem_namesForEntry {clusterArchs : List Arch} {entry : String × List Arch} {n : String}
    (h : n ∈ namesForEntry clusterArchs entry) :
    n = entry.1 ∨ ∃ arch : Arch, n = entry.1 ++ "-" ++ arch.toString := by
  unfold namesForEntry at h
  split at h
  · cases h
  · rcases List.mem_cons.mp h with rfl | h
    · exact Or.inl rfl
    · obtain ⟨arch, -, rfl⟩ := List.mem_map.mp h
      exact Or.inr ⟨arch, rfl⟩

theorem nodup_namesForEntry (clusterArchs : List Arch) {entry : String × List Arch}
    (harchs : entry.2.Nodup) : (namesForEntry clusterArchs entry).Nodup := by
  unfold namesForEntry
  split
  · exact List.nodup_nil
  · refine List.nodup_cons.mpr ⟨?_, ?_⟩
    · intro hmem
      obtain ⟨arch, -, heq⟩ := List.mem_map.mp hmem
      exact ne_suffixed entry.1 arch heq.symm
    · exact (harchs.filter _).map fun a b hab => (suffixed_inj hab).2

/-- Two collected names, neither of which is the other with a suffix, share no DataSource
    name. -/
theorem disjoint_namesForEntry (clusterArchs : List Arch) {e₁ e₂ : String × List Arch}
    (hne : e₁.1 ≠ e₂.1) (h₁₂ : ∀ arch : Arch, e₁.1 ≠ e₂.1 ++ "-" ++ arch.toString)
    (h₂₁ : ∀ arch : Arch, e₂.1 ≠ e₁.1 ++ "-" ++ arch.toString) :
    List.Disjoint (namesForEntry clusterArchs e₁) (namesForEntry clusterArchs e₂) := by
  intro n hn₁ hn₂
  rcases mem_namesForEntry hn₁ with rfl | ⟨a₁, rfl⟩ <;>
    rcases mem_namesForEntry hn₂ with h | ⟨a₂, h⟩
  · exact hne h
  · exact h₁₂ a₂ h
  · exact h₂₁ a₁ h.symm
  · exact hne (suffixed_inj h).1

/-- In a collection none of whose names is another with a suffix, the DataSource names are
    distinct. -/
theorem nodup_flatMap_namesForEntry (clusterArchs : List Arch)
    {sourceCollection : DataSourceCollection} (hcollection : sourceCollection.WellFormed)
    (hsuffix : ∀ e₁ ∈ sourceCollection, ∀ e₂ ∈ sourceCollection, ∀ arch : Arch,
      e₁.1 ≠ e₂.1 ++ "-" ++ arch.toString) :
    (sourceCollection.flatMap (namesForEntry clusterArchs)).Nodup := by
  obtain ⟨hkeys, harchs⟩ := hcollection
  refine List.nodup_flatMap.mpr ⟨fun e he => nodup_namesForEntry clusterArchs (harchs e he), ?_⟩
  have hpair : sourceCollection.Pairwise (fun a b => a.1 ≠ b.1) := List.pairwise_map.mp hkeys
  refine hpair.imp_of_mem ?_
  intro e₁ e₂ he₁ he₂ hne
  exact disjoint_namesForEntry clusterArchs hne (hsuffix e₁ he₁ e₂ he₂) (hsuffix e₂ he₂ e₁ he₁)

/-! ## The crons of the desired state -/

/-- The deletion loop of `getDataSourcesAndCrons` keeps exactly the crons under no key of a
    DataSource without auto-update. -/
theorem mem_foldl_delete (infos : List DataSourceInfo) :
    ∀ (crons : CronMap) (entry : NamespacedName × DataImportCron),
      entry ∈ infos.foldl (fun crons info =>
          if !info.autoUpdateEnabled then crons.filter (·.1 ≠ info.dataSource.objectMeta.key)
          else crons) crons ↔
        entry ∈ crons ∧ ∀ info ∈ infos, info.autoUpdateEnabled = false →
          entry.1 ≠ info.dataSource.objectMeta.key := by
  induction infos with
  | nil => intro crons entry; simp
  | cons info infos ih =>
      intro crons entry
      rw [List.foldl_cons, ih]
      cases hauto : info.autoUpdateEnabled
      · simp [hauto, List.mem_filter, and_assoc]
      · simp [hauto]

/-- The crons the deletion loop leaves are those under no key of a DataSource without
    auto-update. -/
theorem mem_map_foldl_delete (infos : List DataSourceInfo) (crons : CronMap)
    (cron : DataImportCron) :
    cron ∈ (infos.foldl (fun crons info =>
        if !info.autoUpdateEnabled then crons.filter (·.1 ≠ info.dataSource.objectMeta.key)
        else crons) crons).map (·.2) ↔
      ∃ key, (key, cron) ∈ crons ∧ ∀ info ∈ infos, info.autoUpdateEnabled = false →
        key ≠ info.dataSource.objectMeta.key := by
  simp only [List.mem_map, mem_foldl_delete, Prod.exists]
  constructor
  · rintro ⟨key, c, ⟨hmem, hkept⟩, rfl⟩
    exact ⟨key, hmem, hkept⟩
  · rintro ⟨key, hmem, hkept⟩
    exact ⟨key, cron, ⟨hmem, hkept⟩, rfl⟩

section desired

variable (client : ClientReads) (goarch : String)

/-- What `getDataSourcesAndCrons` returns: the crons of the cron map it computed, under no key
    of a DataSource without auto-update, and with multi-architecture support the DataSources
    of `getDataSourceInfosMultiArch` followed by the references for the SSP's crons. -/
theorem getDataSourcesAndCrons_eq {getCronsByDataSource : SSPSpec → CronMap}
    {getCronsByDataSourceMultiArch : SSPSpec → DataSourceCollection → Except String CronMap}
    {sourceCollection : DataSourceCollection} {sspSpec : SSPSpec} {result : DataSourcesAndCrons}
    (h : getDataSourcesAndCrons client goarch getCronsByDataSource getCronsByDataSourceMultiArch
      sourceCollection sspSpec = .ok result) :
    ∃ cronByDataSource : CronMap,
      (if sspSpec.isMultiarch then
          getCronsByDataSourceMultiArch sspSpec sourceCollection = .ok cronByDataSource
        else cronByDataSource = getCronsByDataSource sspSpec) ∧
      (sspSpec.isMultiarch = true → ∃ infos clusterArchs,
        getDataSourceInfosMultiArch client goarch sourceCollection cronByDataSource sspSpec =
          .ok infos ∧ GetSSPArchs goarch sspSpec = .ok clusterArchs ∧
        result.dataSourceInfos = addDataSourceReferenceForCrons infos
          sspSpec.commonTemplates.dataImportCronTemplates clusterArchs) ∧
      ∀ cron, cron ∈ result.dataImportCrons ↔ ∃ key, (key, cron) ∈ cronByDataSource ∧
        ∀ info ∈ result.dataSourceInfos, info.autoUpdateEnabled = false →
          key ≠ info.dataSource.objectMeta.key := by
  unfold getDataSourcesAndCrons at h
  cases hmulti : sspSpec.isMultiarch with
  | false =>
      simp only [hmulti, Bool.false_eq_true, ↓reduceIte, except_pure, except_ok_bind] at h
      obtain ⟨infos, -, h⟩ := except_bind_eq_ok.mp h
      simp only [Except.ok.injEq] at h
      subst h
      refine ⟨getCronsByDataSource sspSpec, by simp, ?_, ?_⟩
      · intro hcontra
        cases hcontra
      · exact mem_map_foldl_delete _ _
  | true =>
      simp only [hmulti, ↓reduceIte] at h
      obtain ⟨cronByDataSource, hcrons, h⟩ := except_bind_eq_ok.mp h
      obtain ⟨infos, hinfos, h⟩ := except_bind_eq_ok.mp h
      obtain ⟨clusterArchs, harchs, h⟩ := except_bind_eq_ok.mp h
      simp only [except_pure, except_ok_bind, Except.ok.injEq] at h
      subst h
      refine ⟨cronByDataSource, ?_, ?_, ?_⟩
      · simpa using hcrons
      · intro _
        exact ⟨infos, clusterArchs, by simpa using hinfos, by simpa using harchs, rfl⟩
      · exact mem_map_foldl_delete _ _

/-! ### The labels of the desired DataSources -/

/-- A DataSource that carries no label but the architecture label. -/
def ArchLabelOnly (info : DataSourceInfo) : Prop :=
  ∀ k v, info.dataSource.objectMeta.labels.lookup k = some v → k = TemplateArchitectureLabel

theorem archLabelOnly_of_none {info : DataSourceInfo}
    (h : info.dataSource.objectMeta.labels = none) : ArchLabelOnly info := by
  intro k v hk
  rw [h, StringMap.lookup_none] at hk
  cases hk

theorem archLabelOnly_of_archLabel {info : DataSourceInfo} {archStr : String}
    (h : info.dataSource.objectMeta.labels =
      StringMap.ofList [(TemplateArchitectureLabel, archStr)]) : ArchLabelOnly info := by
  intro k v hk
  rw [h] at hk
  by_contra hne
  simp [StringMap.ofList, Finmap.lookup_insert_of_ne _ hne] at hk

/-- Appending such a DataSource keeps a list of them. -/
theorem archLabelOnly_append {infos : List DataSourceInfo} {info : DataSourceInfo}
    (hinfos : ∀ i ∈ infos, ArchLabelOnly i) (hinfo : ArchLabelOnly info) :
    ∀ i ∈ infos ++ [info], ArchLabelOnly i := by
  intro i hi
  rcases List.mem_append.mp hi with hi | hi
  · exact hinfos i hi
  · rw [List.mem_singleton.mp hi]
    exact hinfo

/-- One name of the outer loop of multi-architecture support appends its reference, which
    has no label, and DataSources with only their architecture label. -/
theorem dataSourceInfosForName_archLabelOnly {cronByDataSource : CronMap}
    {clusterArchs : List Arch} {infos infos' : List DataSourceInfo} {entry : String × List Arch}
    (h : dataSourceInfosForName client cronByDataSource clusterArchs infos entry = .ok infos')
    (hinfos : ∀ i ∈ infos, ArchLabelOnly i) : ∀ i ∈ infos', ArchLabelOnly i := by
  obtain ⟨name, dsArchs⟩ := entry
  rcases dataSourceInfosForName_cases client h with ⟨-, rfl⟩ | ⟨defaultArch, -, h⟩
  · exact hinfos
  · -- the inner loop over the name's architectures
    refine Loop.foldlM_inv
      (dataSourceInfoForArch client cronByDataSource clusterArchs name defaultArch)
      (fun _ acc => ∀ i ∈ acc, ArchLabelOnly i) ?_
      dsArchs [] _ infos' (archLabelOnly_append hinfos (archLabelOnly_of_none rfl)) h
    intro done acc arch acc' hacc hstep
    rcases dataSourceInfoForArch_cases client hstep with ⟨-, rfl⟩ | ⟨-, info, rfl, hmeta, -⟩
    · exact hacc
    · exact archLabelOnly_append hacc (archLabelOnly_of_archLabel (by rw [hmeta]))

/-- With multi-architecture support every DataSource carries its architecture label at
    most. -/
theorem getDataSourceInfosMultiArch_archLabelOnly {sourceCollection : DataSourceCollection}
    {cronByDataSource : CronMap} {sspSpec : SSPSpec} {infos : List DataSourceInfo}
    (h : getDataSourceInfosMultiArch client goarch sourceCollection cronByDataSource sspSpec =
      .ok infos) : ∀ i ∈ infos, ArchLabelOnly i := by
  obtain ⟨-, clusterArchs, -, h⟩ := getDataSourceInfosMultiArch_eq_ok client goarch h
  -- the outer loop over the collection
  exact Loop.foldlM_inv (dataSourceInfosForName client cronByDataSource clusterArchs)
    (fun _ acc => ∀ i ∈ acc, ArchLabelOnly i)
    (fun _ _ _ _ hacc hstep => dataSourceInfosForName_archLabelOnly client hstep hacc)
    sourceCollection [] [] infos (fun _ hi => by cases hi) h

/-- Without multi-architecture support the DataSources carry no label. -/
theorem getDataSourceInfos_archLabelOnly {sourceCollection : DataSourceCollection}
    {cronByDataSource : CronMap} {sspSpec : SSPSpec} {infos : List DataSourceInfo}
    (h : getDataSourceInfos client goarch sourceCollection cronByDataSource sspSpec = .ok infos) :
    ∀ i ∈ infos, ArchLabelOnly i := by
  obtain ⟨-, clusterArch, -, -, h⟩ := getDataSourceInfos_eq_ok client goarch h
  -- the loop over the collected names
  refine Loop.foldlM_inv (dataSourceInfoFor client sourceCollection cronByDataSource clusterArch)
    (fun _ acc => ∀ i ∈ acc, ArchLabelOnly i) ?_ _ [] [] infos (fun _ hi => by cases hi) h
  intro done acc name acc' hacc hstep
  rcases dataSourceInfoFor_cases client hstep with ⟨-, rfl⟩ | ⟨info, rfl, hds⟩
  · exact hacc
  · exact archLabelOnly_append hacc (archLabelOnly_of_none (by rw [hds]; rfl))

/-- The references for the SSP's own crons carry no label. -/
theorem addDataSourceReferenceForCrons_archLabelOnly (cronTemplates : List DataImportCronTemplate)
    (clusterArchs : List Arch) :
    ∀ infos : List DataSourceInfo, (∀ i ∈ infos, ArchLabelOnly i) →
      ∀ i ∈ addDataSourceReferenceForCrons infos cronTemplates clusterArchs, ArchLabelOnly i := by
  induction cronTemplates with
  | nil => intro infos hinfos; exact hinfos
  | cons cronTemplate rest ih =>
      intro infos hinfos
      rw [addDataSourceReferenceForCrons_cons]
      rcases addDataSourceReferenceForCrons_single infos cronTemplate clusterArchs with
        hsame | ⟨referenceName, -, happend⟩
      · rw [hsame]
        exact ih infos hinfos
      · rw [happend]
        exact ih _ (archLabelOnly_append hinfos (archLabelOnly_of_none rfl))

/-- Every DataSource of the desired state carries no label but the architecture label. -/
theorem getDataSourcesAndCrons_archLabelOnly {getCronsByDataSource : SSPSpec → CronMap}
    {getCronsByDataSourceMultiArch : SSPSpec → DataSourceCollection → Except String CronMap}
    {sourceCollection : DataSourceCollection} {sspSpec : SSPSpec} {result : DataSourcesAndCrons}
    (h : getDataSourcesAndCrons client goarch getCronsByDataSource getCronsByDataSourceMultiArch
      sourceCollection sspSpec = .ok result) :
    ∀ i ∈ result.dataSourceInfos, ArchLabelOnly i := by
  cases hmulti : sspSpec.isMultiarch with
  | false =>
      obtain ⟨_, -, hsingle⟩ := getDataSourcesAndCrons_infos client goarch h
      exact getDataSourceInfos_archLabelOnly client goarch (hsingle hmulti)
  | true =>
      obtain ⟨_, -, hmultiInfos, -⟩ := getDataSourcesAndCrons_eq client goarch h
      obtain ⟨infos, clusterArchs, hinfos, -, hresult⟩ := hmultiInfos hmulti
      rw [hresult]
      exact addDataSourceReferenceForCrons_archLabelOnly _ _ infos
        (getDataSourceInfosMultiArch_archLabelOnly client goarch hinfos)

/-- No DataSource of the desired state whose auto-update is off keeps a cron: no cron of
    `getDataSourcesAndCrons` manages it. -/
theorem no_cron_without_auto_update {sourceCollection : DataSourceCollection} {sspSpec : SSPSpec}
    {result : DataSourcesAndCrons}
    (h : getDataSourcesAndCrons client goarch getCronsByDataSource
      (getCronsByDataSourceMultiArch goarch) sourceCollection sspSpec = .ok result) :
    ∀ info ∈ result.dataSourceInfos, info.autoUpdateEnabled = false →
      ∀ cron ∈ result.dataImportCrons, cron.key ≠ info.dataSource.objectMeta.key := by
  obtain ⟨cronByDataSource, hsource, -, hcrons⟩ := getDataSourcesAndCrons_eq client goarch h
  -- the crons come from a map that files each of them under its own key
  have hkeyed : cronByDataSource.Keyed := by
    cases hmulti : sspSpec.isMultiarch
    · simp only [hmulti, Bool.false_eq_true, ↓reduceIte] at hsource
      rw [hsource]
      exact keyed_getCronsByDataSource sspSpec
    · simp only [hmulti, ↓reduceIte] at hsource
      exact keyed_getCronsByDataSourceMultiArch hsource
  intro info hinfo hauto cron hcron
  obtain ⟨key, hmem, hkept⟩ := (hcrons cron).mp hcron
  have hkey : cron.key = key := hkeyed _ hmem
  rw [hkey]
  exact hkept info hinfo hauto

/-- With multi-architecture support and a collection (a map, as `CollectDataSources` builds
    it: `wellFormed_CollectDataSources`) in which no name is another with an architecture
    suffix, the names of the desired DataSources are pairwise distinct, and every DataSource
    with auto-update keeps the cron it was computed with. -/
theorem desired_data_sources_keep_their_crons {sourceCollection : DataSourceCollection}
    {sspSpec : SSPSpec} {result : DataSourcesAndCrons} (hmulti : sspSpec.isMultiarch = true)
    (hcollection : sourceCollection.WellFormed)
    (hsuffix : ∀ e₁ ∈ sourceCollection, ∀ e₂ ∈ sourceCollection, ∀ arch : Arch,
      e₁.1 ≠ e₂.1 ++ "-" ++ arch.toString)
    (h : getDataSourcesAndCrons client goarch getCronsByDataSource
      (getCronsByDataSourceMultiArch goarch) sourceCollection sspSpec = .ok result) :
    (result.dataSourceInfos.map (·.dataSource.objectMeta.name)).Nodup ∧
      ∀ info ∈ result.dataSourceInfos, info.autoUpdateEnabled = true →
        ∃ cron ∈ result.dataImportCrons, cron.key = info.dataSource.objectMeta.key ∧
          cron.objectMeta.name = info.dataImportCronName := by
  obtain ⟨cronByDataSource, hsource, hmultiInfos, hcrons⟩ := getDataSourcesAndCrons_eq client goarch h
  obtain ⟨infos, clusterArchs, hinfos, hclusterArchs, hresult⟩ := hmultiInfos hmulti
  simp only [hmulti, ↓reduceIte] at hsource
  -- the operand's own DataSources, then the references for the SSP's crons
  obtain ⟨hnames, hdesired⟩ := getDataSourceInfosMultiArch_names client goarch hclusterArchs hinfos
  have hnodup₀ : (infos.map (·.dataSource.objectMeta.name)).Nodup := by
    rw [hnames]
    exact nodup_flatMap_namesForEntry clusterArchs hcollection hsuffix
  obtain ⟨hnodup, hdesired'⟩ := addDataSourceReferenceForCrons_desired cronByDataSource
    sspSpec.commonTemplates.dataImportCronTemplates clusterArchs infos hnodup₀ hdesired
  rw [← hresult] at hnodup hdesired'
  refine ⟨hnodup, ?_⟩
  intro info hinfo hauto
  obtain ⟨cron, hlookup, hname⟩ := (hdesired' info hinfo).2 hauto
  have hmem : (info.dataSource.objectMeta.key, cron) ∈ cronByDataSource := by
    obtain ⟨l₁, l₂, hsplit, -⟩ := List.lookup_eq_some_iff.mp hlookup
    rw [hsplit]
    simp
  have hkey : cron.key = info.dataSource.objectMeta.key :=
    keyed_getCronsByDataSourceMultiArch hsource _ hmem
  refine ⟨cron, (hcrons cron).mpr ⟨_, hmem, ?_⟩, hkey, hname⟩
  -- a DataSource with the same key has the same name: it is this one, whose auto-update is on
  intro other hother hoff hsame
  have hnameEq : other.dataSource.objectMeta.name = info.dataSource.objectMeta.name :=
    congrArg NamespacedName.name hsame.symm
  have hother_eq : other = info := List.inj_on_of_nodup_map hnodup hother hinfo hnameEq
  rw [hother_eq, hauto] at hoff
  cases hoff

end desired

/-- A cluster without DataSources and without PVCs. -/
def emptyCluster : ClientReads :=
  { getDataSource := fun _ => .ok none, pvcExists := fun _ => .ok false }

/-- Multi-architecture support on an amd64 cluster, with a cron for `fedora`. -/
def fedoraCronSpec : SSPSpec :=
  { enableMultipleArchitectures := some true
    cluster := some { workloadArchitectures := ["amd64"], controlPlaneArchitectures := ["amd64"] }
    commonTemplates :=
      { ns := "openshift"
        dataImportCronTemplates :=
          [{ objectMeta := { name := "fedora-image-cron" }, managedDataSource := "fedora" }] } }

theorem fedora_reference_keeps_no_cron :
    ∃ result, getDataSourcesAndCrons emptyCluster "amd64" getCronsByDataSource
        (getCronsByDataSourceMultiArch "amd64") [("fedora", [.amd64])] fedoraCronSpec = .ok result ∧
      ∀ info ∈ result.dataSourceInfos, info.autoUpdateEnabled = false →
        ∀ cron ∈ result.dataImportCrons, cron.key ≠ info.dataSource.objectMeta.key :=
  ⟨_, rfl, @no_cron_without_auto_update emptyCluster "amd64" [("fedora", [.amd64])] fedoraCronSpec
    _ rfl⟩

theorem fedora_data_sources_keep_their_crons :
    ∃ result, getDataSourcesAndCrons emptyCluster "amd64" getCronsByDataSource
        (getCronsByDataSourceMultiArch "amd64") [("fedora", [.amd64])] fedoraCronSpec = .ok result ∧
      (result.dataSourceInfos.map (·.dataSource.objectMeta.name)).Nodup ∧
      ∀ info ∈ result.dataSourceInfos, info.autoUpdateEnabled = true →
        ∃ cron ∈ result.dataImportCrons, cron.key = info.dataSource.objectMeta.key ∧
          cron.objectMeta.name = info.dataImportCronName := by
  have hsuffix : ∀ e₁ ∈ [("fedora", [Arch.amd64])], ∀ e₂ ∈ [("fedora", [Arch.amd64])],
      ∀ arch : Arch, e₁.1 ≠ e₂.1 ++ "-" ++ arch.toString := by
    intro e₁ he₁ e₂ he₂ arch
    rw [List.mem_singleton.mp he₁, List.mem_singleton.mp he₂]
    exact ne_suffixed "fedora" arch
  have hcollection : DataSourceCollection.WellFormed [("fedora", [Arch.amd64])] := by
    unfold DataSourceCollection.WellFormed
    decide
  exact ⟨_, rfl, @desired_data_sources_keep_their_crons emptyCluster "amd64"
    [("fedora", [.amd64])] fedoraCronSpec _ rfl hcollection hsuffix rfl⟩

/-- A collection in which one name is another with an architecture suffix. -/
def suffixedCollection : DataSourceCollection :=
  [("fedora", [.amd64]), ("fedora-amd64", [.amd64])]

theorem suffixed_name_gives_two_data_sources :
    ∃ result, getDataSourcesAndCrons emptyCluster "amd64" getCronsByDataSource
        (getCronsByDataSourceMultiArch "amd64") suffixedCollection fedoraCronSpec = .ok result ∧
      result.dataSourceInfos.map (·.dataSource.objectMeta.name) =
        ["fedora", "fedora-amd64", "fedora-amd64", "fedora-amd64-amd64"] ∧
      result.dataSourceInfos.map (·.autoUpdateEnabled) = [false, true, false, false] ∧
      result.dataImportCrons = [] :=
  ⟨_, rfl, rfl, rfl, rfl⟩

end SspOperator.Operands
