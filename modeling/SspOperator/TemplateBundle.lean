import SspOperator.Lib.Loop
import SspOperator.Operands.CommonTemplates
import SspOperator.Unstructured

/-
  The DataSources a template bundle needs (`internal/template-bundle/bundle.go`).

  `CollectDataSources` keeps the templates whose VM has a dataVolumeTemplate with a
  `sourceRef`, and records for each the DataSource name its parameters give
  (`DATA_SOURCE_NAME`, else the older `SRC_PVC_NAME`) with the template's
  architecture. The collection is a Go map; here it is a list of distinct names in
  insertion order, which is one of the orders Go may iterate it in.

  The template's first raw object is decoded by the parameter `decode` (the YAML or
  JSON decoder), into the content of an `unstructured.Unstructured`.
-/

namespace SspOperator

/-- `internal.GoldenImagesNamespace`. -/
def GoldenImagesNamespace : String := "kubevirt-os-images"

namespace TemplateBundle

open Operands

variable {ο : Type}

/-- `findParameterValue`: the value of the first parameter of that name. -/
def findParameterValue (name : String) (template : Template ο) : Option String :=
  (template.parameters.find? fun param => param.name = name).map (·.value)

/-- `findDataSourceName`. -/
def findDataSourceName (template : Template ο) : Option String :=
  match findParameterValue TemplateDataSourceParameterName template with
  | some name => some name
  | none => findParameterValue "SRC_PVC_NAME" template

/-- `findDataSourceNamespace`. -/
def findDataSourceNamespace (template : Template ο) : Option String :=
  match findParameterValue "DATA_SOURCE_NAMESPACE" template with
  | some ns => some ns
  | none => findParameterValue "SRC_PVC_NAMESPACE" template

/-! ## The collection -/

/-- `DataSourceCollection`: DataSource names with the architectures that need them. -/
abbrev DataSourceCollection := List (String × List Arch)

/-- `d[name]`, with `nil` for a missing name. -/
def DataSourceCollection.get (d : DataSourceCollection) (name : String) : List Arch :=
  (d.lookup name).getD []

/-- `DataSourceCollection.AddNameAndArch`. -/
def DataSourceCollection.AddNameAndArch (d : DataSourceCollection) (name : String)
    (arch : Arch) : DataSourceCollection :=
  if arch ∈ d.get name then d
  else
    match d.lookup name with
    | none => d ++ [(name, [arch])]
    | some archs => d.map fun entry => if entry.1 = name then (name, archs ++ [arch]) else entry

/-- `DataSourceCollection.Contains`. -/
def DataSourceCollection.Contains (d : DataSourceCollection) (name : String) (arch : Arch) :
    Bool :=
  arch ∈ d.get name

/-! ## Templates that use a DataSource -/

/-- `template.Objects[0]`, which panics on a template without objects. -/
def firstObject (template : Template ο) : Except Fault ο :=
  match template.objects with
  | raw :: _ => .ok raw
  | [] => .error (.panic "runtime error: index out of range [0] with length 0")

/-- `volumeTemplate.(map[string]interface{})`, which panics on any other value. -/
def asMap : JsonValue → Except Fault (List (String × JsonValue))
  | .object fields => .ok fields
  | val => .error (.panic ("interface conversion: interface \x7b\x7d is " ++ val.typeName ++
      ", not map[string]interface \x7b\x7d"))

/-- The loop of `vmTemplateUsesSourceRef` over the dataVolumeTemplates: the first one
    with a non-nil `spec.sourceRef` answers yes. -/
def anyUsesSourceRef : List JsonValue → Except Fault Bool
  | [] => .ok false
  | volumeTemplate :: rest => do
      let volumeObj ← asMap volumeTemplate
      let val ← (NestedFieldNoCopy volumeObj ["spec", "sourceRef"]).mapError Fault.error
      match val with
      | some val => if val matches .null then anyUsesSourceRef rest else pure true
      | none => anyUsesSourceRef rest

/-- `vmTemplateUsesSourceRef`. -/
def vmTemplateUsesSourceRef (decode : ο → Except String (List (String × JsonValue)))
    (template : Template ο) : Except Fault Bool := do
  let raw ← firstObject template
  let vmUnstructured ← (decode raw).mapError Fault.error
  let apiVersion := getNestedString vmUnstructured ["apiVersion"]
  let kind := getNestedString vmUnstructured ["kind"]
  if !(apiVersion = "kubevirt.io/v1" && kind = "VirtualMachine") then
    throw (.error ("template " ++ template.objectMeta.name ++ " contains unexpected object: " ++
      apiVersion ++ ", " ++ kind))
  match ← (NestedSlice vmUnstructured ["spec", "dataVolumeTemplates"]).mapError Fault.error with
  | none => pure false
  | some dataVolumes => anyUsesSourceRef dataVolumes

/-- The body of `CollectDataSources`'s loop for one template. -/
def collectDataSource (decode : ο → Except String (List (String × JsonValue)))
    (result : DataSourceCollection) (template : Template ο) : Except Fault DataSourceCollection := do
  let usesDataSources ← vmTemplateUsesSourceRef decode template
  if !usesDataSources then return result
  match findDataSourceName template with
  | none => pure result
  | some name =>
      if let some ns := findDataSourceNamespace template then
        -- later code assumes every DataSource lives in the golden-images namespace
        if ns ≠ GoldenImagesNamespace then
          throw (.error ("common template " ++ template.objectMeta.name ++
            " has invalid default DATA_SOURCE_NAMESPACE value: " ++ ns ++ ", expected: " ++
            GoldenImagesNamespace))
      let templateArch ← (GetTemplateArch template).mapError fun err =>
        .error ("failed to get architecture for template " ++ template.objectMeta.name ++ ": " ++ err)
      pure (result.AddNameAndArch name templateArch)

/-- `CollectDataSources`. -/
def CollectDataSources (decode : ο → Except String (List (String × JsonValue)))
    (templates : List (Template ο)) : Except Fault DataSourceCollection :=
  templates.foldlM (collectDataSource decode) []

/-! ## What the collection holds -/

/-- Updating the entries of one name, read back by `lookup`. -/
theorem lookup_map_update (d : DataSourceCollection) (name n : String) (archs : List Arch) :
    (d.map fun entry => if entry.1 = name then (name, archs) else entry).lookup n =
      if n = name then ((d.lookup name).map fun _ => archs) else d.lookup n := by
  induction d with
  | nil => split <;> rfl
  | cons entry d ih =>
      obtain ⟨k, v⟩ := entry
      by_cases hn : n = k
      · -- the head answers the lookup on both sides
        subst hn
        by_cases hk : n = name
        · subst hk
          simp
        · simp [hk]
      · -- the head is passed over on both sides
        have hbeq : (n == k) = false := beq_eq_false_iff_ne.mpr hn
        by_cases hk : k = name
        · subst hk
          simp [List.lookup_cons, hbeq, ih, hn]
        · by_cases hname : n = name
          · subst hname
            have hbeq' : (n == k) = false := hbeq
            simp [List.lookup_cons, hk, hbeq', ih]
          · simp [List.lookup_cons, hk, hbeq, ih, hname]

/-- `AddNameAndArch` adds the architecture under the name and keeps everything else. -/
theorem mem_get_AddNameAndArch {d : DataSourceCollection} {name n : String} {arch x : Arch} :
    x ∈ (d.AddNameAndArch name arch).get n ↔ x ∈ d.get n ∨ (n = name ∧ x = arch) := by
  unfold DataSourceCollection.AddNameAndArch
  by_cases hmem : arch ∈ d.get name
  · rw [if_pos hmem]
    constructor
    · exact Or.inl
    · rintro (h | ⟨rfl, rfl⟩)
      · exact h
      · exact hmem
  · rw [if_neg hmem]
    cases hl : d.lookup name with
    | none =>
        by_cases hn : n = name
        · subst hn
          simp [DataSourceCollection.get, List.lookup_append, hl]
        · have hbeq : (n == name) = false := beq_eq_false_iff_ne.mpr hn
          simp [DataSourceCollection.get, List.lookup_append, List.lookup_cons, hbeq, hn]
    | some archs =>
        by_cases hn : n = name
        · subst hn
          simp [DataSourceCollection.get, lookup_map_update, hl]
        · simp [DataSourceCollection.get, lookup_map_update, hn]

/-- What one template's step does: it keeps the collection when the template names no
    DataSource it uses, and otherwise adds the DataSource's name with the template's
    architecture. -/
theorem collectDataSource_cases {decode : ο → Except String (List (String × JsonValue))}
    {result next : DataSourceCollection} {template : Template ο}
    (h : collectDataSource decode result template = .ok next) :
    (next = result ∧
        (vmTemplateUsesSourceRef decode template = .ok true → findDataSourceName template = none)) ∨
      (vmTemplateUsesSourceRef decode template = .ok true ∧ ∃ name arch,
        findDataSourceName template = some name ∧ GetTemplateArch template = .ok arch ∧
        next = result.AddNameAndArch name arch) := by
  unfold collectDataSource at h
  cases huses : vmTemplateUsesSourceRef decode template with
  | error e => simp [huses] at h
  | ok usesDataSources =>
      cases usesDataSources with
      | false =>
          simp only [huses, except_ok_bind, Bool.not_false, ↓reduceIte, except_pure,
            Except.ok.injEq] at h
          exact Or.inl ⟨h.symm, fun hcontra => by cases hcontra⟩
      | true =>
          simp only [huses, except_ok_bind, Bool.not_true, Bool.false_eq_true, ↓reduceIte] at h
          cases hname : findDataSourceName template with
          | none =>
              simp only [hname, except_pure, Except.ok.injEq] at h
              exact Or.inl ⟨h.symm, fun _ => rfl⟩
          | some name =>
              refine Or.inr ⟨rfl, name, ?_⟩
              -- a namespace other than the golden-images one stops the loop
              have hgolden : ∀ ns, findDataSourceNamespace template = some ns →
                  ns = GoldenImagesNamespace := by
                intro ns hns
                by_contra hne
                simp [hname, hns, hne] at h
              -- past the namespace check, the template's architecture is added
              cases harch : GetTemplateArch template with
              | error err =>
                  cases hns : findDataSourceNamespace template with
                  | none => simp [hname, hns, harch] at h
                  | some ns => simp [hname, hns, harch, hgolden ns hns] at h
              | ok arch =>
                  refine ⟨arch, rfl, rfl, ?_⟩
                  cases hns : findDataSourceNamespace template with
                  | none => simpa [hname, hns, harch] using h.symm
                  | some ns => simpa [hname, hns, harch, hgolden ns hns] using h.symm

/-- One template's step keeps the collection and, for a template that uses a
    DataSource, records its name with its architecture. -/
theorem collectDataSource_spec {decode : ο → Except String (List (String × JsonValue))}
    {result next : DataSourceCollection} {template : Template ο}
    (h : collectDataSource decode result template = .ok next) :
    (∀ n x, x ∈ result.get n → x ∈ next.get n) ∧
      (vmTemplateUsesSourceRef decode template = .ok true →
        ∀ name arch, findDataSourceName template = some name →
          GetTemplateArch template = .ok arch → arch ∈ next.get name) := by
  rcases collectDataSource_cases h with ⟨rfl, hnone⟩ | ⟨-, name, arch, hname, harch, rfl⟩
  · refine ⟨fun _ _ hx => hx, fun huses name _ hsome => ?_⟩
    rw [hnone huses] at hsome
    cases hsome
  · refine ⟨fun n x hx => mem_get_AddNameAndArch.mpr (Or.inl hx), ?_⟩
    intro _ name' arch' hname' harch'
    rw [harch, Except.ok.injEq] at harch'
    rw [hname, Option.some.injEq] at hname'
    subst hname' harch'
    exact mem_get_AddNameAndArch.mpr (Or.inr ⟨rfl, rfl⟩)

/-- Every template of an accepted bundle that uses a DataSource has its name recorded
    with its architecture. -/
theorem CollectDataSources_spec {decode : ο → Except String (List (String × JsonValue))}
    {templates : List (Template ο)} {d : DataSourceCollection}
    (h : CollectDataSources decode templates = .ok d) :
    ∀ template ∈ templates, vmTemplateUsesSourceRef decode template = .ok true →
      ∀ name arch, findDataSourceName template = some name →
        GetTemplateArch template = .ok arch → arch ∈ d.get name := by
  -- what a step records stays recorded through the rest of the loop
  have hloop := Loop.foldlM_inv (collectDataSource decode)
    (fun done acc => ∀ template ∈ done, vmTemplateUsesSourceRef decode template = .ok true →
      ∀ name arch, findDataSourceName template = some name →
        GetTemplateArch template = .ok arch → arch ∈ acc.get name)
    (by
      intro done acc template acc' hdone hstep
      obtain ⟨hkeep, hrecord⟩ := collectDataSource_spec hstep
      intro t ht huses name arch hname harch
      rcases List.mem_append.mp ht with ht | ht
      · exact hkeep _ _ (hdone t ht huses name arch hname harch)
      · obtain rfl := List.mem_singleton.mp ht
        exact hrecord huses name arch hname harch)
    templates [] [] d (fun _ ht => by cases ht) h
  simpa using hloop

/-! ## A collection is a map -/

/-- What a Go map of names to architectures holds: each name once, with each architecture
    once. -/
def DataSourceCollection.WellFormed (d : DataSourceCollection) : Prop :=
  (d.map (·.1)).Nodup ∧ ∀ entry ∈ d, entry.2.Nodup

theorem DataSourceCollection.WellFormed.AddNameAndArch {d : DataSourceCollection}
    (hd : d.WellFormed) (name : String) (arch : Arch) : (d.AddNameAndArch name arch).WellFormed := by
  obtain ⟨hkeys, harchs⟩ := hd
  unfold DataSourceCollection.AddNameAndArch
  by_cases hmem : arch ∈ d.get name
  · rw [if_pos hmem]
    exact ⟨hkeys, harchs⟩
  · rw [if_neg hmem]
    cases hl : d.lookup name with
    | none =>
        -- a new name, with its first architecture
        have hfresh : ∀ entry ∈ d, entry.1 ≠ name := by
          intro entry hentry heq
          have hne := List.lookup_eq_none_iff.mp hl entry hentry
          simp [heq] at hne
        refine ⟨?_, ?_⟩
        · rw [List.map_append, List.nodup_append]
          refine ⟨hkeys, List.nodup_singleton _, ?_⟩
          intro a ha b hb
          obtain ⟨entry, hentry, rfl⟩ := List.mem_map.mp ha
          rw [List.mem_singleton.mp hb]
          exact hfresh entry hentry
        · intro entry hentry
          rcases List.mem_append.mp hentry with hentry | hentry
          · exact harchs entry hentry
          · rw [List.mem_singleton.mp hentry]
            exact List.nodup_singleton _
    | some archs =>
        -- the name's entry gets one architecture more, the names stay
        have hentry : (name, archs) ∈ d := by
          obtain ⟨l₁, l₂, rfl, -⟩ := List.lookup_eq_some_iff.mp hl
          simp
        have hnew : arch ∉ archs := by
          simpa [DataSourceCollection.get, hl] using hmem
        refine ⟨?_, ?_⟩
        · rw [List.map_map]
          refine (List.map_congr_left fun entry _ => ?_) ▸ hkeys
          by_cases hname : entry.1 = name <;> simp [hname]
        · intro entry hentry'
          obtain ⟨e, he, rfl⟩ := List.mem_map.mp hentry'
          by_cases hname : e.1 = name
          · rw [if_pos hname, List.nodup_append]
            refine ⟨harchs _ hentry, List.nodup_singleton _, ?_⟩
            intro a ha b hb heq
            rw [List.mem_singleton.mp hb] at heq
            exact hnew (heq ▸ ha)
          · rw [if_neg hname]
            exact harchs e he

/-- The collection of an accepted bundle is a map. -/
theorem wellFormed_CollectDataSources {decode : ο → Except String (List (String × JsonValue))}
    {templates : List (Template ο)} {d : DataSourceCollection}
    (h : CollectDataSources decode templates = .ok d) : d.WellFormed := by
  have hloop := Loop.foldlM_inv (collectDataSource decode) (fun _ acc => acc.WellFormed)
    (by
      intro _ acc template acc' hacc hstep
      rcases collectDataSource_cases hstep with ⟨rfl, -⟩ | ⟨-, name, arch, -, -, rfl⟩
      · exact hacc
      · exact hacc.AddNameAndArch name arch)
    templates [] [] d ⟨List.nodup_nil, fun _ hentry => by cases hentry⟩ h
  exact hloop

/-! ## Deployed templates -/

/-- The suffix lands on the parameter `findParameterValue` reads. -/
theorem findParameterValue_addArchSuffix (template : Template ο) (arch : Arch) :
    findParameterValue TemplateDataSourceParameterName
        (addArchSuffixToDataSourceParameter template arch) =
      (findParameterValue TemplateDataSourceParameterName template).map
        (· ++ "-" ++ arch.toString) := by
  unfold findParameterValue addArchSuffixToDataSourceParameter
  induction template.parameters with
  | nil => rfl
  | cons param params ih =>
      by_cases hname : param.name = TemplateDataSourceParameterName
      · simp [addArchSuffixToParameters, hname]
      · simpa [addArchSuffixToParameters, hname] using ih

/-- A suffixed copy uses a DataSource exactly when the bundle template does. -/
theorem vmTemplateUsesSourceRef_addArchSuffix
    (decode : ο → Except String (List (String × JsonValue))) (template : Template ο)
    (arch : Arch) :
    vmTemplateUsesSourceRef decode (addArchSuffixToDataSourceParameter template arch) =
      vmTemplateUsesSourceRef decode template := rfl

end TemplateBundle

end SspOperator
