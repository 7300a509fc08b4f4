import SspOperator.Architecture

/-
  The common-templates operand (`internal/operands/common-templates`): the bundle's
  templates grouped by architecture (`New`), and the templates deployed for the
  cluster's architectures (`getTemplatesForArchs`). With multi-architecture support
  each deployed template's `DATA_SOURCE_NAME` parameter gets the suffix `-arch`, so
  that it names the DataSource of that architecture.
-/

namespace SspOperator.Operands

/-- Labels and names of `common_templates/constants.go`. -/
def TemplateArchitectureLabel : String := "template.kubevirt.io/architecture"
def TemplateDefaultArchitecture : Arch := .amd64
def TemplateDataSourceParameterName : String := "DATA_SOURCE_NAME"

variable {ο : Type}

/-- `GetTemplateArch`: an unset label means the default architecture. -/
def GetTemplateArch (template : Template ο) : Except String Arch :=
  let templateArchLabel := template.objectMeta.labels.get TemplateArchitectureLabel
  if templateArchLabel = "" then .ok TemplateDefaultArchitecture
  else ToArch templateArchLabel

/-- `commonTemplates`: the bundle, by architecture. -/
structure CommonTemplatesOperand (ο : Type) where
  templatesByArch : Arch → List (Template ο)

/-- The body of `New`'s loop: the template is appended to its architecture's list. -/
def addTemplateByArch (templatesByArch : Arch → List (Template ο)) (template : Template ο) :
    Except String (Arch → List (Template ο)) := do
  let arch ← (GetTemplateArch template).mapError fun err =>
    "failed to get architecture of template " ++ template.objectMeta.name ++ ": " ++ err
  pure (Function.update templatesByArch arch (templatesByArch arch ++ [template]))

/-- `common_templates.New`. -/
def New (templates : List (Template ο)) : Except String (CommonTemplatesOperand ο) := do
  let templatesByArch ← templates.foldlM addTemplateByArch fun _ => []
  pure { templatesByArch := templatesByArch }

/-- `addArchSuffixToDataSourceParameter` on the parameter list: the first
    `DATA_SOURCE_NAME` parameter gets the suffix. -/
def addArchSuffixToParameters (arch : Arch) : List Parameter → List Parameter
  | [] => []
  | param :: params =>
      if param.name = TemplateDataSourceParameterName then
        { param with value := param.value ++ "-" ++ arch.toString } :: params
      else param :: addArchSuffixToParameters arch params

/-- `addArchSuffixToDataSourceParameter`, on a copy of the template. -/
def addArchSuffixToDataSourceParameter (template : Template ο) (arch : Arch) : Template ο :=
  { template with parameters := addArchSuffixToParameters arch template.parameters }

/-- `commonTemplates.getTemplatesForArchs`. -/
def CommonTemplatesOperand.getTemplatesForArchs (c : CommonTemplatesOperand ο)
    (clusterArchs : List Arch) (sspSpec : SSPSpec) : List (Template ο) :=
  clusterArchs.flatMap fun arch =>
    let templatesForArch := c.templatesByArch arch
    if !sspSpec.isMultiarch then templatesForArch
    else templatesForArch.map fun template => addArchSuffixToDataSourceParameter template arch

/-- A deployed template is a bundle template of one of the cluster's architectures,
    with its `DATA_SOURCE_NAME` suffixed when multi-architecture is enabled. -/
theorem mem_getTemplatesForArchs {c : CommonTemplatesOperand ο} {clusterArchs : List Arch}
    {sspSpec : SSPSpec} {t : Template ο} :
    t ∈ c.getTemplatesForArchs clusterArchs sspSpec ↔
      ∃ arch ∈ clusterArchs, ∃ t₀ ∈ c.templatesByArch arch,
        t = if sspSpec.isMultiarch then addArchSuffixToDataSourceParameter t₀ arch else t₀ := by
  unfold CommonTemplatesOperand.getTemplatesForArchs
  rw [List.mem_flatMap]
  cases sspSpec.isMultiarch
  · -- the bundle templates as they are
    simp
  · -- each suffixed for the architecture it is deployed for
    simp [eq_comm]

/-- What `New`'s loop keeps: every grouped template comes from the bundle and has
    the architecture it is grouped under. -/
def GroupedByArch (templates : List (Template ο)) (templatesByArch : Arch → List (Template ο)) :
    Prop :=
  ∀ arch, ∀ t ∈ templatesByArch arch, t ∈ templates ∧ GetTemplateArch t = .ok arch

theorem groupedByArch_addTemplateByArch {done : List (Template ο)}
    {templatesByArch next : Arch → List (Template ο)} {template : Template ο}
    (hgrouped : GroupedByArch done templatesByArch)
    (hstep : addTemplateByArch templatesByArch template = .ok next) :
    GroupedByArch (done ++ [template]) next := by
  unfold addTemplateByArch at hstep
  cases harch : GetTemplateArch template with
  | error err => simp [harch] at hstep
  | ok arch =>
      simp only [harch, mapError_ok, except_ok_bind, except_pure, Except.ok.injEq] at hstep
      subst hstep
      intro arch' t ht
      by_cases heq : arch' = arch
      · subst heq
        rw [Function.update_self, List.mem_append, List.mem_singleton] at ht
        rcases ht with ht | rfl
        · obtain ⟨hmem, harch'⟩ := hgrouped _ t ht
          exact ⟨List.mem_append_left _ hmem, harch'⟩
        · exact ⟨List.mem_append_right _ (List.mem_singleton_self _), harch⟩
      · rw [Function.update_of_ne heq] at ht
        obtain ⟨hmem, harch'⟩ := hgrouped _ t ht
        exact ⟨List.mem_append_left _ hmem, harch'⟩

/-- The run of `New`'s loop over the bundle, from any grouped start. -/
theorem groupedByArch_foldlM (templates : List (Template ο)) :
    ∀ (done : List (Template ο)) (start result : Arch → List (Template ο)),
      GroupedByArch done start → templates.foldlM addTemplateByArch start = .ok result →
      GroupedByArch (done ++ templates) result := by
  induction templates with
  | nil =>
      intro done start result hstart h
      simp only [List.foldlM_nil, except_pure, Except.ok.injEq] at h
      subst h
      simpa using hstart
  | cons template rest ih =>
      intro done start result hstart h
      rw [List.foldlM_cons] at h
      cases hstep : addTemplateByArch start template with
      | error err => simp [hstep] at h
      | ok next =>
          rw [hstep, except_ok_bind] at h
          have hnext := groupedByArch_addTemplateByArch hstart hstep
          simpa using ih (done ++ [template]) next result hnext h

/-- Every template `New` files under an architecture is a bundle template of that
    architecture. -/
theorem New_groupedByArch {templates : List (Template ο)} {c : CommonTemplatesOperand ο}
    (h : New templates = .ok c) : GroupedByArch templates c.templatesByArch := by
  unfold New at h
  cases hfold : templates.foldlM addTemplateByArch (fun _ => []) with
  | error err => simp [hfold] at h
  | ok templatesByArch =>
      simp only [hfold, except_ok_bind, except_pure, Except.ok.injEq] at h
      subst h
      have hempty : GroupedByArch [] (fun _ => ([] : List (Template ο))) := by
        intro arch t ht
        cases ht
      simpa using groupedByArch_foldlM templates [] _ _ hempty hfold

end SspOperator.Operands
