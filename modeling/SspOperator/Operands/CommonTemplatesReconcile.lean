import SspOperator.Common.Convergence
import SspOperator.Operands.CommonTemplates
import SspOperator.Lib.Semver
import SspOperator.Lib.KeyedMap

/-
  The reconcile functions of the common-templates operand
  (`internal/operands/common-templates/reconcile.go`) and their update functions.

  A bundle template is written with an update function that drops the predefined labels
  and annotations the new bundle no longer has and copies its objects and parameters. An
  old template that is still in the cluster is deprecated: the update function marks it
  deprecated and deletes its os, flavor and workload labels.

  The deprecating function does not converge. The desired object is the old template as
  it was listed, with those labels, so the next call merges them back into the found
  template before it consults the cache, which then says the update function has run
  already: the second call restores the labels the first one deleted and reports
  `OperationResultUpdated` again.

  `deprecateOrDeleteOldTemplates` decides what happens to the templates that are not
  deployed any more: the old templates the cluster lists and the templates the SSP owns,
  merged by name with the owned ones last, less the names of the deployed templates. Go
  ranges over that map in an order of its own, so the model takes the order as a parameter.
  Each name gets at most one function: none while the template is being deleted, deletion
  when its architecture is not a cluster architecture, and deprecation when its version
  label is missing, not a version, or lower than `Version`.
-/

namespace SspOperator

open Common

/-- A template beyond its metadata. -/
structure TemplateBody (ο : Type) where
  objects : List ο := []
  parameters : List Parameter := []
deriving DecidableEq

instance {ο : Type} : Inhabited (TemplateBody ο) := ⟨{}⟩

/-- A template as the client writes it. -/
def Template.toClientObject {ο : Type} (t : Template ο) : ClientObject (TemplateBody ο) :=
  { objectMeta := t.objectMeta, body := { objects := t.objects, parameters := t.parameters } }

namespace Operands

/-- Labels and annotations of `common_templates/constants.go`. -/
def TemplateVersionLabel : String := "template.kubevirt.io/version"
def TemplateOsLabelPrefix : String := "os.template.kubevirt.io/"
def TemplateFlavorLabelPrefix : String := "flavor.template.kubevirt.io/"
def TemplateWorkloadLabelPrefix : String := "workload.template.kubevirt.io/"
def TemplateDeprecatedAnnotation : String := "template.kubevirt.io/deprecated"

/-- `operandName` and `operandComponent` of the operand. -/
def commonTemplatesOperandName : String := "common-templates"
def commonTemplatesOperandComponent : String := "templating"

/-- The Go type of templates. -/
def templateType : ObjectType := { typeName := "*v1.Template", kind := "Template" }

/-- `templateKubevirtIoPattern.MatchString`, for ``^(.*\.)?template\.kubevirt\.io/``: the key
    starts with the domain, or has it after a dot with no newline before. -/
def templateKubevirtIoPatternMatch (key : String) : Bool :=
  let domain := "template.kubevirt.io/".toList
  let rec afterDot : List Char → Bool
    | [] => false
    | c :: rest => (c == '.' && domain.isPrefixOf rest) || (c != '\n' && afterDot rest)
  domain.isPrefixOf key.toList || afterDot key.toList

/-- `isPredefinedKey`. -/
def isPredefinedKey (key : String) : Bool :=
  key == "description" || key == "tags" || key == "iconClass" || HasPrefix key "openshift.io/" ||
    templateKubevirtIoPatternMatch key

/-- `syncPredefinedAnnotationsAndLabels`: predefined keys of the found template that the new
    template does not have are deleted. -/
def syncPredefinedAnnotationsAndLabels (foundTemplate newTemplate : ObjectMeta) : ObjectMeta :=
  { foundTemplate with
    annotations := foundTemplate.annotations.deleteIf fun annotation =>
      isPredefinedKey annotation && !newTemplate.annotations.contains annotation
    labels := foundTemplate.labels.deleteIf fun label =>
      isPredefinedKey label && !newTemplate.labels.contains label }

variable {ο : Type}

/-- The update function of `reconcileTemplatesFuncs`. -/
def templateUpdateFunc : ResourceUpdateFunc (TemplateBody ο) := fun newRes foundRes =>
  { objectMeta := syncPredefinedAnnotationsAndLabels foundRes.objectMeta newRes.objectMeta
    body := { objects := newRes.body.objects, parameters := newRes.body.parameters } }

/-- The builder of one function of `reconcileTemplatesFuncs`, in the namespace of the
    SSP's common templates. -/
def reconcileTemplate (template : Template ο) (ns : String) :
    ReconcileBuilder (TemplateBody ο) :=
  { resource := { template.toClientObject with
      objectMeta := { template.objectMeta with ns := ns } }
    isClusterResource := true, addLabels := true, operandName := commonTemplatesOperandName
    operandComponent := commonTemplatesOperandComponent, updateFunc := templateUpdateFunc }

/-- Where every entry of `m` survives deleting the predefined keys that `n` lacks, deleting
    those that a map holding `n` lacks deletes nothing. -/
theorem deleteIf_predefined_of_subset {n n' m : StringMap} (hn : n.Subset n')
    (h : ∀ k v, m.lookup k = some v → (isPredefinedKey k && !n.contains k) = false) :
    (m.deleteIf fun k => isPredefinedKey k && !n'.contains k) = m := by
  refine StringMap.deleteIf_of_forall fun k v hk => ?_
  cases hpre : isPredefinedKey k with
  | false => rfl
  | true =>
      -- a predefined key of `m` is one of `n`'s, so `n'` holds it too
      have hcontains : n.contains k = true := by simpa [hpre] using h k v hk
      rw [StringMap.contains_eq_isSome] at hcontains
      obtain ⟨w, hw⟩ := Option.isSome_iff_exists.mp hcontains
      simp [StringMap.contains_eq_isSome, hn k w hw]

/-- One map of a template synced for the desired map `n`, then merged with a desired map
    `n'` between `n` and the result and synced for `n'`: the second sync deletes nothing. -/
theorem sync_updateMap_stable {n n' m : StringMap} (hn : n.Subset n')
    (hu : n'.Subset (m.deleteIf fun k => isPredefinedKey k && !n.contains k)) :
    ((updateMap n' (m.deleteIf fun k => isPredefinedKey k && !n.contains k)).deleteIf
      fun k => isPredefinedKey k && !n'.contains k) =
      updateMap n' (m.deleteIf fun k => isPredefinedKey k && !n.contains k) := by
  apply deleteIf_predefined_of_subset hn
  intro k v hk
  rw [lookup_updateMap_of_subset hu] at hk
  exact StringMap.not_of_lookup_deleteIf hk

/-- The template update function settles every desired template: the sync keeps the
    predefined keys the desired template has, and on what it made it deletes nothing more. -/
theorem templateUpdateFunc_settles :
    SettlingUpdate (templateUpdateFunc : ResourceUpdateFunc (TemplateBody ο)) fun _ => True where
  key _ _ := rfl
  deletion _ _ := rfl
  owners _ _ := rfl
  persist _ _ _ _ _ := rfl
  keeps _ _ _ :=
    ⟨(subset_updateMap _ _).deleteIf_not_contains isPredefinedKey,
      (subset_updateMap _ _).deleteIf_not_contains isPredefinedKey⟩
  stable e g e' _ hbetween := by
    refine ⟨trivial, ?_⟩
    have hbody : e'.body = e.body := by rw [hbetween.eq]
    have hlabels := sync_updateMap_stable hbetween.labels.1 hbetween.labels.2
    have hannotations := sync_updateMap_stable hbetween.annotations.1 hbetween.annotations.2
    simp only [templateUpdateFunc, syncPredefinedAnnotationsAndLabels, mergeMeta_objectMeta]
      at hlabels hannotations ⊢
    rw [hlabels, hannotations, hbody]
    rfl

/-- The labels `reconcileDeprecateTemplate` deletes. -/
def isDeprecatedLabel (key : String) : Bool :=
  HasPrefix key TemplateOsLabelPrefix || HasPrefix key TemplateFlavorLabelPrefix ||
    HasPrefix key TemplateWorkloadLabelPrefix

/-- The update function of `reconcileDeprecateTemplate`; it ignores the desired object. -/
def deprecateUpdateFunc : ResourceUpdateFunc (TemplateBody ο) := fun _ foundRes =>
  let annotations := foundRes.objectMeta.annotations.set TemplateDeprecatedAnnotation "true"
  let labels := foundRes.objectMeta.labels.deleteIf isDeprecatedLabel
  { foundRes with objectMeta := { foundRes.objectMeta with
      annotations := annotations, labels := labels.set TemplateDeprecatedAnnotation "true" } }

/-- The builder of `reconcileDeprecateTemplate`. -/
def reconcileDeprecateTemplate (template : Template ο) : ReconcileBuilder (TemplateBody ο) :=
  { resource := template.toClientObject, isClusterResource := true, addLabels := true
    operandName := commonTemplatesOperandName, operandComponent := commonTemplatesOperandComponent
    updateFunc := deprecateUpdateFunc }

/-- An old template of the bundle, as the cluster holds and lists it. -/
def oldTemplate : Template Unit :=
  { objectMeta := { name := "rhel6-server-tiny", ns := "openshift", uid := "rhel6-uid"
                    resourceVersion := "5", generation := 1
                    labels := StringMap.ofList [("os.template.kubevirt.io/rhel6.10", "true"),
                      ("template.kubevirt.io/type", "base"), (TemplateVersionLabel, "v0.10.0")] } }

/-- The cluster holding the old template only. -/
def oldTemplateStore : Store (TemplateBody Unit) :=
  { objects := fun key =>
      if key = oldTemplate.objectMeta.key then some oldTemplate.toClientObject else none
    objects_key := by
      intro key obj h
      split_ifs at h with hkey
      cases h
      exact hkey.symm
    revision := 5
    tracksGeneration := true }

/-- Deprecating an old template does not converge: both the first and the second call of
    the same reconcile function update the template, and the second one writes the os label
    that the first one deleted back. -/
theorem deprecate_template_updates_twice :
    ∃ out₁ out₂,
      (reconcileDeprecateTemplate oldTemplate).Reconcile templateType ReconcileBuilder.sampleSSP
        oldTemplateStore VersionCache.empty = .ok out₁ ∧
      out₁.result.operationResult = .updated ∧
      (reconcileDeprecateTemplate oldTemplate).Reconcile templateType ReconcileBuilder.sampleSSP
        out₁.store out₁.cache = .ok out₂ ∧
      out₂.result.operationResult = .updated ∧
      ((out₂.store.get oldTemplate.objectMeta.key).map fun t =>
        t.objectMeta.labels.lookup "os.template.kubevirt.io/rhel6.10") = some (some "true") := by
  refine ⟨?out₁, ?out₂, ?first, ?_, ?second, ?_, ?_⟩
  case first => rfl
  case second => rfl
  all_goals rfl

/-! ## Old templates -/

/-- `Version`: the version of the templates in the bundle. -/
def Version : String := "v0.35.0"

/-- `Version` as `semver.ParseTolerant` reads it. -/
def latestTemplateVersion : Semver.Version := { major := 0, minor := 35, patch := 0 }

theorem parseTolerant_Version : Semver.ParseTolerant Version = .ok latestTemplateVersion := by
  decide

/-- A function `deprecateOrDeleteOldTemplates` returns. -/
inductive OldTemplateFunc (ο : Type)
  /-- `reconcileDeleteTemplate` of the template. -/
  | delete (template : Template ο)
  /-- `reconcileDeprecateTemplate` of the template. -/
  | deprecate (template : Template ο)

def OldTemplateFunc.template : OldTemplateFunc ο → Template ο
  | .delete template => template
  | .deprecate template => template

/-- The body of the loop of `deprecateOrDeleteOldTemplates`. -/
def oldTemplateFunc (latestTemplateVersion : Semver.Version) (archs : List Arch)
    (template : Template ο) : Option (OldTemplateFunc ο) :=
  if template.objectMeta.deletionTimestamp.isSome then none
  else
    -- an unparsable label is the architecture `""`, which is not a cluster architecture
    let known := match GetTemplateArch template with
      | .ok templateArch => archs.contains templateArch
      | .error _ => false
    if !known then some (.delete template)
    else
      let label := template.objectMeta.labels.get TemplateVersionLabel
      let current := label != "" && match Semver.ParseTolerant label with
        | .ok version => latestTemplateVersion.Compare version != 1
        | .error _ => false
      if current then none else some (.deprecate template)

/-- The map `nonDeployedTemplates`: the old templates by name, then the owned ones, less the
    names of the deployed templates. -/
def nonDeployedTemplates (oldTemplates ownedTemplates deployedTemplates : List (Template ο)) :
    AList fun _ : String => Template ο :=
  let nonDeployed := KeyedMap.insertAll (·.objectMeta.name) ∅ oldTemplates
  let nonDeployed := KeyedMap.insertAll (·.objectMeta.name) nonDeployed ownedTemplates
  KeyedMap.eraseAll nonDeployed (deployedTemplates.map (·.objectMeta.name))

/-- `commonTemplates.deprecateOrDeleteOldTemplates`, given the two listings of the client and
    the order in which Go ranges over the map's templates. -/
def deprecateOrDeleteOldTemplates (rangeOrder : List (Template ο) → List (Template ο))
    (oldTemplates ownedTemplates : Except ClientError (List (Template ο)))
    (deployedTemplates : List (Template ο)) (archs : List Arch) :
    Except String (List (OldTemplateFunc ο)) := do
  -- a fresh cluster has no old templates, which the client may report as `NotFound`
  let oldTemplates ← match oldTemplates with
    | .ok items => pure items
    | .error err => if err.isNotFound then pure [] else throw err.message
  let latestTemplateVersion ← Semver.ParseTolerant Version
  let ownedTemplates ← ownedTemplates.mapError fun err =>
    "failed to list owned templates: " ++ err.message
  let nonDeployed := nonDeployedTemplates oldTemplates ownedTemplates deployedTemplates
  pure ((rangeOrder (KeyedMap.values nonDeployed)).filterMap
    (oldTemplateFunc latestTemplateVersion archs))

/-! ### What happens to the templates that are not deployed -/

/-- The decision for a template that is not deployed: nothing while it is being deleted;
    deletion unless its architecture (`amd64` without a label) is a cluster architecture;
    otherwise deprecation when its version label is missing, is not a version, or is lower
    than `Version`. -/
def oldTemplateDecision (archs : List Arch) (template : Template ο) :
    Option (OldTemplateFunc ο) :=
  if template.objectMeta.deletionTimestamp.isSome then none
  else match GetTemplateArch template with
    | .error _ => some (.delete template)
    | .ok arch =>
        if arch ∉ archs then some (.delete template)
        else
          let label := template.objectMeta.labels.get TemplateVersionLabel
          if label = "" then some (.deprecate template)
          else match Semver.ParseTolerant label with
            | .error _ => some (.deprecate template)
            | .ok version =>
                if version.Compare latestTemplateVersion = -1 then some (.deprecate template)
                else none

/-- The loop body decides as intended: `latest.Compare version ≠ 1` says that the version is
    not lower than the latest one. -/
theorem oldTemplateFunc_eq (archs : List Arch) (template : Template ο) :
    oldTemplateFunc latestTemplateVersion archs template = oldTemplateDecision archs template := by
  unfold oldTemplateFunc oldTemplateDecision
  by_cases hdeleting : template.objectMeta.deletionTimestamp.isSome
  · simp [hdeleting]
  simp only [hdeleting]
  cases GetTemplateArch template with
  | error err => rfl
  | ok arch =>
      by_cases harch : arch ∈ archs
      · by_cases hlabel : template.objectMeta.labels.get TemplateVersionLabel = ""
        · simp [harch, hlabel]
        · cases Semver.ParseTolerant (template.objectMeta.labels.get TemplateVersionLabel) with
          | error err => simp [harch, hlabel]
          | ok version =>
              have hswap := Semver.Version.Compare_swap version latestTemplateVersion
              by_cases hlower : version.Compare latestTemplateVersion = -1
              · simp [harch, hlabel, hlower, hswap]
              · have hgt : latestTemplateVersion.Compare version ≠ 1 := by
                  rw [hswap]
                  omega
                simp [harch, hlabel, hlower, hgt]
      · simp [harch]

theorem oldTemplateFunc_template {latest : Semver.Version} {archs : List Arch}
    {template : Template ο} {f : OldTemplateFunc ο}
    (h : oldTemplateFunc latest archs template = some f) : f.template = template := by
  unfold oldTemplateFunc at h
  dsimp only at h
  split_ifs at h <;> cases h <;> rfl

theorem keyedBy_nonDeployedTemplates (oldTemplates ownedTemplates deployedTemplates : List (Template ο)) :
    KeyedMap.KeyedBy (·.objectMeta.name)
      (nonDeployedTemplates oldTemplates ownedTemplates deployedTemplates) :=
  ((KeyedMap.keyedBy_empty.insertAll _).insertAll _).eraseAll _

/-- A name looks up the last owned template with that name, else the last old one, unless a
    deployed template has it. -/
theorem lookup_nonDeployedTemplates (oldTemplates ownedTemplates deployedTemplates : List (Template ο))
    (name : String) :
    (nonDeployedTemplates oldTemplates ownedTemplates deployedTemplates).lookup name =
      if name ∈ deployedTemplates.map (·.objectMeta.name) then none
      else (ownedTemplates.reverse.find? (·.objectMeta.name = name)).or
        (oldTemplates.reverse.find? (·.objectMeta.name = name)) := by
  simp only [nonDeployedTemplates, KeyedMap.lookup_eraseAll, KeyedMap.lookup_insertAll,
    AList.lookup_empty, Option.or_none]

end Operands

end SspOperator
