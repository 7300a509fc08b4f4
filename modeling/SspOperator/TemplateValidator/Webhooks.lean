import SspOperator.TemplateValidator.Eval
import SspOperator.TemplateValidator.VmCache

/-
  The admission webhooks of the template validator (`webhooks/hook.go`,
  `webhooks/uplink.go`, `webhooks/utils.go`).

  A VM is checked against the rules it carries in `vm.kubevirt.io/validations`, or
  else against the `validations` annotation of its parent template, found in the
  template informer's store under the key of the VM's template reference. A common
  template that carries rules may not be deleted while the VM cache lists a VM
  under it.

  The two halves decide "this VM takes its rules from a template" differently: the
  cache's filter `vmNeedsTemplate` asks whether the validations annotation is
  present, `getValidationRulesForVM` whether its value is non-empty. A VM whose
  annotation is the empty string takes its rules from the template and is not
  listed, so its template can be deleted under it
  (`template_delete_admitted_while_vm_uses_it`). Where the annotation is absent,
  the VM is listed under exactly the template the admission path reads
  (`mem_getVmsForTemplate_parent`), and the deletion is refused
  (`admitTemplate_refuses_parent_delete`).

  JSON decoding is outside the model: `jsonUnmarshal` decodes a rule list, and an
  admission request carries its objects raw, decoded by `decodeVm` and
  `decodeTemplate`.
-/

namespace SspOperator.TemplateValidator

/-! ## The template store -/

/-- The store of the template informer: every template sits under its
    `MetaNamespaceKeyFunc` key, and templates are namespaced objects. -/
structure TemplateStore (ο : Type) where
  items : Finmap fun _ : String => Template ο
  keyed : ∀ k t, items.lookup k = some t → k = metaNamespaceKeyFunc t.objectMeta
  namespaced : ∀ k t, items.lookup k = some t → t.objectMeta.ns ≠ ""

namespace TemplateStore

variable {ο : Type}

/-- The store before the first list. -/
def empty : TemplateStore ο :=
  { items := ∅
    keyed := by simp
    namespaced := by simp }

/-- The informer's `Add` of a template delivered by the API server. -/
def add (s : TemplateStore ο) (t : Template ο) (hns : t.objectMeta.ns ≠ "") :
    TemplateStore ο :=
  { items := s.items.insert (metaNamespaceKeyFunc t.objectMeta) t
    keyed := by
      intro k t' h
      by_cases hk : k = metaNamespaceKeyFunc t.objectMeta
      · subst hk
        rw [Finmap.lookup_insert, Option.some_inj] at h
        rw [h]
      · rw [Finmap.lookup_insert_of_ne _ hk] at h
        exact s.keyed k t' h
    namespaced := by
      intro k t' h
      by_cases hk : k = metaNamespaceKeyFunc t.objectMeta
      · subst hk
        rw [Finmap.lookup_insert, Option.some_inj] at h
        rw [← h]
        exact hns
      · rw [Finmap.lookup_insert_of_ne _ hk] at h
        exact s.namespaced k t' h }

/-- `GetByKey` of a thread-safe store, which never fails. -/
def getByKey (s : TemplateStore ο) (key : String) : Except String (Option (Template ο)) :=
  .ok (s.items.lookup key)

/-- A template found under a key is the template of that key. -/
theorem key_of_getByKey {s : TemplateStore ο} {key : String} {t : Template ο}
    (h : s.getByKey key = .ok (some t)) : key = t.objectMeta.key.toString := by
  have hl : s.items.lookup key = some t := by
    simpa [getByKey] using h
  rw [s.keyed key t hl, metaNamespaceKeyFunc_of_ns_ne (s.namespaced key t hl)]

end TemplateStore

/-! ## Rules of a VM -/

section rules

variable {ρ ο : Type} (jsonUnmarshal : String → Except String (List Rule))

/-- `validation.ParseRules`: no data means no rules. -/
def parseRules (data : String) : Except String (List Rule) :=
  if data.length = 0 then .ok [] else jsonUnmarshal data

/-- `getParentTemplateForVM`: no valid reference means no parent; otherwise what
    the getter holds under the reference's key (a missing template is no parent). -/
def getParentTemplateForVM (templateGetter : String → Except String (Option (Template ο)))
    (vm : VirtualMachine ρ) : Except String (Option (Template ο)) :=
  let templateKeys := getTemplateKeys vm.objectMeta
  if !templateKeys.isValid then .ok none
  else templateGetter templateKeys.get.toString

/-- `getValidationRulesFromTemplate`. -/
def getValidationRulesFromTemplate (tmpl : Template ο) : Except String (List Rule) :=
  parseRules jsonUnmarshal (tmpl.objectMeta.annotations.get AnnotationValidationKey)

/-- `getValidationRulesFromVM`. -/
def getValidationRulesFromVM (vm : VirtualMachine ρ) : Except String (List Rule) :=
  parseRules jsonUnmarshal (vm.objectMeta.annotations.get VmValidationAnnotationKey)

/-- `getValidationRulesForVM`: the skip annotation turns validation off; a non-empty
    validations annotation replaces the template's rules; otherwise the parent
    template's rules, and none when there is no parent. -/
def getValidationRulesForVM (templateGetter : String → Except String (Option (Template ο)))
    (vm : VirtualMachine ρ) : Except String (List Rule) :=
  if vm.objectMeta.annotations.contains VmSkipValidationAnnotationKey then .ok []
  else if vm.objectMeta.annotations.get VmValidationAnnotationKey ≠ "" then
    getValidationRulesFromVM jsonUnmarshal vm
  else
    match getParentTemplateForVM templateGetter vm with
    | .ok (some tmpl) => getValidationRulesFromTemplate jsonUnmarshal tmpl
    | .ok none => .ok []
    | .error err => .error err

/-- When the VM neither skips validation nor carries rules of its own, its rules
    are those of the parent template. -/
theorem getValidationRulesForVM_of_parent
    {templateGetter : String → Except String (Option (Template ο))} {vm : VirtualMachine ρ}
    {tmpl : Template ο}
    (hskip : vm.objectMeta.annotations.contains VmSkipValidationAnnotationKey = false)
    (hval : vm.objectMeta.annotations.get VmValidationAnnotationKey = "")
    (hparent : getParentTemplateForVM templateGetter vm = .ok (some tmpl)) :
    getValidationRulesForVM jsonUnmarshal templateGetter vm =
      getValidationRulesFromTemplate jsonUnmarshal tmpl := by
  simp [getValidationRulesForVM, hskip, hval, hparent]

end rules

/-! ## Admission requests and responses -/

/-- `admissionv1.Operation`. -/
inductive Operation
  | create
  | update
  | delete
  | connect
deriving DecidableEq

/-- `metav1.GroupVersionResource`. -/
structure GroupVersionResource where
  group : String
  version : String
  resource : String
deriving DecidableEq

/-- `%v` of a `GroupVersionResource`. -/
def GroupVersionResource.toString (r : GroupVersionResource) : String :=
  "\x7b" ++ r.group ++ " " ++ r.version ++ " " ++ r.resource ++ "\x7d"

/-- The fields of an `admissionv1.AdmissionRequest` the webhooks read; the objects
    are raw. -/
structure AdmissionRequest (raw : Type) where
  operation : Operation
  resource : GroupVersionResource
  object : raw
  oldObject : raw

/-- `metav1.Status`. -/
structure Status where
  message : String
  reason : String := ""
  code : Nat
  causes : List StatusCause := []

/-- `admissionv1.AdmissionResponse`. -/
structure AdmissionResponse where
  allowed : Bool
  result : Option Status := none

/-- `ToAdmissionResponseOK`. -/
def toAdmissionResponseOK : AdmissionResponse :=
  { allowed := true }

/-- `ToAdmissionResponseError`: refused with status 400. -/
def toAdmissionResponseError (err : String) : AdmissionResponse :=
  { allowed := false, result := some { message := err, code := 400 } }

/-- `ToAdmissionResponse`: refused with status 422, the cause messages joined. -/
def toAdmissionResponse (causes : List StatusCause) : AdmissionResponse :=
  let globalMessage := causes.foldl
    (fun m cause => if m = "" then cause.message else m ++ ", " ++ cause.message) ""
  { allowed := false
    result := some { message := globalMessage, reason := "Invalid", code := 422,
                     causes := causes } }

/-- `common_templates.TemplateTypeLabel`, the label of a common template. -/
def TemplateTypeLabel : String := "template.kubevirt.io/type"

section handlers

variable {ρ ο raw : Type} (decodeVm : raw → Except String (VirtualMachine ρ))
  (decodeTemplate : raw → Except String (Template ο))

/-- `GetAdmissionReviewVM`. -/
def getAdmissionReviewVM (req : AdmissionRequest raw) : Except String (VirtualMachine ρ) :=
  if req.resource.resource ≠ "virtualmachines" then
    .error ("expect resource " ++ req.resource.toString ++ " to be 'virtualmachines'")
  else decodeVm req.object

/-- `GetAdmissionReviewTemplate`: a deletion carries the template as the old object. -/
def getAdmissionReviewTemplate (req : AdmissionRequest raw) : Except String (Template ο) :=
  if req.resource.resource ≠ "templates" then
    .error ("expected resource " ++ req.resource.toString ++ " to be 'templates'")
  else if req.operation = .delete then decodeTemplate req.oldObject
  else decodeTemplate req.object

variable (jsonUnmarshal : String → Except String (List Rule))
  (templateGetter : String → Except String (Option (Template ο)))
  (jsonPathFind : String → VirtualMachine ρ → Except String Results)
  (regexpCompile : String → Option String) (matchString : String → String → Bool)
  (refVm : VirtualMachine ρ)

/-- `webhooks.admitVm`: VMs being deleted pass; otherwise the VM's rules are looked
    up and it is refused when evaluating them yields causes. A panic of the evaluation
    goes up to the HTTP server. -/
def admitVm (req : AdmissionRequest raw) : Except Fault AdmissionResponse :=
  match getAdmissionReviewVM decodeVm req with
  | .error err => pure (toAdmissionResponseError err)
  | .ok vm =>
      if vm.objectMeta.deletionTimestamp.isSome then pure toAdmissionResponseOK
      else
        match getValidationRulesForVM jsonUnmarshal templateGetter vm with
        | .error err => pure (toAdmissionResponseError err)
        | .ok rules => do
            let causes ← validateVm jsonPathFind regexpCompile matchString refVm rules vm
            pure (if causes.length > 0 then toAdmissionResponse causes else toAdmissionResponseOK)

/-- `webhooks.admitTemplate`: only the deletion of a common template that carries
    rules is checked, and it is refused while the cache lists VMs under it. The VM
    keys come from a Go map and are joined in no fixed order; `vms` is that order. -/
def admitTemplate (vmCache : VmCache) (vms : Finset String → List String)
    (req : AdmissionRequest raw) : AdmissionResponse :=
  if req.operation ≠ .delete then toAdmissionResponseOK
  else
    match getAdmissionReviewTemplate decodeTemplate req with
    | .error err => toAdmissionResponseError err
    | .ok template =>
        if !template.objectMeta.labels.contains TemplateTypeLabel then toAdmissionResponseOK
        else if !template.objectMeta.annotations.contains AnnotationValidationKey then
          toAdmissionResponseOK
        else
          let templateKey := template.objectMeta.key.toString
          let found := vmCache.getVmsForTemplate templateKey
          if found.card = 0 then toAdmissionResponseOK
          else
            { allowed := false
              result := some
                { message := "Template cannot be deleted, because the following VMs are " ++
                    "referencing it for validation: " ++ ", ".intercalate (vms found)
                  reason := "Forbidden", code := 403 } }

/-- When `admitTemplate` refuses: a deletion whose template cannot be decoded, or the
    deletion of a common template with rules under which the cache lists a VM. -/
theorem admitTemplate_allowed_eq_false_iff (vmCache : VmCache)
    (vms : Finset String → List String) (req : AdmissionRequest raw) :
    (admitTemplate decodeTemplate vmCache vms req).allowed = false ↔
      req.operation = .delete ∧
        match getAdmissionReviewTemplate decodeTemplate req with
        | .error _ => True
        | .ok template =>
            template.objectMeta.labels.contains TemplateTypeLabel = true ∧
              template.objectMeta.annotations.contains AnnotationValidationKey = true ∧
              (vmCache.getVmsForTemplate template.objectMeta.key.toString).Nonempty := by
  unfold admitTemplate
  by_cases hdel : req.operation = .delete
  · simp only [hdel, ne_eq, not_true_eq_false, ↓reduceIte, true_and]
    split
    · simp [toAdmissionResponseError]
    · rename_i template _
      by_cases htype : template.objectMeta.labels.contains TemplateTypeLabel = true
      · by_cases hrules : template.objectMeta.annotations.contains AnnotationValidationKey = true
        · -- the last branch refuses exactly when the cache lists some VM
          by_cases hempty : vmCache.getVmsForTemplate template.objectMeta.key.toString = ∅
          · simp [htype, hrules, hempty, toAdmissionResponseOK]
          · simp [htype, hrules, hempty, Finset.nonempty_iff_ne_empty]
        · simp [htype, hrules, toAdmissionResponseOK]
      · simp [htype, toAdmissionResponseOK]
  · simp [hdel, toAdmissionResponseOK]

end handlers

/-! ## Deletion protection -/

section protection

variable {ρ ο raw : Type}

/-- The parent found in the template store is the template that the VM's reference
    names, and the reference is valid. -/
theorem getParentTemplateForVM_key {store : TemplateStore ο} {vm : VirtualMachine ρ}
    {tmpl : Template ο} (h : getParentTemplateForVM store.getByKey vm = .ok (some tmpl)) :
    (getTemplateKeys vm.objectMeta).isValid = true ∧
      (newVmCacheValue vm.objectMeta).template = tmpl.objectMeta.key.toString := by
  unfold getParentTemplateForVM at h
  by_cases hv : (getTemplateKeys vm.objectMeta).isValid = true
  · simp only [hv, Bool.not_true, Bool.false_eq_true, ↓reduceIte] at h
    exact ⟨hv, TemplateStore.key_of_getByKey h⟩
  · simp [hv] at h

/-- A VM without a validations annotation whose parent template is in the store is
    listed under that template once `Add` or `Update` delivers it to a cache with the
    production filter. -/
theorem mem_getVmsForTemplate_parent {c : VmCache} (hf : c.filter = vmNeedsTemplate)
    {store : TemplateStore ο} {vm : VirtualMachine ρ} {tmpl : Template ο}
    (hval : vm.objectMeta.annotations.contains VmValidationAnnotationKey = false)
    (hparent : getParentTemplateForVM store.getByKey vm = .ok (some tmpl)) :
    vmCacheKey vm.objectMeta ∈
        (c.add vm.objectMeta).getVmsForTemplate tmpl.objectMeta.key.toString ∧
      vmCacheKey vm.objectMeta ∈
        (c.update vm.objectMeta).getVmsForTemplate tmpl.objectMeta.key.toString := by
  obtain ⟨hvalid, htemplate⟩ := getParentTemplateForVM_key hparent
  have hpass : c.filter vm.objectMeta = true := by
    rw [hf, vmNeedsTemplate_eq_true_iff]
    exact ⟨hval, hvalid⟩
  rw [← htemplate]
  exact ⟨VmCache.mem_getVmsForTemplate_add c _ hpass,
    VmCache.mem_getVmsForTemplate_update c _ hpass⟩

/-- For a VM without a validations annotation, the protection holds: once `Add` or
    `Update` has delivered it, deleting the common template it takes its rules from
    is refused. -/
theorem admitTemplate_refuses_parent_delete
    (decodeTemplate : raw → Except String (Template ο)) (jsonUnmarshal : String → Except String (List Rule))
    {c : VmCache} (hf : c.filter = vmNeedsTemplate) {store : TemplateStore ο}
    {vm : VirtualMachine ρ} {tmpl : Template ο}
    (hskip : vm.objectMeta.annotations.contains VmSkipValidationAnnotationKey = false)
    (hval : vm.objectMeta.annotations.contains VmValidationAnnotationKey = false)
    (hparent : getParentTemplateForVM store.getByKey vm = .ok (some tmpl))
    (vms : Finset String → List String) (req : AdmissionRequest raw)
    (hdel : req.operation = .delete) (hres : req.resource.resource = "templates")
    (hdec : decodeTemplate req.oldObject = .ok tmpl)
    (htype : tmpl.objectMeta.labels.contains TemplateTypeLabel = true)
    (hrules : tmpl.objectMeta.annotations.contains AnnotationValidationKey = true) :
    getValidationRulesForVM jsonUnmarshal store.getByKey vm =
        getValidationRulesFromTemplate jsonUnmarshal tmpl ∧
      (admitTemplate decodeTemplate (c.add vm.objectMeta) vms req).allowed = false ∧
      (admitTemplate decodeTemplate (c.update vm.objectMeta) vms req).allowed = false := by
  have hrulesVm : vm.objectMeta.annotations.get VmValidationAnnotationKey = "" :=
    StringMap.get_of_not_contains hval
  have htmpl : getAdmissionReviewTemplate decodeTemplate req = .ok tmpl := by
    simp [getAdmissionReviewTemplate, hres, hdel, hdec]
  obtain ⟨hadd, hupdate⟩ := mem_getVmsForTemplate_parent hf hval hparent
  refine ⟨getValidationRulesForVM_of_parent jsonUnmarshal hskip hrulesVm hparent, ?_, ?_⟩
  · rw [admitTemplate_allowed_eq_false_iff, htmpl]
    exact ⟨hdel, htype, hrules, ⟨_, hadd⟩⟩
  · rw [admitTemplate_allowed_eq_false_iff, htmpl]
    exact ⟨hdel, htype, hrules, ⟨_, hupdate⟩⟩

/-- A VM that references the template `ns/t` and carries an empty
    `vm.kubevirt.io/validations` annotation. -/
def vmWithEmptyValidations : VirtualMachine Unit :=
  { objectMeta :=
      { name := "vm-c", ns := "ns"
        labels := StringMap.ofList
          [(AnnotationTemplateNameKey, "t"), (AnnotationTemplateNamespaceKey, "ns")]
        annotations := StringMap.ofList [(VmValidationAnnotationKey, "")] }
    spec := { template := { spec := { domain := { cpu := none } } } }
    rest := () }

/-- The common template `ns/t`, with one rule in its `validations` annotation. -/
def commonTemplateWithRules : Template Unit :=
  { objectMeta :=
      { name := "t", ns := "ns"
        labels := StringMap.ofList [(TemplateTypeLabel, "base")]
        annotations := StringMap.ofList [(AnnotationValidationKey,
          "[\x7b\"name\": \"cores\", \"path\": \"jsonpath::.spec.domain.cpu.cores\", " ++
          "\"rule\": \"integer\", \"message\": \"too many cores\", \"max\": 4\x7d]")] } }

/-- The request deleting `commonTemplateWithRules`, decoded by `Except.ok`. -/
def deleteCommonTemplate : AdmissionRequest (Template Unit) :=
  { operation := .delete
    resource := { group := "template.openshift.io", version := "v1", resource := "templates" }
    object := commonTemplateWithRules
    oldObject := commonTemplateWithRules }

/-- A VM that references the template `ns/t` and carries no `vm.kubevirt.io/validations`
    annotation. -/
def vmWithoutValidations : VirtualMachine Unit :=
  { objectMeta :=
      { name := "vm-d", ns := "ns"
        labels := StringMap.ofList
          [(AnnotationTemplateNameKey, "t"), (AnnotationTemplateNamespaceKey, "ns")] }
    spec := { template := { spec := { domain := { cpu := none } } } }
    rest := () }

theorem common_template_delete_refused_while_listed :
    getValidationRulesForVM (fun _ => .ok [])
        (TemplateStore.empty.add commonTemplateWithRules (by decide)).getByKey
        vmWithoutValidations =
      getValidationRulesFromTemplate (fun _ => .ok []) commonTemplateWithRules ∧
    (admitTemplate Except.ok ((newVmCache vmNeedsTemplate).add vmWithoutValidations.objectMeta)
      (fun _ => []) deleteCommonTemplate).allowed = false ∧
    (admitTemplate Except.ok ((newVmCache vmNeedsTemplate).update vmWithoutValidations.objectMeta)
      (fun _ => []) deleteCommonTemplate).allowed = false :=
  admitTemplate_refuses_parent_delete Except.ok (fun _ => .ok []) rfl (by decide) (by decide) rfl
    (fun _ => []) deleteCommonTemplate rfl rfl rfl (by decide) (by decide)

theorem template_delete_admitted_while_vm_uses_it
    (jsonUnmarshal : String → Except String (List Rule)) (vms : Finset String → List String) :
    getValidationRulesForVM jsonUnmarshal
        (TemplateStore.empty.add commonTemplateWithRules (by decide)).getByKey
        vmWithEmptyValidations =
      getValidationRulesFromTemplate jsonUnmarshal commonTemplateWithRules ∧
    ((newVmCache vmNeedsTemplate).add vmWithEmptyValidations.objectMeta).getVmsForTemplate
      "ns/t" = ∅ ∧
    (admitTemplate Except.ok ((newVmCache vmNeedsTemplate).add vmWithEmptyValidations.objectMeta)
      vms deleteCommonTemplate).allowed = true := by
  refine ⟨getValidationRulesForVM_of_parent jsonUnmarshal (by decide) (by decide) rfl,
    by decide, ?_⟩
  rfl

end protection

end SspOperator.TemplateValidator
