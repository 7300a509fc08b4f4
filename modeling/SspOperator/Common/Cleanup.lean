import SspOperator.Common.Object

/-
  Deleting the operator's resources (`Cleanup`, `DeleteAll` and `isResourceOwned` in
  `internal/common/resource.go`).

  `Cleanup` reads the object at the resource's key and deletes it when the SSP owns it.
  Ownership is decided by `isResourceOwned`: an expected object in the SSP's namespace gets
  the SSP's controller reference in place of its own references, every expected object gets
  the SSP's owner annotations, and the found object is owned when one of its owner references
  equals the first reference of the expected object, or when its owner annotations equal the
  expected ones.

  The comparison reads the expected object's first reference for each reference of the found
  object. An expected object outside the SSP's namespace keeps the references the caller gave
  it, and the objects the operands build have none: when the found object has an owner
  reference, the read is out of range and the operator panics
  (`cleanup_panics_on_foreign_owner`). In the SSP's namespace the controller reference is in
  place and the read is in range: `Cleanup` panics exactly in the case above
  (`Cleanup_eq_panic_iff`).

  `isResourceOwned` also writes the reference and the annotations into the caller's object;
  the callers read only the `Deleted` flag of the result, and that write is left out.
-/

namespace SspOperator.Common

variable {σ : Type}

/-- The run-time panic of reading element 0 of an empty slice. -/
def indexOutOfRangeZero : Fault :=
  .panic "runtime error: index out of range [0] with length 0"

/-- `CleanupResult`. -/
structure CleanupResult (σ : Type) where
  resource : ClientObject σ
  deleted : Bool

/-- The loop of `isResourceOwned` over the found object's references: each is compared with
    the expected object's first reference, which is read anew at every iteration. -/
def ownerReferenceMatches (expected : List OwnerReference) :
    List OwnerReference → Except Fault Bool
  | [] => .ok false
  | reference :: rest =>
      match expected with
      | [] => .error indexOutOfRangeZero
      | first :: _ => if reference = first then .ok true else ownerReferenceMatches expected rest

/-- The annotation check of `isResourceOwned`: a found object without annotations is not
    owned. -/
def ownerAnnotationsMatch (expectedObj foundObj : ObjectMeta) : Bool :=
  match foundObj.annotations with
  | none => false
  | some _ =>
      foundObj.annotations.get TypeAnnotation = expectedObj.annotations.get TypeAnnotation &&
        foundObj.annotations.get NamespacedNameAnnotation =
          expectedObj.annotations.get NamespacedNameAnnotation

/-- The expected object as `isResourceOwned` prepares it: in the SSP's namespace its
    references are replaced by the SSP's controller reference, and it gets the SSP's owner
    annotations. -/
def expectedOwnerObject (requestInstance : SSP) (expectedObj : ObjectMeta) :
    Except Fault ObjectMeta := do
  let expectedObj ←
    if expectedObj.ns = requestInstance.objectMeta.ns then
      (SetControllerReference requestInstance { expectedObj with ownerReferences := [] }).mapError
        Fault.error
    else pure expectedObj
  (SetOwnerAnnotations requestInstance expectedObj).mapError Fault.error

/-- `isResourceOwned`. -/
def isResourceOwned (requestInstance : SSP) (expectedObj foundObj : ObjectMeta) :
    Except Fault Bool := do
  let expectedObj ← expectedOwnerObject requestInstance expectedObj
  if ← ownerReferenceMatches expectedObj.ownerReferences foundObj.ownerReferences then
    return true
  pure (ownerAnnotationsMatch expectedObj foundObj)

/-- `Cleanup`, on the store of the resource's kind: the result, and the store after the
    call. A delete of an object that is gone is not-found, which counts as deleted. -/
def Cleanup (requestInstance : SSP) (store : Store σ) (resource : ClientObject σ) :
    Except Fault (CleanupResult σ × Store σ) := do
  match store.get resource.objectMeta.key with
  | none => pure ({ resource := resource, deleted := true }, store)
  | some found =>
      let isOwned ← isResourceOwned requestInstance resource.objectMeta found.objectMeta
      -- an object of the same name that the SSP does not own counts as deleted
      if !isOwned then return ({ resource := resource, deleted := true }, store)
      if found.objectMeta.deletionTimestamp.isNone then
        match store.delete found with
        | .error _ => pure ({ resource := resource, deleted := true }, store)
        | .ok store' => pure ({ resource := resource, deleted := false }, store')
      else pure ({ resource := resource, deleted := false }, store)

/-- `DeleteAll`: `Cleanup` of each resource in order; the first failure stops it. -/
def DeleteAll (requestInstance : SSP) (store : Store σ) (resources : List (ClientObject σ)) :
    Except Fault (List (CleanupResult σ) × Store σ) :=
  resources.foldlM
    (fun acc obj => do
      let (result, store) ← Cleanup requestInstance acc.2 obj
      pure (acc.1 ++ [result], store))
    ([], store)

/-! ## The first expected reference -/

/-- With a first expected reference the loop answers without panicking. -/
theorem ownerReferenceMatches_cons_ne_panic {first : OwnerReference}
    {more : List OwnerReference} :
    ∀ found, ownerReferenceMatches (first :: more) found ≠ .error indexOutOfRangeZero
  | [] => by simp [ownerReferenceMatches]
  | reference :: rest => by
      simp only [ownerReferenceMatches]
      split_ifs
      · simp
      · exact ownerReferenceMatches_cons_ne_panic rest

/-- The loop panics exactly when the found object has references and the expected one has
    none. -/
theorem ownerReferenceMatches_eq_panic {expected found : List OwnerReference} :
    ownerReferenceMatches expected found = .error indexOutOfRangeZero ↔
      found ≠ [] ∧ expected = [] := by
  cases found with
  | nil => simp [ownerReferenceMatches]
  | cons reference rest =>
      cases expected with
      | nil => simp [ownerReferenceMatches]
      | cons first more =>
          simp only [ne_eq, reduceCtorEq, not_false_eq_true, true_and, iff_false]
          exact ownerReferenceMatches_cons_ne_panic _

theorem mapError_error_ne_panic {α : Type} (x : Except String α) (msg : String) :
    x.mapError Fault.error ≠ .error (.panic msg) := by
  cases x <;> simp

/-- Preparing the expected object fails only with an error it returns. -/
theorem expectedOwnerObject_ne_panic {requestInstance : SSP} {expectedObj : ObjectMeta}
    {msg : String} : expectedOwnerObject requestInstance expectedObj ≠ .error (.panic msg) := by
  unfold expectedOwnerObject
  split_ifs
  · cases SetControllerReference requestInstance { expectedObj with ownerReferences := [] } with
    | error e => simp
    | ok controlled => simpa using mapError_error_ne_panic _ msg
  · simpa using mapError_error_ne_panic _ msg

/-- `isResourceOwned` panics only in its loop, on an expected object without references. -/
theorem isResourceOwned_eq_panic {requestInstance : SSP} {expectedObj foundObj : ObjectMeta} :
    isResourceOwned requestInstance expectedObj foundObj = .error indexOutOfRangeZero ↔
      ∃ expected, expectedOwnerObject requestInstance expectedObj = .ok expected ∧
        foundObj.ownerReferences ≠ [] ∧ expected.ownerReferences = [] := by
  unfold isResourceOwned
  cases hprep : expectedOwnerObject requestInstance expectedObj with
  | error e =>
      have hne : e ≠ indexOutOfRangeZero := by
        rintro rfl
        exact expectedOwnerObject_ne_panic hprep
      simp [hne]
  | ok expected =>
      simp only [except_ok_bind, Except.ok.injEq, exists_eq_left']
      rw [← ownerReferenceMatches_eq_panic]
      cases ownerReferenceMatches expected.ownerReferences foundObj.ownerReferences with
      | error e => simp
      | ok b => cases b <;> simp

/-- In the SSP's namespace the expected object carries only the SSP's controller reference. -/
theorem expectedOwnerObject_refs_of_ns_eq {requestInstance : SSP}
    {expectedObj expected : ObjectMeta} (hns : expectedObj.ns = requestInstance.objectMeta.ns)
    (h : expectedOwnerObject requestInstance expectedObj = .ok expected) :
    expected.ownerReferences = [controllerRef requestInstance] := by
  unfold expectedOwnerObject at h
  rw [if_pos hns] at h
  obtain ⟨controlled, hctrl, hann⟩ := except_bind_eq_ok.mp h
  rw [mapError_eq_ok] at hctrl hann
  -- the object has no reference, so no other controller either
  obtain ⟨u, -, hset⟩ := except_bind_eq_ok.mp hctrl
  simp only [GetControllerOf, List.find?_nil, except_pure, Except.ok.injEq] at hset
  rw [(SetOwnerAnnotations_eq_ok.mp hann).2, ← hset]
  rfl

/-- Outside the SSP's namespace the expected object keeps the references it was given. -/
theorem expectedOwnerObject_of_ns_ne {requestInstance : SSP} {expectedObj : ObjectMeta}
    (hname : requestInstance.objectMeta.name ≠ "")
    (hns : expectedObj.ns ≠ requestInstance.objectMeta.ns) :
    ∃ expected, expectedOwnerObject requestInstance expectedObj = .ok expected ∧
      expected.ownerReferences = expectedObj.ownerReferences := by
  obtain ⟨annotated, hann⟩ : ∃ annotated,
      SetOwnerAnnotations requestInstance expectedObj = .ok annotated :=
    ⟨_, SetOwnerAnnotations_eq_ok.mpr ⟨hname, rfl⟩⟩
  refine ⟨annotated, ?_, ?_⟩
  · unfold expectedOwnerObject
    simp only [if_neg hns, except_pure, except_ok_bind, hann, mapError_ok]
  · rw [(SetOwnerAnnotations_eq_ok.mp hann).2]

/-- In the SSP's namespace `isResourceOwned` does not panic. -/
theorem isResourceOwned_ne_panic_of_ns_eq {requestInstance : SSP}
    {expectedObj foundObj : ObjectMeta} (hns : expectedObj.ns = requestInstance.objectMeta.ns) :
    isResourceOwned requestInstance expectedObj foundObj ≠ .error indexOutOfRangeZero := by
  rintro h
  obtain ⟨expected, hprep, -, hnone⟩ := isResourceOwned_eq_panic.mp h
  rw [expectedOwnerObject_refs_of_ns_eq hns hprep] at hnone
  exact List.cons_ne_nil _ _ hnone

/-- Outside the SSP's namespace the expected object is prepared only for an SSP with a name,
    and keeps the references it was given. -/
theorem expectedOwnerObject_refs_of_ns_ne {requestInstance : SSP}
    {expectedObj expected : ObjectMeta} (hns : expectedObj.ns ≠ requestInstance.objectMeta.ns)
    (h : expectedOwnerObject requestInstance expectedObj = .ok expected) :
    requestInstance.objectMeta.name ≠ "" ∧ expected.ownerReferences = expectedObj.ownerReferences := by
  unfold expectedOwnerObject at h
  simp only [if_neg hns, except_pure, except_ok_bind, mapError_eq_ok] at h
  obtain ⟨hname, rfl⟩ := SetOwnerAnnotations_eq_ok.mp h
  exact ⟨hname, rfl⟩

/-- `isResourceOwned` panics exactly on a found object with references, when the expected
    object lies outside the SSP's namespace with no reference of its own and the SSP has a
    name. -/
theorem isResourceOwned_eq_panic_iff {requestInstance : SSP} {expectedObj foundObj : ObjectMeta} :
    isResourceOwned requestInstance expectedObj foundObj = .error indexOutOfRangeZero ↔
      requestInstance.objectMeta.name ≠ "" ∧ expectedObj.ns ≠ requestInstance.objectMeta.ns ∧
        expectedObj.ownerReferences = [] ∧ foundObj.ownerReferences ≠ [] := by
  by_cases hns : expectedObj.ns = requestInstance.objectMeta.ns
  · -- the SSP's controller reference is in place of the expected object's own
    simp only [hns, ne_eq, not_true_eq_false, false_and, and_false, iff_false]
    exact isResourceOwned_ne_panic_of_ns_eq hns
  · rw [isResourceOwned_eq_panic]
    constructor
    · rintro ⟨expected, hprep, hfound, hnone⟩
      obtain ⟨hname, hrefs⟩ := expectedOwnerObject_refs_of_ns_ne hns hprep
      exact ⟨hname, hns, hrefs ▸ hnone, hfound⟩
    · rintro ⟨hname, -, hnone, hfound⟩
      obtain ⟨expected, hprep, hrefs⟩ := expectedOwnerObject_of_ns_ne hname hns
      exact ⟨expected, hprep, hfound, hrefs.trans hnone⟩

/-- `Cleanup` panics exactly where the key of a resource outside the SSP's namespace, with no
    owner reference of its own, holds an object with an owner reference, and the SSP has a
    name. Every other call returns, or fails with an error it returns. -/
theorem Cleanup_eq_panic_iff {requestInstance : SSP} {store : Store σ}
    {resource : ClientObject σ} :
    Cleanup requestInstance store resource = .error indexOutOfRangeZero ↔
      requestInstance.objectMeta.name ≠ "" ∧ resource.objectMeta.ns ≠ requestInstance.objectMeta.ns ∧
        resource.objectMeta.ownerReferences = [] ∧
        ∃ found, store.get resource.objectMeta.key = some found ∧
          found.objectMeta.ownerReferences ≠ [] := by
  cases hfound : store.get resource.objectMeta.key with
  | none => simp [Cleanup, hfound]
  | some found =>
      -- past the ownership check every branch returns
      have hcheck : Cleanup requestInstance store resource = .error indexOutOfRangeZero ↔
          isResourceOwned requestInstance resource.objectMeta found.objectMeta =
            .error indexOutOfRangeZero := by
        simp only [Cleanup, hfound]
        cases isResourceOwned requestInstance resource.objectMeta found.objectMeta with
        | error e => simp
        | ok owned =>
            refine iff_of_false ?_ (by simp)
            cases store.delete found <;> cases owned <;> simp <;> split_ifs <;> simp
      rw [hcheck, isResourceOwned_eq_panic_iff]
      simp

/-- An object an operand builds outside the SSP's namespace, with no owner reference, whose
    namesake in the store has an owner reference: `Cleanup` panics on the expected object's
    first reference. -/
theorem cleanup_panics_on_foreign_owner {requestInstance : SSP} {store : Store σ}
    {resource found : ClientObject σ}
    (hname : requestInstance.objectMeta.name ≠ "")
    (hns : resource.objectMeta.ns ≠ requestInstance.objectMeta.ns)
    (hnoref : resource.objectMeta.ownerReferences = [])
    (hfound : store.get resource.objectMeta.key = some found)
    (hforeign : found.objectMeta.ownerReferences ≠ []) :
    Cleanup requestInstance store resource = .error indexOutOfRangeZero := by
  obtain ⟨expected, hprep, hrefs⟩ := expectedOwnerObject_of_ns_ne hname hns
  have howned : isResourceOwned requestInstance resource.objectMeta found.objectMeta =
      .error indexOutOfRangeZero :=
    isResourceOwned_eq_panic.mpr ⟨expected, hprep, hforeign, hrefs.trans hnoref⟩
  simp only [Cleanup, hfound, howned, except_error_bind]

/-- A template in the common-templates namespace whose owner is another object. -/
def foreignOwnedTemplate : ClientObject Unit :=
  { objectMeta := { name := "rhel9-server-small", ns := "openshift",
                    ownerReferences := [{ apiVersion := "v1", kind := "ConfigMap",
                                          name := "templates-bundle", uid := "cm-uid" }] }
    body := () }

/-- The store of templates holding only that template. -/
def foreignOwnedTemplateStore : Store Unit :=
  (Store.empty false).write foreignOwnedTemplate.objectMeta.key (some foreignOwnedTemplate)
    (by intro o h; cases h; rfl)

theorem cleanup_of_foreign_owned_template_panics :
    Cleanup { objectMeta := { name := "ssp-sample", ns := "kubevirt" },
              spec := { commonTemplates := { ns := "openshift" } } }
        foreignOwnedTemplateStore
        { objectMeta := { name := "rhel9-server-small", ns := "openshift" }, body := () } =
      .error indexOutOfRangeZero :=
  cleanup_panics_on_foreign_owner (by decide) (by decide) rfl rfl (by decide)

end SspOperator.Common
