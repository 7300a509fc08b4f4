import SspOperator.Api.SSP

/-
  Objects as `common.CreateOrUpdate` handles them, and the API server it writes them to.

  A `client.Object` of one Go type is its `ObjectMeta` and the rest of the object: the
  `Spec`, `Data`, `Rules`, ... of the type (`ClientObject σ`). Before every write the
  desired object is prepared: `AddAppLabels` (`internal/common/labels.go`) writes the app
  labels into its label map, and `setOwner` makes the SSP its owner, by owner annotations
  on a cluster-scoped object (operator-lib's `SetOwnerAnnotations`) and by a controller
  reference on a namespaced one (controller-runtime's `SetControllerReference`). Both
  libraries are vendored; the SSP's group, version and kind are the ones the cache
  reader sets on the instance.

  `equality.Semantic.DeepEqual` takes a nil map for the empty one: `ObjectMeta.semantic`
  normalises the two maps of the metadata, and the rest is compared as a value.

  The API server is outside the repository; `Store` is what the operator's convergence
  rests on. `Get` returns the object last written. Every write draws a resource version
  (and a create also a uid) from a counter. Kinds with a spec count
  `metadata.generation`: it is 1 on create and goes up on every update that changes the
  object other than in its metadata. An update must carry the stored resource version.
-/

namespace SspOperator.Common

/-- A `client.Object`: the metadata and the rest of the object. -/
structure ClientObject (σ : Type) where
  objectMeta : ObjectMeta
  body : σ
deriving DecidableEq

/-- What reflection tells the code about the Go type of an object. -/
structure ObjectType where
  /-- `%T`, as in `*v1.Deployment`. -/
  typeName : String
  /-- The kind `apiutil.GVKForObject` finds in the operator's scheme; `""` for a type the
      scheme does not know. -/
  kind : String

variable {σ : Type}

/-! ## App labels (`labels.go`) -/

def AppKubernetesNameLabel : String := "app.kubernetes.io/name"
def AppKubernetesPartOfLabel : String := "app.kubernetes.io/part-of"
def AppKubernetesVersionLabel : String := "app.kubernetes.io/version"
def AppKubernetesManagedByLabel : String := "app.kubernetes.io/managed-by"
def AppKubernetesComponentLabel : String := "app.kubernetes.io/component"
def AppKubernetesManagedByValue : String := "ssp-operator"

/-- `copyLabel`. -/
def copyLabel (src dst : StringMap) (key : String) : StringMap :=
  dst.set key (src.get key)

/-- `addInstanceLabels`: the SSP's part-of and version labels, unless it has no labels. -/
def addInstanceLabels (requestInstance : SSP) (dst : StringMap) : StringMap :=
  match requestInstance.objectMeta.labels with
  | none => dst
  | some _ =>
      let dst := copyLabel requestInstance.objectMeta.labels dst AppKubernetesPartOfLabel
      copyLabel requestInstance.objectMeta.labels dst AppKubernetesVersionLabel

/-- `addCommonLabels`. -/
def addCommonLabels (labels : StringMap) (requestInstance : SSP) (name component : String) :
    StringMap :=
  let labels := addInstanceLabels requestInstance labels
  ((labels.set AppKubernetesNameLabel name).set AppKubernetesComponentLabel component).set
    AppKubernetesManagedByLabel AppKubernetesManagedByValue

/-- `AddAppLabels`; `getOrCreateLabels` gives a nil label map an empty one first. -/
def AddAppLabels (requestInstance : SSP) (name component : String) (obj : ObjectMeta) :
    ObjectMeta :=
  { obj with labels := addCommonLabels (some (obj.labels.getD ∅)) requestInstance name component }

/-- The app labels are written with values that do not depend on the map, so writing
    them twice is writing them once. -/
theorem addCommonLabels_idem (labels : StringMap) (requestInstance : SSP) (name component : String) :
    addCommonLabels (addCommonLabels labels requestInstance name component) requestInstance name
      component = addCommonLabels labels requestInstance name component := by
  apply StringMap.eq_of_lookup (by simp [addCommonLabels])
  intro k
  unfold addCommonLabels addInstanceLabels copyLabel
  cases requestInstance.objectMeta.labels <;>
    · simp only [StringMap.lookup_set]
      split_ifs <;> rfl

/-- An object that carries the labels `AddAppLabels` writes gets nothing more from it. -/
theorem AddAppLabels_of_labels {requestInstance : SSP} {name component : String} {obj x : ObjectMeta}
    (h : obj.labels = (AddAppLabels requestInstance name component x).labels) :
    AddAppLabels requestInstance name component obj = obj := by
  have hne : obj.labels ≠ none := by
    rw [h]
    simp [AddAppLabels, addCommonLabels]
  have hsome : some (obj.labels.getD ∅) = obj.labels := by
    cases hl : obj.labels with
    | none => exact absurd hl hne
    | some f => rfl
  simp only [AddAppLabels] at h ⊢
  rw [hsome, h, addCommonLabels_idem, ← h]

/-! ## Owners -/

/-- Operator-lib's owner annotations. -/
def NamespacedNameAnnotation : String := "operator-sdk/primary-resource"
def TypeAnnotation : String := "operator-sdk/primary-resource-type"

/-- The group, version and kind of the SSP. -/
def SSPGroup : String := "ssp.kubevirt.io"
def SSPVersion : String := "v1beta3"
def SSPKind : String := "SSP"

/-- `handler.SetOwnerAnnotations` with the SSP as owner; `GroupKind.String()` is
    `SSP.ssp.kubevirt.io`. -/
def SetOwnerAnnotations (owner : SSP) (object : ObjectMeta) : Except String ObjectMeta :=
  if owner.objectMeta.name = "" then
    .error "*v1beta3.SSP does not have a name, cannot call SetOwnerAnnotations"
  else
    let annotations : StringMap := some (object.annotations.getD ∅)
    let annotations := annotations.set NamespacedNameAnnotation
      (owner.objectMeta.ns ++ "/" ++ owner.objectMeta.name)
    .ok { object with annotations := annotations.set TypeAnnotation (SSPKind ++ "." ++ SSPGroup) }

/-- The group of `schema.ParseGroupVersion`, or `none` where it fails (more than one
    slash). -/
def ParseGroupVersion (gv : String) : Option String :=
  if gv = "" ∨ gv = "/" then some ""
  else
    match gv.toList.splitOn '/' with
    | [_] => some ""
    | [group, _] => some (String.ofList group)
    | _ => none

/-- `referSameObject`: same group, kind and name. -/
def referSameObject (a b : OwnerReference) : Bool :=
  match ParseGroupVersion a.apiVersion, ParseGroupVersion b.apiVersion with
  | some aGroup, some bGroup => aGroup == bGroup && a.kind == b.kind && a.name == b.name
  | _, _ => false

/-- `indexOwnerRef` and the write of `upsertOwnerRef`: the first reference to the same
    object is replaced, or the reference is appended. -/
def upsertOwnerRef (ref : OwnerReference) : List OwnerReference → List OwnerReference
  | [] => [ref]
  | r :: owners => if referSameObject r ref then ref :: owners else r :: upsertOwnerRef ref owners

/-- `metav1.GetControllerOf`: the first reference marked as controller. -/
def GetControllerOf (object : ObjectMeta) : Option OwnerReference :=
  object.ownerReferences.find? fun r => r.controller == some true

/-- `validateOwner`. -/
def validateOwner (owner : SSP) (object : ObjectMeta) : Except String Unit :=
  let ownerNs := owner.objectMeta.ns
  if ownerNs = "" then .ok ()
  else if object.ns = "" then
    .error ("cluster-scoped resource must not have a namespace-scoped owner, owner's namespace " ++
      ownerNs)
  else if ownerNs ≠ object.ns then
    .error ("cross-namespace owner references are disallowed, owner's namespace " ++ ownerNs ++
      ", obj's namespace " ++ object.ns)
  else .ok ()

/-- The controller reference to the SSP. -/
def controllerRef (owner : SSP) : OwnerReference :=
  { apiVersion := SSPGroup ++ "/" ++ SSPVersion, kind := SSPKind, name := owner.objectMeta.name
    uid := owner.objectMeta.uid, blockOwnerDeletion := some true, controller := some true }

/-- `controllerutil.SetControllerReference` with the SSP as owner. -/
def SetControllerReference (owner : SSP) (controlled : ObjectMeta) : Except String ObjectMeta := do
  validateOwner owner controlled
  let ref := controllerRef owner
  match GetControllerOf controlled with
  | some existing =>
      if !referSameObject existing ref then
        throw ("Object " ++ controlled.ns ++ "/" ++ controlled.name ++
          " is already owned by another " ++ existing.kind ++ " controller " ++ existing.name)
      else pure { controlled with ownerReferences := upsertOwnerRef ref controlled.ownerReferences }
  | none => pure { controlled with ownerReferences := upsertOwnerRef ref controlled.ownerReferences }

/-- `setOwner`. -/
def setOwner (requestInstance : SSP) (resource : ObjectMeta) (isClusterRes : Bool) :
    Except String ObjectMeta :=
  if isClusterRes then
    SetOwnerAnnotations requestInstance { resource with ownerReferences := [] }
  else
    let annotations := (resource.annotations.delete NamespacedNameAnnotation).delete TypeAnnotation
    SetControllerReference requestInstance { resource with annotations := annotations }

/-- The annotations `SetOwnerAnnotations` writes. -/
theorem SetOwnerAnnotations_eq_ok {owner : SSP} {object result : ObjectMeta} :
    SetOwnerAnnotations owner object = .ok result ↔
      owner.objectMeta.name ≠ "" ∧
      result = { object with
        annotations := (StringMap.set (some (object.annotations.getD ∅))
          NamespacedNameAnnotation (owner.objectMeta.ns ++ "/" ++ owner.objectMeta.name)).set
          TypeAnnotation (SSPKind ++ "." ++ SSPGroup) } := by
  unfold SetOwnerAnnotations
  by_cases hname : owner.objectMeta.name = ""
  · simp [hname]
  · simp [hname, eq_comm]

/-- The reference `SetControllerReference` writes, and when it refuses. -/
theorem SetControllerReference_eq_ok {owner : SSP} {controlled result : ObjectMeta} :
    SetControllerReference owner controlled = .ok result ↔
      validateOwner owner controlled = .ok () ∧
      (∀ c, GetControllerOf controlled = some c →
        referSameObject c (controllerRef owner) = true) ∧
      result = { controlled with
        ownerReferences := upsertOwnerRef (controllerRef owner) controlled.ownerReferences } := by
  unfold SetControllerReference
  cases hvalid : validateOwner owner controlled with
  | error err => simp
  | ok u =>
      cases u
      cases hget : GetControllerOf controlled with
      | none =>
          simp only [except_ok_bind, except_pure, Except.ok.injEq, true_and]
          constructor
          · intro h
            exact ⟨fun c hc => (by cases hc), h.symm⟩
          · intro h
            exact h.2.symm
      | some c =>
          by_cases hsame : referSameObject c (controllerRef owner) = true
          · simp only [except_ok_bind, hsame, Bool.not_true, Bool.false_eq_true, if_false,
              except_pure, Except.ok.injEq, true_and]
            refine ⟨fun h => ⟨fun c' hc' => ?_, h.symm⟩, fun h => h.2.symm⟩
            cases hc'
            exact hsame
          · -- another controller owns the object already
            have hfalse : referSameObject c (controllerRef owner) = false := by simpa using hsame
            simp only [except_ok_bind, hfalse, Bool.not_false, if_true, except_throw,
              reduceCtorEq, false_iff, true_and, not_and]
            intro hall
            exact absurd (hall c rfl) hsame

/-- The owner annotations are written with values that do not depend on the map. -/
theorem SetOwnerAnnotations_idem {owner : SSP} {object result : ObjectMeta}
    (h : SetOwnerAnnotations owner object = .ok result) :
    SetOwnerAnnotations owner result = .ok result := by
  obtain ⟨hname, rfl⟩ := SetOwnerAnnotations_eq_ok.mp h
  refine SetOwnerAnnotations_eq_ok.mpr ⟨hname, ?_⟩
  congr 1
  apply StringMap.eq_of_lookup (by simp)
  intro k
  simp only [StringMap.lookup_set, StringMap.lookup_some_getD]
  split_ifs <;> rfl

theorem referSameObject_controllerRef (owner : SSP) :
    referSameObject (controllerRef owner) (controllerRef owner) = true := by
  have hgv : ParseGroupVersion (controllerRef owner).apiVersion = some SSPGroup := by
    show ParseGroupVersion (SSPGroup ++ "/" ++ SSPVersion) = some SSPGroup
    decide
  simp [referSameObject, hgv]

/-- Upserting a reference that refers to itself a second time changes nothing. -/
theorem upsertOwnerRef_idem {ref : OwnerReference} (hself : referSameObject ref ref = true) :
    ∀ owners, upsertOwnerRef ref (upsertOwnerRef ref owners) = upsertOwnerRef ref owners := by
  intro owners
  induction owners with
  | nil => simp [upsertOwnerRef, hself]
  | cons r owners ih =>
      by_cases hr : referSameObject r ref = true
      · simp [upsertOwnerRef, hr, hself]
      · simp [upsertOwnerRef, hr, ih]

/-- After the upsert the first controller is the reference itself, where no other
    controller stood before. -/
theorem find_controller_upsertOwnerRef {ref : OwnerReference} (hctrl : ref.controller = some true) :
    ∀ owners : List OwnerReference,
      (∀ c, owners.find? (fun r => r.controller == some true) = some c →
        referSameObject c ref = true) →
      (upsertOwnerRef ref owners).find? (fun r => r.controller == some true) = some ref := by
  intro owners
  induction owners with
  | nil => intro _; simp [upsertOwnerRef, hctrl]
  | cons r owners ih =>
      intro hfirst
      by_cases hr : referSameObject r ref = true
      · simp [upsertOwnerRef, hr, hctrl]
      · -- `r` does not refer to the owner, so it is no controller, and the search goes on
        have hnotctrl : (r.controller == some true) = false := by
          by_contra hc
          have hc' : (r.controller == some true) = true := by simpa using hc
          exact hr (hfirst r (by simp [hc']))
        have hrest : ∀ c, owners.find? (fun r => r.controller == some true) = some c →
            referSameObject c ref = true := by
          intro c hc
          exact hfirst c (by simp [hnotctrl, hc])
        simp [upsertOwnerRef, hr, hnotctrl, ih hrest]

/-- `SetControllerReference` on its own result writes the same reference again. -/
theorem SetControllerReference_idem {owner : SSP} {controlled result : ObjectMeta}
    (h : SetControllerReference owner controlled = .ok result) :
    SetControllerReference owner result = .ok result := by
  have hself := referSameObject_controllerRef owner
  obtain ⟨hvalid, hfirst, rfl⟩ := SetControllerReference_eq_ok.mp h
  refine SetControllerReference_eq_ok.mpr ⟨?_, ?_, ?_⟩
  · simpa [validateOwner] using hvalid
  · intro c hc
    have hget : GetControllerOf { controlled with
        ownerReferences := upsertOwnerRef (controllerRef owner) controlled.ownerReferences } =
        some (controllerRef owner) :=
      find_controller_upsertOwnerRef rfl _ hfirst
    rw [hget] at hc
    cases hc
    exact hself
  · simp [upsertOwnerRef_idem hself]

/-- Deleting the owner annotations a second time changes nothing. -/
theorem delete_owner_annotations_idem (annotations : StringMap) :
    (((annotations.delete NamespacedNameAnnotation).delete TypeAnnotation).delete
      NamespacedNameAnnotation).delete TypeAnnotation =
      (annotations.delete NamespacedNameAnnotation).delete TypeAnnotation := by
  apply StringMap.eq_of_lookup (by simp)
  intro k
  simp only [StringMap.lookup_delete]
  split_ifs <;> rfl

/-- `setOwner` on its own result changes nothing more. -/
theorem setOwner_idem {requestInstance : SSP} {resource result : ObjectMeta} {isClusterRes : Bool}
    (h : setOwner requestInstance resource isClusterRes = .ok result) :
    setOwner requestInstance result isClusterRes = .ok result := by
  cases isClusterRes with
  | true =>
      simp only [setOwner, if_true] at h ⊢
      have hidem := SetOwnerAnnotations_idem h
      obtain ⟨-, rfl⟩ := SetOwnerAnnotations_eq_ok.mp h
      exact hidem
  | false =>
      simp only [setOwner, Bool.false_eq_true, if_false] at h ⊢
      have hidem := SetControllerReference_idem h
      obtain ⟨-, -, rfl⟩ := SetControllerReference_eq_ok.mp h
      simpa [delete_owner_annotations_idem] using hidem

/-- `setOwner` writes owner references and annotations only. -/
theorem setOwner_eq {requestInstance : SSP} {resource result : ObjectMeta}
    {isClusterRes : Bool} (h : setOwner requestInstance resource isClusterRes = .ok result) :
    result = { resource with
      ownerReferences := result.ownerReferences, annotations := result.annotations } := by
  cases isClusterRes with
  | true =>
      simp only [setOwner, if_true] at h
      obtain ⟨-, rfl⟩ := SetOwnerAnnotations_eq_ok.mp h
      rfl
  | false =>
      simp only [setOwner, Bool.false_eq_true, if_false] at h
      obtain ⟨-, -, rfl⟩ := SetControllerReference_eq_ok.mp h
      rfl

/-- The annotations `setOwner` leaves of `annotations`: the owner annotations written, on a
    cluster resource, or deleted. -/
def ownerAnnotations (requestInstance : SSP) (isClusterRes : Bool) (annotations : StringMap) :
    StringMap :=
  if isClusterRes then
    (StringMap.set (some (annotations.getD ∅)) NamespacedNameAnnotation
      (requestInstance.objectMeta.ns ++ "/" ++ requestInstance.objectMeta.name)).set TypeAnnotation
      (SSPKind ++ "." ++ SSPGroup)
  else (annotations.delete NamespacedNameAnnotation).delete TypeAnnotation

/-- `setOwner` reads the labels not at all and the annotations only to write the owner
    annotations: on the same metadata with other maps it writes the same owner and keeps the
    labels. -/
theorem setOwner_maps {requestInstance : SSP} {m m' : ObjectMeta} {isClusterRes : Bool}
    (h : setOwner requestInstance m isClusterRes = .ok m') (labels annotations : StringMap) :
    setOwner requestInstance { m with labels := labels, annotations := annotations } isClusterRes =
      .ok { m' with
        labels := labels
        annotations := ownerAnnotations requestInstance isClusterRes annotations } := by
  cases isClusterRes with
  | true =>
      simp only [setOwner, if_true] at h ⊢
      obtain ⟨hname, rfl⟩ := SetOwnerAnnotations_eq_ok.mp h
      exact SetOwnerAnnotations_eq_ok.mpr ⟨hname, rfl⟩
  | false =>
      simp only [setOwner, Bool.false_eq_true, if_false] at h ⊢
      obtain ⟨hvalid, hfirst, rfl⟩ := SetControllerReference_eq_ok.mp h
      exact SetControllerReference_eq_ok.mpr
        ⟨by simpa [validateOwner] using hvalid, fun c hc => hfirst c hc, rfl⟩

/-- The app labels are entries written whatever the map holds. -/
theorem overrides_addCommonLabels (requestInstance : SSP) (name component : String) :
    ∃ c, StringMap.Overrides
      (fun m => addCommonLabels (some (m.getD ∅)) requestInstance name component) c := by
  unfold addCommonLabels addInstanceLabels copyLabel
  cases requestInstance.objectMeta.labels with
  | none =>
      exact ⟨_, ((StringMap.Overrides.getD_empty.comp (StringMap.Overrides.set _ _)).comp
        (StringMap.Overrides.set _ _)).comp (StringMap.Overrides.set _ _)⟩
  | some _ =>
      exact ⟨_, ((((StringMap.Overrides.getD_empty.comp (StringMap.Overrides.set _ _)).comp
        (StringMap.Overrides.set _ _)).comp (StringMap.Overrides.set _ _)).comp
        (StringMap.Overrides.set _ _)).comp (StringMap.Overrides.set _ _)⟩

/-- The owner annotations are entries written, or deleted, whatever the map holds. -/
theorem overrides_ownerAnnotations (requestInstance : SSP) (isClusterRes : Bool) :
    ∃ c, StringMap.Overrides (ownerAnnotations requestInstance isClusterRes) c := by
  cases isClusterRes with
  | true =>
      exact ⟨_, (StringMap.Overrides.getD_empty.comp (StringMap.Overrides.set _ _)).comp
        (StringMap.Overrides.set _ _)⟩
  | false =>
      exact ⟨_, (StringMap.Overrides.delete _).comp (StringMap.Overrides.delete _)⟩

/-! ## Semantic equality -/

/-- `equality.Semantic.DeepEqual` on two objects of one type. -/
def DeepEqual [DecidableEq σ] (a b : ClientObject σ) : Bool :=
  decide (a.objectMeta.semantic = b.objectMeta.semantic ∧ a.body = b.body)

/-! ## The API server -/

/-- The objects of one kind in the API server, by key. -/
structure Store (σ : Type) where
  objects : NamespacedName → Option (ClientObject σ)
  /-- Every object is stored under its own key. -/
  objects_key : ∀ key obj, objects key = some obj → obj.objectMeta.key = key
  /-- The counter resource versions and uids are drawn from. -/
  revision : Nat
  /-- Whether the kind counts `metadata.generation`. -/
  tracksGeneration : Bool

namespace Store

/-- The object a write stores: the sent object with the server's uid, resource version
    and generation. -/
def persist (obj : ClientObject σ) (uid : String) (revision generation : Nat) : ClientObject σ :=
  { obj with objectMeta := { obj.objectMeta with
      uid := uid, resourceVersion := toString revision, generation := generation } }

/-- A write at `key` (`none` removes the object), with the next revision. -/
def write (s : Store σ) (key : NamespacedName) (obj : Option (ClientObject σ))
    (hkey : ∀ o, obj = some o → o.objectMeta.key = key) : Store σ :=
  { s with
    objects := Function.update s.objects key obj
    revision := s.revision + 1
    objects_key := by
      intro k o h
      by_cases hk : k = key
      · subst hk
        rw [Function.update_self] at h
        exact hkey o h
      · rw [Function.update_of_ne hk] at h
        exact s.objects_key k o h }

/-- A kind with no object stored. -/
def empty (tracksGeneration : Bool) : Store σ :=
  { objects := fun _ => none
    objects_key := fun _ _ h => nomatch h
    revision := 0
    tracksGeneration := tracksGeneration }

/-- `Client.Get`. -/
def get (s : Store σ) (key : NamespacedName) : Option (ClientObject σ) :=
  s.objects key

/-- `Client.Create`: the stored object, as the client copies it back into `obj`. -/
def create (s : Store σ) (obj : ClientObject σ) : Except String (Store σ × ClientObject σ) :=
  let key := obj.objectMeta.key
  match s.objects key with
  | some _ => .error ("object \"" ++ obj.objectMeta.name ++ "\" already exists")
  | none =>
      let stored := persist obj (toString (s.revision + 1)) (s.revision + 1)
        (if s.tracksGeneration then 1 else 0)
      .ok (s.write key (some stored) (by intro o h; cases h; rfl), stored)

/-- `Client.Update`. -/
def update [DecidableEq σ] (s : Store σ) (obj : ClientObject σ) :
    Except String (Store σ × ClientObject σ) :=
  let key := obj.objectMeta.key
  match s.objects key with
  | none => .error ("object \"" ++ obj.objectMeta.name ++ "\" not found")
  | some old =>
      if obj.objectMeta.resourceVersion ≠ old.objectMeta.resourceVersion then
        .error ("the object has been modified; please apply your changes to the latest version " ++
          "and try again")
      else
        let generation :=
          if s.tracksGeneration ∧ obj.body ≠ old.body then old.objectMeta.generation + 1
          else old.objectMeta.generation
        let stored := persist obj old.objectMeta.uid (s.revision + 1) generation
        .ok (s.write key (some stored) (by intro o h; cases h; rfl), stored)

/-- `Client.Delete`. -/
def delete (s : Store σ) (obj : ClientObject σ) : Except String (Store σ) :=
  let key := obj.objectMeta.key
  match s.objects key with
  | none => .error ("object \"" ++ obj.objectMeta.name ++ "\" not found")
  | some _ => .ok (s.write key none (by intro o h; cases h))

/-! ### Reading back a write -/

theorem get_key {s : Store σ} {key : NamespacedName} {obj : ClientObject σ}
    (h : s.get key = some obj) : obj.objectMeta.key = key :=
  s.objects_key key obj h

@[simp] theorem get_write_self (s : Store σ) (key : NamespacedName) (obj : Option (ClientObject σ))
    (hkey : ∀ o, obj = some o → o.objectMeta.key = key) : (s.write key obj hkey).get key = obj := by
  simp [write, get]

/-- A create stores the object with the next revision as its resource version. -/
theorem create_eq_ok {s : Store σ} {obj : ClientObject σ} {result : Store σ × ClientObject σ}
    (h : s.create obj = .ok result) :
    s.get obj.objectMeta.key = none ∧
    result.2 = persist obj (toString (s.revision + 1)) (s.revision + 1)
      (if s.tracksGeneration then 1 else 0) ∧
    result.1.get obj.objectMeta.key = some result.2 := by
  unfold create at h
  dsimp only at h
  split at h
  · cases h
  · rename_i hnone
    cases h
    exact ⟨hnone, rfl, by simp⟩

/-- A create of an absent key succeeds. -/
theorem create_ok_of_get {s : Store σ} {obj : ClientObject σ} (h : s.get obj.objectMeta.key = none) :
    ∃ result, s.create obj = .ok result := by
  unfold create
  simp only [get] at h
  simp [h]

/-- An update stores the object under a new resource version, keeping its uid. -/
theorem update_eq_ok [DecidableEq σ] {s : Store σ} {obj : ClientObject σ}
    {result : Store σ × ClientObject σ} (h : s.update obj = .ok result) :
    (∃ uid generation, result.2 = persist obj uid (s.revision + 1) generation) ∧
    result.1.get obj.objectMeta.key = some result.2 := by
  unfold update at h
  dsimp only at h
  split at h
  · cases h
  · split_ifs at h <;> cases h <;> exact ⟨⟨_, _, rfl⟩, by simp⟩

/-- A delete removes the object of its key. -/
theorem delete_eq_ok {s s' : Store σ} {obj : ClientObject σ} (h : s.delete obj = .ok s') :
    s'.get obj.objectMeta.key = none := by
  unfold delete at h
  dsimp only at h
  split at h
  · cases h
  · cases h
    simp

/-- The server's resource versions are never empty. -/
theorem persist_resourceVersion_ne (obj : ClientObject σ) (uid : String) (revision generation : Nat) :
    (persist obj uid revision generation).objectMeta.resourceVersion ≠ "" :=
  Nat.repr_ne_empty

end Store

end SspOperator.Common
