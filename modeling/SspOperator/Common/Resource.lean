import SspOperator.Common.Object

/-
  `common.CreateOrUpdate` (`internal/common/resource.go`) and the `VersionCache` it
  consults (`internal/common/cache.go`).

  `Reconcile` prepares the desired object (`prepare`: app labels and owner), reads the
  object of its key and runs `mutateFn` on what it found: the found object takes the
  desired owner references, the desired labels and annotations are written into its maps,
  and the update function is called unless the version cache says that the found version
  is one the operator wrote itself. An object that `DeepEqual` finds unchanged is left
  alone; one whose immutable spec would change is deleted, to be created by the next call;
  any other is written back.

  Where the found object has no label (annotation) map, `UpdateLabels` hands it the
  desired object's map itself. What the update function then writes into the found map is
  in the desired object as well, and it stays there for the next call where the reconcile
  function keeps its object between calls: `Reconcile` returns the desired object as the
  call leaves it. The update functions change the found maps in place and write only the
  found object; the Service and APIService ones also copy a field of the found object
  into the desired one just before copying the desired one back, which nothing reads
  afterwards, and the model leaves that copy out.

  The version cache maps (kind, name, namespace) to the uid, resource version and
  generation last written. `Add` skips objects without a kind, so the map has no entry
  under the empty kind (`VersionCache.no_empty_kind`). The status function's result is
  left out of `ReconcileResult`.
-/

namespace SspOperator.Common

/-! ## The version cache -/

/-- `cacheKey`. -/
structure CacheKey where
  kind : String
  name : String
  ns : String
deriving DecidableEq

/-- `cacheValue`. -/
structure CacheValue where
  uid : String
  resourceVersion : String
  generation : Nat
deriving DecidableEq

/-- `common.VersionCache`. -/
structure VersionCache where
  entries : CacheKey → Option CacheValue
  no_empty_kind : ∀ key, key.kind = "" → entries key = none

/-- `cacheKeyFromObj`, with the kind of the object's Go type. -/
def cacheKeyFromObj (kind : String) (obj : ObjectMeta) : CacheKey :=
  { kind := kind, name := obj.name, ns := obj.ns }

namespace VersionCache

/-- `common.VersionCache{}`. -/
def empty : VersionCache :=
  ⟨fun _ => none, fun _ _ => rfl⟩

/-- `VersionCache.Contains`: the found object is the version the operator last wrote. -/
def Contains (v : VersionCache) (kind : String) (obj : ObjectMeta) : Bool :=
  match v.entries (cacheKeyFromObj kind obj) with
  | none => false
  | some cached =>
      if obj.uid ≠ cached.uid then false
      else if obj.generation = 0 then
        obj.resourceVersion != "" && obj.resourceVersion == cached.resourceVersion
      else cached.generation == obj.generation

/-- `VersionCache.Add`. -/
def Add (v : VersionCache) (kind : String) (obj : ObjectMeta) : VersionCache :=
  if hkind : kind = "" then v
  else
    { entries := Function.update v.entries (cacheKeyFromObj kind obj)
        (some { uid := obj.uid, resourceVersion := obj.resourceVersion,
                generation := obj.generation })
      no_empty_kind := by
        intro key hkey
        have hne : key ≠ cacheKeyFromObj kind obj := by
          intro h
          subst h
          exact hkind hkey
        rw [Function.update_of_ne hne]
        exact v.no_empty_kind key hkey }

/-- `VersionCache.RemoveObj`. -/
def RemoveObj (v : VersionCache) (kind : String) (obj : ObjectMeta) : VersionCache :=
  { entries := Function.update v.entries (cacheKeyFromObj kind obj) none
    no_empty_kind := by
      intro key hkey
      by_cases h : key = cacheKeyFromObj kind obj
      · rw [h, Function.update_self]
      · rw [Function.update_of_ne h]
        exact v.no_empty_kind key hkey }

/-- Nothing of a type without a kind is ever found in the cache. -/
theorem Contains_empty_kind (v : VersionCache) (obj : ObjectMeta) : v.Contains "" obj = false := by
  have h := v.no_empty_kind (cacheKeyFromObj "" obj) rfl
  simp [Contains, h]

/-- `Contains` reads the key, the uid, the resource version and the generation. -/
theorem Contains_congr (v : VersionCache) (kind : String) {a b : ObjectMeta}
    (hname : a.name = b.name) (hns : a.ns = b.ns) (huid : a.uid = b.uid)
    (hrv : a.resourceVersion = b.resourceVersion) (hgen : a.generation = b.generation) :
    v.Contains kind a = v.Contains kind b := by
  simp only [Contains, cacheKeyFromObj, hname, hns, huid, hrv, hgen]

/-- A version just added is found, once it has a resource version. -/
theorem Contains_Add_self (v : VersionCache) {kind : String} (obj : ObjectMeta)
    (hkind : kind ≠ "") (hrv : obj.resourceVersion ≠ "") : (v.Add kind obj).Contains kind obj = true := by
  simp [Add, hkind, Contains, hrv]

end VersionCache

/-! ## The builder -/

/-- `OperationResult`. -/
inductive OperationResult
  | none
  | created
  | updated
  | deleted
deriving DecidableEq

/-- `ReconcileOptions`. -/
structure ReconcileOptions where
  alwaysCallUpdateFunc : Bool := false

/-- `ResourceUpdateFunc`: called with the desired object and the found one, it returns the
    found object as it leaves it. -/
abbrev ResourceUpdateFunc (σ : Type) := ClientObject σ → ClientObject σ → ClientObject σ

/-- `reconcileBuilder`, as `CreateOrUpdate` and the builder's setters leave it. `sameSpec`
    is `DeepEqual` of what the spec getter of `ImmutableSpec` returns for two objects; the
    default getter returns nil for every object. -/
structure ReconcileBuilder (σ : Type) where
  resource : ClientObject σ
  isClusterResource : Bool
  addLabels : Bool := false
  operandName : String := ""
  operandComponent : String := ""
  updateFunc : ResourceUpdateFunc σ
  immutableSpec : Bool := false
  sameSpec : ClientObject σ → ClientObject σ → Bool := fun _ _ => true
  options : ReconcileOptions := {}

/-- `ReconcileResult`, without the status. -/
structure ReconcileResult (σ : Type) where
  initialResource : Option (ClientObject σ) := none
  resource : ClientObject σ
  operationResult : OperationResult

/-- `ResourceDeletedResult`. -/
def ResourceDeletedResult {σ : Type} (resource : ClientObject σ) (res : OperationResult) :
    ReconcileResult σ :=
  { resource := resource, operationResult := res }

/-- What `createOrUpdateWithImmutableSpec` returns, with the desired and the found object
    and the store as it leaves them. -/
structure WriteResult (σ : Type) where
  res : OperationResult
  existing : Option (ClientObject σ)
  resource : ClientObject σ
  found : ClientObject σ
  store : Store σ

/-- A call of `Reconcile`: its result, the builder's object as the call leaves it, and the
    store and the version cache after the call. -/
structure ReconcileOutcome (σ : Type) where
  result : ReconcileResult σ
  resource : ClientObject σ
  store : Store σ
  cache : VersionCache

/-! ## `mutateFn` -/

/-- `updateStringMap`, on a found map that is not nil. -/
def updateStringMap (expected found : StringMap) : StringMap :=
  match expected with
  | none => found
  | some e => some (e ∪ found.getD ∅)

/-- `UpdateLabels` and `updateAnnotations` on one map: a nil found map is given the
    desired map, another gets the desired entries. -/
def updateMap (expected found : StringMap) : StringMap :=
  match found with
  | none => expected
  | some _ => updateStringMap expected found

/-- `UpdateLabels`. -/
def UpdateLabels (expected found : ObjectMeta) : ObjectMeta :=
  { found with labels := updateMap expected.labels found.labels }

/-- `updateAnnotations`. -/
def updateAnnotations (expected found : ObjectMeta) : ObjectMeta :=
  { found with annotations := updateMap expected.annotations found.annotations }

variable {σ : Type}

/-- The metadata steps of `mutateFn`: owner references, labels, annotations. -/
def mergeMeta (expected found : ClientObject σ) : ClientObject σ :=
  let owned := { found.objectMeta with ownerReferences := expected.objectMeta.ownerReferences }
  { found with
    objectMeta := updateAnnotations expected.objectMeta (UpdateLabels expected.objectMeta owned) }

/-- A map is shared when the found map was nil and the desired one was not. -/
def sharedMap (expected found updated : StringMap) : StringMap :=
  match found, expected with
  | none, some _ => updated
  | _, _ => expected

/-- The desired object after `mutateFn`: a map it shares with the found object holds what
    the update function left in the found one. -/
def shareMaps (expected found updated : ClientObject σ) : ClientObject σ :=
  { expected with objectMeta := { expected.objectMeta with
      labels := sharedMap expected.objectMeta.labels found.objectMeta.labels
        updated.objectMeta.labels
      annotations := sharedMap expected.objectMeta.annotations found.objectMeta.annotations
        updated.objectMeta.annotations } }

/-- The update functions that set the rest of the found object from the desired one and
    leave its metadata: `found.Spec = expected.Spec` and the other cases of
    `defaultUpdateFunc`, and the operands' own functions of that form. -/
def bodyUpdateFunc (F : σ → σ → σ) : ResourceUpdateFunc σ :=
  fun expected found => { found with body := F expected.body found.body }

/-- The cases of `defaultUpdateFunc` that assign the desired object's fields to the found
    one (`ConfigMap`'s `Immutable`, `Data` and `BinaryData`; the `Spec` of `DaemonSet`,
    `Deployment`, `Route`, `PrometheusRule`, `ServiceMonitor`, `NetworkPolicy`; the rules of
    the RBAC roles and the role and subjects of their bindings), on a type whose rest of the
    object is those fields. -/
def specUpdateFunc : ResourceUpdateFunc σ :=
  bodyUpdateFunc fun expected _ => expected

/-- The `Namespace` and `ServiceAccount` cases of `defaultUpdateFunc`, which do nothing. -/
def noUpdateFunc : ResourceUpdateFunc σ :=
  bodyUpdateFunc fun _ found => found

/-- `core.ConfigMap` beyond its metadata; `BinaryData` is left out. -/
structure ConfigMapData where
  immutable : Option Bool := none
  data : Finmap (fun _ : String => String) := ∅
deriving DecidableEq

instance : Inhabited ConfigMapData := ⟨{}⟩

/-- `core.PodSpec`: the image of its container and the scheduling fields. -/
structure PodSpec where
  image : String := ""
  nodeSelector : StringMap := none
  affinity : Option Affinity := none
  tolerations : List Toleration := []
deriving DecidableEq

/-- `core.PodTemplateSpec`. -/
structure PodTemplateSpec where
  objectMeta : ObjectMeta
  spec : PodSpec := {}
deriving DecidableEq

/-- `apps.DeploymentSpec`. -/
structure DeploymentSpec where
  replicas : Nat := 0
  selector : StringMap := none
  template : PodTemplateSpec := { objectMeta := { name := "" } }
deriving DecidableEq

instance : Inhabited DeploymentSpec := ⟨{}⟩

namespace ReconcileBuilder

variable (r : ReconcileBuilder σ)

/-- The closure `mutateFn` of `Reconcile`, on the desired and the found object. -/
def mutateFn (kind : String) (cache : VersionCache) (resource found : ClientObject σ) :
    ClientObject σ × ClientObject σ :=
  if found.objectMeta.deletionTimestamp.isSome then (resource, found)
  else
    let merged := mergeMeta resource found
    let updated :=
      if r.options.alwaysCallUpdateFunc || !cache.Contains kind merged.objectMeta then
        r.updateFunc resource merged
      else merged
    (shareMaps resource found updated, updated)

/-- `mutate`: the mutation may not move the object to another key. -/
def mutate (kind : String) (cache : VersionCache) (key : NamespacedName)
    (resource obj : ClientObject σ) : Except String (ClientObject σ × ClientObject σ) :=
  let out := r.mutateFn kind cache resource obj
  if out.2.objectMeta.key = key then .ok out
  else .error "MutateFn cannot mutate object name and/or object namespace"

variable [DecidableEq σ]

/-- `createOrUpdateWithImmutableSpec`, on the object `Get` reads into `obj`. -/
def createOrUpdateWithImmutableSpec (kind : String) (cache : VersionCache) (store : Store σ)
    (resource obj : ClientObject σ) : Except String (WriteResult σ) :=
  let key := obj.objectMeta.key
  match store.get key with
  | none => do
      let out ← (r.mutate kind cache key resource obj).mapError ("failed mutating object: " ++ ·)
      let created ← (store.create out.2).mapError ("failed creating object: " ++ ·)
      pure { res := .created, existing := none, resource := out.1, found := created.2,
             store := created.1 }
  | some existing => do
      let out ← (r.mutate kind cache key resource existing).mapError
        ("failed mutating object: " ++ ·)
      if DeepEqual existing out.2 then
        pure { res := .none, existing := some existing, resource := out.1, found := out.2,
               store := store }
      else if r.immutableSpec && !r.sameSpec existing out.2 then do
        let store ← (store.delete out.2).mapError ("failed deleting object: " ++ ·)
        pure { res := .deleted, existing := some existing, resource := out.1, found := out.2,
               store := store }
      else do
        let updated ← (store.update out.2).mapError ("failed updating object: " ++ ·)
        pure { res := .updated, existing := some existing, resource := out.1,
               found := updated.2, store := updated.1 }

/-- The desired object as `Reconcile` prepares it: `AddAppLabels`, then `setOwner`. -/
def prepare (requestInstance : SSP) : Except String (ClientObject σ) := do
  let objectMeta :=
    if r.addLabels then
      AddAppLabels requestInstance r.operandName r.operandComponent r.resource.objectMeta
    else r.resource.objectMeta
  let objectMeta ← setOwner requestInstance objectMeta r.isClusterResource
  pure { r.resource with objectMeta := objectMeta }

/-- `newEmptyResource` with the name and namespace of the desired object. -/
def emptyResource [Inhabited σ] (resource : ClientObject σ) : ClientObject σ :=
  { objectMeta := { name := resource.objectMeta.name, ns := resource.objectMeta.ns },
    body := default }

/-- What `Reconcile` does after the write: a deleted object, or one being deleted, leaves
    the version cache; any other is recorded there. -/
def finish (kind : String) (cache : VersionCache) (w : WriteResult σ) : ReconcileOutcome σ :=
  if w.res = .deleted ∨ w.found.objectMeta.deletionTimestamp.isSome then
    { result := ResourceDeletedResult w.resource w.res, resource := w.resource, store := w.store,
      cache := cache.RemoveObj kind w.found.objectMeta }
  else
    { result := { initialResource := w.existing, resource := w.resource, operationResult := w.res }
      resource := w.resource, store := w.store, cache := cache.Add kind w.found.objectMeta }

/-- `reconcileBuilder.Reconcile`. -/
def Reconcile [Inhabited σ] (ty : ObjectType) (requestInstance : SSP) (store : Store σ)
    (cache : VersionCache) : Except String (ReconcileOutcome σ) := do
  let failure := "failed to reconcile " ++ ty.typeName ++ " object " ++
    r.resource.objectMeta.ns ++ "/" ++ r.resource.objectMeta.name ++ ": "
  let resource ← (r.prepare requestInstance).mapError (failure ++ "failed to set owner: " ++ ·)
  let w ← (r.createOrUpdateWithImmutableSpec ty.kind cache store resource
    (emptyResource resource)).mapError (failure ++ ·)
  pure (finish ty.kind cache w)

/-- A found object that a call leaves as it is, for the desired object `e`: it is not
    being deleted, has the desired owner references, labels and annotations, and the
    update function, where the call makes it, changes nothing. -/
structure Settled (kind : String) (cache : VersionCache) (e g : ClientObject σ) : Prop where
  live : g.objectMeta.deletionTimestamp = none
  owners : g.objectMeta.ownerReferences = e.objectMeta.ownerReferences
  labels : e.objectMeta.labels.Subset g.objectMeta.labels
  annotations : e.objectMeta.annotations.Subset g.objectMeta.annotations
  update : (r.options.alwaysCallUpdateFunc || !cache.Contains kind g.objectMeta) = true →
    r.updateFunc e (mergeMeta e g) = mergeMeta e g

end ReconcileBuilder

/-! ## The metadata steps -/

theorem subset_updateMap (expected found : StringMap) : expected.Subset (updateMap expected found) := by
  intro k v hk
  cases found with
  | none => exact hk
  | some f =>
      cases expected with
      | none => simp at hk
      | some e =>
          simp only [StringMap.lookup_some] at hk
          have hmem : k ∈ e := Finmap.mem_iff.mpr ⟨v, hk⟩
          simp only [updateMap, updateStringMap, Option.getD_some, StringMap.lookup_some]
          rw [Finmap.lookup_union_left hmem, hk]

/-- Writing entries that are there already changes no entry. -/
theorem updateMap_semantic {expected found : StringMap} (h : expected.Subset found) :
    (updateMap expected found).semantic = found.semantic := by
  cases found with
  | none => exact StringMap.semantic_eq_empty h
  | some f =>
      cases expected with
      | none => rfl
      | some e =>
          simp only [updateMap, updateStringMap, StringMap.semantic_some, Option.getD_some]
          apply Finmap.ext_lookup
          intro k
          by_cases hk : k ∈ e
          · obtain ⟨v, hv⟩ := Finmap.mem_iff.mp hk
            rw [Finmap.lookup_union_left hk, hv]
            exact (h k v (by simpa using hv)).symm
          · rw [Finmap.lookup_union_right hk]

/-- The found map after the desired entries are written: the desired entry, else the found
    one. -/
theorem lookup_updateMap (expected found : StringMap) (k : String) :
    (updateMap expected found).lookup k = (expected.lookup k).or (found.lookup k) := by
  cases found with
  | none =>
      show expected.lookup k = (expected.lookup k).or none
      cases expected.lookup k <;> rfl
  | some f =>
      cases expected with
      | none => rfl
      | some e =>
          simp only [updateMap, updateStringMap, Option.getD_some, StringMap.lookup_some]
          by_cases hk : k ∈ e
          · obtain ⟨v, hv⟩ := Finmap.mem_iff.mp hk
            rw [Finmap.lookup_union_left hk, hv]
            rfl
          · rw [Finmap.lookup_union_right hk, Finmap.lookup_eq_none.mpr hk]
            rfl

/-- A found map that is not nil stays so. -/
theorem updateMap_ne_none (expected : StringMap) {found : StringMap} (h : found ≠ none) :
    updateMap expected found ≠ none := by
  cases found with
  | none => exact absurd rfl h
  | some f => cases expected <;> simp [updateMap, updateStringMap]

/-- Where the desired map is held in the found one, writing it changes no entry. -/
theorem lookup_updateMap_of_subset {expected found : StringMap} (h : expected.Subset found)
    (k : String) : (updateMap expected found).lookup k = found.lookup k := by
  rw [lookup_updateMap]
  cases he : expected.lookup k with
  | none => rfl
  | some v => exact (h k v he).symm

theorem sharedMap_updateMap (expected found : StringMap) :
    sharedMap expected found (updateMap expected found) = expected := by
  cases found <;> cases expected <;> rfl

@[simp] theorem mergeMeta_body (e g : ClientObject σ) : (mergeMeta e g).body = g.body := rfl

@[simp] theorem mergeMeta_objectMeta (e g : ClientObject σ) :
    (mergeMeta e g).objectMeta = { g.objectMeta with
      ownerReferences := e.objectMeta.ownerReferences
      labels := updateMap e.objectMeta.labels g.objectMeta.labels
      annotations := updateMap e.objectMeta.annotations g.objectMeta.annotations } := rfl

/-- The desired object shares nothing it did not have: after the metadata steps alone it
    is as it was. -/
theorem shareMaps_of_maps {e g updated : ClientObject σ}
    (hlabels : updated.objectMeta.labels = updateMap e.objectMeta.labels g.objectMeta.labels)
    (hannotations :
      updated.objectMeta.annotations = updateMap e.objectMeta.annotations g.objectMeta.annotations) :
    shareMaps e g updated = e := by
  simp [shareMaps, hlabels, hannotations, sharedMap_updateMap]

theorem Contains_mergeMeta (cache : VersionCache) (kind : String) (e g : ClientObject σ) :
    cache.Contains kind (mergeMeta e g).objectMeta = cache.Contains kind g.objectMeta :=
  VersionCache.Contains_congr cache kind rfl rfl rfl rfl rfl

/-! ## A call on a settled object -/

namespace ReconcileBuilder

variable (r : ReconcileBuilder σ)

/-- `mutateFn` on a settled object: only the metadata steps, which change nothing but nil
    maps, and the desired object keeps its maps. -/
theorem mutateFn_of_settled {kind : String} {cache : VersionCache} {e g : ClientObject σ}
    (hs : r.Settled kind cache e g) : r.mutateFn kind cache e g = (e, mergeMeta e g) := by
  have hshare : shareMaps e g (mergeMeta e g) = e := shareMaps_of_maps rfl rfl
  unfold mutateFn
  simp only [hs.live, Option.isSome_none, Bool.false_eq_true, if_false]
  rw [Contains_mergeMeta]
  by_cases hcall : (r.options.alwaysCallUpdateFunc || !cache.Contains kind g.objectMeta) = true
  · rw [if_pos hcall, hs.update hcall, hshare]
  · rw [if_neg hcall, hshare]

theorem DeepEqual_mergeMeta [DecidableEq σ] {kind : String} {cache : VersionCache}
    {e g : ClientObject σ} (hs : r.Settled kind cache e g) : DeepEqual g (mergeMeta e g) = true := by
  simp only [DeepEqual, decide_eq_true_eq, mergeMeta_body, and_true, mergeMeta_objectMeta,
    ObjectMeta.semantic, updateMap_semantic hs.labels, updateMap_semantic hs.annotations,
    ← hs.owners]

theorem mutate_eq_ok {kind : String} {cache : VersionCache} {key : NamespacedName}
    {resource obj : ClientObject σ} {out : ClientObject σ × ClientObject σ} :
    r.mutate kind cache key resource obj = .ok out ↔
      out = r.mutateFn kind cache resource obj ∧ out.2.objectMeta.key = key := by
  unfold mutate
  by_cases hkey : (r.mutateFn kind cache resource obj).2.objectMeta.key = key
  · simp only [hkey, if_true, Except.ok.injEq]
    constructor
    · intro h
      subst h
      exact ⟨rfl, hkey⟩
    · intro h
      exact h.1.symm
  · simp only [hkey, if_false, reduceCtorEq, false_iff, not_and]
    intro h
    subst h
    exact hkey

@[simp] theorem finish_operationResult (kind : String) (cache : VersionCache) (w : WriteResult σ) :
    (finish kind cache w).result.operationResult = w.res := by
  unfold finish
  split_ifs <;> rfl

@[simp] theorem finish_store (kind : String) (cache : VersionCache) (w : WriteResult σ) :
    (finish kind cache w).store = w.store := by
  unfold finish
  split_ifs <;> rfl

@[simp] theorem finish_resource (kind : String) (cache : VersionCache) (w : WriteResult σ) :
    (finish kind cache w).resource = w.resource := by
  unfold finish
  split_ifs <;> rfl

theorem finish_cache_of_live {kind : String} {cache : VersionCache} {w : WriteResult σ}
    (hres : w.res ≠ .deleted) (hlive : w.found.objectMeta.deletionTimestamp = none) :
    (finish kind cache w).cache = cache.Add kind w.found.objectMeta := by
  unfold finish
  rw [if_neg]
  simp [hres, hlive]

variable [DecidableEq σ]

/-- On a settled object `createOrUpdateWithImmutableSpec` writes nothing. -/
theorem createOrUpdate_of_settled {kind : String} {cache : VersionCache} {store : Store σ}
    {e g obj : ClientObject σ} (hkey : obj.objectMeta.key = e.objectMeta.key)
    (hget : store.get e.objectMeta.key = some g) (hs : r.Settled kind cache e g) :
    r.createOrUpdateWithImmutableSpec kind cache store e obj =
      .ok { res := .none, existing := some g, resource := e, found := mergeMeta e g,
            store := store } := by
  have hgkey : g.objectMeta.key = e.objectMeta.key := Store.get_key hget
  have hmut : r.mutate kind cache e.objectMeta.key e g = .ok (e, mergeMeta e g) :=
    (r.mutate_eq_ok).mpr ⟨(r.mutateFn_of_settled hs).symm, hgkey⟩
  unfold createOrUpdateWithImmutableSpec
  simp only [hkey, hget, hmut, mapError_ok, except_ok_bind, r.DeepEqual_mergeMeta hs, if_true,
    except_pure]

theorem Reconcile_eq_ok [Inhabited σ] {ty : ObjectType} {requestInstance : SSP} {store : Store σ}
    {cache : VersionCache} {out : ReconcileOutcome σ} :
    r.Reconcile ty requestInstance store cache = .ok out ↔
      ∃ e w, r.prepare requestInstance = .ok e ∧
        r.createOrUpdateWithImmutableSpec ty.kind cache store e (emptyResource e) = .ok w ∧
        out = finish ty.kind cache w := by
  unfold Reconcile
  cases hprep : r.prepare requestInstance with
  | error err => simp
  | ok e =>
      cases hw : r.createOrUpdateWithImmutableSpec ty.kind cache store e (emptyResource e) with
      | error err => simp [hw]
      | ok w =>
          simp only [mapError_ok, except_ok_bind, hw, except_pure, Except.ok.injEq]
          constructor
          · intro h
            exact ⟨e, w, rfl, hw, h.symm⟩
          · rintro ⟨e', w', he, hw', rfl⟩
            cases he
            rw [hw] at hw'
            cases hw'
            rfl

/-- A call on a settled object returns `OperationResultNone` and writes nothing. -/
theorem Reconcile_of_settled [Inhabited σ] {ty : ObjectType} {requestInstance : SSP}
    {store : Store σ} {cache : VersionCache} {e g : ClientObject σ}
    (hprep : r.prepare requestInstance = .ok e) (hget : store.get e.objectMeta.key = some g)
    (hs : r.Settled ty.kind cache e g) :
    ∃ out, r.Reconcile ty requestInstance store cache = .ok out ∧
      out.result.operationResult = .none ∧ out.store = store ∧ out.resource = e :=
  ⟨_, (r.Reconcile_eq_ok).mpr ⟨e, _, hprep, r.createOrUpdate_of_settled rfl hget hs, rfl⟩,
    by simp, by simp, by simp⟩

end ReconcileBuilder

/-! ## Preparing the desired object again -/

/-- The desired object `e'` lies between the desired object `e` and the object `u`: it is `e`
    with maps that hold `e`'s entries and are held in `u`'s. -/
structure Between (e e' u : ClientObject σ) : Prop where
  eq : e' = { e with objectMeta := { e.objectMeta with
    labels := e'.objectMeta.labels, annotations := e'.objectMeta.annotations } }
  labels : e.objectMeta.labels.Subset e'.objectMeta.labels ∧
    e'.objectMeta.labels.Subset u.objectMeta.labels
  annotations : e.objectMeta.annotations.Subset e'.objectMeta.annotations ∧
    e'.objectMeta.annotations.Subset u.objectMeta.annotations

namespace ReconcileBuilder

variable (r : ReconcileBuilder σ)

/-- The prepared object is prepared already: the app labels and the owner are written with
    values that do not depend on the object. -/
theorem prepare_prepare {requestInstance : SSP} {e : ClientObject σ}
    (h : r.prepare requestInstance = .ok e) : { r with resource := e }.prepare requestInstance = .ok e := by
  unfold prepare at h ⊢
  dsimp only at h ⊢
  cases hown : setOwner requestInstance (if r.addLabels then
      AddAppLabels requestInstance r.operandName r.operandComponent r.resource.objectMeta
    else r.resource.objectMeta) r.isClusterResource with
  | error err => simp [hown] at h
  | ok m =>
      simp only [hown, except_ok_bind, except_pure, Except.ok.injEq] at h
      subst h
      -- the labels are those `AddAppLabels` wrote, so writing them again changes nothing
      have hlabels : (if r.addLabels then
          AddAppLabels requestInstance r.operandName r.operandComponent m else m) = m := by
        split_ifs with hadd
        · have hm := setOwner_eq hown
          rw [if_pos hadd] at hm
          exact AddAppLabels_of_labels (show m.labels = (AddAppLabels requestInstance
            r.operandName r.operandComponent r.resource.objectMeta).labels by rw [hm])
        · rfl
      simp only [hlabels, setOwner_idem hown, except_ok_bind, except_pure]

/-- The labels `prepare` writes: the app labels, where the builder adds them. -/
def preparedLabels (requestInstance : SSP) (labels : StringMap) : StringMap :=
  if r.addLabels then
    addCommonLabels (some (labels.getD ∅)) requestInstance r.operandName r.operandComponent
  else labels

theorem preparedLabels_overrides (requestInstance : SSP) :
    ∃ c, StringMap.Overrides (r.preparedLabels requestInstance) c := by
  unfold preparedLabels
  cases r.addLabels with
  | true => simpa using overrides_addCommonLabels requestInstance r.operandName r.operandComponent
  | false => exact ⟨fun _ => none, fun m k => rfl⟩

/-- `prepare`: the prepared labels, then the owner. -/
theorem prepare_eq (requestInstance : SSP) :
    r.prepare requestInstance =
      setOwner requestInstance
          { r.resource.objectMeta with
            labels := r.preparedLabels requestInstance r.resource.objectMeta.labels }
          r.isClusterResource >>=
        fun objectMeta => pure { r.resource with objectMeta := objectMeta } := by
  unfold prepare preparedLabels
  cases r.addLabels <;> rfl

/-- Preparing a desired object between a prepared one `e` and the object `u` writes the app
    labels and the owner again, and what it prepares lies between `e` and `u` as well. -/
theorem prepare_between {requestInstance : SSP} {e x u : ClientObject σ}
    (hprep : r.prepare requestInstance = .ok e) (hx : Between e x u) :
    ∃ e₂, { r with resource := x }.prepare requestInstance = .ok e₂ ∧ Between e e₂ u := by
  rw [prepare_eq] at hprep
  cases hown : setOwner requestInstance { r.resource.objectMeta with
      labels := r.preparedLabels requestInstance r.resource.objectMeta.labels }
      r.isClusterResource with
  | error err => simp [hown] at hprep
  | ok m =>
      simp only [hown, except_ok_bind, except_pure, Except.ok.injEq] at hprep
      subst hprep
      obtain ⟨hxeq, ⟨hel, hlu⟩, ⟨hea, hau⟩⟩ := hx
      generalize x.objectMeta.labels = L at hxeq hel hlu
      generalize x.objectMeta.annotations = A at hxeq hea hau
      subst hxeq
      -- the prepared maps, read back through `setOwner`
      have hm := setOwner_maps hown (r.preparedLabels requestInstance r.resource.objectMeta.labels)
        r.resource.objectMeta.annotations
      rw [hown, Except.ok.injEq] at hm
      have hml : m.labels = r.preparedLabels requestInstance r.resource.objectMeta.labels :=
        congrArg ObjectMeta.labels hm
      have hma : m.annotations = ownerAnnotations requestInstance r.isClusterResource
          r.resource.objectMeta.annotations :=
        congrArg ObjectMeta.annotations hm
      obtain ⟨cl, hcl⟩ := r.preparedLabels_overrides requestInstance
      obtain ⟨ca, hca⟩ := overrides_ownerAnnotations requestInstance r.isClusterResource
      have hlabels := hcl.between (by rw [← hml]; exact hel) hlu
      have hannotations := hca.between (by rw [← hma]; exact hea) hau
      refine ⟨{ objectMeta := { m with
                  labels := r.preparedLabels requestInstance L
                  annotations := ownerAnnotations requestInstance r.isClusterResource A }
                body := r.resource.body }, ?_, ⟨rfl, ?_, ?_⟩⟩
      · -- `setOwner` writes the same owner on the new maps
        rw [prepare_eq]
        exact (congrArg (· >>= _) (setOwner_maps (setOwner_idem hown)
          (r.preparedLabels requestInstance L) A)).trans rfl
      · show m.labels.Subset _ ∧ _
        rw [hml]
        exact hlabels
      · show m.annotations.Subset _ ∧ _
        rw [hma]
        exact hannotations

end ReconcileBuilder

end SspOperator.Common
