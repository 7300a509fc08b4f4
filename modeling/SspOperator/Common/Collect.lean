import SspOperator.Common.Convergence
import SspOperator.Lib.Loop
import SspOperator.Common.Cleanup

/-
  Running the reconcile functions of an operand (`CollectResourceStatus` in
  `internal/common/resource.go`), and the objects the SSP owns (`ListOwnedResources` and
  the owner check CheckOwnerAnnotation in `internal/common/owner.go`).

  A reconcile function works on the store of its kind and on the version cache, and
  `CollectResourceStatus` runs the functions in order, threading both, until the first
  error. A call of `reconcileBuilder.Reconcile` writes only at the key of its desired object
  (`Reconcile_get_of_ne`), so a run of such functions leaves every other key as it was.

  `ListOwnedResources` keeps, of what `Client.List` returned, the objects whose owner
  annotations name the SSP. Such an object, read back from the store, is one `Cleanup`
  takes for the SSP's (`Cleanup_of_owned`): it deletes the object unless it is being
  deleted already, and reports that it is not gone yet. So a `DeleteAll` whose results all
  report their objects gone has written nothing (`DeleteAll_of_all_deleted`), and none of the
  listed objects it was given is the SSP's (`not_owned_of_cleanup_deleted`).
-/

namespace SspOperator.Common

variable {σ : Type}

/-! ## Writes at one key -/

namespace Store

theorem get_write_of_ne (s : Store σ) {key k : NamespacedName} {obj : Option (ClientObject σ)}
    {hkey : ∀ o, obj = some o → o.objectMeta.key = key} (hk : k ≠ key) :
    (s.write key obj hkey).get k = s.get k := by
  simp [write, get, Function.update_of_ne hk]

theorem get_create_of_ne {s : Store σ} {obj : ClientObject σ} {result : Store σ × ClientObject σ}
    (h : s.create obj = .ok result) {k : NamespacedName} (hk : k ≠ obj.objectMeta.key) :
    result.1.get k = s.get k := by
  unfold create at h
  dsimp only at h
  split at h
  · cases h
  · cases h
    simp only [write, get, Function.update_of_ne hk]

theorem get_update_of_ne [DecidableEq σ] {s : Store σ} {obj : ClientObject σ}
    {result : Store σ × ClientObject σ} (h : s.update obj = .ok result) {k : NamespacedName}
    (hk : k ≠ obj.objectMeta.key) : result.1.get k = s.get k := by
  unfold update at h
  dsimp only at h
  split at h
  · cases h
  · split_ifs at h <;> cases h <;> simp only [write, get, Function.update_of_ne hk]

theorem get_delete_of_ne {s s' : Store σ} {obj : ClientObject σ} (h : s.delete obj = .ok s')
    {k : NamespacedName} (hk : k ≠ obj.objectMeta.key) : s'.get k = s.get k := by
  unfold delete at h
  dsimp only at h
  split at h
  · cases h
  · cases h
    exact get_write_of_ne _ hk

/-- A delete fails only where there is nothing to delete, and otherwise empties the key. -/
theorem delete_cases (s : Store σ) (obj : ClientObject σ) :
    (s.get obj.objectMeta.key = none ∧ ∀ s', s.delete obj ≠ .ok s') ∨
      ∃ s', s.delete obj = .ok s' ∧ s'.get obj.objectMeta.key = none := by
  cases hget : s.get obj.objectMeta.key with
  | none =>
      refine .inl ⟨rfl, fun s' => ?_⟩
      simp only [get] at hget
      simp [delete, hget]
  | some found =>
      simp only [get] at hget
      exact .inr ⟨s.write obj.objectMeta.key none (by intro o h; cases h), by simp [delete, hget],
        by simp⟩

/-- A store holding the given objects, the first of each key. -/
def ofList (objs : List (ClientObject σ)) (tracksGeneration : Bool) : Store σ :=
  { objects := fun key => objs.find? fun o => o.objectMeta.key = key
    objects_key := by
      intro key obj h
      simpa using List.find?_some h
    revision := 0
    tracksGeneration := tracksGeneration }

/-- The given objects list every object of the store they make. -/
theorem mem_of_ofList_get {objs : List (ClientObject σ)} {tracksGeneration : Bool}
    {key : NamespacedName} {obj : ClientObject σ}
    (h : (ofList objs tracksGeneration).get key = some obj) : obj ∈ objs :=
  List.mem_of_find?_eq_some h

end Store

/-! ## The key `Reconcile` writes at -/

namespace ReconcileBuilder

variable (r : ReconcileBuilder σ)

/-- Preparing the desired object keeps its name and namespace. -/
theorem prepare_key {requestInstance : SSP} {e : ClientObject σ}
    (h : r.prepare requestInstance = .ok e) : e.objectMeta.key = r.resource.objectMeta.key := by
  unfold prepare at h
  obtain ⟨m, hown, he⟩ := except_bind_eq_ok.mp h
  cases he
  rw [setOwner_eq hown]
  split_ifs <;> rfl

theorem createOrUpdate_get_of_ne [DecidableEq σ] {kind : String} {cache : VersionCache}
    {store : Store σ} {resource obj : ClientObject σ} {w : WriteResult σ}
    (h : r.createOrUpdateWithImmutableSpec kind cache store resource obj = .ok w)
    {k : NamespacedName} (hk : k ≠ obj.objectMeta.key) : w.store.get k = store.get k := by
  obtain ⟨g, out, hmut, -, hcases⟩ := r.createOrUpdate_cases h
  -- every write is at the key of the mutated object, which `mutate` keeps at `obj`'s
  have hkey : k ≠ out.2.objectMeta.key := by
    rw [((r.mutate_eq_ok).mp hmut).2]
    exact hk
  rcases hcases with ⟨-, -, -, hcreate⟩ | ⟨-, ⟨-, -, hstore⟩ | ⟨-, -, -, -, hdel⟩ | ⟨-, -, -, hupd⟩⟩
  · exact Store.get_create_of_ne hcreate hkey
  · rw [hstore]
  · exact Store.get_delete_of_ne hdel hkey
  · exact Store.get_update_of_ne hupd hkey

/-- Preparing the desired object keeps the rest of it. -/
theorem prepare_body {requestInstance : SSP} {e : ClientObject σ}
    (h : r.prepare requestInstance = .ok e) : e.body = r.resource.body := by
  unfold prepare at h
  obtain ⟨m, -, he⟩ := except_bind_eq_ok.mp h
  cases he
  rfl

/-- What a call that deletes nothing leaves at its key: an object with the rest and the
    labels of what `mutateFn` made of the found object, or of `obj` where nothing was found. -/
theorem createOrUpdate_stored [DecidableEq σ] {kind : String} {cache : VersionCache}
    {store : Store σ} {resource obj : ClientObject σ} {w : WriteResult σ}
    (h : r.createOrUpdateWithImmutableSpec kind cache store resource obj = .ok w)
    (hres : w.res ≠ .deleted) :
    ∃ g out d, r.mutate kind cache obj.objectMeta.key resource g = .ok out ∧
      (store.get obj.objectMeta.key = some g ∨ (store.get obj.objectMeta.key = none ∧ g = obj)) ∧
      w.store.get obj.objectMeta.key = some d ∧ d.body = out.2.body ∧
      d.objectMeta.labels.semantic = out.2.objectMeta.labels.semantic := by
  obtain ⟨g, out, hmut, -, hcases⟩ := r.createOrUpdate_cases h
  have hkey : out.2.objectMeta.key = obj.objectMeta.key := ((r.mutate_eq_ok).mp hmut).2
  rcases hcases with ⟨hnone, hg, -, hcreate⟩ | ⟨hget, ⟨hsame, -, hstore⟩ | ⟨-, -, hdel, -⟩ | ⟨-, -, -, hupd⟩⟩
  · -- created: the store holds the mutated object as the server persists it
    obtain ⟨-, hfound, hstored⟩ := Store.create_eq_ok hcreate
    rw [hkey] at hstored
    exact ⟨g, out, _, hmut, .inr ⟨hnone, hg⟩, hstored, by rw [hfound]; rfl, by rw [hfound]; rfl⟩
  · -- unchanged: the found object is the mutated one, as `DeepEqual` sees it
    simp only [DeepEqual, decide_eq_true_eq] at hsame
    have hlabels := congrArg ObjectMeta.labels hsame.1
    simp only [ObjectMeta.semantic, Option.some.injEq] at hlabels
    exact ⟨g, out, g, hmut, .inl hget, by rw [hstore]; exact hget, hsame.2, hlabels⟩
  · exact absurd hdel hres
  · obtain ⟨⟨uid, generation, hfound⟩, hstored⟩ := Store.update_eq_ok hupd
    rw [hkey] at hstored
    exact ⟨g, out, _, hmut, .inl hget, hstored, by rw [hfound]; rfl, by rw [hfound]; rfl⟩

/-- A call of `Reconcile` leaves every key but its desired object's as it was. -/
theorem Reconcile_get_of_ne [DecidableEq σ] [Inhabited σ] {ty : ObjectType}
    {requestInstance : SSP} {store : Store σ} {cache : VersionCache} {out : ReconcileOutcome σ}
    (h : r.Reconcile ty requestInstance store cache = .ok out) {k : NamespacedName}
    (hk : k ≠ r.resource.objectMeta.key) : out.store.get k = store.get k := by
  obtain ⟨e, w, hprep, hw, rfl⟩ := (r.Reconcile_eq_ok).mp h
  rw [finish_store]
  have hkey : k ≠ (emptyResource e).objectMeta.key := by
    rw [show (emptyResource e).objectMeta.key = e.objectMeta.key from rfl, r.prepare_key hprep]
    exact hk
  exact r.createOrUpdate_get_of_ne hw hkey

/-- A builder whose spec is not immutable never deletes. -/
theorem createOrUpdate_res_ne_deleted [DecidableEq σ] {kind : String} {cache : VersionCache}
    {store : Store σ} {resource obj : ClientObject σ} {w : WriteResult σ}
    (himm : r.immutableSpec = false)
    (h : r.createOrUpdateWithImmutableSpec kind cache store resource obj = .ok w) :
    w.res ≠ .deleted := by
  intro hdel
  obtain ⟨g, o, -, -, hcases⟩ := r.createOrUpdate_cases h
  rcases hcases with ⟨-, -, hcreated, -⟩ | ⟨-, ⟨-, hnone, -⟩ | ⟨-, hdeleting, -⟩ | ⟨-, -, hupdated, -⟩⟩
  · rw [hdel] at hcreated
    cases hcreated
  · rw [hdel] at hnone
    cases hnone
  · simp [himm] at hdeleting
  · rw [hdel] at hupdated
    cases hupdated

end ReconcileBuilder

/-! ## Running the reconcile functions -/

/-- What a delete leaves at a key: nothing at the deleted object's, where a failed delete
    found nothing either, and what was there at every other. -/
theorem delete_get (store : Store σ) (obj : ClientObject σ) (k : NamespacedName) :
    (match store.delete obj with
      | .error _ => store
      | .ok store' => store').get k =
      if k = obj.objectMeta.key then none else store.get k := by
  rcases Store.delete_cases store obj with ⟨hnone, hfail⟩ | ⟨s', hs', hgone⟩
  · cases hdel : store.delete obj with
    | error e =>
        dsimp only
        split_ifs with hk
        · rw [hk, hnone]
        · rfl
    | ok s' => exact absurd hdel (hfail s')
  · rw [hs']
    dsimp only
    split_ifs with hk
    · rw [hk, hgone]
    · exact Store.get_delete_of_ne hs' hk

/-- `ReconcileFunc`, on the store of its kind and the version cache. -/
abbrev ReconcileFunc (σ : Type) :=
  Store σ × VersionCache → Except String (ReconcileResult σ × Store σ × VersionCache)

/-- A reconcile function made of a builder. -/
def ReconcileBuilder.reconcileFunc [DecidableEq σ] [Inhabited σ] (r : ReconcileBuilder σ)
    (ty : ObjectType) (requestInstance : SSP) : ReconcileFunc σ := fun st => do
  let out ← r.Reconcile ty requestInstance st.1 st.2
  pure (out.result, out.store, out.cache)

/-- One function of `CollectResourceStatus`: its result is appended to the others. -/
def collectStep (acc : List (ReconcileResult σ) × Store σ × VersionCache) (f : ReconcileFunc σ) :
    Except String (List (ReconcileResult σ) × Store σ × VersionCache) := do
  let (status, st) ← f acc.2
  pure (acc.1 ++ [status], st)

/-- `CollectResourceStatus`: the functions in order, until the first error. -/
def CollectResourceStatus (st : Store σ × VersionCache) (funcs : List (ReconcileFunc σ)) :
    Except String (List (ReconcileResult σ) × Store σ × VersionCache) :=
  funcs.foldlM collectStep ([], st)

theorem collectStep_eq_ok {acc acc' : List (ReconcileResult σ) × Store σ × VersionCache}
    {f : ReconcileFunc σ} :
    collectStep acc f = .ok acc' ↔ ∃ status st, f acc.2 = .ok (status, st) ∧
      acc' = (acc.1 ++ [status], st) := by
  unfold collectStep
  cases hf : f acc.2 with
  | error e => simp
  | ok out =>
      obtain ⟨status, store, cache⟩ := out
      simp [eq_comm]

theorem reconcileFunc_eq_ok [DecidableEq σ] [Inhabited σ] {r : ReconcileBuilder σ}
    {ty : ObjectType} {requestInstance : SSP} {st : Store σ × VersionCache}
    {status : ReconcileResult σ} {st' : Store σ × VersionCache} :
    r.reconcileFunc ty requestInstance st = .ok (status, st') ↔
      ∃ out, r.Reconcile ty requestInstance st.1 st.2 = .ok out ∧ status = out.result ∧
        st' = (out.store, out.cache) := by
  unfold ReconcileBuilder.reconcileFunc
  cases h : r.Reconcile ty requestInstance st.1 st.2 with
  | error e => simp
  | ok out => simp [eq_comm]

/-- The reconcile function of a builder writes only at the key of its desired object. -/
theorem reconcileFunc_get_of_ne [DecidableEq σ] [Inhabited σ] {r : ReconcileBuilder σ}
    {ty : ObjectType} {requestInstance : SSP} {st : Store σ × VersionCache}
    {out : ReconcileResult σ × Store σ × VersionCache}
    (h : r.reconcileFunc ty requestInstance st = .ok out) {k : NamespacedName}
    (hk : k ≠ r.resource.objectMeta.key) : out.2.1.get k = st.1.get k := by
  obtain ⟨status, st'⟩ := out
  obtain ⟨o, ho, -, rfl⟩ := reconcileFunc_eq_ok.mp h
  exact r.Reconcile_get_of_ne ho hk

/-- A successful run of two lists of functions is a run of the first, then of the second. -/
theorem CollectResourceStatus_append {st : Store σ × VersionCache}
    {funcs₁ funcs₂ : List (ReconcileFunc σ)}
    {acc : List (ReconcileResult σ) × Store σ × VersionCache}
    (h : CollectResourceStatus st (funcs₁ ++ funcs₂) = .ok acc) :
    ∃ mid, CollectResourceStatus st funcs₁ = .ok mid ∧ funcs₂.foldlM collectStep mid = .ok acc := by
  unfold CollectResourceStatus at h ⊢
  rw [List.foldlM_append] at h
  exact except_bind_eq_ok.mp h

/-! ## Objects the SSP owns -/

/-- The owner check of `owner.go`, with the SSP as owner: the owner annotations name the SSP's
    `GroupKind` and its namespace and name. A nil map has no entries. -/
def CheckOwnerAnnotation (obj : ObjectMeta) (owner : SSP) : Bool :=
  match obj.annotations.lookup TypeAnnotation with
  | none => false
  | some typeVal =>
      typeVal == SSPKind ++ "." ++ SSPGroup &&
        obj.annotations.lookup NamespacedNameAnnotation ==
          some ({ ns := owner.objectMeta.ns, name := owner.objectMeta.name } : NamespacedName).toString

/-- `ListOwnedResources`, on what `Client.List` returned. -/
def ListOwnedResources (requestInstance : SSP) (listed : Except String (List (ClientObject σ))) :
    Except String (List (ClientObject σ)) := do
  let items ← listed
  pure (items.filter fun item => CheckOwnerAnnotation item.objectMeta requestInstance)

@[simp] theorem ListOwnedResources_ok (requestInstance : SSP) (items : List (ClientObject σ)) :
    ListOwnedResources requestInstance (.ok items) =
      .ok (items.filter fun item => CheckOwnerAnnotation item.objectMeta requestInstance) :=
  rfl

theorem CheckOwnerAnnotation_eq_true {obj : ObjectMeta} {owner : SSP} :
    CheckOwnerAnnotation obj owner = true ↔
      obj.annotations.lookup TypeAnnotation = some (SSPKind ++ "." ++ SSPGroup) ∧
        obj.annotations.lookup NamespacedNameAnnotation =
          some (owner.objectMeta.ns ++ "/" ++ owner.objectMeta.name) := by
  unfold CheckOwnerAnnotation
  cases obj.annotations.lookup TypeAnnotation with
  | none => simp
  | some typeVal =>
      simp only [Option.some.injEq, Bool.and_eq_true, beq_iff_eq, NamespacedName.toString]

/-- The owner annotations `setOwner` writes on a cluster resource are those the listing
    looks for. -/
theorem CheckOwnerAnnotation_of_SetOwnerAnnotations {owner : SSP} {object result : ObjectMeta}
    (h : SetOwnerAnnotations owner object = .ok result) : CheckOwnerAnnotation result owner = true := by
  obtain ⟨-, rfl⟩ := SetOwnerAnnotations_eq_ok.mp h
  have hne : NamespacedNameAnnotation ≠ TypeAnnotation := by decide
  rw [CheckOwnerAnnotation_eq_true, StringMap.lookup_set, if_pos rfl, StringMap.lookup_set,
    if_neg hne, StringMap.lookup_set, if_pos rfl]
  exact ⟨rfl, rfl⟩

/-! ## `Cleanup` of an owned object -/

/-- With a first expected reference the loop of `isResourceOwned` answers. -/
theorem ownerReferenceMatches_cons_eq_ok (first : OwnerReference) (more : List OwnerReference) :
    ∀ found, ∃ b, ownerReferenceMatches (first :: more) found = .ok b
  | [] => ⟨false, rfl⟩
  | reference :: rest => by
      simp only [ownerReferenceMatches]
      split_ifs
      · exact ⟨true, rfl⟩
      · exact ownerReferenceMatches_cons_eq_ok first more rest

/-- Compared with its own references, an object with references is owned. -/
theorem ownerReferenceMatches_self {reference : OwnerReference} {rest : List OwnerReference} :
    ownerReferenceMatches (reference :: rest) (reference :: rest) = .ok true := by
  simp [ownerReferenceMatches]

/-- The expected object `isResourceOwned` prepares for an object: the SSP's controller
    reference or the object's own references, and the SSP's owner annotations. -/
theorem expectedOwnerObject_eq_ok {requestInstance : SSP} (obj : ObjectMeta)
    (hname : requestInstance.objectMeta.name ≠ "") :
    ∃ expected, expectedOwnerObject requestInstance obj = .ok expected ∧
      (expected.ownerReferences = [controllerRef requestInstance] ∨
        expected.ownerReferences = obj.ownerReferences) ∧
      CheckOwnerAnnotation expected requestInstance = true := by
  by_cases hns : obj.ns = requestInstance.objectMeta.ns
  · -- in the SSP's namespace the controller reference replaces the object's references
    have hvalid : validateOwner requestInstance { obj with ownerReferences := [] } = .ok () := by
      unfold validateOwner
      dsimp only
      split_ifs <;> simp_all
    have hctrl : SetControllerReference requestInstance { obj with ownerReferences := [] } =
        .ok { obj with ownerReferences := upsertOwnerRef (controllerRef requestInstance) [] } :=
      SetControllerReference_eq_ok.mpr ⟨hvalid, fun c hc => by simp [GetControllerOf] at hc, rfl⟩
    obtain ⟨annotated, hann⟩ : ∃ annotated, SetOwnerAnnotations requestInstance
        { obj with ownerReferences := upsertOwnerRef (controllerRef requestInstance) [] } =
          .ok annotated :=
      ⟨_, SetOwnerAnnotations_eq_ok.mpr ⟨hname, rfl⟩⟩
    have hprep : expectedOwnerObject requestInstance obj = .ok annotated := by
      unfold expectedOwnerObject
      rw [if_pos hns, hctrl]
      simp [hann]
    exact ⟨annotated, hprep, .inl (expectedOwnerObject_refs_of_ns_eq hns hprep),
      CheckOwnerAnnotation_of_SetOwnerAnnotations hann⟩
  · obtain ⟨expected, hprep, hrefs⟩ := expectedOwnerObject_of_ns_ne hname hns
    have hann : SetOwnerAnnotations requestInstance obj = .ok expected := by
      simpa [expectedOwnerObject, hns] using hprep
    exact ⟨expected, hprep, .inr hrefs, CheckOwnerAnnotation_of_SetOwnerAnnotations hann⟩

/-- Two objects whose owner annotations both name the SSP match in `isResourceOwned`. -/
theorem ownerAnnotationsMatch_of_check {expected found : ObjectMeta} {owner : SSP}
    (hexpected : CheckOwnerAnnotation expected owner = true)
    (hfound : CheckOwnerAnnotation found owner = true) :
    ownerAnnotationsMatch expected found = true := by
  rw [CheckOwnerAnnotation_eq_true] at hexpected hfound
  have hget : ∀ (m : StringMap) k, m.get k = (m.lookup k).getD "" := fun _ _ => rfl
  unfold ownerAnnotationsMatch
  split
  · -- a nil map has no owner annotations
    rename_i hnone
    rw [hnone] at hfound
    simp at hfound
  · simp only [hget, hfound.1, hfound.2, hexpected.1, hexpected.2, Option.getD_some,
      Bool.and_self, decide_true]

/-- An object whose owner annotations name the SSP is the SSP's for `isResourceOwned`. -/
theorem isResourceOwned_of_check {requestInstance : SSP} {obj : ObjectMeta}
    (hname : requestInstance.objectMeta.name ≠ "")
    (howned : CheckOwnerAnnotation obj requestInstance = true) :
    isResourceOwned requestInstance obj obj = .ok true := by
  obtain ⟨expected, hprep, hrefs, hcheck⟩ := expectedOwnerObject_eq_ok obj hname
  have hmatch := ownerAnnotationsMatch_of_check hcheck howned
  -- the loop answers: with the controller reference, or with the object's own references
  obtain ⟨b, hb⟩ : ∃ b, ownerReferenceMatches expected.ownerReferences obj.ownerReferences =
      .ok b := by
    rcases hrefs with hrefs | hrefs
    · rw [hrefs]
      exact ownerReferenceMatches_cons_eq_ok _ _ _
    · rw [hrefs]
      cases obj.ownerReferences with
      | nil => exact ⟨false, rfl⟩
      | cons reference rest => exact ⟨true, ownerReferenceMatches_self⟩
  unfold isResourceOwned
  simp only [hprep, hb, except_ok_bind]
  cases b <;> simp [hmatch]

/-- `Cleanup` of an object the SSP owns, as the store holds it: the object is deleted
    unless it is being deleted already, and the result says it is not gone yet. -/
theorem Cleanup_of_owned {requestInstance : SSP} {store : Store σ} {obj : ClientObject σ}
    (hname : requestInstance.objectMeta.name ≠ "")
    (hstored : store.get obj.objectMeta.key = some obj)
    (howned : CheckOwnerAnnotation obj.objectMeta requestInstance = true) :
    ∃ store', Cleanup requestInstance store obj = .ok ({ resource := obj, deleted := false }, store') := by
  have hown := isResourceOwned_of_check hname howned
  unfold Cleanup
  simp only [hstored, hown, except_ok_bind, Bool.not_true]
  cases hdel : obj.objectMeta.deletionTimestamp with
  | some t => exact ⟨store, by simp⟩
  | none =>
      rcases Store.delete_cases store obj with ⟨hnone, -⟩ | ⟨s', hs', -⟩
      · rw [hstored] at hnone
        cases hnone
      · exact ⟨s', by simp [hs']⟩

/-- A `Cleanup` that reports the object gone has written nothing. -/
theorem Cleanup_store_of_deleted {requestInstance : SSP} {store store' : Store σ}
    {obj : ClientObject σ} {result : CleanupResult σ}
    (h : Cleanup requestInstance store obj = .ok (result, store')) (hdeleted : result.deleted = true) :
    store' = store := by
  unfold Cleanup at h
  split at h
  · cases h
    rfl
  · obtain ⟨isOwned, -, h⟩ := except_bind_eq_ok.mp h
    split_ifs at h
    · cases h
      rfl
    · split at h
      · cases h
        rfl
      · cases h
        cases hdeleted
    · cases h
      cases hdeleted

/-- An object the store holds as listed is not the SSP's when the cleanup of every owned
    listed object reports it gone: the cleanup of an owned one finds it and deletes it. -/
theorem not_owned_of_cleanup_deleted {requestInstance : SSP} {store : Store σ}
    {o : ClientObject σ} {listed : List (ClientObject σ)}
    (hname : requestInstance.objectMeta.name ≠ "")
    (hstored : store.get o.objectMeta.key = some o) (hlisted : o ∈ listed)
    (hgone : ∀ o' ∈ listed.filter (fun item => CheckOwnerAnnotation item.objectMeta requestInstance),
      ∀ result st, Cleanup requestInstance store o' = .ok (result, st) → result.deleted = true) :
    CheckOwnerAnnotation o.objectMeta requestInstance = false := by
  by_contra howned
  rw [Bool.not_eq_false] at howned
  obtain ⟨store', hcl⟩ := Cleanup_of_owned hname hstored howned
  exact absurd (hgone o (List.mem_filter.mpr ⟨hlisted, howned⟩) _ _ hcl) (by simp)

/-- A `DeleteAll` whose results all report their objects gone has written nothing, and the
    cleanup of each of its objects on the store it started from reports the object gone. -/
theorem DeleteAll_of_all_deleted {requestInstance : SSP} {store store' : Store σ}
    {resources : List (ClientObject σ)} {results : List (CleanupResult σ)}
    (h : DeleteAll requestInstance store resources = .ok (results, store'))
    (hall : ∀ result ∈ results, result.deleted = true) :
    store' = store ∧ ∀ o ∈ resources, ∀ result st,
      Cleanup requestInstance store o = .ok (result, st) → result.deleted = true := by
  -- the invariant holds of every prefix whose results all report their objects gone
  have hinv := Loop.foldlM_inv _ (fun done (acc : List (CleanupResult σ) × Store σ) =>
      (∀ result ∈ acc.1, result.deleted = true) → acc.2 = store ∧ ∀ o ∈ done, ∀ result st,
        Cleanup requestInstance store o = .ok (result, st) → result.deleted = true)
    ?_ resources [] _ _ (fun _ => ⟨rfl, by simp⟩) h
  · exact hinv hall
  intro done acc o acc' hacc hstep hall'
  obtain ⟨⟨result, st⟩, hcleanup, hacc'⟩ := except_bind_eq_ok.mp hstep
  cases hacc'
  have hprefix : ∀ r ∈ acc.1, r.deleted = true :=
    fun r hr => hall' r (List.mem_append_left _ hr)
  have hdeleted : result.deleted = true := hall' result (by simp)
  obtain ⟨hstore, hdone⟩ := hacc hprefix
  rw [hstore] at hcleanup
  refine ⟨Cleanup_store_of_deleted hcleanup hdeleted, fun o' ho' result' st' hcl => ?_⟩
  rcases List.mem_append.mp ho' with ho' | ho'
  · exact hdone o' ho' result' st' hcl
  · -- the cleanup of this object, on the store it started from, is the one just run
    rw [List.mem_singleton.mp ho', hcleanup] at hcl
    cases hcl
    exact hdeleted

end SspOperator.Common
