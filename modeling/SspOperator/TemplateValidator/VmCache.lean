import SspOperator.Meta
import SspOperator.Lib.Run
import SspOperator.Lib.SetMultimap

/-
  The template validator's VM cache (`virtinformers/vmcache.go`), the template keys
  it is indexed by (`labels/labels.go`) and its production filter
  (`vmNeedsTemplate`, `virtinformers/informers.go`).

  The cache is a `cache.Store` fed by a reflector. Its state is the primary map
  `store` from a VM's `namespace/name` key to a `VmCacheValue`, and the reverse
  index `vmsForTemplate` from a template key to the set of VM keys that reference
  it; `admitTemplate` refuses to delete a template while that set is non-empty.
  Go maps are finite maps and `NameSet` is a finite set: `GetVmsForTemplate`
  returns the names in map order, which is unspecified, so the model returns the set.

  `Consistent` says that `vmsForTemplate` is the reverse index of `store` along
  `Template`, holds no empty set, and that every value is stored under its own key.
  `Update`, `Delete` and `Replace` of a list with distinct keys keep it, and so does
  `Add` of a key the store does not hold (`consistent_run`). `Add` of a key that is
  already stored under another template does not: it overwrites the value and leaves
  the key in the old template's set (`vmCache_add_leaves_stale_entry`). `Replace`
  never consults the filter; on lists that pass it, it builds exactly the state that
  adding the objects one by one to an empty cache builds (`replace_eq_foldl_add`),
  and on other lists it stores objects that `Add` would have refused
  (`replace_stores_filtered_vm`).
-/

namespace SspOperator.TemplateValidator

open Machine

/-! ## Template keys (`labels/labels.go`) -/

def AnnotationTemplateNameKey : String := "vm.kubevirt.io/template"
def AnnotationTemplateNamespaceKey : String := "vm.kubevirt.io/template.namespace"
def AnnotationTemplateNamespaceOldKey : String := "vm.kubevirt.io/template-namespace"
def AnnotationValidationKey : String := "validations"
/-- Annotation of VMs that carry their own validation rules. -/
def VmValidationAnnotationKey : String := "vm.kubevirt.io/validations"
/-- Annotation that turns validation off for a VM. -/
def VmSkipValidationAnnotationKey : String := "vm.kubevirt.io/skip-validations"

/-- A reference to a template: its name, its namespace and the namespace under the
    old annotation key. -/
structure TemplateKey where
  name : String
  ns : String
  oldNs : String
deriving DecidableEq

namespace TemplateKey

/-- `AnyNamespace`: the namespace, or the old-style one when it is empty. -/
def anyNamespace (t : TemplateKey) : String :=
  if t.ns ≠ "" then t.ns else t.oldNs

/-- `IsValid`: both a name and some namespace are set. -/
def isValid (t : TemplateKey) : Bool :=
  t.name ≠ "" && t.anyNamespace ≠ ""

/-- `String`: `namespace/name` for a valid key, `""` otherwise. -/
def toString (t : TemplateKey) : String :=
  if !t.isValid then "" else t.anyNamespace ++ "/" ++ t.name

end TemplateKey

/-- The template references found in the labels and in the annotations of an object. -/
structure TemplateKeys where
  labelKey : TemplateKey
  annotationKey : TemplateKey
deriving DecidableEq

/-- `TemplateKeys.Get`: the label reference when it is valid, else the annotation one. -/
def TemplateKeys.get (t : TemplateKeys) : TemplateKey :=
  if t.labelKey.isValid then t.labelKey else t.annotationKey

/-- `TemplateKeys.IsValid`: one of the two references is valid. -/
def TemplateKeys.isValid (t : TemplateKeys) : Bool :=
  t.labelKey.isValid || t.annotationKey.isValid

def getTemplateKeyFromMap (targetMap : StringMap) : TemplateKey :=
  if targetMap.len = 0 then ⟨"", "", ""⟩
  else
    { name := targetMap.get AnnotationTemplateNameKey
      ns := targetMap.get AnnotationTemplateNamespaceKey
      oldNs := targetMap.get AnnotationTemplateNamespaceOldKey }

def getTemplateKeys (obj : ObjectMeta) : TemplateKeys :=
  { labelKey := getTemplateKeyFromMap obj.labels
    annotationKey := getTemplateKeyFromMap obj.annotations }

/-! ## Cache values and the template index -/

/-- What the cache stores for a VM: its own key and the key of its template. -/
structure VmCacheValue where
  vm : String
  template : String
deriving DecidableEq

/-- `vmCacheKey`: `namespace/name`. -/
def vmCacheKey (obj : ObjectMeta) : String :=
  (NamespacedName.mk obj.ns obj.name).toString

def newVmCacheValue (obj : ObjectMeta) : VmCacheValue :=
  { vm := vmCacheKey obj
    template := (getTemplateKeys obj).get.toString }

@[simp] theorem newVmCacheValue_vm (obj : ObjectMeta) :
    (newVmCacheValue obj).vm = vmCacheKey obj := rfl

/-- `templateMap`: template key to the set of VM keys. -/
abbrev TemplateMap := SetMultimap.M String String

/-- `templateMap.Add`. -/
def TemplateMap.add (t : TemplateMap) (template vm : String) : TemplateMap :=
  SetMultimap.add t template vm

/-- `templateMap.Delete`: the set is dropped when it becomes empty. -/
def TemplateMap.delete (t : TemplateMap) (template vm : String) : TemplateMap :=
  SetMultimap.remove t template vm

/-- `templateMap.List`: the VM keys of a template, none when it has no set. -/
def TemplateMap.list (t : TemplateMap) (template : String) : Finset String :=
  SetMultimap.get t template

/-! ## The cache -/

/-- `vmCache`: the stored values, the template index, whether `Replace` has run,
    and the filter applied by `Add` and `Update`. -/
structure VmCache where
  store : Finmap fun _ : String => VmCacheValue
  vmsForTemplate : TemplateMap
  hasSynced : Bool
  filter : ObjectMeta → Bool

/-- `NewVmCache`. -/
def newVmCache (filter : ObjectMeta → Bool) : VmCache :=
  { store := ∅, vmsForTemplate := ∅, hasSynced := false, filter := filter }

namespace VmCache

/-- `vmCache.Add`: objects the filter rejects are ignored; otherwise the value is
    stored under the object's key and the key is added to its template's set. -/
def add (v : VmCache) (obj : ObjectMeta) : VmCache :=
  if !v.filter obj then v
  else
    let key := vmCacheKey obj
    let val := newVmCacheValue obj
    { v with
      store := v.store.insert key val
      vmsForTemplate := v.vmsForTemplate.add val.template val.vm }

/-- `vmCache.Delete`. -/
def delete (v : VmCache) (obj : ObjectMeta) : VmCache :=
  let key := vmCacheKey obj
  match v.store.lookup key with
  | none => v
  | some val =>
      { v with
        store := v.store.erase key
        vmsForTemplate := v.vmsForTemplate.delete val.template val.vm }

/-- `vmCache.Update`: an object the filter rejects is deleted; otherwise the old
    entry, if any, is moved to the new template. -/
def update (v : VmCache) (obj : ObjectMeta) : VmCache :=
  if !v.filter obj then v.delete obj
  else
    let key := vmCacheKey obj
    let newVal := newVmCacheValue obj
    match v.store.lookup key with
    | none =>
        { v with
          store := v.store.insert key newVal
          vmsForTemplate := v.vmsForTemplate.add newVal.template newVal.vm }
    | some oldVal =>
        -- `reflect.DeepEqual(oldVal, newVal)` compares a `VmCacheValue` with a
        -- `*VmCacheValue`; values of different types are never deeply equal, so the
        -- early return of the source is never taken.
        { v with
          store := v.store.insert key newVal
          vmsForTemplate := (v.vmsForTemplate.delete oldVal.template oldVal.vm).add
            newVal.template newVal.vm }

/-- The body of `Replace`'s loop: one object stored in the new maps being built. -/
def replaceInto (acc : (Finmap fun _ : String => VmCacheValue) × TemplateMap)
    (obj : ObjectMeta) : (Finmap fun _ : String => VmCacheValue) × TemplateMap :=
  let key := vmCacheKey obj
  let val := newVmCacheValue obj
  (acc.1.insert key val, acc.2.add val.template val.vm)

/-- `vmCache.Replace`: both maps are rebuilt from the list, with no filter. -/
def replace (v : VmCache) (list : List ObjectMeta) : VmCache :=
  let built := list.foldl replaceInto (∅, ∅)
  { v with store := built.1, vmsForTemplate := built.2, hasSynced := true }

/-- `vmCache.GetByKey`. -/
def getByKey (v : VmCache) (key : String) : Option VmCacheValue :=
  v.store.lookup key

/-- `vmCache.Get`. -/
def get (v : VmCache) (obj : ObjectMeta) : Option VmCacheValue :=
  v.getByKey (vmCacheKey obj)

/-- `vmCache.ListKeys`, in unspecified order. -/
def listKeys (v : VmCache) : Finset String :=
  v.store.keys

/-- `vmCache.GetVmsForTemplate`. -/
def getVmsForTemplate (v : VmCache) (template : String) : Finset String :=
  v.vmsForTemplate.list template

end VmCache

/-- `vmNeedsTemplate`, the filter of the production cache: VMs that carry their own
    rules (the annotation is present, whatever its value) are left out, and so are
    VMs with no valid template reference. -/
def vmNeedsTemplate (vm : ObjectMeta) : Bool :=
  if vm.annotations.contains VmValidationAnnotationKey then false
  else (getTemplateKeys vm).isValid

/-! ## One lemma per operation -/

namespace VmCache

variable (v : VmCache) (obj : ObjectMeta)

theorem add_of_filter_false (h : v.filter obj = false) : v.add obj = v := by
  simp [add, h]

theorem add_of_filter_true (h : v.filter obj = true) :
    v.add obj = { v with
      store := v.store.insert (vmCacheKey obj) (newVmCacheValue obj)
      vmsForTemplate := v.vmsForTemplate.add (newVmCacheValue obj).template (vmCacheKey obj) } := by
  simp [add, h]

theorem delete_of_lookup_none (h : v.store.lookup (vmCacheKey obj) = none) : v.delete obj = v := by
  simp [delete, h]

theorem delete_of_lookup_some {val : VmCacheValue} (h : v.store.lookup (vmCacheKey obj) = some val) :
    v.delete obj = { v with
      store := v.store.erase (vmCacheKey obj)
      vmsForTemplate := v.vmsForTemplate.delete val.template val.vm } := by
  simp [delete, h]

theorem update_of_filter_false (h : v.filter obj = false) : v.update obj = v.delete obj := by
  simp [update, h]

theorem update_of_lookup_none (hf : v.filter obj = true)
    (h : v.store.lookup (vmCacheKey obj) = none) :
    v.update obj = { v with
      store := v.store.insert (vmCacheKey obj) (newVmCacheValue obj)
      vmsForTemplate := v.vmsForTemplate.add (newVmCacheValue obj).template (vmCacheKey obj) } := by
  simp [update, hf, h]

theorem update_of_lookup_some (hf : v.filter obj = true) {val : VmCacheValue}
    (h : v.store.lookup (vmCacheKey obj) = some val) :
    v.update obj = { v with
      store := v.store.insert (vmCacheKey obj) (newVmCacheValue obj)
      vmsForTemplate := (v.vmsForTemplate.delete val.template val.vm).add
        (newVmCacheValue obj).template (vmCacheKey obj) } := by
  simp [update, hf, h]

@[simp] theorem filter_add : (v.add obj).filter = v.filter := by
  unfold add; split <;> rfl

@[simp] theorem filter_delete : (v.delete obj).filter = v.filter := by
  cases hk : v.store.lookup (vmCacheKey obj) with
  | none => rw [delete_of_lookup_none v obj hk]
  | some val => rw [delete_of_lookup_some v obj hk]

/-- An object the filter accepts is listed under its template after `Add`. -/
theorem mem_getVmsForTemplate_add (h : v.filter obj = true) :
    vmCacheKey obj ∈ (v.add obj).getVmsForTemplate (newVmCacheValue obj).template := by
  rw [add_of_filter_true v obj h]
  exact SetMultimap.mem_get_add.mpr (Or.inl ⟨rfl, rfl⟩)

/-- An object the filter accepts is listed under its template after `Update`, whatever
    entry it had before. -/
theorem mem_getVmsForTemplate_update (h : v.filter obj = true) :
    vmCacheKey obj ∈ (v.update obj).getVmsForTemplate (newVmCacheValue obj).template := by
  cases hk : v.store.lookup (vmCacheKey obj) with
  | none =>
      rw [update_of_lookup_none v obj h hk]
      exact SetMultimap.mem_get_add.mpr (Or.inl ⟨rfl, rfl⟩)
  | some val =>
      rw [update_of_lookup_some v obj h hk]
      exact SetMultimap.mem_get_add.mpr (Or.inl ⟨rfl, rfl⟩)

end VmCache

/-- The production filter keeps exactly the VMs with no validations annotation and a
    valid template reference. -/
theorem vmNeedsTemplate_eq_true_iff {vm : ObjectMeta} :
    vmNeedsTemplate vm = true ↔
      vm.annotations.contains VmValidationAnnotationKey = false ∧
        (getTemplateKeys vm).isValid = true := by
  unfold vmNeedsTemplate
  cases vm.annotations.contains VmValidationAnnotationKey <;> simp

/-! ## The cache invariant -/

/-- The template index `idx` is the reverse index of `store` along `template`, holds no
    empty set, and every value is stored under its own key. -/
structure IndexedStore (store : Finmap fun _ : String => VmCacheValue) (idx : TemplateMap) :
    Prop where
  index : SetMultimap.IsIndex store VmCacheValue.template idx
  noEmpty : SetMultimap.NoEmpty idx
  ownKey : ∀ k val, store.lookup k = some val → val.vm = k

/-- The invariant of the cache's two maps. -/
def VmCache.Consistent (v : VmCache) : Prop :=
  IndexedStore v.store v.vmsForTemplate

theorem indexedStore_empty : IndexedStore ∅ ∅ :=
  ⟨SetMultimap.isIndex_empty _, SetMultimap.noEmpty_empty, by simp⟩

theorem consistent_newVmCache (filter : ObjectMeta → Bool) : (newVmCache filter).Consistent :=
  indexedStore_empty

namespace IndexedStore

variable {store : Finmap fun _ : String => VmCacheValue} {idx : TemplateMap}

theorem ownKey_insert (h : IndexedStore store idx) (obj : ObjectMeta) :
    ∀ k val, (store.insert (vmCacheKey obj) (newVmCacheValue obj)).lookup k = some val →
      val.vm = k := by
  intro k val hk
  by_cases hkey : k = vmCacheKey obj
  · subst hkey
    rw [Finmap.lookup_insert] at hk
    cases hk
    rfl
  · rw [Finmap.lookup_insert_of_ne _ hkey] at hk
    exact h.ownKey k val hk

/-- Storing an object under a key the store does not hold. -/
theorem insert_of_lookup_none (h : IndexedStore store idx) (obj : ObjectMeta)
    (hk : store.lookup (vmCacheKey obj) = none) :
    IndexedStore (store.insert (vmCacheKey obj) (newVmCacheValue obj))
      (idx.add (newVmCacheValue obj).template (vmCacheKey obj)) :=
  ⟨SetMultimap.isIndex_insert_of_lookup_none h.index hk _,
    SetMultimap.noEmpty_add h.noEmpty _ _, h.ownKey_insert obj⟩

/-- Storing an object again under its key with the template it is stored with. -/
theorem insert_of_lookup_same (h : IndexedStore store idx) (obj : ObjectMeta) {val : VmCacheValue}
    (hk : store.lookup (vmCacheKey obj) = some val)
    (ht : val.template = (newVmCacheValue obj).template) :
    IndexedStore (store.insert (vmCacheKey obj) (newVmCacheValue obj))
      (idx.add (newVmCacheValue obj).template (vmCacheKey obj)) := by
  have hval : val = newVmCacheValue obj := by
    have hvm := h.ownKey _ _ hk
    cases val
    simp_all [newVmCacheValue]
  subst hval
  exact ⟨SetMultimap.isIndex_insert_of_lookup_eq h.index hk,
    SetMultimap.noEmpty_add h.noEmpty _ _, h.ownKey_insert obj⟩

/-- Moving a stored key to the template of a new value, as `Update` does. -/
theorem insert_of_lookup_some (h : IndexedStore store idx) (obj : ObjectMeta) {val : VmCacheValue}
    (hk : store.lookup (vmCacheKey obj) = some val) :
    IndexedStore (store.insert (vmCacheKey obj) (newVmCacheValue obj))
      ((idx.delete val.template val.vm).add (newVmCacheValue obj).template (vmCacheKey obj)) := by
  have hvm : val.vm = vmCacheKey obj := h.ownKey _ _ hk
  rw [hvm]
  exact ⟨SetMultimap.isIndex_insert_of_lookup_some h.index hk _,
    SetMultimap.noEmpty_add (SetMultimap.noEmpty_remove h.noEmpty _ _) _ _, h.ownKey_insert obj⟩

/-- Erasing a stored key, as `Delete` does. -/
theorem erase (h : IndexedStore store idx) (obj : ObjectMeta) {val : VmCacheValue}
    (hk : store.lookup (vmCacheKey obj) = some val) :
    IndexedStore (store.erase (vmCacheKey obj)) (idx.delete val.template val.vm) := by
  have hvm : val.vm = vmCacheKey obj := h.ownKey _ _ hk
  rw [hvm]
  refine ⟨SetMultimap.isIndex_erase h.index hk, SetMultimap.noEmpty_remove h.noEmpty _ _, ?_⟩
  intro k val' hk'
  by_cases hkey : k = vmCacheKey obj
  · subst hkey; simp at hk'
  · rw [Finmap.lookup_erase_ne hkey] at hk'
    exact h.ownKey k val' hk'

end IndexedStore

namespace VmCache

variable {v : VmCache}

/-- What `Add` needs to keep the invariant: an object it stores is not already stored
    under another template. -/
def AddOk (v : VmCache) (obj : ObjectMeta) : Prop :=
  v.filter obj = true → ∀ val, v.store.lookup (vmCacheKey obj) = some val →
    val.template = (newVmCacheValue obj).template

theorem Consistent.add (h : v.Consistent) (obj : ObjectMeta) (hok : v.AddOk obj) :
    (v.add obj).Consistent := by
  cases hf : v.filter obj with
  | false => rw [add_of_filter_false v obj hf]; exact h
  | true =>
      rw [add_of_filter_true v obj hf]
      cases hk : v.store.lookup (vmCacheKey obj) with
      | none => exact IndexedStore.insert_of_lookup_none h obj hk
      | some val => exact IndexedStore.insert_of_lookup_same h obj hk (hok hf val hk)

theorem Consistent.delete (h : v.Consistent) (obj : ObjectMeta) : (v.delete obj).Consistent := by
  cases hk : v.store.lookup (vmCacheKey obj) with
  | none => rw [delete_of_lookup_none v obj hk]; exact h
  | some val => rw [delete_of_lookup_some v obj hk]; exact IndexedStore.erase h obj hk

theorem Consistent.update (h : v.Consistent) (obj : ObjectMeta) : (v.update obj).Consistent := by
  cases hf : v.filter obj with
  | false => rw [update_of_filter_false v obj hf]; exact h.delete obj
  | true =>
      cases hk : v.store.lookup (vmCacheKey obj) with
      | none =>
          rw [update_of_lookup_none v obj hf hk]
          exact IndexedStore.insert_of_lookup_none h obj hk
      | some val =>
          rw [update_of_lookup_some v obj hf hk]
          exact IndexedStore.insert_of_lookup_some h obj hk

/-- `Replace`'s loop keeps the invariant while the keys still to come are not stored. -/
theorem indexedStore_foldl_replaceInto :
    ∀ (list : List ObjectMeta) (acc : (Finmap fun _ : String => VmCacheValue) × TemplateMap),
      IndexedStore acc.1 acc.2 → (list.map vmCacheKey).Nodup →
      (∀ obj ∈ list, acc.1.lookup (vmCacheKey obj) = none) →
      IndexedStore (list.foldl replaceInto acc).1 (list.foldl replaceInto acc).2
  | [], _, h, _, _ => h
  | obj :: rest, acc, h, hnd, hfresh => by
      rw [List.map_cons, List.nodup_cons] at hnd
      refine indexedStore_foldl_replaceInto rest (replaceInto acc obj)
        (IndexedStore.insert_of_lookup_none h obj (hfresh obj List.mem_cons_self)) hnd.2 ?_
      intro o ho
      have hne : vmCacheKey o ≠ vmCacheKey obj := fun he =>
        hnd.1 (he ▸ List.mem_map_of_mem ho)
      simp only [replaceInto, Finmap.lookup_insert_of_ne _ hne]
      exact hfresh o (List.mem_cons_of_mem _ ho)

theorem Consistent.replace (v : VmCache) (list : List ObjectMeta)
    (hnd : (list.map vmCacheKey).Nodup) : (v.replace list).Consistent :=
  indexedStore_foldl_replaceInto list (∅, ∅) indexedStore_empty hnd (by simp)

end VmCache

/-! ## Runs of the cache -/

/-- The calls a reflector makes on its store. -/
inductive CacheOp
  | add (obj : ObjectMeta)
  | update (obj : ObjectMeta)
  | delete (obj : ObjectMeta)
  | replace (list : List ObjectMeta)

/-- One call on the cache. -/
def VmCache.apply (v : VmCache) : CacheOp → VmCache
  | .add obj => v.add obj
  | .update obj => v.update obj
  | .delete obj => v.delete obj
  | .replace list => v.replace list

/-- The calls under which the cache stays consistent: `Add` does not move a stored key
    to another template, and a `Replace` list has distinct keys. -/
def CacheOp.Allowed (v : VmCache) : CacheOp → Prop
  | .add obj => v.AddOk obj
  | .replace list => (list.map vmCacheKey).Nodup
  | .update _ => True
  | .delete _ => True

theorem VmCache.Consistent.apply {v : VmCache} (h : v.Consistent) (op : CacheOp)
    (hok : CacheOp.Allowed v op) : (v.apply op).Consistent := by
  cases op with
  | add obj => exact h.add obj hok
  | update obj => exact h.update obj
  | delete obj => exact h.delete obj
  | replace list => exact VmCache.Consistent.replace v list hok

/-- Every allowed run from a fresh cache ends in a consistent state: a VM key is listed
    under a template exactly when the store holds the key with that template. -/
theorem consistent_run (filter : ObjectMeta → Bool) (ops : List CacheOp)
    (hg : Guarded VmCache.apply CacheOp.Allowed (newVmCache filter) ops) :
    (run VmCache.apply (newVmCache filter) ops).Consistent :=
  run_inv (fun _ op h hok => h.apply op hok) _ ops (consistent_newVmCache filter) hg

theorem consistent_run_add_update :
    (run VmCache.apply (newVmCache vmNeedsTemplate)
      [.add { name := "vm-a", ns := "ns"
              labels := StringMap.ofList [(AnnotationTemplateNameKey, "t1"),
                (AnnotationTemplateNamespaceKey, "ns")] },
       .update { name := "vm-a", ns := "ns"
                 labels := StringMap.ofList [(AnnotationTemplateNameKey, "t2"),
                   (AnnotationTemplateNamespaceKey, "ns")] }]).Consistent :=
  consistent_run vmNeedsTemplate _ ⟨fun _ _ h => by simp [newVmCache] at h, trivial, trivial⟩

/-- A VM `ns/vm-a` whose labels reference the template `ns/<template>`. -/
def vmReferencing (template : String) : ObjectMeta :=
  { name := "vm-a", ns := "ns"
    labels := StringMap.ofList
      [(AnnotationTemplateNameKey, template), (AnnotationTemplateNamespaceKey, "ns")] }

/-- `Add` of a stored key with another template keeps the key in the old template's set:
    after adding `ns/vm-a` referencing `ns/t1` and then referencing `ns/t2`, the store
    says `ns/t2` while `GetVmsForTemplate("ns/t1")` still lists the VM. -/
theorem vmCache_add_leaves_stale_entry :
    "ns/vm-a" ∈ (((newVmCache vmNeedsTemplate).add (vmReferencing "t1")).add
      (vmReferencing "t2")).getVmsForTemplate "ns/t1" ∧
    (((newVmCache vmNeedsTemplate).add (vmReferencing "t1")).add
      (vmReferencing "t2")).getByKey "ns/vm-a" = some ⟨"ns/vm-a", "ns/t2"⟩ := by
  decide

/-! ## `Replace` and `Add` -/

namespace VmCache

theorem filter_foldl_add (w : VmCache) (list : List ObjectMeta) :
    (list.foldl VmCache.add w).filter = w.filter := by
  induction list generalizing w with
  | nil => rfl
  | cons obj rest ih => rw [List.foldl_cons, ih, filter_add]

/-- `Replace`'s loop builds what `Add` builds, one object at a time, when every object
    passes the filter. -/
theorem foldl_replaceInto_eq (w : VmCache) (list : List ObjectMeta)
    (h : ∀ obj ∈ list, w.filter obj = true) :
    list.foldl replaceInto (w.store, w.vmsForTemplate) =
      ((list.foldl VmCache.add w).store, (list.foldl VmCache.add w).vmsForTemplate) := by
  induction list generalizing w with
  | nil => rfl
  | cons obj rest ih =>
      have hobj : w.filter obj = true := h obj List.mem_cons_self
      have hrest : ∀ o ∈ rest, (w.add obj).filter o = true := by
        intro o ho
        rw [filter_add]
        exact h o (List.mem_cons_of_mem _ ho)
      rw [List.foldl_cons, List.foldl_cons, ← ih (w.add obj) hrest, add_of_filter_true w obj hobj]
      rfl

/-- On a list of objects that pass the filter, `Replace` builds the cache that adding
    the objects one by one to an empty cache with the same filter builds (and marks it
    synced). -/
theorem replace_eq_foldl_add (v : VmCache) (list : List ObjectMeta)
    (h : ∀ obj ∈ list, v.filter obj = true) :
    v.replace list = { list.foldl VmCache.add (newVmCache v.filter) with hasSynced := true } := by
  have hfold := foldl_replaceInto_eq (newVmCache v.filter) list h
  have hf := filter_foldl_add (newVmCache v.filter) list
  unfold VmCache.replace
  rw [show ((∅, ∅) : (Finmap fun _ : String => VmCacheValue) × TemplateMap) =
    ((newVmCache v.filter).store, (newVmCache v.filter).vmsForTemplate) from rfl, hfold]
  generalize list.foldl VmCache.add (newVmCache v.filter) = w at hf ⊢
  cases v
  cases w
  simp_all [newVmCache]

theorem replace_one_vm_eq_add :
    (newVmCache vmNeedsTemplate).replace [vmReferencing "t1"] =
      { [vmReferencing "t1"].foldl VmCache.add (newVmCache vmNeedsTemplate) with hasSynced := true } :=
  replace_eq_foldl_add _ _ (by decide)

end VmCache

/-- A VM `ns/vm-b` that references `ns/t1` and carries its own rules. -/
def vmWithOwnRules : ObjectMeta :=
  { name := "vm-b", ns := "ns"
    labels := StringMap.ofList
      [(AnnotationTemplateNameKey, "t1"), (AnnotationTemplateNamespaceKey, "ns")]
    annotations := StringMap.ofList [(VmValidationAnnotationKey, "[]")] }

/-- `Replace` stores a VM that the production filter refuses: after a relist with
    `vmWithOwnRules`, `GetVmsForTemplate("ns/t1")` lists it, while adding it to an empty
    cache leaves the set empty. -/
theorem replace_stores_filtered_vm :
    vmNeedsTemplate vmWithOwnRules = false ∧
    "ns/vm-b" ∈ ((newVmCache vmNeedsTemplate).replace [vmWithOwnRules]).getVmsForTemplate "ns/t1" ∧
    ([vmWithOwnRules].foldl VmCache.add (newVmCache vmNeedsTemplate)).getVmsForTemplate "ns/t1" = ∅ := by
  decide

end SspOperator.TemplateValidator
