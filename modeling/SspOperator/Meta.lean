import Mathlib.Data.Finmap

/-
  Kubernetes object metadata, as the operator and the template validator read it.

  A Go `map[string]string` is `StringMap`: `none` is the nil map, `some m` a map
  with the entries of the finite map `m`. Reads treat the nil map as empty
  (`m[k]` is `""`, `len(m)` is `0`, `_, ok := m[k]` is `false`), which is what
  `StringMap.get`, `StringMap.len` and `StringMap.contains` say. Code that tells a
  nil map from an empty one (`found.GetLabels() == nil`) matches on the option.

  Go's `Namespace` fields are `ns` here (`namespace` is a keyword of Lean).
  `NamespacedName.toString` is `types.NamespacedName.String()`: the namespace, a
  slash and the name, also when the namespace is empty. It is the key of the VM
  cache and of `client.ObjectKeyFromObject`. `metaNamespaceKeyFunc` is the key of
  client-go's informer stores, which leaves the slash out when there is no namespace.

  A `templatev1.Template` keeps its objects raw (`runtime.RawExtension`); their type is
  the parameter `ο`, decoded where the code decodes them.

  A Go call that can fail ends in `Except Fault`: an error it returns, or a run-time
  panic such as the dereference of a nil pointer (`deref`).
-/

namespace SspOperator

/-- How a Go call fails: it returns an error, or it panics. -/
inductive Fault
  | error (msg : String)
  | panic (msg : String)
deriving DecidableEq

/-- The run-time panic of a nil pointer dereference. -/
def nilDereference : Fault :=
  .panic "runtime error: invalid memory address or nil pointer dereference"

/-- `*p` for a pointer `p`, `none` being nil. -/
def deref {α : Type} : Option α → Except Fault α
  | some a => .ok a
  | none => .error nilDereference

@[simp] theorem deref_some {α : Type} (a : α) : deref (some a) = .ok a := rfl

@[simp] theorem deref_none {α : Type} : deref (none : Option α) = .error nilDereference := rfl

/-! The `Except` steps that symbolic execution of the modelled Go code takes. -/

@[simp] theorem except_pure {ε α : Type} (a : α) : (pure a : Except ε α) = .ok a := rfl

@[simp] theorem except_throw {ε α : Type} (e : ε) : (throw e : Except ε α) = .error e := rfl

@[simp] theorem except_ok_bind {ε α β : Type} (a : α) (f : α → Except ε β) :
    (Except.ok a >>= f) = f a := rfl

@[simp] theorem except_error_bind {ε α β : Type} (e : ε) (f : α → Except ε β) :
    (Except.error e >>= f) = Except.error e := rfl

@[simp] theorem mapError_ok {ε ε' α : Type} (f : ε → ε') (a : α) :
    (Except.ok a : Except ε α).mapError f = .ok a := rfl

@[simp] theorem mapError_eq_ok {ε ε' α : Type} (f : ε → ε') (x : Except ε α) (a : α) :
    x.mapError f = .ok a ↔ x = .ok a := by
  cases x <;> simp [Except.mapError]

@[simp] theorem mapError_error {ε ε' α : Type} (f : ε → ε') (e : ε) :
    (Except.error e : Except ε α).mapError f = .error (f e) := rfl

theorem except_bind_eq_ok {ε α β : Type} {x : Except ε α} {f : α → Except ε β} {b : β} :
    x >>= f = .ok b ↔ ∃ a, x = .ok a ∧ f a = .ok b := by
  cases x <;> simp

/-! ## Calls that do not panic -/

/-- A Go call that does not panic: it returns, with a value or with an error. -/
def NoPanic {α : Type} (x : Except Fault α) : Prop :=
  ∀ msg, x ≠ .error (.panic msg)

namespace NoPanic

variable {α β : Type}

theorem ok (a : α) : NoPanic (.ok a : Except Fault α) := by
  intro msg h
  cases h

theorem error (e : String) : NoPanic (.error (.error e) : Except Fault α) := by
  intro msg h
  cases h

theorem bind {x : Except Fault α} {f : α → Except Fault β} (hx : NoPanic x)
    (hf : ∀ a, x = .ok a → NoPanic (f a)) : NoPanic (x >>= f) := by
  cases x with
  | error e =>
      -- the error is passed on, at the type of the rest of the call
      intro msg h
      rw [except_error_bind] at h
      cases h
      exact hx msg rfl
  | ok a =>
      rw [except_ok_bind]
      exact hf a rfl

theorem ite {c : Prop} [Decidable c] {x y : Except Fault α} (hx : NoPanic x) (hy : NoPanic y) :
    NoPanic (if c then x else y) := by
  split
  · exact hx
  · exact hy

/-- An error of a call that cannot panic, returned as a Go error. -/
theorem mapError (x : Except String α) : NoPanic (x.mapError Fault.error) := by
  cases x with
  | error e => exact error e
  | ok a => exact ok a

theorem mapM {f : α → Except Fault β} :
    ∀ {l : List α}, (∀ a ∈ l, NoPanic (f a)) → NoPanic (l.mapM f)
  | [], _ => ok []
  | a :: l, h => by
      rw [List.mapM_cons]
      refine bind (h a (by simp)) fun b _ => bind (mapM fun a' ha' => h a' (by simp [ha']))
        fun bs _ => ok (b :: bs)

/-- A call that does not panic returns a value or an error. -/
theorem cases {x : Except Fault α} (h : NoPanic x) :
    (∃ a, x = .ok a) ∨ ∃ e, x = .error (.error e) := by
  rcases x with (e | msg) | a
  · exact Or.inr ⟨e, rfl⟩
  · exact absurd rfl (h msg)
  · exact Or.inl ⟨a, rfl⟩

end NoPanic

/-- A loop of checks passes exactly when each of its checks passes. -/
theorem except_forM_eq_ok {ε α : Type} (f : α → Except ε PUnit) (l : List α) :
    l.forM f = .ok () ↔ ∀ x ∈ l, f x = .ok () := by
  induction l with
  | nil => simp
  | cons x l ih =>
      show (f x >>= fun _ => l.forM f) = _ ↔ _
      cases hx : f x with
      | error e => simp [hx]
      | ok u =>
          cases u
          simp only [except_ok_bind, List.mem_cons, forall_eq_or_imp, hx, true_and]
          exact ih

/-- A Go `map[string]string`; `none` is the nil map. -/
abbrev StringMap := Option (Finmap fun _ : String => String)

namespace StringMap

/-- `m[k]`: the value at `k`, or the zero value `""`. -/
def get (m : StringMap) (k : String) : String :=
  ((m.bind fun f => f.lookup k)).getD ""

/-- `_, ok := m[k]`. -/
def contains (m : StringMap) (k : String) : Bool :=
  match m with
  | none => false
  | some f => decide (k ∈ f)

/-- `len(m)`. -/
def len (m : StringMap) : Nat :=
  match m with
  | none => 0
  | some f => f.keys.card

/-- The map literal with the given entries (a later entry overrides an earlier one). -/
def ofList (l : List (String × String)) : StringMap :=
  some (l.foldl (fun f e => f.insert e.1 e.2) ∅)

@[simp] theorem get_none (k : String) : get none k = "" := rfl

@[simp] theorem contains_none (k : String) : contains none k = false := rfl

@[simp] theorem len_none : len none = 0 := rfl

theorem get_of_not_contains {m : StringMap} {k : String} (h : contains m k = false) :
    get m k = "" := by
  cases m with
  | none => rfl
  | some f =>
      have hk : k ∉ f := by simpa [contains] using h
      simp [get, Finmap.lookup_eq_none.mpr hk]

/-- The entry at `k`, if there is one. -/
def lookup (m : StringMap) (k : String) : Option String :=
  m.bind fun f => f.lookup k

/-- `m[k] = v`. The code writes only into maps it has made non-nil, so a nil map is
    read here as the empty one. -/
def set (m : StringMap) (k v : String) : StringMap :=
  some ((m.getD ∅).insert k v)

/-- `delete(m, k)`; deleting from a nil map does nothing. -/
def delete (m : StringMap) (k : String) : StringMap :=
  m.map fun f => f.erase k

/-- `for k := range m { if p(k) { delete(m, k) } }`. -/
def deleteIf (p : String → Bool) (m : StringMap) : StringMap :=
  m.map fun f => f.foldl (fun acc k _ => if p k then acc.erase k else acc)
    (by
      intro acc k₁ _ k₂ _
      by_cases h₁ : p k₁ <;> by_cases h₂ : p k₂ <;> simp [h₁, h₂, Finmap.erase_erase])
    f

/-- Every entry of `m` is an entry of `m'`; a nil map has no entries. -/
def Subset (m m' : StringMap) : Prop :=
  ∀ k v, m.lookup k = some v → m'.lookup k = some v

/-- The map `equality.Semantic.DeepEqual` sees: a nil map is the empty one. -/
def semantic (m : StringMap) : Finmap fun _ : String => String :=
  m.getD ∅

@[simp] theorem lookup_none (k : String) : lookup none k = none := rfl

@[simp] theorem lookup_some (f : Finmap fun _ : String => String) (k : String) :
    lookup (some f) k = f.lookup k := rfl

@[simp] theorem semantic_none : semantic none = ∅ := rfl

@[simp] theorem semantic_some (f : Finmap fun _ : String => String) : semantic (some f) = f :=
  rfl

theorem lookup_eq_semantic (m : StringMap) (k : String) : m.lookup k = m.semantic.lookup k := by
  cases m <;> rfl

@[simp] theorem lookup_set (m : StringMap) (k v k' : String) :
    (m.set k v).lookup k' = if k' = k then some v else m.lookup k' := by
  by_cases h : k' = k
  · subst h
    simp [set, Finmap.lookup_insert]
  · cases m <;> simp [set, h, Finmap.lookup_insert_of_ne]

@[simp] theorem lookup_delete (m : StringMap) (k k' : String) :
    (m.delete k).lookup k' = if k' = k then none else m.lookup k' := by
  cases m with
  | none => simp [delete]
  | some f =>
      by_cases h : k' = k
      · subst h
        simp [delete, Finmap.lookup_erase]
      · simp [delete, h, Finmap.lookup_erase_ne h]

@[simp] theorem lookup_some_getD (m : StringMap) (k : String) :
    lookup (some (m.getD ∅)) k = m.lookup k := by
  cases m <;> simp

@[simp] theorem set_ne_none (m : StringMap) (k v : String) : m.set k v ≠ none := by
  simp [set]

@[simp] theorem delete_eq_none (m : StringMap) (k : String) : m.delete k = none ↔ m = none := by
  cases m <;> simp [delete]

/-- Two maps are equal when they are nil together and have the same entries. -/
theorem eq_of_lookup {m m' : StringMap} (hnil : m = none ↔ m' = none)
    (h : ∀ k, m.lookup k = m'.lookup k) : m = m' := by
  cases m with
  | none => exact (hnil.mp rfl).symm
  | some f =>
      cases m' with
      | none => exact absurd (hnil.mpr rfl) (by simp)
      | some f' =>
          congr 1
          exact Finmap.ext_lookup fun k => h k

theorem Subset.refl (m : StringMap) : Subset m m := fun _ _ h => h

theorem Subset.trans {m₁ m₂ m₃ : StringMap} (h₁ : Subset m₁ m₂) (h₂ : Subset m₂ m₃) :
    Subset m₁ m₃ := fun k v h => h₂ k v (h₁ k v h)

/-- A map with no entries beyond those of the nil map is empty. -/
theorem semantic_eq_empty {m : StringMap} (h : Subset m none) : m.semantic = ∅ := by
  apply Finmap.ext_lookup
  intro k
  cases hk : m.semantic.lookup k with
  | none => simp
  | some v =>
      have hv := h k v (by rw [lookup_eq_semantic]; exact hk)
      simp at hv

/-- The loop of `deleteIf` over the entries, from any map: it removes the keys of the entries
    that `p` picks. -/
theorem lookup_foldl_erase (p : String → Bool) (k : String)
    (g : (Finmap fun _ : String => String) → (Sigma fun _ : String => String) →
      Finmap fun _ : String => String) {_ : RightCommutative g}
    (hg : ∀ acc x, g acc x = if p x.1 then acc.erase x.1 else acc) :
    ∀ (s : Multiset (Sigma fun _ : String => String)) (acc : Finmap fun _ : String => String),
      (s.foldl g acc).lookup k = if p k ∧ k ∈ s.map Sigma.fst then none else acc.lookup k := by
  intro s
  induction s using Multiset.induction_on with
  | empty => intro acc; simp
  | cons x s ih =>
      intro acc
      rw [Multiset.foldl_cons, ih, hg]
      simp only [Multiset.map_cons, Multiset.mem_cons]
      by_cases hpk : p k = true
      · by_cases hk : k = x.1
        · subst hk
          simp [hpk]
        · -- another key's erase leaves `k` alone
          have hlookup : (if p x.1 = true then acc.erase x.1 else acc).lookup k = acc.lookup k := by
            split_ifs
            · exact Finmap.lookup_erase_ne hk
            · rfl
          simp only [hpk, hk, hlookup, true_and, false_or]
      · have hlookup : (if p x.1 = true then acc.erase x.1 else acc).lookup k = acc.lookup k := by
          split_ifs with hx
          · exact Finmap.lookup_erase_ne fun h => hpk (h ▸ hx)
          · rfl
        simp only [hpk, hlookup, Bool.false_eq_true, false_and, if_false]

@[simp] theorem lookup_deleteIf (p : String → Bool) (m : StringMap) (k : String) :
    (m.deleteIf p).lookup k = if p k then none else m.lookup k := by
  cases m with
  | none => simp [deleteIf]
  | some f =>
      simp only [deleteIf, Option.map_some, lookup_some, Finmap.foldl]
      rw [lookup_foldl_erase p k _ (fun acc x => rfl)]
      by_cases hpk : p k = true
      · cases hk : f.lookup k with
        | none => simp [hpk]
        | some v =>
            have hmem : k ∈ f.entries.map Sigma.fst :=
              Multiset.mem_map.mpr ⟨⟨k, v⟩, Finmap.lookup_eq_some_iff.mp hk, rfl⟩
            simp [hpk, hmem]
      · simp [hpk]

@[simp] theorem deleteIf_eq_none (p : String → Bool) (m : StringMap) :
    m.deleteIf p = none ↔ m = none := by
  cases m <;> simp [deleteIf]

theorem contains_eq_isSome (m : StringMap) (k : String) : m.contains k = (m.lookup k).isSome := by
  cases m with
  | none => rfl
  | some f => rw [contains, Bool.eq_iff_iff, decide_eq_true_iff, lookup_some, Finmap.lookup_isSome]

/-- An entry left after `deleteIf p` is at a key `p` spares. -/
theorem not_of_lookup_deleteIf {p : String → Bool} {m : StringMap} {k v : String}
    (h : (m.deleteIf p).lookup k = some v) : p k = false := by
  rw [lookup_deleteIf] at h
  cases hp : p k
  · rfl
  · simp [hp] at h

/-- Deleting keys that hold no entry of the map changes nothing. -/
theorem deleteIf_of_forall {p : String → Bool} {m : StringMap}
    (h : ∀ k v, m.lookup k = some v → p k = false) : m.deleteIf p = m := by
  refine eq_of_lookup (deleteIf_eq_none p m) fun k => ?_
  rw [lookup_deleteIf]
  cases hk : m.lookup k with
  | none => simp
  | some v => simp [h k v hk]

/-- Deleting keys that `n` does not hold keeps the entries of `n`. -/
theorem Subset.deleteIf_not_contains (q : String → Bool) {n m : StringMap} (h : n.Subset m) :
    n.Subset (m.deleteIf fun k => q k && !n.contains k) := by
  intro k v hk
  have hcontains : n.contains k = true := by
    rw [contains_eq_isSome, hk]
    rfl
  rw [lookup_deleteIf, hcontains]
  simpa using h k v hk

/-! ## Steps that write fixed entries -/

/-- A step on maps that writes or deletes the same entries whatever the map holds: after it,
    the map holds at `k` what `c k` gives, or, where `c k` is `none`, what it held. -/
def Overrides (step : StringMap → StringMap) (c : String → Option (Option String)) : Prop :=
  ∀ m k, (step m).lookup k = (c k).getD (m.lookup k)

namespace Overrides

theorem set (k : String) (v : String) :
    Overrides (fun m => m.set k v) fun k' => if k' = k then some (some v) else none := by
  intro m k'
  by_cases h : k' = k <;> simp [h]

theorem delete (k : String) :
    Overrides (fun m => m.delete k) fun k' => if k' = k then some none else none := by
  intro m k'
  by_cases h : k' = k <;> simp [h]

theorem deleteIf (p : String → Bool) :
    Overrides (fun m => m.deleteIf p) fun k => if p k then some none else none := by
  intro m k
  by_cases h : p k = true <;> simp [h]

theorem getD_empty : Overrides (fun m => some (m.getD ∅)) fun _ => none := by
  intro m k
  exact lookup_some_getD m k

theorem comp {step₁ step₂ : StringMap → StringMap} {c₁ c₂ : String → Option (Option String)}
    (h₁ : Overrides step₁ c₁) (h₂ : Overrides step₂ c₂) :
    Overrides (fun m => step₂ (step₁ m)) fun k => (c₂ k).or (c₁ k) := by
  intro m k
  show (step₂ (step₁ m)).lookup k = ((c₂ k).or (c₁ k)).getD (m.lookup k)
  rw [h₂, h₁]
  cases c₂ k <;> rfl

variable {step : StringMap → StringMap} {c : String → Option (Option String)}

/-- A map that holds the entries of a written map, and is held in another, is written to a
    map between the two again. -/
theorem between (h : Overrides step c) {p l u : StringMap} (hpl : (step p).Subset l)
    (hlu : l.Subset u) : (step p).Subset (step l) ∧ (step l).Subset u := by
  constructor
  · intro k v hk
    have hk' := hk
    rw [h] at hk' ⊢
    cases hc : c k with
    | some w =>
        rw [hc] at hk'
        exact hk'
    | none => exact hpl k v hk
  · intro k v hk
    rw [h] at hk
    cases hc : c k with
    | some w =>
        rw [hc] at hk
        -- the entry is written, so the first map has it too
        have hp : (step p).lookup k = some v := by
          rw [h, hc]
          exact hk
        exact hlu k v (hpl k v hp)
    | none =>
        rw [hc] at hk
        exact hlu k v hk

/-- A map the step keeps is kept within any map holding it. -/
theorem subset_step (h : Overrides step c) {n m : StringMap} (hn : n.Subset (step n))
    (hm : n.Subset m) : n.Subset (step m) := by
  intro k v hk
  have hkn := hn k v hk
  rw [h] at hkn ⊢
  cases hc : c k with
  | none => exact hm k v hk
  | some w =>
      rw [hc] at hkn
      exact hkn

/-- A map held in what the step wrote is kept by the step. -/
theorem subset_self (h : Overrides step c) {n m : StringMap} (hn : n.Subset (step m)) :
    n.Subset (step n) := by
  intro k v hk
  have hkm := hn k v hk
  rw [h] at hkm ⊢
  cases hc : c k with
  | none => exact hk
  | some w =>
      rw [hc] at hkm
      exact hkm

/-- The step reads back what it wrote: on a map with the entries of a written one it
    changes no entry. -/
theorem lookup_fixed (h : Overrides step c) {m x : StringMap}
    (hm : ∀ k, m.lookup k = (step x).lookup k) (k : String) :
    (step m).lookup k = m.lookup k := by
  rw [h, hm, h]
  cases c k <;> rfl

end Overrides

end StringMap

/-- `strings.HasPrefix`. -/
def HasPrefix (s pre : String) : Bool :=
  pre.toList.isPrefixOf s.toList

/-- `strings.TrimPrefix`. -/
def TrimPrefix (s pre : String) : String :=
  if HasPrefix s pre then String.ofList (s.toList.drop pre.length) else s

/-- `strings.Contains`. Lean's strings are valid UTF-8, on which a byte substring is a
    substring of characters. -/
def Contains (s substr : String) : Bool :=
  decide (substr.toList <:+: s.toList)

/-- `metav1.OwnerReference`; `controller` and `blockOwnerDeletion` are `*bool`. -/
structure OwnerReference where
  apiVersion : String
  kind : String
  name : String
  uid : String
  controller : Option Bool := none
  blockOwnerDeletion : Option Bool := none
deriving DecidableEq

/-- `metav1.ObjectMeta`, with the fields the modelled code reads. -/
structure ObjectMeta where
  name : String
  ns : String := ""
  labels : StringMap := none
  annotations : StringMap := none
  ownerReferences : List OwnerReference := []
  uid : String := ""
  resourceVersion : String := ""
  generation : Nat := 0
  /-- The time deletion was requested, in seconds; only its presence is read. -/
  deletionTimestamp : Option Nat := none
deriving DecidableEq

/-- The metadata as `equality.Semantic.DeepEqual` compares it: nil maps are empty. -/
def ObjectMeta.semantic (m : ObjectMeta) : ObjectMeta :=
  { m with labels := some m.labels.semantic, annotations := some m.annotations.semantic }

/-- `types.NamespacedName`, also `client.ObjectKey`. -/
structure NamespacedName where
  ns : String
  name : String
deriving DecidableEq

/-- `types.NamespacedName.String()`. -/
def NamespacedName.toString (n : NamespacedName) : String :=
  n.ns ++ "/" ++ n.name

/-- `client.ObjectKeyFromObject`. -/
def ObjectMeta.key (obj : ObjectMeta) : NamespacedName :=
  { ns := obj.ns, name := obj.name }

/-- `cache.MetaNamespaceKeyFunc`, through `MetaObjectToName` and `ObjectName.String`. -/
def metaNamespaceKeyFunc (obj : ObjectMeta) : String :=
  if obj.ns.length > 0 then obj.ns ++ "/" ++ obj.name else obj.name

/-- With a namespace, the store key is the `NamespacedName` string. -/
theorem metaNamespaceKeyFunc_of_ns_ne {obj : ObjectMeta} (h : obj.ns ≠ "") :
    metaNamespaceKeyFunc obj = obj.key.toString := by
  have hlen : obj.ns.length > 0 := by
    rw [gt_iff_lt, Nat.pos_iff_ne_zero, ne_eq, String.length_eq_zero_iff]
    exact h
  simp [metaNamespaceKeyFunc, hlen, ObjectMeta.key, NamespacedName.toString]

/-- An error of the API client: its message, and whether `errors.IsNotFound` holds of it. -/
structure ClientError where
  isNotFound : Bool
  message : String
deriving DecidableEq

/-- `templatev1.Parameter`, with the fields the operator reads. -/
structure Parameter where
  name : String
  value : String := ""
deriving DecidableEq

/-- `templatev1.Template`; `objects` are the raw objects of the template. -/
structure Template (ο : Type) where
  objectMeta : ObjectMeta
  objects : List ο := []
  parameters : List Parameter := []

end SspOperator
