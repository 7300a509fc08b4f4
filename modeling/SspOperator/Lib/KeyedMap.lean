import Mathlib.Data.List.AList

/-
  Maps from a key to the value it was computed from: the Go loops `m[key(x)] = x` over a
  list and `delete(m, k)` over a list of keys, on an association list.

  After the loops a key looks up the last value with that key, unless it was deleted. Every
  value stays under its own key, so the values with one key are at most one, and a loop over
  the values in any order meets that one value exactly once.
-/

namespace KeyedMap

variable {κ ν : Type} [DecidableEq κ]

/-- `m[key(x)] = x` for every `x` of `xs`, in order. -/
def insertAll (key : ν → κ) (m : AList fun _ : κ => ν) (xs : List ν) : AList fun _ : κ => ν :=
  xs.foldl (fun m x => m.insert (key x) x) m

/-- `delete(m, k)` for every `k` of `ks`. -/
def eraseAll (m : AList fun _ : κ => ν) (ks : List κ) : AList fun _ : κ => ν :=
  ks.foldl (fun m k => m.erase k) m

/-- The values of the map, in its own order. -/
def values (m : AList fun _ : κ => ν) : List ν :=
  m.entries.map Sigma.snd

/-- Every value is stored under its own key. -/
def KeyedBy (key : ν → κ) (m : AList fun _ : κ => ν) : Prop :=
  ∀ x ∈ m.entries, key x.2 = x.1

section KeyedBy

variable {key : ν → κ}

omit [DecidableEq κ] in
theorem keyedBy_empty : KeyedBy key (∅ : AList fun _ : κ => ν) := by
  intro x hx
  simp [AList.empty_entries] at hx

omit [DecidableEq κ] in
theorem KeyedBy.of_sublist {m m' : AList fun _ : κ => ν} (hm : KeyedBy key m)
    (hsub : m'.entries.Sublist m.entries) : KeyedBy key m' :=
  fun x hx => hm x (hsub.subset hx)

theorem KeyedBy.insert {m : AList fun _ : κ => ν} (hm : KeyedBy key m) (x : ν) :
    KeyedBy key (m.insert (key x) x) := by
  intro y hy
  rw [AList.entries_insert, List.mem_cons] at hy
  rcases hy with rfl | hy
  · rfl
  · exact hm y ((List.kerase_sublist _ _).subset hy)

theorem KeyedBy.erase {m : AList fun _ : κ => ν} (hm : KeyedBy key m) (k : κ) :
    KeyedBy key (m.erase k) :=
  hm.of_sublist (List.kerase_sublist _ _)

omit [DecidableEq κ] in
/-- A loop whose every step keeps the map keyed keeps it keyed. -/
theorem KeyedBy.foldl {α : Type} {step : (AList fun _ : κ => ν) → α → AList fun _ : κ => ν}
    (hstep : ∀ m a, KeyedBy key m → KeyedBy key (step m a)) :
    ∀ (xs : List α) {m : AList fun _ : κ => ν}, KeyedBy key m → KeyedBy key (xs.foldl step m)
  | [], _, hm => hm
  | a :: xs, _, hm => KeyedBy.foldl hstep xs (hstep _ a hm)

theorem KeyedBy.insertAll {m : AList fun _ : κ => ν} (hm : KeyedBy key m) (xs : List ν) :
    KeyedBy key (KeyedMap.insertAll key m xs) := by
  induction xs generalizing m with
  | nil => exact hm
  | cons x xs ih => exact ih (hm.insert x)

theorem KeyedBy.eraseAll {m : AList fun _ : κ => ν} (hm : KeyedBy key m) (ks : List κ) :
    KeyedBy key (KeyedMap.eraseAll m ks) := by
  induction ks generalizing m with
  | nil => exact hm
  | cons k ks ih => exact ih (hm.erase k)

end KeyedBy

/-- A key looks up the last value inserted with it, or what the map had before. -/
theorem lookup_insertAll (key : ν → κ) (m : AList fun _ : κ => ν) (xs : List ν) (k : κ) :
    (insertAll key m xs).lookup k = (xs.reverse.find? (key · = k)).or (m.lookup k) := by
  induction xs generalizing m with
  | nil => simp [insertAll]
  | cons x xs ih =>
      -- the inserts after `x` come first in the reversed list, then `x` itself
      have hstep : insertAll key m (x :: xs) = insertAll key (m.insert (key x) x) xs := rfl
      rw [hstep, ih, List.reverse_cons, List.find?_append]
      by_cases hx : key x = k
      · subst hx
        simp [AList.lookup_insert]
      · simp [AList.lookup_insert_ne (Ne.symm hx), hx]

theorem lookup_eraseAll (m : AList fun _ : κ => ν) (ks : List κ) (k : κ) :
    (eraseAll m ks).lookup k = if k ∈ ks then none else m.lookup k := by
  induction ks generalizing m with
  | nil => simp [eraseAll]
  | cons k' ks ih =>
      have hstep : eraseAll m (k' :: ks) = eraseAll (m.erase k') ks := rfl
      rw [hstep, ih]
      by_cases hk : k = k'
      · subst hk
        simp [AList.lookup_erase]
      · simp [AList.lookup_erase_ne hk, hk]

/-- On a list without repeated keys whose values carry their keys, the values with key `k`
    are the one `k` looks up, if any. -/
theorem filter_map_snd {key : ν → κ} (k : κ) :
    ∀ (l : List (Sigma fun _ : κ => ν)), l.NodupKeys → (∀ x ∈ l, key x.2 = x.1) →
      (l.map Sigma.snd).filter (key · = k) = (l.dlookup k).toList
  | [], _, _ => rfl
  | ⟨a, v⟩ :: l, hnd, hkey => by
      rw [List.nodupKeys_cons] at hnd
      have hv : key v = a := hkey _ List.mem_cons_self
      have hrest := filter_map_snd k l hnd.2 fun x hx => hkey x (List.mem_cons_of_mem _ hx)
      by_cases ha : a = k
      · -- the head is the value of `k`, and no other entry has key `k`
        subst ha
        have hnone : l.dlookup a = none := List.dlookup_eq_none.mpr hnd.1
        simp [hv, hrest, hnone]
      · simp [hv, ha, hrest, List.dlookup_cons_ne l ⟨a, v⟩ (Ne.symm ha)]

theorem filter_values {key : ν → κ} {m : AList fun _ : κ => ν} (hm : KeyedBy key m) (k : κ) :
    (values m).filter (key · = k) = (m.lookup k).toList :=
  filter_map_snd k m.entries m.nodupKeys hm

/-- A loop over the values in any order meets the values with key `k` in a list that is the
    value `k` looks up, if any. -/
theorem filter_perm_values {key : ν → κ} {m : AList fun _ : κ => ν} (hm : KeyedBy key m)
    {order : List ν} (horder : order.Perm (values m)) (k : κ) :
    order.filter (key · = k) = (m.lookup k).toList := by
  have hperm : (order.filter (key · = k)).Perm (m.lookup k).toList := by
    rw [← filter_values hm k]
    exact horder.filter _
  cases hlookup : m.lookup k with
  | none => rw [hlookup] at hperm; exact List.perm_nil.mp hperm
  | some v => rw [hlookup] at hperm; exact List.perm_singleton.mp hperm

/-- A loop that turns each value into at most one result with the value's key: the results
    with key `k` come from the values with key `k`. -/
theorem filter_filterMap {ρ : Type} {key : ν → κ} {key' : ρ → κ} {f : ν → Option ρ}
    (hf : ∀ x r, f x = some r → key' r = key x) (l : List ν) (k : κ) :
    (l.filterMap f).filter (key' · = k) = (l.filter (key · = k)).filterMap f := by
  induction l with
  | nil => rfl
  | cons x l ih =>
      cases hx : f x with
      | none =>
          by_cases hk : key x = k <;> simp [hx, hk, ih]
      | some r =>
          have hr : key' r = key x := hf x r hx
          by_cases hk : key x = k <;> simp [hx, hk, hr, ih]

end KeyedMap
