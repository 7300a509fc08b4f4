import Mathlib.Data.Finmap
import Mathlib.Data.Finset.Basic

/-
  A finite map from keys to finite sets, kept free of empty sets, used as the
  reverse index of a primary finite map.

  `add m b a` puts `a` in the set at `b`, creating the set when `b` is new;
  `remove m b a` takes `a` out of the set at `b` and drops the key when its set
  becomes empty. `IsIndex store key idx` says that the set at `b` is exactly the
  set of keys `a` whose stored value `v` has `key v = b`, and `NoEmpty idx` that no
  key holds an empty set. The preservation lemmas cover the three ways a store
  changes: a value stored at a new key (`isIndex_insert_of_lookup_none`), a value
  replaced after its old entry was removed from the index
  (`isIndex_insert_of_lookup_some`) and an entry deleted (`isIndex_erase`).
-/

namespace SetMultimap

variable {α β V : Type*} [DecidableEq α] [DecidableEq β]

/-- A finite map from `β` to finite sets of `α`. -/
abbrev M (β α : Type*) := Finmap fun _ : β => Finset α

/-- The set at `b`, empty when `b` has none. -/
def get (m : M β α) (b : β) : Finset α :=
  (m.lookup b).getD ∅

/-- Put `a` in the set at `b`. -/
def add (m : M β α) (b : β) (a : α) : M β α :=
  m.insert b (insert a (get m b))

/-- Take `a` out of the set at `b`, dropping `b` when its set becomes empty. -/
def remove (m : M β α) (b : β) (a : α) : M β α :=
  match m.lookup b with
  | none => m
  | some s => if s.erase a = ∅ then m.erase b else m.insert b (s.erase a)

omit [DecidableEq α] in
@[simp] theorem get_empty (b : β) : get (∅ : M β α) b = ∅ := rfl

theorem get_add (m : M β α) (b b' : β) (a : α) :
    get (add m b a) b' = if b' = b then insert a (get m b) else get m b' := by
  unfold add get
  split_ifs with h
  · subst h; simp
  · rw [Finmap.lookup_insert_of_ne _ h]

theorem get_remove (m : M β α) (b b' : β) (a : α) :
    get (remove m b a) b' = if b' = b then (get m b).erase a else get m b' := by
  unfold remove
  cases hb : m.lookup b with
  | none =>
      split_ifs with h
      · subst h; simp [get, hb]
      · rfl
  | some s =>
      dsimp only
      split_ifs with he h h
      · subst h; simp [get, hb, he]
      · simp [get, Finmap.lookup_erase_ne h]
      · subst h; simp [get, hb]
      · simp [get, Finmap.lookup_insert_of_ne _ h]

/-- No key holds an empty set. -/
def NoEmpty (m : M β α) : Prop :=
  ∀ b s, m.lookup b = some s → s.Nonempty

omit [DecidableEq α] in
theorem noEmpty_empty : NoEmpty (∅ : M β α) := by
  intro b s h
  simp at h

theorem noEmpty_add {m : M β α} (hm : NoEmpty m) (b : β) (a : α) : NoEmpty (add m b a) := by
  intro b' s h
  unfold add at h
  by_cases hb : b' = b
  · subst hb
    rw [Finmap.lookup_insert] at h
    cases h
    exact Finset.insert_nonempty _ _
  · rw [Finmap.lookup_insert_of_ne _ hb] at h
    exact hm b' s h

theorem noEmpty_remove {m : M β α} (hm : NoEmpty m) (b : β) (a : α) :
    NoEmpty (remove m b a) := by
  intro b' s' h
  unfold remove at h
  cases hb : m.lookup b with
  | none => rw [hb] at h; exact hm b' s' h
  | some s =>
      rw [hb] at h
      dsimp only at h
      split_ifs at h with he
      · by_cases hbb : b' = b
        · subst hbb; simp at h
        · rw [Finmap.lookup_erase_ne hbb] at h; exact hm b' s' h
      · by_cases hbb : b' = b
        · subst hbb
          rw [Finmap.lookup_insert] at h
          cases h
          exact Finset.nonempty_iff_ne_empty.mpr he
        · rw [Finmap.lookup_insert_of_ne _ hbb] at h; exact hm b' s' h

theorem mem_get_add {m : M β α} {b b' : β} {a a' : α} :
    a' ∈ get (add m b a) b' ↔ (b' = b ∧ a' = a) ∨ a' ∈ get m b' := by
  rw [get_add]
  split_ifs with hb
  · subst hb; simp
  · simp [hb]

theorem mem_get_remove {m : M β α} {b b' : β} {a a' : α} :
    a' ∈ get (remove m b a) b' ↔ a' ∈ get m b' ∧ ¬(b' = b ∧ a' = a) := by
  rw [get_remove]
  split_ifs with hb
  · subst hb; simp [and_comm]
  · simp [hb]

/-- `idx` is the reverse index of `store` along `key`. -/
def IsIndex (store : Finmap fun _ : α => V) (key : V → β) (idx : M β α) : Prop :=
  ∀ a b, a ∈ get idx b ↔ ∃ v, store.lookup a = some v ∧ key v = b

theorem isIndex_empty (key : V → β) : IsIndex (∅ : Finmap fun _ : α => V) key ∅ := by
  intro a b
  simp

theorem isIndex_insert_of_lookup_none {store : Finmap fun _ : α => V} {key : V → β}
    {idx : M β α} (h : IsIndex store key idx) {a : α} (ha : store.lookup a = none) (v : V) :
    IsIndex (store.insert a v) key (add idx (key v) a) := by
  intro a' b
  rw [mem_get_add, h a' b]
  by_cases ha' : a' = a
  · subst ha'
    simp [ha, eq_comm]
  · simp [ha', Finmap.lookup_insert_of_ne _ ha']

theorem isIndex_insert_of_lookup_eq {store : Finmap fun _ : α => V} {key : V → β}
    {idx : M β α} (h : IsIndex store key idx) {a : α} {v : V} (ha : store.lookup a = some v) :
    IsIndex (store.insert a v) key (add idx (key v) a) := by
  intro a' b
  rw [mem_get_add, h a' b]
  by_cases ha' : a' = a
  · subst ha'
    simp [ha, eq_comm]
  · simp [ha', Finmap.lookup_insert_of_ne _ ha']

theorem isIndex_insert_of_lookup_some {store : Finmap fun _ : α => V} {key : V → β}
    {idx : M β α} (h : IsIndex store key idx) {a : α} {v₀ : V}
    (ha : store.lookup a = some v₀) (v : V) :
    IsIndex (store.insert a v) key (add (remove idx (key v₀) a) (key v) a) := by
  intro a' b
  rw [mem_get_add, mem_get_remove, h a' b]
  by_cases ha' : a' = a
  · subst ha'
    simp only [ha, Finmap.lookup_insert]
    grind
  · simp [ha', Finmap.lookup_insert_of_ne _ ha']

theorem isIndex_erase {store : Finmap fun _ : α => V} {key : V → β} {idx : M β α}
    (h : IsIndex store key idx) {a : α} {v₀ : V} (ha : store.lookup a = some v₀) :
    IsIndex (store.erase a) key (remove idx (key v₀) a) := by
  intro a' b
  rw [mem_get_remove, h a' b]
  by_cases ha' : a' = a
  · subst ha'
    simp only [ha, Finmap.lookup_erase]
    grind
  · simp [ha', Finmap.lookup_erase_ne ha']

end SetMultimap
