import Mathlib.Logic.Basic

/-
  One object under optimistic concurrency, as an API server keeps it, and a reader that
  lags behind the server.

  The server stores the object with the resource version of its last write, taken from a
  revision counter that every write advances. A client's write names the version its object
  was read at, and fails with a conflict unless that is still the stored version; a writer
  that reads the object afresh (`put`) always names the stored version. A reader, such as
  an informer's cache, holds a copy the server once stored and catches up by copying the
  stored one.

  `Coherent` is what makes stale writes harmless: no version exceeds the revision, and a
  reader copy with the stored version is the stored object. Every write keeps it
  (`Coherent.write`, `Coherent.put`), catching up restores it (`coherent_stored`), and under
  it a write made from the reader's copy succeeds only on the very object the reader holds
  (`Coherent.eq_of_write_ok`).
-/

namespace Versioned

/-- A value with the resource version the server gave it. -/
structure Obj (α : Type*) where
  val : α
  version : Nat
deriving DecidableEq

/-- The value changed in memory; the version stays the one it was read at. -/
def Obj.map {α : Type*} (f : α → α) (o : Obj α) : Obj α :=
  { o with val := f o.val }

@[simp] theorem Obj.map_val {α : Type*} (f : α → α) (o : Obj α) : (o.map f).val = f o.val := rfl

@[simp] theorem Obj.map_version {α : Type*} (f : α → α) (o : Obj α) :
    (o.map f).version = o.version := rfl

/-- The server's copy of one object, if it exists, and its revision counter. -/
structure Cell (α : Type*) where
  revision : Nat
  stored : Option (Obj α)

/-- Why a write failed: no object, a stale version, or the server refused the new value. -/
inductive WriteError (ε : Type*)
  | notFound
  | conflict
  | rejected (e : ε)
deriving DecidableEq

variable {α ε : Type*}

/-- A write of `inst`: it fails unless the object is stored at `inst`'s version. `apply`
    computes the new value from the stored one and the written one, or refuses it; the new
    value is stored under the next revision, or removed when `keep` fails of it. The result
    is the cell after the write and the new value, as the server answers it. -/
def Cell.write (c : Cell α) (inst : Obj α) (apply : α → α → Except ε α) (keep : α → Bool) :
    Except (WriteError ε) (Cell α × Obj α) :=
  match c.stored with
  | none => .error .notFound
  | some cur =>
    if cur.version = inst.version then
      match apply cur.val inst.val with
      | .error e => .error (.rejected e)
      | .ok v =>
        let next : Obj α := ⟨v, c.revision + 1⟩
        .ok ({ revision := c.revision + 1, stored := if keep v then some next else none }, next)
    else .error .conflict

/-- A write by a client that read the object afresh: the new value, or none to remove it,
    under the next revision. -/
def Cell.put (c : Cell α) (v : Option α) : Cell α :=
  { revision := c.revision + 1, stored := v.map fun v => ⟨v, c.revision + 1⟩ }

@[simp] theorem Cell.put_stored (c : Cell α) (v : Option α) :
    (c.put v).stored = v.map fun v => ⟨v, c.revision + 1⟩ := rfl

/-- What a successful write did: it found the object at the written version, `apply`
    accepted the new value, and the new value is stored under the next revision unless
    `keep` fails of it. -/
theorem Cell.write_eq_ok {c c' : Cell α} {inst next : Obj α} {apply : α → α → Except ε α}
    {keep : α → Bool} (h : c.write inst apply keep = .ok (c', next)) :
    ∃ cur, c.stored = some cur ∧ cur.version = inst.version ∧
      apply cur.val inst.val = .ok next.val ∧ next.version = c.revision + 1 ∧
      c'.revision = c.revision + 1 ∧ c'.stored = if keep next.val then some next else none := by
  unfold Cell.write at h
  split at h
  · cases h
  · rename_i cur hcur
    split at h
    · rename_i hversion
      split at h
      · cases h
      · rename_i v hv
        cases h
        exact ⟨cur, hcur, hversion, hv, rfl, rfl, rfl⟩
    · cases h

/-- After a write the server holds the written value or nothing. -/
theorem Cell.eq_of_mem_write {c c' : Cell α} {inst next : Obj α} {apply : α → α → Except ε α}
    {keep : α → Bool} (h : c.write inst apply keep = .ok (c', next)) :
    ∀ s ∈ c'.stored, s = next := by
  obtain ⟨_, _, _, _, _, _, hstored⟩ := Cell.write_eq_ok h
  intro s hs
  rw [hstored] at hs
  split at hs
  · exact Option.mem_unique hs rfl
  · cases hs

/-- The reader's copy and the server's copy: no version beyond the revision, and one
    version names one object. -/
structure Coherent (c : Cell α) (reader : Option (Obj α)) : Prop where
  reader_le : ∀ r ∈ reader, r.version ≤ c.revision
  stored_le : ∀ s ∈ c.stored, s.version ≤ c.revision
  eq_of_version : ∀ r ∈ reader, ∀ s ∈ c.stored, r.version = s.version → r = s

/-- A reader that has just caught up. -/
theorem coherent_stored {c : Cell α} (h : ∀ s ∈ c.stored, s.version ≤ c.revision) :
    Coherent c c.stored where
  reader_le := h
  stored_le := h
  eq_of_version := by
    intro r hr s hs _
    rw [Option.mem_def] at hr hs
    rw [hr] at hs
    exact Option.some_inj.mp hs

/-- Every write stores its value under a fresh version, so the reader's copy is never
    mistaken for it. -/
theorem Coherent.write {c c' : Cell α} {reader : Option (Obj α)} {inst next : Obj α}
    {apply : α → α → Except ε α} {keep : α → Bool} (hc : Coherent c reader)
    (h : c.write inst apply keep = .ok (c', next)) : Coherent c' reader := by
  obtain ⟨_, _, _, _, hnext, hrev, hstored⟩ := Cell.write_eq_ok h
  have hstored_le : ∀ s ∈ c'.stored, s.version ≤ c'.revision := by
    intro s hs
    rw [hstored] at hs
    split at hs
    · rw [Option.mem_def, Option.some_inj] at hs
      subst hs
      omega
    · cases hs
  refine ⟨fun r hr => ?_, hstored_le, fun r hr s hs hrs => ?_⟩
  · have := hc.reader_le r hr
    omega
  · have hr_le := hc.reader_le r hr
    rw [hstored] at hs
    split at hs
    · rw [Option.mem_def, Option.some_inj] at hs
      subst hs
      omega
    · cases hs

/-- A fresh write's value carries the next revision. -/
theorem Cell.version_of_mem_put {c : Cell α} {v : Option α} {s : Obj α}
    (hs : s ∈ (c.put v).stored) : s.version = c.revision + 1 := by
  cases v with
  | none => cases hs
  | some v =>
    rw [Cell.put_stored, Option.map_some, Option.mem_def, Option.some_inj] at hs
    rw [← hs]

theorem Coherent.put {c : Cell α} {reader : Option (Obj α)} (hc : Coherent c reader)
    (v : Option α) : Coherent (c.put v) reader := by
  refine ⟨fun r hr => ?_, fun s hs => ?_, fun r hr s hs hrs => ?_⟩
  · have := hc.reader_le r hr
    simp only [Cell.put]
    omega
  · rw [Cell.version_of_mem_put hs]
    exact Nat.le_refl _
  · have := hc.reader_le r hr
    have := Cell.version_of_mem_put hs
    omega

/-- A write made from the reader's copy succeeds only on the object the reader holds. -/
theorem Coherent.eq_of_write_ok {c c' : Cell α} {r inst next : Obj α}
    {apply : α → α → Except ε α} {keep : α → Bool} (hc : Coherent c (some r))
    (hversion : inst.version = r.version) (h : c.write inst apply keep = .ok (c', next)) :
    c.stored = some r := by
  obtain ⟨cur, hcur, hcur_version, -⟩ := Cell.write_eq_ok h
  rw [hcur, hc.eq_of_version r rfl cur hcur (by rw [← hversion, hcur_version])]

end Versioned
