import Mathlib.Logic.Basic

/-
  What a watch hands a controller, and the predicates that filter it.

  An informer keeps a copy of an object. Each time it catches up with the server it hands
  its handlers the change as one event (`delta`): the object was created, updated (the old
  and the new object), or deleted; nothing happens when there is no object before or after.
  A controller watches through a predicate, which passes or drops each kind of event;
  `Predicate.or` passes what one of its predicates passes. `onChange f` passes every
  creation and deletion and the updates that change the view `f` of the object, so an update
  that keeps every view its predicates look at is dropped (`or_update_eq_false`,
  `onChange_update_eq_false`).
-/

namespace Watch

variable {α β : Type*}

/-- A change of a watched object, as an informer hands it to its handlers. -/
inductive Event (α : Type*)
  | create (obj : α)
  | update (old new : α)
  | delete (obj : α)

/-- A filter of the events of a watch; by default every event passes. -/
structure Predicate (α : Type*) where
  create : α → Bool := fun _ => true
  update : α → α → Bool := fun _ _ => true
  delete : α → Bool := fun _ => true

/-- Whether the predicate passes the event on. -/
def Predicate.admits (p : Predicate α) : Event α → Bool
  | .create obj => p.create obj
  | .update old new => p.update old new
  | .delete obj => p.delete obj

/-- The predicate that passes what one of `ps` passes. -/
def Predicate.or (ps : List (Predicate α)) : Predicate α where
  create obj := ps.any fun p => p.create obj
  update old new := ps.any fun p => p.update old new
  delete obj := ps.any fun p => p.delete obj

/-- The predicate that passes creations and deletions, and the updates that change `f`. -/
def Predicate.onChange [DecidableEq β] (f : α → β) : Predicate α where
  update old new := f new != f old

/-- The event an informer hands on when its copy goes from `old` to `new`. -/
def delta : Option α → Option α → Option (Event α)
  | none, none => none
  | none, some new => some (.create new)
  | some old, none => some (.delete old)
  | some old, some new => some (.update old new)

/-- Whether the change from `old` to `new` reaches the handler through `p`. -/
def Predicate.passes (p : Predicate α) (old new : Option α) : Bool :=
  match delta old new with
  | none => false
  | some event => p.admits event

section Lemmas

variable {p : Predicate α} {ps : List (Predicate α)} {old new : α}

@[simp] theorem passes_none_none (p : Predicate α) : p.passes none none = false := rfl

@[simp] theorem passes_none_some (p : Predicate α) (new : α) :
    p.passes none (some new) = p.create new := rfl

@[simp] theorem passes_some_none (p : Predicate α) (old : α) :
    p.passes (some old) none = p.delete old := rfl

@[simp] theorem passes_some_some (p : Predicate α) (old new : α) :
    p.passes (some old) (some new) = p.update old new := rfl

theorem or_update_eq_false : (Predicate.or ps).update old new = false ↔
    ∀ p ∈ ps, p.update old new = false := by
  simp [Predicate.or]

@[simp] theorem onChange_update [DecidableEq β] (f : α → β) (old new : α) :
    (Predicate.onChange f).update old new = !decide (f new = f old) := rfl

theorem onChange_update_eq_false [DecidableEq β] {f : α → β} (h : f new = f old) :
    (Predicate.onChange f).update old new = false := by
  simp [h]

end Lemmas

end Watch
