import Mathlib.Logic.Basic

/-
  Runs of a deterministic transition function.

  A component that is driven by a sequence of calls (a cache fed by a reflector,
  a watch fed by an informer) is a function `step : σ → α → σ`. `run step s as`
  applies the calls of `as` in order. `Guarded step ok s as` says that every call
  of the run is allowed by `ok` in the state it meets; `run_inv` is the invariant
  rule: a property that holds initially and that every allowed call preserves holds
  after every guarded run. `Reachable` is the same closure as an inductive
  predicate, for statements about every state a run passes through.

  A call that also emits outputs (the callbacks it calls, the messages it sends) is a
  step `σ → α → σ × List β`; `runOut` collects the outputs of a run in order.
-/

namespace Machine

variable {σ α : Type*}

/-- The state after applying the calls of `as`, first to last. -/
def run (step : σ → α → σ) (s : σ) (as : List α) : σ :=
  as.foldl step s

@[simp] theorem run_nil (step : σ → α → σ) (s : σ) : run step s [] = s := rfl

@[simp] theorem run_cons (step : σ → α → σ) (s : σ) (a : α) (as : List α) :
    run step s (a :: as) = run step (step s a) as := rfl

/-- Every call of the run is allowed by `ok` in the state it is applied to. -/
def Guarded (step : σ → α → σ) (ok : σ → α → Prop) : σ → List α → Prop
  | _, [] => True
  | s, a :: as => ok s a ∧ Guarded step ok (step s a) as

@[simp] theorem guarded_nil (step : σ → α → σ) (ok : σ → α → Prop) (s : σ) :
    Guarded step ok s [] := trivial

@[simp] theorem guarded_cons (step : σ → α → σ) (ok : σ → α → Prop) (s : σ) (a : α)
    (as : List α) : Guarded step ok s (a :: as) ↔ ok s a ∧ Guarded step ok (step s a) as :=
  Iff.rfl

/-- The invariant rule: an invariant of every allowed call holds after every guarded run. -/
theorem run_inv {step : σ → α → σ} {ok : σ → α → Prop} {inv : σ → Prop}
    (hstep : ∀ s a, inv s → ok s a → inv (step s a)) :
    ∀ (s : σ) (as : List α), inv s → Guarded step ok s as → inv (run step s as) := by
  intro s as
  induction as generalizing s with
  | nil => intro hs _; exact hs
  | cons a as ih =>
      intro hs hg
      exact ih (step s a) (hstep s a hs hg.1) hg.2

/-- The states that guarded runs from `s₀` pass through. -/
inductive Reachable (step : σ → α → σ) (ok : σ → α → Prop) (s₀ : σ) : σ → Prop
  | init : Reachable step ok s₀ s₀
  | step {s : σ} (a : α) : Reachable step ok s₀ s → ok s a → Reachable step ok s₀ (step s a)

/-- The invariant rule on reachable states. -/
theorem Reachable.inv {step : σ → α → σ} {ok : σ → α → Prop} {inv : σ → Prop} {s₀ s : σ}
    (h0 : inv s₀) (hstep : ∀ s a, inv s → ok s a → inv (step s a))
    (h : Reachable step ok s₀ s) : inv s := by
  induction h with
  | init => exact h0
  | step a _ hok ih => exact hstep _ a ih hok

/-- The end of a guarded run from a reachable state is reachable. -/
theorem Reachable.run {step : σ → α → σ} {ok : σ → α → Prop} {s₀ s : σ}
    (h : Reachable step ok s₀ s) :
    ∀ as, Guarded step ok s as → Reachable step ok s₀ (Machine.run step s as) := by
  intro as
  induction as generalizing s with
  | nil => intro _; exact h
  | cons a as ih =>
      intro hg
      exact ih (h.step a hg.1) hg.2

/-- A simulation: every allowed call moves the image of the state under `abs` by nothing or
    by one allowed call of `step'`, so the images of reachable states are reachable. -/
theorem Reachable.map {σ' α' : Type*} {step : σ → α → σ} {ok : σ → α → Prop}
    {step' : σ' → α' → σ'} {ok' : σ' → α' → Prop} {abs : σ → σ'} {s₀ s : σ}
    (hsim : ∀ s a, ok s a →
      abs (step s a) = abs s ∨ ∃ a', ok' (abs s) a' ∧ abs (step s a) = step' (abs s) a')
    (h : Reachable step ok s₀ s) : Reachable step' ok' (abs s₀) (abs s) := by
  induction h with
  | init => exact .init
  | step a _ hok ih =>
    rcases hsim _ a hok with hsame | ⟨a', hok', hstep⟩
    · rw [hsame]
      exact ih
    · rw [hstep]
      exact ih.step a' hok'

/-- A run whose calls are all allowed by `p`, whatever the state, is guarded. -/
theorem guarded_of_forall {step : σ → α → σ} {p : α → Prop} :
    ∀ (s : σ) (as : List α), (∀ a ∈ as, p a) → Guarded step (fun _ a => p a) s as := by
  intro s as
  induction as generalizing s with
  | nil => intro _; trivial
  | cons a as ih =>
    intro hp
    exact ⟨hp a List.mem_cons_self, ih (step s a) fun b hb => hp b (List.mem_cons_of_mem a hb)⟩

/-- A run of a step with outputs: the state after the calls of `as`, and the outputs of
    the calls, first to last. -/
def runOut {β : Type*} (step : σ → α → σ × List β) : σ → List α → σ × List β
  | s, [] => (s, [])
  | s, a :: as =>
    let rest := runOut step (step s a).1 as
    (rest.1, (step s a).2 ++ rest.2)

section Outputs

variable {β : Type*} (step : σ → α → σ × List β)

@[simp] theorem runOut_nil (s : σ) : runOut step s [] = (s, []) := rfl

@[simp] theorem runOut_cons_fst (s : σ) (a : α) (as : List α) :
    (runOut step s (a :: as)).1 = (runOut step (step s a).1 as).1 := rfl

@[simp] theorem runOut_cons_snd (s : σ) (a : α) (as : List α) :
    (runOut step s (a :: as)).2 = (step s a).2 ++ (runOut step (step s a).1 as).2 := rfl

variable {step}

/-- The invariant rule for runs with outputs. -/
theorem runOut_inv {inv : σ → Prop} (hstep : ∀ s a, inv s → inv (step s a).1) :
    ∀ (s : σ) (as : List α), inv s → inv (runOut step s as).1 := by
  intro s as
  induction as generalizing s with
  | nil => intro hs; exact hs
  | cons a as ih => intro hs; exact ih (step s a).1 (hstep s a hs)

/-- A run of calls that emit nothing, from states where `inv` holds, emits nothing. -/
theorem runOut_snd_eq_nil {inv : σ → Prop} (hstep : ∀ s a, inv s → inv (step s a).1)
    (hsilent : ∀ s a, inv s → (step s a).2 = []) :
    ∀ (s : σ) (as : List α), inv s → (runOut step s as).2 = [] := by
  intro s as
  induction as generalizing s with
  | nil => intro _; rfl
  | cons a as ih =>
    intro hs
    rw [runOut_cons_snd, hsilent s a hs, ih (step s a).1 (hstep s a hs), List.append_nil]

end Outputs

end Machine
