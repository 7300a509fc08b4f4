import SspOperator.Lib.Run

/-
  Edge-triggered signals.

  A component that watches a condition of its state and signals when the condition starts
  to hold emits, at each call, `rise p x a b`: the signal `x` when `p` fails in the state
  `a` before the call and holds in the state `b` after it. When `p`, once it holds, keeps
  holding along a run, the signals of the calls add up to the signal of the run as a whole
  (`rise_append`, `runOut_rise`): `x` is emitted once, at the call where `p` starts to hold,
  and only if it does.
-/

namespace Machine

variable {σ τ α β : Type*}

/-- The signal `x` if `p` starts to hold between the states `a` and `b`. -/
def rise (p : σ → Prop) [DecidablePred p] (x : β) (a b : σ) : List β :=
  if ¬p a ∧ p b then [x] else []

variable {p : σ → Prop} [DecidablePred p]

@[simp] theorem rise_self (x : β) (a : σ) : rise p x a a = [] := by
  simp [rise]

/-- No signal where `p` after the call implies `p` before it. -/
theorem rise_eq_nil (x : β) {a b : σ} (h : p b → p a) : rise p x a b = [] := by
  by_cases hb : p b
  · simp [rise, h hb]
  · simp [rise, hb]

/-- Two calls that keep `p` once it holds signal together what their composite signals. -/
theorem rise_append (x : β) {a b c : σ} (hab : p a → p b) (hbc : p b → p c) :
    rise p x a b ++ rise p x b c = rise p x a c := by
  by_cases ha : p a
  · simp [rise, ha, hab ha, hbc (hab ha)]
  · by_cases hb : p b
    · simp [rise, ha, hb, hbc hb]
    · simp [rise, ha, hb]

section Runs

variable {step : σ → α → σ × List β} {inv : σ → Prop} {x : β}

/-- The signal rule: if every call from a state of `inv` emits the rise of `p` between its
    states and keeps `p` once it holds, a run emits the rise of `p` between its first and
    last state. -/
theorem runOut_rise (hinv : ∀ s a, inv s → inv (step s a).1)
    (hkeep : ∀ s a, inv s → p s → p (step s a).1)
    (hout : ∀ s a, inv s → (step s a).2 = rise p x s (step s a).1) :
    ∀ (s : σ) (as : List α), inv s → (runOut step s as).2 = rise p x s (runOut step s as).1 := by
  intro s as
  induction as generalizing s with
  | nil => intro _; simp
  | cons a as ih =>
    intro hs
    -- the rest of the run keeps `p` from the state after the first call on
    have hboth : ∀ t b, inv t ∧ p t → inv (step t b).1 ∧ p (step t b).1 :=
      fun t b ht => ⟨hinv t b ht.1, hkeep t b ht.1 ht.2⟩
    have hrest : p (step s a).1 → p (runOut step (step s a).1 as).1 := fun hp =>
      (runOut_inv hboth _ as ⟨hinv s a hs, hp⟩).2
    rw [runOut_cons_snd, runOut_cons_fst, hout s a hs, ih (step s a).1 (hinv s a hs)]
    exact rise_append x (hkeep s a hs) hrest

end Runs

end Machine
