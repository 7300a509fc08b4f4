import Mathlib.Logic.Basic

/-
  Loops that can fail.

  A Go loop that accumulates a result and returns early on an error is a monadic
  fold `xs.foldlM step start` in `Except ε`. `foldlM_inv` is its invariant rule: a
  property of the elements done so far and the accumulator, kept by every
  successful step, holds of the whole list and the result of a successful loop;
  `foldlM_inv_ok` is the rule for a loop whose steps do not fail, which then succeeds.
  `foldlM_mono` is the case of an accumulator that only grows, and
  `foldlM_ne_ok_of_mem` says that a loop fails when one of its elements fails from
  every accumulator.
-/

namespace Loop

variable {ε α β : Type*}

/-- The invariant rule of a fold in `Except`. -/
theorem foldlM_inv (step : β → α → Except ε β) (P : List α → β → Prop)
    (hstep : ∀ done b a b', P done b → step b a = .ok b' → P (done ++ [a]) b') :
    ∀ (xs done : List α) (b r : β), P done b → xs.foldlM step b = .ok r → P (done ++ xs) r := by
  intro xs
  induction xs with
  | nil =>
      intro done b r hb h
      simp only [List.foldlM_nil] at h
      cases h
      simpa using hb
  | cons a xs ih =>
      intro done b r hb h
      rw [List.foldlM_cons] at h
      cases hs : step b a with
      | error e =>
          rw [hs] at h
          cases h
      | ok b' =>
          rw [hs] at h
          have hnext := hstep done b a b' hb hs
          simpa using ih (done ++ [a]) b' r hnext h

/-- The invariant rule of a loop that does not fail: a step that succeeds on every element
    with `Q`, from every accumulator with the invariant, and keeps it, makes the whole loop
    succeed with it. -/
theorem foldlM_inv_ok (step : β → α → Except ε β) (P : List α → β → Prop) (Q : α → Prop)
    (hstep : ∀ done b a, Q a → P done b → ∃ b', step b a = .ok b' ∧ P (done ++ [a]) b') :
    ∀ (xs done : List α) (b : β), (∀ a ∈ xs, Q a) → P done b →
      ∃ r, xs.foldlM step b = .ok r ∧ P (done ++ xs) r := by
  intro xs
  induction xs with
  | nil =>
      intro done b _ hb
      exact ⟨b, rfl, by simpa using hb⟩
  | cons a xs ih =>
      intro done b hq hb
      obtain ⟨b', hs, hb'⟩ := hstep done b a (hq a (by simp)) hb
      obtain ⟨r, hr, hP⟩ := ih (done ++ [a]) b' (fun x hx => hq x (by simp [hx])) hb'
      refine ⟨r, ?_, by simpa using hP⟩
      rw [List.foldlM_cons, hs]
      exact hr

/-- A loop whose successful steps only grow the accumulator along `R` ends above its
    start. -/
theorem foldlM_mono (step : β → α → Except ε β) (R : β → β → Prop) (hrefl : ∀ b, R b b)
    (htrans : ∀ b₁ b₂ b₃, R b₁ b₂ → R b₂ b₃ → R b₁ b₃)
    (hstep : ∀ b a b', step b a = .ok b' → R b b') :
    ∀ (xs : List α) (b r : β), xs.foldlM step b = .ok r → R b r := by
  intro xs b r h
  have hinv := foldlM_inv step (fun _ b' => R b b')
    (fun _ b₁ a b₂ h₁ h₂ => htrans _ _ _ h₁ (hstep b₁ a b₂ h₂)) xs [] b r (hrefl b) h
  exact hinv

/-- A loop over a list holding an element that no step gets past does not succeed. -/
theorem foldlM_ne_ok_of_mem (step : β → α → Except ε β) {a : α}
    (hfail : ∀ b b', step b a ≠ .ok b') :
    ∀ (xs : List α) (b r : β), a ∈ xs → xs.foldlM step b ≠ .ok r := by
  intro xs
  induction xs with
  | nil => intro b r hmem; simp at hmem
  | cons x xs ih =>
      intro b r hmem h
      rw [List.foldlM_cons] at h
      cases hs : step b x with
      | error e =>
          rw [hs] at h
          cases h
      | ok b' =>
          rw [hs] at h
          rcases List.mem_cons.mp hmem with rfl | hmem
          · exact hfail b b' hs
          · exact ih b' r hmem h

end Loop
