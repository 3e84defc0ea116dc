import Mathlib.Tactic.Common

/-!
# Labelled transition systems and their runs

A system has initial states and a labelled step relation; a label carries
whatever the environment decides in that step. `Run` lists the labels of a run,
`Reachable` forgets them.

Results:
1. `Reachable.invariant`: what holds at first and is preserved by each step
   holds in every reachable state.
2. `System.only`: the runs all of whose steps meet a condition are the runs of a
   system of their own, so the same rule covers them
   (`Reachable.invariant_only`).
3. `Run.project`: a map of the states that turns steps into steps or nothing turns
   runs into runs.
-/

namespace Transition

/-- A transition system on states `σ` with labels `Λ`. -/
structure System (σ Λ : Type) where
  init : σ → Prop
  step : σ → Λ → σ → Prop

namespace System

variable {σ Λ : Type} {sys : System σ Λ}

/-- `sys.Run s ls s'`: the labels `ls` lead from `s` to `s'`. -/
inductive Run (sys : System σ Λ) (s : σ) : List Λ → σ → Prop
  | nil : Run sys s [] s
  | snoc {ls : List Λ} {s₁ s₂ : σ} {l : Λ} :
      Run sys s ls s₁ → sys.step s₁ l s₂ → Run sys s (ls ++ [l]) s₂

/-- `s` is at the end of some run from an initial state. -/
def Reachable (sys : System σ Λ) (s : σ) : Prop :=
  ∃ s₀ ls, sys.init s₀ ∧ sys.Run s₀ ls s

/-- The system whose steps are the steps of `sys` that meet `C`. -/
def only (sys : System σ Λ) (C : σ → Λ → Prop) : System σ Λ where
  init := sys.init
  step s l s' := C s l ∧ sys.step s l s'

theorem Run.trans {s₁ s₂ s₃ : σ} {ls₁ ls₂ : List Λ} (h₁ : sys.Run s₁ ls₁ s₂)
    (h₂ : sys.Run s₂ ls₂ s₃) : sys.Run s₁ (ls₁ ++ ls₂) s₃ := by
  induction h₂ with
  | nil => rw [List.append_nil]; exact h₁
  | snoc _ hstep ih => rw [← List.append_assoc]; exact ih.snoc hstep

/-- A predicate that every step preserves is preserved by every run. -/
theorem Run.preserves {I : σ → Prop} (hstep : ∀ s l s', I s → sys.step s l s' → I s')
    {s s' : σ} {ls : List Λ} (h : sys.Run s ls s') (hs : I s) : I s' := by
  induction h with
  | nil => exact hs
  | snoc _ hst ih => exact hstep _ _ _ ih hst

/-- When each step is a step of another system on the states that `π` gives, or leaves
them as they are, each run is one of that system. The labels that meet `p` are taken over,
the others may be replaced. -/
theorem Run.project {τ : Type} {sys' : System τ Λ} (π : σ → τ) {p : Λ → Bool}
    (hstep : ∀ s l s', sys.step s l s' →
      π s' = π s ∨ ∃ l', sys'.step (π s) l' (π s') ∧ (p l' → l' = l))
    {s s' : σ} {ls : List Λ} (h : sys.Run s ls s') :
    ∃ ls', sys'.Run (π s) ls' (π s') ∧ (ls'.filter p).Sublist ls := by
  induction h with
  | nil => exact ⟨[], .nil, List.nil_sublist _⟩
  | @snoc ls s₁ s₂ l _ hst ih =>
    obtain ⟨ls', hrun, hsub⟩ := ih
    rcases hstep _ _ _ hst with heq | ⟨l', hst', hl'⟩
    · exact ⟨ls', heq ▸ hrun, hsub.trans (List.sublist_append_left ..)⟩
    · refine ⟨ls' ++ [l'], hrun.snoc hst', ?_⟩
      rw [List.filter_append]
      refine hsub.append ?_
      by_cases hp : p l'
      · have hlast : [l'].filter p = [l] := by
          rw [List.filter_cons_of_pos hp, List.filter_nil, hl' hp]
        exact hlast ▸ .refl [l]
      · rw [List.filter_cons_of_neg hp]
        exact List.nil_sublist _

theorem Reachable.init {s : σ} (h : sys.init s) : sys.Reachable s :=
  ⟨s, [], h, .nil⟩

theorem Reachable.step {s s' : σ} {l : Λ} (h : sys.Reachable s) (hstep : sys.step s l s') :
    sys.Reachable s' := by
  obtain ⟨s₀, ls, h₀, hrun⟩ := h
  exact ⟨s₀, ls ++ [l], h₀, hrun.snoc hstep⟩

/-- What holds initially and is preserved by every step holds in every
reachable state. -/
theorem Reachable.invariant {I : σ → Prop} (hinit : ∀ s, sys.init s → I s)
    (hstep : ∀ s l s', I s → sys.step s l s' → I s') {s : σ} (h : sys.Reachable s) : I s := by
  obtain ⟨s₀, ls, h₀, hrun⟩ := h
  exact hrun.preserves hstep (hinit s₀ h₀)

/-- The invariant rule for runs whose steps all meet `C`. -/
theorem Reachable.invariant_only {C : σ → Λ → Prop} {I : σ → Prop}
    (hinit : ∀ s, sys.init s → I s)
    (hstep : ∀ s l s', I s → C s l → sys.step s l s' → I s') {s : σ}
    (h : (sys.only C).Reachable s) : I s := by
  obtain ⟨s₀, ls, h₀, hrun⟩ := h
  refine hrun.preserves ?_ (hinit s₀ h₀)
  intro s l s' hI hs
  exact hstep s l s' hI hs.1 hs.2

end System

end Transition
