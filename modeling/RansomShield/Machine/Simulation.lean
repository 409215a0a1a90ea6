import Mathlib.Data.List.Forall2
import RansomShield.Machine.Basic

/-!
# Related runs

Two machines whose related actions lead from related states to related states: then so do related
lists of actions, for the runs of a machine (`Machine.run_forall₂`) and for actions that are always
enabled (`exec_forall₂`).  The machines may be the same, and a relation between its states then
compares two runs of it.
-/

namespace RansomShield

variable {S T A B : Type*} {R : S → T → Prop} {Q : A → B → Prop} {as : List A} {bs : List B}
  {s s' : S} {t : T}

/-- **Simulation of runs.** -/
theorem Machine.run_forall₂ {M : Machine S A} {N : Machine T B}
    (hstep : ∀ s t a b s', R s t → Q a b → M.step s a = some s' →
      ∃ t', N.step t b = some t' ∧ R s' t')
    (hs : R s t) (has : List.Forall₂ Q as bs) (h : M.run s as = some s') :
    ∃ t', N.run t bs = some t' ∧ R s' t' := by
  induction has generalizing s t with
  | nil =>
    cases h
    exact ⟨t, rfl, hs⟩
  | cons hab _ ih =>
    obtain ⟨s₁, hs₁, hrest⟩ := Option.bind_eq_some_iff.1 h
    obtain ⟨t₁, ht₁, hrel⟩ := hstep _ _ _ _ _ hs hab hs₁
    obtain ⟨t', ht', hrel'⟩ := ih hrel hrest
    refine ⟨t', ?_, hrel'⟩
    rw [Machine.run_cons, ht₁]
    exact ht'

/-- **Simulation of total runs.** -/
theorem exec_forall₂ {f : S → A → S} {g : T → B → T}
    (hstep : ∀ s t a b, R s t → Q a b → R (f s a) (g t b))
    (hs : R s t) (has : List.Forall₂ Q as bs) : R (exec f s as) (exec g t bs) := by
  induction has generalizing s t with
  | nil => exact hs
  | cons hab _ ih => exact ih (hstep _ _ _ _ hs hab)

end RansomShield
