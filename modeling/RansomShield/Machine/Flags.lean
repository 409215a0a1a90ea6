import RansomShield.Machine.Basic

/-!
# Flags that only some actions take back

A flag of the state is raised by some steps, and taken back by `resets` only.  Then a run raises it
(`Machine.rises`) at most once more often than it takes it back, and not even that when the flag is
down in the end, or up at the start (`Machine.rises_le`).
-/

namespace RansomShield

namespace Machine

variable {S A : Type*} {M : Machine S A}

/-- How often a run raises a flag. -/
def rises (M : Machine S A) (flag : S → Bool) (s : S) (as : List A) : ℕ :=
  (M.outputs (fun s _ s' => if flag s' && !flag s then [()] else []) s as).length

theorem rises_concat {flag : S → Bool} {s s' s'' : S} {as : List A} {a : A}
    (h : M.run s as = some s') (ha : M.step s' a = some s'') :
    M.rises flag s (as ++ [a]) =
      M.rises flag s as + if flag s'' && !flag s' then 1 else 0 := by
  rw [rises, outputs_concat h ha, List.length_append, rises]
  split_ifs <;> rfl

/-- **Rises and resets alternate.** -/
theorem rises_le {flag : S → Bool} {reset : A → Bool} {I : S → Prop} {s₀ s : S} {as : List A}
    (h₀ : I s₀) (hI : ∀ s a s', I s → M.step s a = some s' → I s')
    (hkeep : ∀ s a s', I s → M.step s a = some s' → flag s = true → reset a = false →
      flag s' = true)
    (h : M.run s₀ as = some s) :
    M.rises flag s₀ as + (flag s₀).toNat ≤ as.countP reset + (flag s).toNat := by
  have key : M.rises flag s₀ as + (flag s₀).toNat ≤ as.countP reset + (flag s).toNat ∧ I s := by
    refine run_induction (I := fun as s =>
      M.rises flag s₀ as + (flag s₀).toNat ≤ as.countP reset + (flag s).toNat ∧ I s) h
      ⟨Nat.le_of_eq (by simp [rises]), h₀⟩ ?_
    rintro bs b t t' - ht ⟨hle, ht'⟩ hstep
    refine ⟨?_, hI t b t' ht' hstep⟩
    rw [rises_concat ht hstep, List.countP_append, List.countP_singleton]
    have hb := hkeep t b t' ht' hstep
    cases hflag : flag t <;> cases hflag' : flag t' <;> cases hreset : reset b <;>
      simp_all <;> omega
  exact key.1

end Machine

end RansomShield
