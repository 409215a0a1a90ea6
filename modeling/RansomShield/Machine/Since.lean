import RansomShield.Machine.Basic

/-!
# Since

`Machine.Since` is the temporal operator of the past: along a run something happened, and something
else has not happened since.  A flag of the state that some steps set, and others take back, is
what the history of the run says in this way (`Machine.flag_iff_since`), so that a condition on the
flag can be stated on the steps that were performed.
-/

namespace RansomShield

namespace Machine

variable {S A : Type*} {M : Machine S A} {P Q : S → A → Prop} {s₀ s t : S} {as : List A} {a : A}

/-- Some step of the run satisfied `P`, and no step after it satisfied `Q`. -/
def Since (M : Machine S A) (s₀ : S) (as : List A) (P Q : S → A → Prop) : Prop :=
  ∃ bs a cs s t, as = bs ++ a :: cs ∧ M.run s₀ bs = some s ∧ P s a ∧ M.step s a = some t ∧
    M.EveryStep t cs fun s a => ¬ Q s a

theorem not_since_nil : ¬ M.Since s₀ [] P Q := by
  rintro ⟨bs, a, cs, -, -, hnil, -⟩
  exact List.append_ne_nil_of_right_ne_nil bs (List.cons_ne_nil a cs) hnil.symm

/-- **The last step** of a run decides, or else the run before it does. -/
theorem since_concat_iff (hrun : M.run s₀ as = some s) (hstep : M.step s a = some t) :
    M.Since s₀ (as ++ [a]) P Q ↔ P s a ∨ (¬ Q s a ∧ M.Since s₀ as P Q) := by
  constructor
  · rintro ⟨bs, b, cs, u, v, heq, hu, hP, hv, hQ⟩
    cases cs using List.reverseRecOn with
    | nil =>
      obtain ⟨rfl, rfl⟩ := List.append_singleton_inj.1 heq
      cases hrun.symm.trans hu
      exact .inl hP
    | append_singleton cs c =>
      rw [← List.cons_append, ← List.append_assoc] at heq
      obtain ⟨rfl, rfl⟩ := List.append_singleton_inj.1 heq
      have hcs : M.run v cs = some s := by
        rw [run_append, hu, Option.bind_some, run_cons, hv, Option.bind_some] at hrun
        exact hrun
      refine .inr ⟨hQ cs a s List.prefix_rfl hcs, bs, b, cs, u, v, rfl, hu, hP, hv, ?_⟩
      exact hQ.of_prefix (List.prefix_append cs [a])
  · rintro (hP | ⟨hQ, bs, b, cs, u, v, rfl, hu, hP, hv, hcs⟩)
    · exact ⟨as, a, [], s, t, rfl, hrun, hP, hstep, everyStep_nil t⟩
    · rw [run_append, hu, Option.bind_some, run_cons, hv, Option.bind_some] at hrun
      refine ⟨bs, b, cs ++ [a], u, v, ?_, hu, hP, hv, hcs.concat hrun hQ⟩
      rw [List.append_assoc, List.cons_append]

/-- **A flag is what the history says**: it is up if and only if a step has set it and none has
taken it back since. -/
theorem flag_iff_since {F : S → Prop} (h : M.run s₀ as = some s) (h₀ : ¬ F s₀)
    (hF : ∀ bs b u v, bs ++ [b] <+: as → M.run s₀ bs = some u → M.step u b = some v →
      (F v ↔ P u b ∨ (¬ Q u b ∧ F u))) : F s ↔ M.Since s₀ as P Q := by
  refine run_induction (I := fun bs u => F u ↔ M.Since s₀ bs P Q) h
    (iff_of_false h₀ not_since_nil) ?_
  intro bs b u v hbs hu ih hstep
  rw [hF bs b u v hbs hu hstep, since_concat_iff hu hstep, ih]

/-- What happened last, when something did. -/
theorem Since.or_since {R R' : S → A → Prop} (hsince : M.Since s₀ as R R')
    (h : M.run s₀ as = some s) (hR : ∀ s a, R s a → P s a ∨ Q s a) :
    M.Since s₀ as P Q ∨ M.Since s₀ as Q P := by
  refine run_induction (I := fun bs _ => M.Since s₀ bs R R' →
    M.Since s₀ bs P Q ∨ M.Since s₀ bs Q P) h (fun h => absurd h not_since_nil) ?_ hsince
  intro bs b u v _ hu ih hstep hR'
  rw [since_concat_iff hu hstep] at hR' ⊢
  rw [since_concat_iff hu hstep]
  by_cases hP : P u b
  · exact .inl (.inl hP)
  by_cases hQ : Q u b
  · exact .inr (.inl hQ)
  rcases hR' with hR' | ⟨-, hR'⟩
  · exact absurd (hR u b hR') (not_or.2 ⟨hP, hQ⟩)
  · exact (ih hR').imp (fun h => .inr ⟨hQ, h⟩) fun h => .inr ⟨hP, h⟩

/-- Not both happened last. -/
theorem Since.not_since (hsince : M.Since s₀ as P Q) (h : M.run s₀ as = some s)
    (hPQ : ∀ s a, P s a → ¬ Q s a) : ¬ M.Since s₀ as Q P := by
  refine run_induction (I := fun bs _ => M.Since s₀ bs P Q → ¬ M.Since s₀ bs Q P) h
    (fun h => absurd h not_since_nil) ?_ hsince
  intro bs b u v _ hu ih hstep hP hQ
  rw [since_concat_iff hu hstep] at hP hQ
  rcases hP with hP | ⟨hnQ, hP⟩
  · exact hQ.elim (hPQ u b hP) fun hQ => hQ.1 hP
  · exact hQ.elim hnQ fun hQ => ih hP hQ.2

end Machine

end RansomShield
