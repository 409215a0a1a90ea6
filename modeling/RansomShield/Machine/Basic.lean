import Mathlib.Data.List.Induction
import Mathlib.Tactic.Common

/-!
# Deterministic machines

The behavioural models of this development are *deterministic machines*: a state, a set of
actions, and a partial step function `S → A → Option S`.  Interleavings of threads are sequences of
actions, the thread that moves being named by the action.

* `Machine.run` performs a list of actions, `none` when one of them is not enabled; invariants of
  runs go by `Machine.run_invariant`, and by `Machine.run_induction` when they also speak about the
  actions performed so far.
* `Machine.Always` and `Machine.EveryStep` say that every state of a run satisfies a predicate, and
  that every step of it meets a condition; `Machine.check` and `Machine.checkSteps` decide them.
* `Machine.run_project`: a view of the state that only some actions change evolves by these actions
  alone, and so does what is seen after each of them (`Machine.observe_project`).
* `Machine.outputs` is what the steps of a run put out, in order.

A machine whose actions are always enabled is a function, and `exec` runs it.
-/

namespace RansomShield

/-- A deterministic machine with states `S` and actions `A`. -/
structure Machine (S : Type*) (A : Type*) where
  /-- The state reached by an action, `none` when the action is not enabled. -/
  step : S → A → Option S

namespace Machine

variable {S A V B : Type*}

/-- Perform a list of actions. -/
def run (M : Machine S A) : S → List A → Option S
  | s, [] => some s
  | s, a :: as => (M.step s a).bind fun s' => M.run s' as

variable {M : Machine S A}

@[simp] theorem run_nil (s : S) : M.run s [] = some s := rfl

theorem run_cons (s : S) (a : A) (as : List A) :
    M.run s (a :: as) = (M.step s a).bind fun s' => M.run s' as := rfl

theorem run_singleton (s : S) (a : A) : M.run s [a] = M.step s a := by
  rw [run_cons]
  cases M.step s a <;> rfl

theorem run_append (s : S) (as bs : List A) :
    M.run s (as ++ bs) = (M.run s as).bind fun s' => M.run s' bs := by
  induction as generalizing s with
  | nil => rfl
  | cons a as ih =>
    simp only [List.cons_append, run_cons]
    cases M.step s a with
    | none => rfl
    | some s' => exact ih s'

theorem run_concat (s : S) (as : List A) (a : A) :
    M.run s (as ++ [a]) = (M.run s as).bind fun s' => M.step s' a := by
  rw [run_append]
  congr 1
  funext s'
  exact run_singleton s' a

theorem run_concat_eq_some {s s'' : S} {as : List A} {a : A}
    (h : M.run s (as ++ [a]) = some s'') :
    ∃ s', M.run s as = some s' ∧ M.step s' a = some s'' := by
  rw [run_concat] at h
  exact Option.bind_eq_some_iff.1 h

theorem mem_of_concat {as bs : List A} {b : A} (h : bs ++ [b] <+: as) : b ∈ as :=
  h.subset (List.mem_append_right bs (List.mem_singleton_self b))

/-- **Induction along a run**, for an invariant that relates the actions performed so far to the
state they lead to. -/
theorem run_induction {I : List A → S → Prop} {s₀ s : S} {as : List A}
    (h : M.run s₀ as = some s) (h₀ : I [] s₀)
    (hstep : ∀ bs b s s', bs ++ [b] <+: as → M.run s₀ bs = some s → I bs s →
      M.step s b = some s' → I (bs ++ [b]) s') : I as s := by
  induction as using List.reverseRecOn generalizing s with
  | nil => cases h; exact h₀
  | append_singleton bs b ih =>
    obtain ⟨s', hs', hst⟩ := run_concat_eq_some h
    refine hstep bs b s' s List.prefix_rfl hs' (ih hs' ?_) hst
    intro cs c t t' hcs ht hc
    exact hstep cs c t t' (hcs.trans (List.prefix_append _ _)) ht hc

/-- **Invariants of runs**: a predicate preserved by every action of the run holds at its end. -/
theorem run_invariant {I : S → Prop} {s₀ s : S} {as : List A} (h : M.run s₀ as = some s)
    (h₀ : I s₀) (hstep : ∀ s a s', I s → a ∈ as → M.step s a = some s' → I s') : I s :=
  run_induction (I := fun _ s => I s) h h₀ fun _ b s s' hb _ hs =>
    hstep s b s' hs (mem_of_concat hb)

theorem exists_run_of_prefix {s₀ s : S} {as bs : List A} (h : M.run s₀ as = some s)
    (hb : bs <+: as) : ∃ s', M.run s₀ bs = some s' := by
  obtain ⟨cs, rfl⟩ := hb
  rw [run_append] at h
  obtain ⟨s', hs', -⟩ := Option.bind_eq_some_iff.1 h
  exact ⟨s', hs'⟩

theorem exists_step {s₀ s s' : S} {as bs : List A} {b : A} (h : M.run s₀ as = some s)
    (hb : bs ++ [b] <+: as) (hs' : M.run s₀ bs = some s') : ∃ s'', M.step s' b = some s'' := by
  obtain ⟨s'', hs''⟩ := exists_run_of_prefix h hb
  obtain ⟨t, ht, hstep⟩ := run_concat_eq_some hs''
  cases hs'.symm.trans ht
  exact ⟨s'', hstep⟩

/-- Every state of the run along `as` satisfies `P`. -/
def Always (M : Machine S A) (s₀ : S) (as : List A) (P : S → Prop) : Prop :=
  ∀ bs s, bs <+: as → M.run s₀ bs = some s → P s

theorem Always.start {P : S → Prop} {s₀ : S} {as : List A} (h : M.Always s₀ as P) : P s₀ :=
  h [] s₀ List.nil_prefix rfl

theorem Always.before {P : S → Prop} {s₀ s : S} {as bs : List A} {b : A} (h : M.Always s₀ as P)
    (hb : bs ++ [b] <+: as) (hs : M.run s₀ bs = some s) : P s :=
  h bs s ((List.prefix_append bs [b]).trans hb) hs

/-- Every step of the run along `as` meets a condition on the state before it and its action. -/
def EveryStep (M : Machine S A) (s₀ : S) (as : List A) (C : S → A → Prop) : Prop :=
  ∀ bs b s, bs ++ [b] <+: as → M.run s₀ bs = some s → C s b

/-- **Invariants of runs whose steps meet a condition.** -/
theorem EveryStep.invariant {I : S → Prop} {C : S → A → Prop} {s₀ s : S} {as : List A}
    (hC : M.EveryStep s₀ as C) (h : M.run s₀ as = some s) (h₀ : I s₀)
    (hstep : ∀ s a s', I s → C s a → M.step s a = some s' → I s') : I s :=
  run_induction (I := fun _ s => I s) h h₀ fun bs b s s' hb hs hI =>
    hstep s b s' hI (hC bs b s hb hs)

theorem EveryStep.of_prefix {C : S → A → Prop} {s₀ : S} {as bs : List A}
    (hC : M.EveryStep s₀ as C) (hbs : bs <+: as) : M.EveryStep s₀ bs C :=
  fun cs c s hc hs => hC cs c s (hc.trans hbs) hs

theorem everyStep_nil {C : S → A → Prop} (s : S) : M.EveryStep s [] C :=
  fun _ _ _ hb _ => absurd (List.prefix_nil.1 hb) (by simp)

theorem everyStep_cons {C : S → A → Prop} {s : S} {a : A} {as : List A} (h : C s a)
    (hnext : ∀ s', M.step s a = some s' → M.EveryStep s' as C) : M.EveryStep s (a :: as) C := by
  intro bs b u hb hu
  cases bs with
  | nil =>
    cases hu
    obtain ⟨rfl, -⟩ := List.cons_prefix_cons.1 hb
    exact h
  | cons c bs =>
    obtain ⟨rfl, hb'⟩ := List.cons_prefix_cons.1 hb
    obtain ⟨s', hs', hrest⟩ := Option.bind_eq_some_iff.1 (run_cons (M := M) s c bs ▸ hu)
    exact hnext s' hs' bs b u hb' hrest

theorem EveryStep.concat {C : S → A → Prop} {s₀ s : S} {as : List A} {a : A}
    (hC : M.EveryStep s₀ as C) (hs : M.run s₀ as = some s) (ha : C s a) :
    M.EveryStep s₀ (as ++ [a]) C := by
  intro bs b u hb hu
  rcases List.prefix_concat_iff.1 hb with heq | hb
  · obtain ⟨rfl, rfl⟩ := List.append_singleton_inj.1 heq
    cases hs.symm.trans hu
    exact ha
  · exact hC bs b u hb hu

theorem everyStep_append_iff {C : S → A → Prop} {s s' : S} {as bs : List A}
    (h : M.run s as = some s') :
    M.EveryStep s (as ++ bs) C ↔ M.EveryStep s as C ∧ M.EveryStep s' bs C := by
  constructor
  · intro hC
    refine ⟨hC.of_prefix (List.prefix_append as bs), ?_⟩
    intro cs c u hc hu
    refine hC (as ++ cs) c u ?_ ?_
    · rw [List.append_assoc]
      exact (List.prefix_append_right_inj as).2 hc
    · rw [run_append, h]
      exact hu
  · rintro ⟨has, hbs⟩
    induction as generalizing s with
    | nil =>
      cases h
      exact hbs
    | cons a as ih =>
      obtain ⟨t, ht, hrest⟩ := Option.bind_eq_some_iff.1 (run_cons (M := M) s a as ▸ h)
      refine everyStep_cons (has [] a s ⟨as, rfl⟩ rfl) ?_
      intro u hu
      cases ht.symm.trans hu
      refine ih hrest fun cs c v hc hv => has (a :: cs) c v ?_ ?_
      · exact List.cons_prefix_cons.2 ⟨rfl, hc⟩
      · rw [run_cons, ht]
        exact hv

/-- Check a condition on every step of a run. -/
def checkSteps (M : Machine S A) (C : S → A → Bool) : S → List A → Bool
  | _, [] => true
  | s, a :: as => C s a && (M.step s a).all fun s' => M.checkSteps C s' as

theorem everyStep_of_checkSteps (M : Machine S A) (C : S → A → Bool) (s₀ : S) (as : List A)
    (h : M.checkSteps C s₀ as = true) : M.EveryStep s₀ as fun s a => C s a = true := by
  induction as generalizing s₀ with
  | nil => exact everyStep_nil s₀
  | cons a as ih =>
    rw [checkSteps, Bool.and_eq_true] at h
    refine everyStep_cons h.1 fun s' hs' => ih s' ?_
    have hnext := h.2
    rwa [hs', Option.all_some] at hnext

/-- Check a predicate in every state of a run. -/
def check (M : Machine S A) (P : S → Bool) : S → List A → Bool
  | s, [] => P s
  | s, a :: as => P s && (M.step s a).all fun s' => M.check P s' as

theorem always_of_check (M : Machine S A) (P : S → Bool) (s₀ : S) (as : List A)
    (h : M.check P s₀ as = true) : M.Always s₀ as fun s => P s = true := by
  intro bs s hbs hrun
  induction as generalizing s₀ bs with
  | nil =>
    cases List.prefix_nil.1 hbs
    cases hrun
    exact h
  | cons a as ih =>
    rw [check, Bool.and_eq_true] at h
    cases bs with
    | nil => cases hrun; exact h.1
    | cons b bs =>
      obtain ⟨rfl, hbs'⟩ := List.cons_prefix_cons.1 hbs
      obtain ⟨s₁, h₁, h₂⟩ := Option.bind_eq_some_iff.1 (run_cons (M := M) s₀ b bs ▸ hrun)
      have hnext := h.2
      rw [h₁, Option.all_some] at hnext
      exact ih s₁ hnext bs hbs' h₂

theorem exists_of_any (M : Machine S A) (P : S → Bool) (s₀ : S) (as : List A)
    (h : (M.run s₀ as).any P = true) : ∃ s, M.run s₀ as = some s ∧ P s = true :=
  (Option.any_eq_true _ _).1 h

/-- **Projection of runs.**  If the actions that `π` translates act on the view `f` of the state as
their translations do in the machine `N`, and the other actions leave the view alone, then a run
seen through `f` is the run of `N` on the translated actions. -/
theorem run_project {N : Machine V B} {f : S → V} {π : A → Option B} {I : S → Prop}
    (hI : ∀ s a s', I s → M.step s a = some s' → I s')
    (hrel : ∀ s a s' b, I s → M.step s a = some s' → π a = some b → N.step (f s) b = some (f s'))
    (hirr : ∀ s a s', I s → M.step s a = some s' → π a = none → f s' = f s)
    {s s' : S} {as : List A} (hs : I s) (h : M.run s as = some s') :
    N.run (f s) (as.filterMap π) = some (f s') := by
  induction as generalizing s with
  | nil => cases h; rfl
  | cons a as ih =>
    obtain ⟨s₁, h₁, h₂⟩ := Option.bind_eq_some_iff.1 (run_cons (M := M) s a as ▸ h)
    cases ha : π a with
    | some b =>
      rw [List.filterMap_cons_some ha, run_cons, hrel s a s₁ b hs h₁ ha]
      exact ih (hI s a s₁ hs h₁) h₂
    | none =>
      rw [List.filterMap_cons_none ha, ← hirr s a s₁ hs h₁ ha]
      exact ih (hI s a s₁ hs h₁) h₂

/-- The states after each action of a run. -/
def trace (M : Machine S A) : S → List A → List S
  | _, [] => []
  | s, a :: as =>
    match M.step s a with
    | none => []
    | some s' => s' :: M.trace s' as

/-- The view `f` after each action of a run that `π` translates. -/
def observe (M : Machine S A) (f : S → V) (π : A → Option B) : S → List A → List V
  | _, [] => []
  | s, a :: as =>
    match M.step s a with
    | none => []
    | some s' => if (π a).isSome then f s' :: M.observe f π s' as else M.observe f π s' as

/-- **Projection of runs, step by step.** -/
theorem observe_project {N : Machine V B} {f : S → V} {π : A → Option B} {I : S → Prop}
    (hI : ∀ s a s', I s → M.step s a = some s' → I s')
    (hrel : ∀ s a s' b, I s → M.step s a = some s' → π a = some b → N.step (f s) b = some (f s'))
    (hirr : ∀ s a s', I s → M.step s a = some s' → π a = none → f s' = f s)
    {s s' : S} {as : List A} (hs : I s) (h : M.run s as = some s') :
    M.observe f π s as = N.trace (f s) (as.filterMap π) := by
  induction as generalizing s with
  | nil => rfl
  | cons a as ih =>
    obtain ⟨s₁, h₁, h₂⟩ := Option.bind_eq_some_iff.1 (run_cons (M := M) s a as ▸ h)
    have ih := ih (hI s a s₁ hs h₁) h₂
    simp only [observe, h₁]
    cases ha : π a with
    | some b =>
      rw [List.filterMap_cons_some ha]
      simp only [trace, hrel s a s₁ b hs h₁ ha]
      rw [ih]
      rfl
    | none =>
      rw [List.filterMap_cons_none ha, ← hirr s a s₁ hs h₁ ha]
      exact ih

/-- What the steps of a run put out, in order. -/
def outputs {O : Type*} (M : Machine S A) (out : S → A → S → List O) : S → List A → List O
  | _, [] => []
  | s, a :: as =>
    match M.step s a with
    | none => []
    | some s' => out s a s' ++ M.outputs out s' as

@[simp] theorem outputs_nil {O : Type*} (out : S → A → S → List O) (s : S) :
    M.outputs out s [] = [] := rfl

theorem outputs_append {O : Type*} {out : S → A → S → List O} {s s' : S} {as : List A}
    (h : M.run s as = some s') (bs : List A) :
    M.outputs out s (as ++ bs) = M.outputs out s as ++ M.outputs out s' bs := by
  induction as generalizing s with
  | nil => cases h; rfl
  | cons a as ih =>
    obtain ⟨s₁, h₁, h₂⟩ := Option.bind_eq_some_iff.1 (run_cons (M := M) s a as ▸ h)
    simp only [List.cons_append, outputs, h₁, ih h₂, List.append_assoc]

theorem outputs_concat {O : Type*} {out : S → A → S → List O} {s s' s'' : S} {as : List A}
    {a : A} (h : M.run s as = some s') (ha : M.step s' a = some s'') :
    M.outputs out s (as ++ [a]) = M.outputs out s as ++ out s' a s'' := by
  rw [outputs_append h, outputs, ha]
  simp

end Machine

/-! ### Total machines -/

section Exec

variable {S E : Type*} (f : S → E → S)

/-- Perform a list of events that are always enabled. -/
def exec (s : S) (es : List E) : S := es.foldl f s

@[simp] theorem exec_nil (s : S) : exec f s [] = s := rfl

@[simp] theorem exec_cons (s : S) (e : E) (es : List E) :
    exec f s (e :: es) = exec f (f s e) es := rfl

theorem exec_append (s : S) (es es' : List E) :
    exec f s (es ++ es') = exec f (exec f s es) es' :=
  List.foldl_append

@[simp] theorem exec_concat (s : S) (es : List E) (e : E) :
    exec f s (es ++ [e]) = f (exec f s es) e := by
  rw [exec_append]; rfl

variable {f}

/-- Induction along a run of always enabled events, for an invariant that also speaks about the
events so far. -/
theorem exec_induction {I : List E → S → Prop} {s₀ : S} {es : List E} (h₀ : I [] s₀)
    (hstep : ∀ ds d, ds ++ [d] <+: es → I ds (exec f s₀ ds) →
      I (ds ++ [d]) (f (exec f s₀ ds) d)) : I es (exec f s₀ es) := by
  induction es using List.reverseRecOn with
  | nil => exact h₀
  | append_singleton es e ih =>
    rw [exec_concat]
    refine hstep es e List.prefix_rfl (ih fun ds d hd hI => hstep ds d ?_ hI)
    exact hd.trans (List.prefix_append _ _)

theorem exec_invariant {I : S → Prop} {s₀ : S} (es : List E) (h₀ : I s₀)
    (hstep : ∀ s, ∀ e ∈ es, I s → I (f s e)) : I (exec f s₀ es) :=
  exec_induction (I := fun _ s => I s) h₀ fun _ d hd =>
    hstep _ d (Machine.mem_of_concat hd)

end Exec

end RansomShield
