import RansomShield.Machine.Basic

/-!
# The discipline of a lock

A sequence of steps acquires and releases a lock that is not recursive.  It is *balanced*
(`Lock.Balanced`) when the lock is never acquired while it is held, never released while it is free,
and free at the end; and it *avoids* a kind of step (`Lock.Avoids`) when no step of this kind is
taken while the lock is held.

Code is given as a computation that notes its steps (`Traced`), so that both properties are about
the list of steps of a whole computation.  They are decided section by section: one computation
after another (`Lock.balanced_append`, `Lock.avoids_append_iff`), and a locked section
(`Lock.balanced_section_iff`, `Lock.avoids_section_iff`).  A `Lock.Verdict` has both, and a second
kind of step that is avoided exactly when a condition holds; `Lock.Verdict.append`,
`Lock.Verdict.flatMap` and `Lock.Verdict.locked` put it together.
-/

namespace RansomShield

/-! ### Computations with steps -/

/-- A computation with a result, and the steps it takes. -/
structure Traced (T A : Type) where
  steps : List T
  result : A

namespace Traced

variable {T A B : Type}

instance : Monad (Traced T) where
  pure a := ⟨[], a⟩
  bind x f := ⟨x.steps ++ (f x.result).steps, (f x.result).result⟩

/-- Take a step. -/
def step (t : T) : Traced T Unit := ⟨[t], ()⟩

@[simp] theorem steps_pure (a : A) : (pure a : Traced T A).steps = [] := rfl

@[simp] theorem result_pure (a : A) : (pure a : Traced T A).result = a := rfl

@[simp] theorem steps_bind (x : Traced T A) (f : A → Traced T B) :
    (x >>= f).steps = x.steps ++ (f x.result).steps := rfl

@[simp] theorem result_bind (x : Traced T A) (f : A → Traced T B) :
    (x >>= f).result = (f x.result).result := rfl

@[simp] theorem steps_step (t : T) : (step t).steps = [t] := rfl

/-- A loop over a list. -/
def each (l : List A) (body : A → Traced T Unit) : Traced T Unit :=
  ⟨l.flatMap fun a => (body a).steps, ()⟩

@[simp] theorem steps_each (l : List A) (body : A → Traced T Unit) :
    (each l body).steps = l.flatMap fun a => (body a).steps := rfl

end Traced

/-! ### The lock -/

/-- What a step does to the lock. -/
inductive LockOp
  | acquire
  | release
  | other
  deriving DecidableEq

namespace Lock

variable {T : Type} (op : T → LockOp)

/-- The states of the lock: whether it is held. -/
def machine : Machine Bool T where
  step held t :=
    match op t, held with
    | .acquire, false => some true
    | .release, true => some false
    | .other, held => some held
    | _, _ => none

/-- The lock is acquired when it is free, released when it is held, and free in the end. -/
def Balanced (ts : List T) : Prop := (machine op).run false ts = some false

/-- No step of the kind `F` is taken while the lock is held. -/
def Avoids (F : T → Prop) (ts : List T) : Prop :=
  (machine op).EveryStep false ts fun held t => held = true → ¬ F t

variable {op} {F : T → Prop} {t a r : T} {ts us body : List T}

theorem machine_step_other (ht : op t = .other) (held : Bool) :
    (machine op).step held t = some held := by
  simp only [machine, ht]

theorem run_others (h : ∀ t ∈ ts, op t = .other) (held : Bool) :
    (machine op).run held ts = some held := by
  induction ts with
  | nil => rfl
  | cons t ts ih =>
    rw [Machine.run_cons, machine_step_other (h t List.mem_cons_self), Option.bind_some]
    exact ih fun u hu => h u (List.mem_cons_of_mem t hu)

theorem everyStep_others_iff (h : ∀ t ∈ ts, op t = .other) {C : Bool → T → Prop} {held : Bool} :
    (machine op).EveryStep held ts C ↔ ∀ t ∈ ts, C held t := by
  constructor
  · intro hC t ht
    obtain ⟨bs, cs, rfl⟩ := List.append_of_mem ht
    refine hC bs t held ⟨cs, by simp⟩ (run_others ?_ held)
    exact fun u hu => h u (List.mem_append_left _ hu)
  · rintro hC bs t u ⟨cs, rfl⟩ hu
    have hmem : ∀ v ∈ bs, op v = .other := fun v hv => h v (by simp [hv])
    cases (run_others hmem held).symm.trans hu
    exact hC t (by simp)

/-! ### Outside of locked sections -/

@[simp] theorem balanced_nil : Balanced op [] := rfl

@[simp] theorem avoids_nil : Avoids op F [] := Machine.everyStep_nil false

theorem balanced_append (h : Balanced op ts) : Balanced op (ts ++ us) ↔ Balanced op us := by
  rw [Balanced, Machine.run_append, h, Option.bind_some, Balanced]

theorem avoids_append_iff (h : Balanced op ts) :
    Avoids op F (ts ++ us) ↔ Avoids op F ts ∧ Avoids op F us :=
  Machine.everyStep_append_iff h

theorem balanced_of_others (h : ∀ t ∈ ts, op t = .other) : Balanced op ts := run_others h false

theorem avoids_of_others (h : ∀ t ∈ ts, op t = .other) : Avoids op F ts :=
  (everyStep_others_iff h).2 fun _ _ hheld => by cases hheld

/-! ### Locked sections -/

theorem run_section (ha : op a = .acquire) (hr : op r = .release)
    (hbody : ∀ t ∈ body, op t = .other) :
    (machine op).run false (a :: (body ++ [r])) = some false := by
  have hacquire : (machine op).step false a = some true := by simp only [machine, ha]
  have hrelease : (machine op).step true r = some false := by simp only [machine, hr]
  rw [Machine.run_cons, hacquire, Option.bind_some, Machine.run_append, run_others hbody,
    Option.bind_some, Machine.run_singleton, hrelease]

theorem section_eq (ts : List T) : a :: (body ++ r :: ts) = a :: (body ++ [r]) ++ ts := by simp

/-- **A locked section is balanced.** -/
theorem balanced_section_iff (ha : op a = .acquire) (hr : op r = .release)
    (hbody : ∀ t ∈ body, op t = .other) :
    Balanced op (a :: (body ++ r :: ts)) ↔ Balanced op ts := by
  rw [section_eq]
  exact balanced_append (run_section ha hr hbody)

/-- **What a locked section avoids** is what the steps in it avoid. -/
theorem avoids_section_iff (ha : op a = .acquire) (hr : op r = .release) (hF : ¬ F r)
    (hbody : ∀ t ∈ body, op t = .other) :
    Avoids op F (a :: (body ++ r :: ts)) ↔ (∀ t ∈ body, ¬ F t) ∧ Avoids op F ts := by
  have hacquire : (machine op).run false [a] = some true := by
    simp [machine, ha, Machine.run_singleton]
  have hmiddle : (machine op).run true body = some true := run_others hbody true
  rw [section_eq, avoids_append_iff (run_section ha hr hbody), Avoids, ← List.singleton_append,
    Machine.everyStep_append_iff hacquire, Machine.everyStep_append_iff hmiddle,
    everyStep_others_iff hbody]
  have hfirst : (machine op).EveryStep false [a] fun held t => held = true → ¬ F t :=
    Machine.everyStep_cons (fun h => by cases h) fun _ _ => Machine.everyStep_nil _
  have hlast : (machine op).EveryStep true [r] fun held t => held = true → ¬ F t :=
    Machine.everyStep_cons (fun _ => hF) fun _ _ => Machine.everyStep_nil _
  simp [hfirst, hlast]

/-! ### Verdicts -/

/-- The steps are balanced, never of the kind `G` under the lock, and of the kind `F` under the
lock unless `P`. -/
structure Verdict (op : T → LockOp) (G F : T → Prop) (ts : List T) (P : Prop) : Prop where
  balanced : Balanced op ts
  never : Avoids op G ts
  avoids_iff : Avoids op F ts ↔ P

namespace Verdict

variable {G : T → Prop} {P Q : Prop}

theorem congr (h : Verdict op G F ts P) (hPQ : P ↔ Q) : Verdict op G F ts Q :=
  ⟨h.balanced, h.never, h.avoids_iff.trans hPQ⟩

theorem others (h : ∀ t ∈ ts, op t = .other) : Verdict op G F ts True :=
  ⟨balanced_of_others h, avoids_of_others h, iff_true_intro (avoids_of_others h)⟩

theorem nil : Verdict op G F [] True := others (List.forall_mem_nil _)

theorem append (h : Verdict op G F ts P) (h' : Verdict op G F us Q) :
    Verdict op G F (ts ++ us) (P ∧ Q) where
  balanced := (balanced_append h.balanced).2 h'.balanced
  never := (avoids_append_iff h.balanced).2 ⟨h.never, h'.never⟩
  avoids_iff := (avoids_append_iff h.balanced).trans (and_congr h.avoids_iff h'.avoids_iff)

theorem cons (ht : op t = .other) (h : Verdict op G F ts P) : Verdict op G F (t :: ts) P :=
  ((others (List.forall_mem_singleton.2 ht)).append h).congr (iff_of_eq (true_and P))

theorem flatMap {A : Type} {f : A → List T} {P : A → Prop} {l : List A}
    (h : ∀ x ∈ l, Verdict op G F (f x) (P x)) :
    Verdict op G F (l.flatMap f) (∀ x ∈ l, P x) := by
  induction l with
  | nil => exact nil.congr (iff_of_true trivial (List.forall_mem_nil _))
  | cons x l ih =>
    rw [List.flatMap_cons, List.forall_mem_cons]
    exact (h x List.mem_cons_self).append (ih fun y hy => h y (List.mem_cons_of_mem x hy))

/-- **A locked section**, and what follows it. -/
theorem locked (ha : op a = .acquire) (hr : op r = .release) (hG : ¬ G r) (hF : ¬ F r)
    (body : List T) (hbody : ∀ t ∈ body, op t = .other ∧ ¬ G t) (h : Verdict op G F ts P) :
    Verdict op G F (a :: (body ++ r :: ts)) ((∀ t ∈ body, ¬ F t) ∧ P) := by
  have hothers : ∀ t ∈ body, op t = .other := fun t ht => (hbody t ht).1
  refine ⟨(balanced_section_iff ha hr hothers).2 h.balanced, ?_, ?_⟩
  · exact (avoids_section_iff ha hr hG hothers).2 ⟨fun t ht => (hbody t ht).2, h.never⟩
  · rw [avoids_section_iff ha hr hF hothers, h.avoids_iff]

end Verdict

end Lock

end RansomShield
