import RansomShield.Machine.Basic
import Mathlib.Data.List.Nodup
import Mathlib.Data.Nat.Basic
import Mathlib.Order.Basic

/-!
# Tickets that are drawn before they are used

Clients of a counter draw a number from it in one step and use the number in another one, with
steps of other clients in between; some numbers are used at once (`tickets`).  Every number is used
only once, since the numbers that are held, used and spent are different after every run
(`TicketState.sound_run`).  The order in which numbers are used may differ from their order, but
only for numbers that are held at the same time: while a number is used, every smaller one that is
used later is held (`TicketState.held_of_overtaken`).
-/

namespace RansomShield

/-- The counter and its clients. -/
structure TicketState (C : Type*) where
  next : ℕ
  /-- The number that a client has drawn and not used yet. -/
  held : C → Option ℕ
  /-- The numbers that clients have used, in order. -/
  used : List ℕ
  /-- The numbers that were used at once. -/
  spent : List ℕ

/-- Nothing is drawn. -/
def TicketState.init (C : Type*) : TicketState C := ⟨0, fun _ => none, [], []⟩

inductive TicketAction (C : Type*)
  | draw (c : C)
  | use (c : C)
  | spend

/-- Numbers are drawn and used. -/
def tickets (C : Type*) [DecidableEq C] : Machine (TicketState C) (TicketAction C) where
  step t
    | .draw c =>
      match t.held c with
      | none => some { t with next := t.next + 1, held := Function.update t.held c (some t.next) }
      | some _ => none
    | .use c =>
      match t.held c with
      | some n => some { t with held := Function.update t.held c none, used := t.used ++ [n] }
      | none => none
    | .spend => some { t with next := t.next + 1, spent := t.spent ++ [t.next] }

namespace TicketState

variable {C : Type*} [DecidableEq C] {t t' : TicketState C} {as : List (TicketAction C)}

/-! ### Steps -/

/-- The steps, one case for each action. -/
inductive Step (t : TicketState C) : TicketAction C → TicketState C → Prop
  | draw {c} (hheld : t.held c = none) :
    Step t (.draw c) { t with next := t.next + 1, held := Function.update t.held c (some t.next) }
  | use {c n} (hheld : t.held c = some n) :
    Step t (.use c) { t with held := Function.update t.held c none, used := t.used ++ [n] }
  | spend : Step t .spend { t with next := t.next + 1, spent := t.spent ++ [t.next] }

theorem step_iff {a : TicketAction C} : (tickets C).step t a = some t' ↔ Step t a t' := by
  constructor
  · intro h
    cases a with
    | draw c =>
      simp only [tickets] at h
      split at h
      · next hheld =>
        cases h
        exact .draw hheld
      · cases h
    | use c =>
      simp only [tickets] at h
      split at h
      · next hheld =>
        cases h
        exact .use hheld
      · cases h
    | spend =>
      cases h
      exact .spend
  · intro h
    cases h with
    | draw hheld | use hheld => simp only [tickets, hheld]
    | spend => rfl

theorem held_of_update_some {held : C → Option ℕ} {c d : C} {k n : ℕ}
    (h : Function.update held c (some k) d = some n) : (d = c ∧ n = k) ∨ held d = some n := by
  by_cases hdc : d = c
  · rw [hdc, Function.update_self] at h
    exact Or.inl ⟨hdc, (Option.some.inj h).symm⟩
  · rw [Function.update_of_ne hdc] at h
    exact Or.inr h

theorem held_of_update_none {held : C → Option ℕ} {c d : C} {n : ℕ}
    (h : Function.update held c none d = some n) : d ≠ c ∧ held d = some n := by
  by_cases hdc : d = c
  · rw [hdc, Function.update_self] at h
    cases h
  · rw [Function.update_of_ne hdc] at h
    exact ⟨hdc, h⟩

/-! ### Numbers are used once -/

/-- The numbers that are held, used and spent are different, and smaller than the next one. -/
structure Sound (t : TicketState C) : Prop where
  nodup : (t.used ++ t.spent).Nodup
  lt : ∀ n ∈ t.used ++ t.spent, n < t.next
  held_lt : ∀ c n, t.held c = some n → n < t.next
  held_notMem : ∀ c n, t.held c = some n → n ∉ t.used ++ t.spent
  held_inj : ∀ c c' n, t.held c = some n → t.held c' = some n → c = c'

omit [DecidableEq C] in
theorem sound_init : (init C).Sound where
  nodup := List.nodup_nil
  lt _ hn := absurd hn List.not_mem_nil
  held_lt _ _ hheld := by cases hheld
  held_notMem _ _ hheld := by cases hheld
  held_inj _ _ _ hheld := by cases hheld

/-- **A step keeps the numbers different.** -/
theorem Sound.step (h : t.Sound) {a : TicketAction C} (hstep : Step t a t') : t'.Sound := by
  cases hstep with
  | @draw c hfree =>
    refine ⟨h.nodup, fun n hn => (h.lt n hn).trans (Nat.lt_succ_self _), ?_, ?_, ?_⟩
    · intro d n hd
      rcases held_of_update_some hd with ⟨-, rfl⟩ | hd
      · exact Nat.lt_succ_self _
      · exact (h.held_lt d n hd).trans (Nat.lt_succ_self _)
    · intro d n hd
      rcases held_of_update_some hd with ⟨-, rfl⟩ | hd
      · exact fun hmem => lt_irrefl _ (h.lt _ hmem)
      · exact h.held_notMem d n hd
    · intro d d' n hd hd'
      rcases held_of_update_some hd with ⟨rfl, rfl⟩ | hd
      · rcases held_of_update_some hd' with ⟨rfl, -⟩ | hd'
        · rfl
        · exact absurd (h.held_lt d' _ hd') (lt_irrefl _)
      · rcases held_of_update_some hd' with ⟨-, rfl⟩ | hd'
        · exact absurd (h.held_lt d _ hd) (lt_irrefl _)
        · exact h.held_inj d d' n hd hd'
  | @use c n hc =>
    have hperm : (t.used ++ [n] ++ t.spent).Perm (n :: (t.used ++ t.spent)) := by
      rw [List.append_assoc]
      exact List.perm_middle
    refine ⟨?_, ?_, fun d m hd => h.held_lt d m (held_of_update_none hd).2, ?_, ?_⟩
    · rw [hperm.nodup_iff, List.nodup_cons]
      exact ⟨h.held_notMem c n hc, h.nodup⟩
    · intro m hm
      rcases List.mem_cons.1 (hperm.mem_iff.1 hm) with rfl | hm
      · exact h.held_lt c m hc
      · exact h.lt m hm
    · intro d m hupdate hm
      obtain ⟨hdc, hd⟩ := held_of_update_none hupdate
      rcases List.mem_cons.1 (hperm.mem_iff.1 hm) with rfl | hm
      · exact hdc (h.held_inj d c m hd hc)
      · exact h.held_notMem d m hd hm
    · intro d d' m hd hd'
      exact h.held_inj d d' m (held_of_update_none hd).2 (held_of_update_none hd').2
  | spend =>
    have hmem : ∀ n, n ∈ t.used ++ (t.spent ++ [t.next]) → n ∈ t.used ++ t.spent ∨ n = t.next := by
      intro n hn
      rwa [← List.append_assoc, List.mem_append, List.mem_singleton] at hn
    refine ⟨?_, ?_, ?_, ?_, h.held_inj⟩
    · rw [← List.append_assoc]
      refine List.nodup_append.2 ⟨h.nodup, List.nodup_singleton _, ?_⟩
      rintro n hn m hm rfl
      rw [List.mem_singleton] at hm
      exact lt_irrefl _ (hm ▸ h.lt n hn)
    · intro n hn
      rcases hmem n hn with hn | rfl
      · exact (h.lt n hn).trans (Nat.lt_succ_self _)
      · exact Nat.lt_succ_self _
    · exact fun d n hd => (h.held_lt d n hd).trans (Nat.lt_succ_self _)
    · intro d n hd hn
      rcases hmem n hn with hn | rfl
      · exact h.held_notMem d n hd hn
      · exact lt_irrefl _ (h.held_lt d _ hd)

/-- **Every number is used once.** -/
theorem sound_run (hrun : (tickets C).run (init C) as = some t) : t.Sound :=
  Machine.run_invariant hrun sound_init fun _ _ _ h _ hstep => h.step (step_iff.1 hstep)

/-! ### The order of use -/

theorem used_grows (hrun : (tickets C).run t as = some t') : t.used <+: t'.used := by
  refine Machine.run_invariant (I := fun u => t.used <+: u.used) hrun List.prefix_rfl ?_
  rintro u a u' h - hstep
  cases step_iff.1 hstep with
  | draw | spend => exact h
  | use => exact h.trans (List.prefix_append _ _)

theorem held_old_or_new (hrun : (tickets C).run t as = some t') {c : C} {n : ℕ}
    (hheld : t'.held c = some n) : t.held c = some n ∨ t.next ≤ n := by
  have h : t.next ≤ t'.next ∧ ∀ c n, t'.held c = some n → t.held c = some n ∨ t.next ≤ n := by
    refine Machine.run_invariant (I := fun u => t.next ≤ u.next ∧
      ∀ c n, u.held c = some n → t.held c = some n ∨ t.next ≤ n) hrun
      ⟨le_rfl, fun _ _ => Or.inl⟩ ?_
    rintro u a u' ⟨hnext, hold⟩ - hstep
    cases step_iff.1 hstep with
    | @draw d hfree =>
      refine ⟨hnext.trans (Nat.le_succ _), fun c n hc => ?_⟩
      rcases held_of_update_some hc with ⟨-, rfl⟩ | hc
      · exact Or.inr hnext
      · exact hold c n hc
    | use hd => exact ⟨hnext, fun c n hc => hold c n (held_of_update_none hc).2⟩
    | spend => exact ⟨hnext.trans (Nat.le_succ _), hold⟩
  exact h.2 c n hheld

theorem exists_use (hrun : (tickets C).run (init C) as = some t) {i n : ℕ}
    (hi : t.used[i]? = some n) :
    ∃ bs c u, bs ++ [.use c] <+: as ∧ (tickets C).run (init C) bs = some u ∧
      u.used = t.used.take i ∧ u.held c = some n := by
  revert i n
  refine Machine.run_induction (I := fun as t => ∀ {i n : ℕ}, t.used[i]? = some n →
    ∃ bs c u, bs ++ [.use c] <+: as ∧ (tickets C).run (init C) bs = some u ∧
      u.used = t.used.take i ∧ u.held c = some n) hrun ?_ ?_
  · intro i n hi
    cases hi
  · rintro bs b u u' - hu ih hstep i n hi
    have hearlier : u.used[i]? = some n → (∃ rest, u'.used = u.used ++ rest) →
        ∃ cs c v, cs ++ [.use c] <+: bs ++ [b] ∧ (tickets C).run (init C) cs = some v ∧
          v.used = u'.used.take i ∧ v.held c = some n := by
      rintro hold ⟨rest, hrest⟩
      obtain ⟨cs, c, v, hcs, hv, hused, hheld⟩ := ih hold
      refine ⟨cs, c, v, hcs.trans (List.prefix_append _ _), hv, ?_, hheld⟩
      rw [hused, hrest, List.take_append_of_le_length
        (List.getElem?_eq_some_iff.1 hold).1.le]
    cases step_iff.1 hstep with
    | draw | spend => exact hearlier hi ⟨[], (List.append_nil _).symm⟩
    | @use c m hc =>
      by_cases hlt : i < u.used.length
      · rw [List.getElem?_append_left hlt] at hi
        exact hearlier hi ⟨[m], rfl⟩
      · have hlast : i = u.used.length := by
          have hle := (List.getElem?_eq_some_iff.1 hi).1
          rw [List.length_append, List.length_singleton] at hle
          omega
        rw [hlast, List.getElem?_concat_length] at hi
        cases hi
        exact ⟨bs, c, u, List.prefix_rfl, hu, by rw [hlast, List.take_left], hc⟩

/-- **Only held numbers are overtaken**: of two numbers that are used out of order, the smaller one
was held while the larger one was used. -/
theorem held_of_overtaken (hrun : (tickets C).run (init C) as = some t) {i j n m : ℕ}
    (hij : i < j) (hi : t.used[i]? = some n) (hj : t.used[j]? = some m) (hlt : m < n) :
    ∃ bs c c' u, bs ++ [.use c] <+: as ∧ (tickets C).run (init C) bs = some u ∧
      u.used = t.used.take i ∧ u.held c = some n ∧ u.held c' = some m := by
  obtain ⟨bs, c, u, hbs, hu, hused, hheld⟩ := exists_use hrun hi
  obtain ⟨bs', c', u', hbs', hu', hused', hheld'⟩ := exists_use hrun hj
  refine ⟨bs, c, c', u, hbs, hu, hused, hheld, ?_⟩
  have hilen := (List.getElem?_eq_some_iff.1 hi).1
  have hjlen := (List.getElem?_eq_some_iff.1 hj).1
  -- the step that used the larger number came first
  have hprefix : bs <+: bs' := by
    rcases List.prefix_or_prefix_of_prefix ((List.prefix_append _ _).trans hbs)
      ((List.prefix_append _ _).trans hbs') with h | ⟨cs, rfl⟩
    · exact h
    · rw [Machine.run_append, hu'] at hu
      have hle := (used_grows hu).length_le
      rw [hused, hused', List.length_take, List.length_take] at hle
      omega
  obtain ⟨cs, rfl⟩ := hprefix
  rw [Machine.run_append, hu] at hu'
  rcases held_old_or_new hu' hheld' with h | h
  · exact h
  · have hn := (sound_run hu).held_lt c n hheld
    omega

end TicketState

end RansomShield
