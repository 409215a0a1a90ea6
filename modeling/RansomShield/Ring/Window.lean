import Mathlib.Data.List.DropRight
import Mathlib.Data.List.Pairwise
import Mathlib.Order.Defs.LinearOrder

/-!
# Bounded sliding windows

A sliding-window counter keeps, of all the events of a log, the recent ones, and at most `n` of
them.  The log is ordered when events are logged in the order of their times; recency is then an
upward closed predicate, the recent events are a final segment of the log
(`Window.filter_suffix_of_pairwise`), and keeping only the last `n` recent events loses nothing but
the count above `n` (`Window.countP_eq_min_of_window`).  Narrowing a bounded window gives the
bounded narrower window (`Window.filter_rtake_filter`).  For a log in arbitrary order,
`Window.filter_survivors` is what a window keeps of it.
-/

namespace RansomShield

namespace Window

variable {α : Type*} {r : α → α → Prop} {p q : α → Bool}

theorem rtake_suffix (l : List α) (n : ℕ) : l.rtake n <:+ l := List.drop_suffix _ _

@[simp] theorem length_rtake (l : List α) (n : ℕ) : (l.rtake n).length = min n l.length := by
  rw [List.rtake, List.length_drop]; omega

theorem rtake_of_length_le {l : List α} {n : ℕ} (h : l.length ≤ n) : l.rtake n = l := by
  rw [List.rtake, Nat.sub_eq_zero_of_le h, List.drop_zero]

theorem rtake_append_of_le {l l' : List α} {n : ℕ} (h : n ≤ l'.length) :
    (l ++ l').rtake n = l'.rtake n := by
  rw [List.rtake, List.rtake, List.length_append, List.drop_append,
    List.drop_eq_nil_of_le (by omega), List.nil_append]
  congr 1
  omega

/-- Of two final segments of one list the bounded parts are final segments as well. -/
theorem rtake_suffix_rtake {l l' : List α} (h : l <:+ l') (n : ℕ) : l.rtake n <:+ l'.rtake n := by
  obtain ⟨t, rfl⟩ := h
  by_cases hn : n ≤ l.length
  · exact (rtake_append_of_le hn).symm ▸ List.suffix_rfl
  · rw [rtake_of_length_le (Nat.le_of_lt (Nat.lt_of_not_le hn))]
    refine List.suffix_of_suffix_length_le (List.suffix_append t l) (rtake_suffix _ _) ?_
    rw [length_rtake, List.length_append]
    omega

theorem rtake_rtake_concat (l : List α) (x : α) (n : ℕ) :
    (l.rtake n ++ [x]).rtake n = (l ++ [x]).rtake n := by
  obtain ⟨t, ht⟩ := rtake_suffix l n
  by_cases hn : l.length ≤ n
  · rw [rtake_of_length_le hn]
  · have hlen : n ≤ (l.rtake n ++ [x]).length := by
      rw [List.length_append, length_rtake]; omega
    conv_rhs => rw [← ht, List.append_assoc, rtake_append_of_le hlen]

/-- **The recent elements of an ordered list are a final segment of it.** -/
theorem filter_suffix_of_pairwise {l : List α} (hl : l.Pairwise r)
    (hp : ∀ x y, r x y → p x = true → p y = true) : l.filter p <:+ l := by
  induction l with
  | nil => exact List.suffix_rfl
  | cons x l ih =>
    obtain ⟨hx, hl⟩ := List.pairwise_cons.1 hl
    by_cases h : p x = true
    · have hall : ∀ y ∈ x :: l, p y = true := by
        rintro y (_ | ⟨_, hy⟩)
        · exact h
        · exact hp x y (hx y hy) h
      exact (List.filter_eq_self.2 hall).symm ▸ List.suffix_rfl
    · rw [List.filter_cons_of_neg h]
      exact (ih hl).trans (List.suffix_cons x l)

/-- **Narrowing a bounded window.**  If `p` is the narrower of two recency predicates, the recent
elements of the bounded window of `q` are the bounded window of `p`. -/
theorem filter_rtake_filter {l : List α} (hl : l.Pairwise r)
    (hp : ∀ x y, r x y → p x = true → p y = true) (hpq : ∀ x ∈ l, p x = true → q x = true)
    (n : ℕ) : ((l.filter q).rtake n).filter p = (l.filter p).rtake n := by
  have hsub : (l.filter q).filter p = l.filter p := by
    rw [List.filter_filter]
    refine List.filter_congr ?_
    intro x hmem
    cases hx : p x with
    | false => rfl
    | true => simp [hpq x hmem hx]
  obtain ⟨t, ht⟩ := filter_suffix_of_pairwise (hl.filter q) hp
  rw [hsub] at ht
  have hself : (l.filter p).filter p = l.filter p := by simp [List.filter_filter]
  have hnil : t.filter p = [] := by
    have := congrArg (List.filter p) ht
    rw [List.filter_append, hself, hsub] at this
    exact List.append_left_eq_self.1 this
  rw [← ht]
  by_cases hn : n ≤ (l.filter p).length
  · rw [rtake_append_of_le hn]
    refine List.filter_eq_self.2 ?_
    intro x hx
    exact (List.mem_filter.1 ((rtake_suffix _ n).subset hx)).2
  · have hle := Nat.le_of_lt (Nat.lt_of_not_le hn)
    rw [List.rtake, List.length_append, List.drop_append_of_le_length (by omega),
      List.filter_append, hself, rtake_of_length_le hle]
    refine List.append_left_eq_self.2 (List.filter_eq_nil_iff.2 ?_)
    intro x hx
    exact List.filter_eq_nil_iff.1 hnil x (List.mem_of_mem_drop hx)

/-- A list that ends with the last `n` recent entries of a log counts all its recent entries, up to
the bound. -/
theorem min_countP_le_countP {l v : List α} {n : ℕ} (hlow : (l.filter p).rtake n <:+ v) :
    min n (l.countP p) ≤ v.countP p :=
  calc min n (l.countP p) = ((l.filter p).rtake n).length := by
        rw [length_rtake, List.countP_eq_length_filter]
    _ = ((l.filter p).rtake n).countP p := by
        refine (List.countP_eq_length.2 ?_).symm
        intro x hx
        exact (List.mem_filter.1 ((rtake_suffix _ n).subset hx)).2
    _ ≤ v.countP p := hlow.sublist.countP_le

/-- **Exactness of a bounded window.**  A list of at most `n` entries that has the last `n` recent
entries of a log as its end, and whose entries are all from the log, counts `min n N` recent
entries, where the log has `N` of them. -/
theorem countP_eq_min_of_window {l v : List α} {n : ℕ} (hn : v.length ≤ n)
    (hlow : (l.filter p).rtake n <:+ v) (hup : v.Sublist l) :
    v.countP p = min n (l.countP p) :=
  le_antisymm (le_min (List.countP_le_length.trans hn) hup.countP_le) (min_countP_le_countP hlow)

/-! ### Windows over unordered logs -/

/-- What a window without capacity bound keeps of a log when every arrival `z` discards the kept
events that are not recent at `z`. -/
def survivors (recent : α → α → Bool) (log : List α) : List α :=
  log.foldl (fun kept z => kept.filter (recent z) ++ [z]) []

variable {recent : α → α → Bool}

theorem survivors_concat (log : List α) (z : α) :
    survivors recent (log ++ [z]) = (survivors recent log).filter (recent z) ++ [z] := by
  rw [survivors, List.foldl_append]
  rfl

theorem survivors_sublist (log : List α) : (survivors recent log).Sublist log := by
  induction log using List.reverseRecOn with
  | nil => exact List.Sublist.refl []
  | append_singleton log z ih =>
    rw [survivors_concat]
    exact (List.filter_sublist.trans ih).append (List.Sublist.refl [z])

/-- **An event that no later one has discarded is still there.**  If whatever is recent at `y` was
recent at every event logged after it, then the survivors that are recent at `y` are all the events
that are. -/
theorem filter_survivors {log : List α} {y : α}
    (h : ∀ x z, [x, z].Sublist log → recent y x = true → recent z x = true) :
    (survivors recent log).filter (recent y) = log.filter (recent y) := by
  induction log using List.reverseRecOn with
  | nil => rfl
  | append_singleton log z ih =>
    have hz : ((survivors recent log).filter (recent z)).filter (recent y) =
        (survivors recent log).filter (recent y) := by
      rw [List.filter_filter]
      refine List.filter_congr ?_
      intro x hx
      cases hxy : recent y x with
      | false => rfl
      | true =>
        have hxz : [x, z].Sublist (log ++ [z]) :=
          (List.singleton_sublist.2 ((survivors_sublist log).subset hx)).append
            (List.Sublist.refl [z])
        simp [h x z hxz hxy]
    rw [survivors_concat, List.filter_append, List.filter_append, hz,
      ih fun x z' hxz => h x z' (hxz.trans (List.sublist_append_left log [z]))]

end Window

end RansomShield
