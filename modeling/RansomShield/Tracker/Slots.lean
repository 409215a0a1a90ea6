import RansomShield.Tracker.Allowlist
import RansomShield.Driver.CommPort
import Mathlib.Data.List.GetD
import Mathlib.Data.List.TakeWhile

/-!
# The slots of the dynamic allowlist

`g_DynamicAllowlist` is an array of 128 slots and a counter.  It stands for a list of names
(`DriverState.Holds`): each slot holds its name, NUL-terminated and padded with zeros (`padded`),
and the slots behind the counter hold zeros only.  These are the names that
`RsIsProcessAllowlisted` looks through (`DriverState.Holds.dynamicNames`).

`RsAddDynamicAllowlistEntry` adds a name (`DriverState.Holds.add`), and the list keeps the first 128
of the non-empty names that are added (`foldl_addName`).
-/

namespace RansomShield

/-! ### Names -/

/-- The name fits into a slot with its terminator, and contains no NUL. -/
def IsName (name : List UInt16) : Prop := name.length ≤ rsMaxAllowlistNameLen - 1 ∧ 0 ∉ name

/-- A slot that holds a name: behind the name there are only zeros. -/
def padded (name : List UInt16) : AllowlistEntry := fun j => name.getD j.val 0

/-- The name that a raw entry is cut to: its first 259 characters before any NUL. -/
def cut (entry : AllowlistEntry) : List UInt16 :=
  ((List.ofFn entry).take (rsMaxAllowlistNameLen - 1)).takeWhile (· ≠ 0)

theorem isName_nil : IsName [] := ⟨Nat.zero_le _, List.not_mem_nil⟩

theorem isName_cut (entry : AllowlistEntry) : IsName (cut entry) := by
  refine ⟨(List.takeWhile_sublist _).length_le.trans (List.length_take_le _ _), ?_⟩
  intro h
  simpa using List.mem_takeWhile_imp h

theorem ofFn_getD {l : List UInt16} {n : ℕ} (h : l.length ≤ n) :
    List.ofFn (fun j : Fin n => l.getD j.val 0) = l ++ List.replicate (n - l.length) 0 := by
  refine List.ext_getElem ?_ ?_
  · rw [List.length_ofFn, List.length_append, List.length_replicate]
    omega
  intro j hj hj'
  rw [List.getElem_ofFn]
  by_cases hl : j < l.length
  · rw [List.getElem_append_left hl, List.getD_eq_getElem _ _ hl]
  · rw [List.getElem_append_right (not_lt.1 hl), List.getElem_replicate]
    exact List.getD_eq_default _ _ (not_lt.1 hl)

theorem ofFn_padded {name : List UInt16} (h : IsName name) :
    List.ofFn (padded name) = name ++ List.replicate (rsMaxAllowlistNameLen - name.length) 0 :=
  ofFn_getD (h.1.trans (Nat.sub_le _ _))

theorem takeWhile_append_replicate {name : List UInt16} (h : 0 ∉ name) (n : ℕ) :
    (name ++ List.replicate n 0).takeWhile (· ≠ 0) = name := by
  have hall : ∀ c ∈ name, decide (c ≠ 0) = true := by
    rintro c hc
    exact decide_eq_true fun hzero => h (hzero ▸ hc)
  rw [List.takeWhile_append_of_pos hall, List.takeWhile_replicate]
  simp

theorem length_takeWhile_lt {l : List UInt16} (h : 0 ∈ l) :
    (l.takeWhile (· ≠ 0)).length < l.length := by
  have hbefore := List.takeWhile_prefix (l := l) fun c => decide (c ≠ 0)
  refine lt_of_le_of_ne hbefore.length_le fun heq => ?_
  have hzero := List.mem_takeWhile_imp ((hbefore.eq_of_length heq).symm ▸ h)
  simp at hzero

theorem wcs_padded {name : List UInt16} (h : IsName name) : wcs (padded name) = name := by
  rw [wcs, ofFn_padded h, takeWhile_append_replicate h.2]

theorem cut_padded {name : List UInt16} (h : IsName name) : cut (padded name) = name := by
  rw [cut, ofFn_padded h, List.take_append, List.take_of_length_le h.1, List.take_replicate,
    takeWhile_append_replicate h.2]

/-- What adding a name does to the list: an empty name is skipped, and a name that finds no room is
dropped. -/
def addName (names : List (List UInt16)) (name : List UInt16) : List (List UInt16) :=
  if name = [] then names
  else if names.length < rsMaxAllowlistEntries then names ++ [name]
  else names

/-- **The list keeps the first 128 of the non-empty names.** -/
theorem foldl_addName (received added : List (List UInt16)) :
    added.foldl addName ((received.filter (· ≠ [])).take rsMaxAllowlistEntries) =
      ((received ++ added).filter (· ≠ [])).take rsMaxAllowlistEntries := by
  induction added generalizing received with
  | nil => simp
  | cons name added ih =>
    have hstep : addName ((received.filter (· ≠ [])).take rsMaxAllowlistEntries) name =
        ((received ++ [name]).filter (· ≠ [])).take rsMaxAllowlistEntries := by
      rw [List.filter_append, addName]
      by_cases hname : name = []
      · simp [hname]
      · rw [if_neg hname, List.filter_cons_of_pos (by simpa using hname), List.filter_nil,
          List.length_take]
        split_ifs with hroom
        · rw [List.take_of_length_le (by omega), List.take_of_length_le]
          rw [List.length_append, List.length_singleton]
          omega
        · rw [List.take_append_of_le_length (by omega)]
    rw [List.foldl_cons, hstep, ih, List.append_assoc, List.singleton_append]

/-! ### Loops over an array in use up to a counter -/

theorem map_filter_finRange {α : Type*} (f : ℕ → α) {n k : ℕ} (h : k ≤ n) :
    ((List.finRange n).filter fun i => i.val < k).map (fun i => f i.val) =
      (List.range k).map f := by
  have hfilter : ((List.range n).filter fun i => i < k) = List.range k := by
    obtain ⟨m, rfl⟩ := Nat.exists_eq_add_of_le h
    rw [List.range_add, List.filter_append, List.filter_eq_self.2, List.filter_eq_nil_iff.2,
      List.append_nil]
    · simp
    · simp
  rw [← hfilter, ← List.map_coe_finRange_eq_range, List.filter_map, List.map_map]
  rfl

theorem map_getD_range {α : Type*} (l : List α) (d : α) :
    (List.range l.length).map (fun i => l.getD i d) = l := by
  refine List.ext_getElem (by simp) ?_
  intro i hi hi'
  rw [List.getElem_map, List.getElem_range, List.getD_eq_getElem _ _ hi']

/-! ### The list of names that the slots stand for -/

/-- The dynamic allowlist stands for the list of names. -/
structure DriverState.Holds (s : DriverState) (names : List (List UInt16)) : Prop where
  count : s.dynamicAllowlistCount.1.toNat = names.length
  slots : ∀ i : Fin rsMaxAllowlistEntries, s.dynamicAllowlist i = padded (names.getD i.val [])
  isName : ∀ name ∈ names, IsName name

theorem padded_nil : padded [] = fun _ => 0 := rfl

theorem holds_clear (s : DriverState) : (rsClearDynamicAllowlist s).Holds [] where
  count := rfl
  slots _ := rfl
  isName _ h := by cases h

theorem holds_init : DriverState.init.Holds [] where
  count := rfl
  slots _ := rfl
  isName _ h := by cases h

namespace DriverState.Holds

variable {s s' : DriverState} {names : List (List UInt16)}

theorem congr (h : s.Holds names) (hslots : s'.dynamicAllowlist = s.dynamicAllowlist)
    (hcount : s'.dynamicAllowlistCount = s.dynamicAllowlistCount) : s'.Holds names where
  count := by rw [hcount, h.count]
  slots i := by rw [hslots, h.slots]
  isName := h.isName

theorem length_le (h : s.Holds names) : names.length ≤ rsMaxAllowlistEntries := by
  rw [← h.count]
  exact s.dynamicAllowlistCount.2

/-- **`RsAddDynamicAllowlistEntry` adds a name.** -/
theorem add (h : s.Holds names) {name : List UInt16} (hname : IsName name) :
    (rsAddDynamicAllowlistEntry s name).Holds (addName names name) := by
  have hlen : name.length ≤ 259 := hname.1
  have hcount := h.count
  unfold rsAddDynamicAllowlistEntry addName
  simp only [List.length_eq_zero_iff]
  by_cases hnil : name = []
  · rw [if_pos hnil, if_pos hnil]
    exact h
  · rw [if_neg hnil, if_neg hnil]
    by_cases hroom : s.dynamicAllowlistCount.1 < UInt32.ofNat rsMaxAllowlistEntries
    · have hlt : s.dynamicAllowlistCount.1.toNat < 128 := UInt32.lt_iff_toNat_lt.1 hroom
      rw [dif_pos hroom, if_pos (hcount ▸ hlt)]
      refine ⟨?_, ?_, ?_⟩
      · show (s.dynamicAllowlistCount.1 + 1).toNat = (names ++ [name]).length
        rw [UInt32.toNat_add, UInt32.toNat_one, Nat.mod_eq_of_lt (by omega), hcount,
          List.length_append, List.length_singleton]
      · intro i
        by_cases hi : i = ⟨s.dynamicAllowlistCount.1.toNat, hlt⟩
        · -- the new slot: the name, its terminator, and the zeros that were there
          subst hi
          have hslot := h.slots ⟨s.dynamicAllowlistCount.1.toNat, hlt⟩
          simp only [hcount, List.getD_eq_default _ _ (le_refl names.length),
            padded_nil] at hslot
          funext j
          simp only [Function.update_self, hslot, hcount]
          rw [List.getD_append_right _ _ _ _ le_rfl, Nat.sub_self, List.getD_cons_zero,
            Nat.min_eq_left hname.1, padded]
          split_ifs with hj
          · rfl
          · exact (List.getD_eq_default _ _ (not_lt.1 hj)).symm
          · exact (List.getD_eq_default _ _ (not_lt.1 hj)).symm
        · have hne : i.val ≠ names.length := fun he => hi (Fin.ext (he.trans hcount.symm))
          simp only [Function.update_of_ne hi]
          rw [h.slots]
          congr 1
          by_cases hlt' : i.val < names.length
          · exact (List.getD_append _ _ _ _ hlt').symm
          · rw [List.getD_eq_default _ _ (not_lt.1 hlt'), List.getD_eq_default]
            rw [List.length_append, List.length_singleton]
            omega
      · intro other hother
        rcases List.mem_append.1 hother with hother | hother
        · exact h.isName other hother
        · rw [List.mem_singleton.1 hother]
          exact hname
    · have hge : ¬ names.length < rsMaxAllowlistEntries := by
        rw [← hcount]
        exact fun hlt => hroom (UInt32.lt_iff_toNat_lt.2 hlt)
      rw [dif_neg hroom, if_neg hge]
      exact h

theorem map_slots {α : Type*} (h : s.Holds names) (f : AllowlistEntry → α) :
    ((List.finRange rsMaxAllowlistEntries).filter
      fun i => i.val < s.dynamicAllowlistCount.1.toNat).map (fun i => f (s.dynamicAllowlist i)) =
      names.map fun name => f (padded name) := by
  simp only [h.slots, h.count]
  have hnames := congrArg (List.map fun name => f (padded name)) (map_getD_range names [])
  rw [List.map_map] at hnames
  rw [map_filter_finRange (fun i => f (padded (names.getD i []))) h.length_le]
  exact hnames

/-- **The names that `RsIsProcessAllowlisted` looks through.** -/
theorem dynamicNames (h : s.Holds names) : RansomShield.dynamicNames s = names := by
  rw [RansomShield.dynamicNames, h.map_slots wcs]
  refine (List.map_congr_left ?_).trans (List.map_id _)
  intro name hmem
  exact wcs_padded (h.isName name hmem)

/-- **The entries that `RsQueryAllowlist` copies.** -/
theorem copiedEntries (h : s.Holds names) :
    ((List.finRange rsMaxAllowlistEntries).filterMap fun i =>
      if i.val < s.dynamicAllowlistCount.1.toNat then some (s.dynamicAllowlist i) else none) =
      names.map padded := by
  refine Eq.trans ?_ (h.map_slots id)
  rw [← List.filterMap_eq_map, List.filterMap_filter]
  simp

end DriverState.Holds

end RansomShield
