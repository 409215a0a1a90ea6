import RansomShield.Client.Requests

/-!
# The full update of the allowlist

`RsUpdateAllowlistFull` goes through the same helper as the chunks, which appends: the names of the
request are put behind those that are there, as long as there is room (`dynamicNames_handle_full`).
So the list is that of the request only when nothing was there before, or when 128 names come in
that repeat the old list (`Repeats`); and sending the request again changes the list unless there is
nothing to add or no room (`full_update_replaces_iff`).  Otherwise a stale name stays behind
(`full_update_appends`).
-/

namespace RansomShield

/-! ### Adding entries -/

/-- A name is read back up to its terminator, whatever is behind it. -/
theorem wcs_eq_of_terminated {a : AllowlistEntry} {name : List UInt16} (hname : IsName name)
    (hchars : ∀ j, j.val < name.length → a j = name.getD j.val 0)
    (hterminated : ∀ j, j.val = name.length → a j = 0) : wcs a = name := by
  have hlen : name.length < rsMaxAllowlistNameLen := by
    have : name.length ≤ 259 := hname.1
    show name.length < 260
    omega
  have htake : (List.ofFn a).take name.length = name := by
    refine List.ext_getElem ?_ ?_
    · rw [List.length_take, List.length_ofFn, Nat.min_eq_left hlen.le]
    intro j hj hj'
    rw [List.getElem_take, List.getElem_ofFn, hchars _ hj']
    exact List.getD_eq_getElem _ _ hj'
  have hdrop : (List.ofFn a).drop name.length = 0 :: (List.ofFn a).drop (name.length + 1) := by
    rw [List.drop_eq_getElem_cons (by rw [List.length_ofFn]; exact hlen), List.getElem_ofFn,
      hterminated ⟨name.length, hlen⟩ rfl]
  have hall : ∀ c ∈ name, decide (c ≠ 0) = true := by
    rintro c hc
    exact decide_eq_true fun hzero => hname.2 (hzero ▸ hc)
  rw [wcs, ← List.take_append_drop name.length (List.ofFn a), htake, hdrop,
    List.takeWhile_append_of_pos hall, List.takeWhile_cons_of_neg (by simp), List.append_nil]

/-- The slot at an index, if there is one. -/
def DriverState.slotAt (s : DriverState) (i : ℕ) : AllowlistEntry :=
  if h : i < rsMaxAllowlistEntries then s.dynamicAllowlist ⟨i, h⟩ else fun _ => 0

theorem dynamicNames_eq_range (s : DriverState) :
    dynamicNames s =
      (List.range s.dynamicAllowlistCount.1.toNat).map fun i => wcs (s.slotAt i) := by
  rw [← map_filter_finRange (fun i => wcs (s.slotAt i)) s.dynamicAllowlistCount.2]
  refine List.map_congr_left fun i _ => ?_
  rw [DriverState.slotAt, dif_pos i.2]

theorem length_dynamicNames (s : DriverState) :
    (dynamicNames s).length = s.dynamicAllowlistCount.1.toNat := by
  rw [dynamicNames_eq_range, List.length_map, List.length_range]

/-- **Adding an entry** puts its name behind the others, whatever the slots held. -/
theorem dynamicNames_add (s : DriverState) {name : List UInt16} (hname : IsName name) :
    dynamicNames (rsAddDynamicAllowlistEntry s name) = addName (dynamicNames s) name := by
  unfold rsAddDynamicAllowlistEntry addName
  rw [length_dynamicNames]
  simp only [List.length_eq_zero_iff]
  by_cases hnil : name = []
  · rw [if_pos hnil, if_pos hnil]
  rw [if_neg hnil, if_neg hnil]
  by_cases hroom : s.dynamicAllowlistCount.1 < UInt32.ofNat rsMaxAllowlistEntries
  · have hlt : s.dynamicAllowlistCount.1.toNat < rsMaxAllowlistEntries :=
      UInt32.lt_iff_toNat_lt.1 hroom
    have hcount : (s.dynamicAllowlistCount.1 + 1).toNat =
        s.dynamicAllowlistCount.1.toNat + 1 := by
      have : s.dynamicAllowlistCount.1.toNat < 128 := hlt
      rw [UInt32.toNat_add, UInt32.toNat_one]
      exact Nat.mod_eq_of_lt (by omega)
    rw [dif_pos hroom, if_pos hlt, dynamicNames_eq_range, dynamicNames_eq_range]
    simp only [hcount, List.range_succ, List.map_append, List.map_singleton]
    congr 1
    · -- the slots in use stay as they are
      refine List.map_congr_left fun i hi => ?_
      have hi' := List.mem_range.1 hi
      simp only [DriverState.slotAt, dif_pos (hi'.trans hlt)]
      rw [Function.update_of_ne]
      exact fun he => absurd (congrArg Fin.val he) hi'.ne
    · -- the next slot holds the name and its terminator
      congr 1
      refine wcs_eq_of_terminated hname ?_ ?_
      · intro j hj
        simp only [DriverState.slotAt, dif_pos hlt, Function.update_self, Nat.min_eq_left hname.1,
          if_pos hj]
      · intro j hj
        simp only [DriverState.slotAt, dif_pos hlt, Function.update_self, Nat.min_eq_left hname.1,
          hj, lt_irrefl, if_false, if_true]
  · have hge : ¬ s.dynamicAllowlistCount.1.toNat < rsMaxAllowlistEntries :=
      fun hlt => hroom (UInt32.lt_iff_toNat_lt.2 hlt)
    rw [dif_neg hroom, if_neg hge]

theorem foldl_addName_of_le (added : List (List UInt16)) {names : List (List UInt16)}
    (h : names.length ≤ rsMaxAllowlistEntries) :
    added.foldl addName names = (names ++ added.filter (· ≠ [])).take rsMaxAllowlistEntries := by
  induction added generalizing names with
  | nil => rw [List.foldl_nil, List.filter_nil, List.append_nil, List.take_of_length_le h]
  | cons name added ih =>
    rw [List.foldl_cons, addName]
    by_cases hnil : name = []
    · rw [if_pos hnil, ih h, List.filter_cons_of_neg (by simpa using hnil)]
    rw [if_neg hnil, List.filter_cons_of_pos (by simpa using hnil)]
    split_ifs with hroom
    · rw [ih (by rw [List.length_append, List.length_singleton]; exact hroom), List.append_assoc,
        List.singleton_append]
    · -- a full list stays as it is
      rw [ih h, List.take_append_of_le_length (not_lt.1 hroom),
        List.take_append_of_le_length (not_lt.1 hroom)]

/-! ### The list after a message -/

theorem dynamicNames_control (s : DriverState) {k : Control} (hk : k.Fits) :
    dynamicNames (k.apply s) = k.changeNames (dynamicNames s) := by
  cases k with
  | clearDynamicAllowlist => exact (holds_clear s).dynamicNames
  | addDynamicAllowlistEntry name => exact dynamicNames_add s hk
  | removeProcessContext p =>
    obtain ⟨_, _, hs⟩ := sameGlobals_removeProcessContext s p
    rw [Control.apply, hs]
    rfl
  | applyConfig | setMonitoring | drawSequence | getBlockedPids | getPidCounts | connect
  | disconnect => rfl

theorem dynamicNames_controls (s : DriverState) {ks : List Control} (hks : ∀ k ∈ ks, k.Fits) :
    dynamicNames (exec Control.apply s ks) = exec Control.changeNames (dynamicNames s) ks := by
  induction ks generalizing s with
  | nil => rfl
  | cons k ks ih =>
    rw [exec_cons, exec_cons, ih _ fun k' hk' => hks k' (List.mem_cons_of_mem k hk'),
      dynamicNames_control s (hks k List.mem_cons_self)]

namespace AllowlistMessage

variable (m : AllowlistMessage)

theorem dynamicNames_handle (s : DriverState) :
    dynamicNames (handle s m) = changeNames (dynamicNames s) m := by
  rw [handle, rsMessageNotifyCallback_state, messageControls_eq, ← exec_controls]
  exact dynamicNames_controls s fun k hk => m.fits_of_mem_controls hk

/-- The names that a message carries: its non-empty entries, each cut to 259 characters. -/
def names : List (List UInt16) := (m.entries.map cut).filter (· ≠ [])

variable {m}

theorem length_names_le (hm : requestType m.bytes = some .updateAllowlistFull) :
    m.names.length ≤ rsMaxAllowlistEntries := by
  have hcount : (readUlong m.bytes 16).toNat ≤ rsMaxAllowlistEntries := by
    have hstatus := m.accepted DriverState.init
    rcases rsMessageNotifyCallback_cases DriverState.init m.bytes (some m.outputLength) with
      h | ⟨t, ht, h⟩
    · rw [h] at hstatus
      cases hstatus
    cases ht.type.symm.trans hm
    rw [h] at hstatus
    by_contra hlt
    rw [requestCase, updateAllowlistFull, allowlistRequest] at hstatus
    split_ifs at hstatus
    · cases hstatus
    · simp only [withOutputBuffer, not_le.1 hlt, if_true] at hstatus
      split_ifs at hstatus
      cases hstatus
  refine (List.length_filter_le _ _).trans ?_
  simp only [entries, hm, rawEntries, List.length_map, List.length_range]
  exact hcount

/-- **The list after a full update**: the names of the request behind the old ones, as long as there
is room. -/
theorem dynamicNames_handle_full (hm : requestType m.bytes = some .updateAllowlistFull)
    (s : DriverState) :
    dynamicNames (handle s m) = (dynamicNames s ++ m.names).take rsMaxAllowlistEntries := by
  have hold : (dynamicNames s).length ≤ rsMaxAllowlistEntries := by
    rw [length_dynamicNames]
    exact s.dynamicAllowlistCount.2
  rw [dynamicNames_handle, changeNames, isClear, hm, foldl_addName_of_le _ hold]
  rfl

end AllowlistMessage

/-! ### When this replaces the list -/

/-- The second list goes through the first one over and over. -/
def Repeats {α : Type*} (l l' : List α) : Prop := ∀ i < l'.length, l'[i]? = l[i % l.length]?

/-- Behind another list, a list is cut back to itself only if it repeats that list. -/
theorem take_append_eq_right_iff {α : Type*} {l l' : List α} {n : ℕ} (h : l'.length ≤ n) :
    (l ++ l').take n = l' ↔ l = [] ∨ l'.length = n ∧ Repeats l l' := by
  by_cases hl : l = []
  · subst hl
    simp [List.take_of_length_le h]
  have hpos : 0 < l.length := List.length_pos_iff.2 hl
  rw [or_iff_right hl]
  constructor
  · intro htake
    have hlen := congrArg List.length htake
    rw [List.length_take, List.length_append] at hlen
    refine ⟨by omega, fun i hi => ?_⟩
    -- each element is an element of the first list, or the one a whole list before
    induction i using Nat.strong_induction_on with
    | _ i ih =>
      have hget : l'[i]? = (l ++ l')[i]? := by
        conv_lhs => rw [← htake]
        rw [List.getElem?_take_of_lt (by omega)]
      by_cases hlt : i < l.length
      · rw [hget, List.getElem?_append_left hlt, Nat.mod_eq_of_lt hlt]
      · have hmod : (i - l.length) % l.length = i % l.length := by
          rw [← Nat.mod_eq_sub_mod (not_lt.1 hlt)]
        rw [hget, List.getElem?_append_right (not_lt.1 hlt), ih _ (by omega) (by omega), hmod]
  · rintro ⟨hlen, hrepeats⟩
    refine List.ext_getElem? fun i => ?_
    by_cases hi : i < n
    · rw [List.getElem?_take_of_lt hi, hrepeats i (by omega)]
      by_cases hlt : i < l.length
      · rw [List.getElem?_append_left hlt, Nat.mod_eq_of_lt hlt]
      · have hmod : (i - l.length) % l.length = i % l.length := by
          rw [← Nat.mod_eq_sub_mod (not_lt.1 hlt)]
        rw [List.getElem?_append_right (not_lt.1 hlt), hrepeats _ (by omega), hmod]
    · rw [List.getElem?_eq_none (by rw [List.length_take]; omega),
        List.getElem?_eq_none (by omega)]

theorem take_append_idempotent_iff {α : Type*} {l l' : List α} {n : ℕ} :
    ((l ++ l').take n ++ l').take n = (l ++ l').take n ↔ l' = [] ∨ n ≤ l.length + l'.length := by
  constructor
  · intro h
    have hlen := congrArg List.length h
    simp only [List.length_take, List.length_append] at hlen
    rw [← List.length_eq_zero_iff]
    omega
  · rintro (rfl | hle)
    · rw [List.append_nil, List.append_nil, List.take_take, Nat.min_self]
    · rw [List.take_append_of_le_length, List.take_take, Nat.min_self]
      rw [List.length_take, List.length_append]
      omega

open AllowlistMessage in
/-- **When a full update replaces the list**: the list is that of the request if and only if the
old list was empty, or the request has 128 names that repeat it.  Sending the request again has no
effect if and only if the request has no names, or there is no more room. -/
theorem full_update_replaces_iff (s : DriverState) (m : AllowlistMessage)
    (hm : requestType m.bytes = some .updateAllowlistFull) :
    (dynamicNames (handle s m) = m.names ↔
      dynamicNames s = [] ∨
        m.names.length = rsMaxAllowlistEntries ∧ Repeats (dynamicNames s) m.names) ∧
    (dynamicNames (handle (handle s m) m) = dynamicNames (handle s m) ↔
      m.names = [] ∨ rsMaxAllowlistEntries ≤ (dynamicNames s).length + m.names.length) := by
  simp only [dynamicNames_handle_full hm]
  exact ⟨take_append_eq_right_iff (length_names_le hm), take_append_idempotent_iff⟩

/-! ### A stale name -/

/-- The names of a list that is to replace another one. -/
def newList : List WString := [⟨wide "new.exe", by decide⟩]

theorem length_newList_le : newList.length ≤ rsMaxAllowlistEntries := by decide

/-- The full update with this list. -/
def newListUpdate : AllowlistMessage := fullMessage 1 length_newList_le

theorem newListUpdate_type :
    requestType newListUpdate.bytes = some .updateAllowlistFull :=
  (isRequest_full 1 length_newList_le).type

theorem newListUpdate_names : newListUpdate.names = [wide "new.exe"] := by
  rw [AllowlistMessage.names, newListUpdate, fullMessage_entries, newList, List.map_singleton,
    List.map_singleton, cut_wcsncpyS]
  decide

/-- The driver that has one name on its list. -/
def withOldName : DriverState := rsAddDynamicAllowlistEntry DriverState.init (wide "old.exe")

theorem noNul_oldName : 0 ∉ wide "old.exe" := by decide

/-- 128 times the old name. -/
def oldNames : List WString := List.replicate rsMaxAllowlistEntries ⟨wide "old.exe", noNul_oldName⟩

theorem length_oldNames_le : oldNames.length ≤ rsMaxAllowlistEntries :=
  List.length_replicate.le

/-- The full update that repeats the old name. -/
def oldNamesUpdate : AllowlistMessage := fullMessage 2 length_oldNames_le

theorem oldNamesUpdate_type : requestType oldNamesUpdate.bytes = some .updateAllowlistFull :=
  (isRequest_full 2 length_oldNames_le).type

theorem oldNamesUpdate_names :
    oldNamesUpdate.names = List.replicate rsMaxAllowlistEntries (wide "old.exe") := by
  have htake : (wide "old.exe").take (rsMaxAllowlistNameLen - 1) = wide "old.exe" := by decide
  rw [AllowlistMessage.names, oldNamesUpdate, fullMessage_entries, oldNames, List.map_replicate,
    List.map_replicate, cut_wcsncpyS, htake, List.filter_replicate_of_pos (by decide)]

theorem dynamicNames_withOldName : dynamicNames withOldName = [wide "old.exe"] := by
  decide +kernel

/-- A full update of an empty list replaces it, and so does one that repeats the only name; sending
the latter again has no effect. -/
theorem full_update_replaces_oldNames :
    dynamicNames (AllowlistMessage.handle DriverState.init newListUpdate) = newListUpdate.names ∧
      dynamicNames (AllowlistMessage.handle withOldName oldNamesUpdate) = oldNamesUpdate.names ∧
      dynamicNames (AllowlistMessage.handle (AllowlistMessage.handle withOldName oldNamesUpdate)
          oldNamesUpdate) =
        dynamicNames (AllowlistMessage.handle withOldName oldNamesUpdate) := by
  have hlength : oldNamesUpdate.names.length = rsMaxAllowlistEntries := by
    rw [oldNamesUpdate_names, List.length_replicate]
  have hrepeats : Repeats (dynamicNames withOldName) oldNamesUpdate.names := by
    intro i hi
    rw [hlength] at hi
    rw [oldNamesUpdate_names, dynamicNames_withOldName, List.getElem?_replicate, if_pos hi,
      List.length_singleton, Nat.mod_one]
    rfl
  refine ⟨(full_update_replaces_iff .init newListUpdate newListUpdate_type).1.2
      (.inl (by decide +kernel)), ?_, ?_⟩
  · exact (full_update_replaces_iff withOldName oldNamesUpdate oldNamesUpdate_type).1.2
      (.inr ⟨hlength, hrepeats⟩)
  · exact (full_update_replaces_iff withOldName oldNamesUpdate oldNamesUpdate_type).2.2
      (.inr (hlength ▸ Nat.le_add_left ..))

/-- **The old name stays** on the list, and sending the same update again puts the new name on it
once more. -/
theorem full_update_appends :
    requestType newListUpdate.bytes = some .updateAllowlistFull ∧
      newListUpdate.names = [wide "new.exe"] ∧
      dynamicNames (AllowlistMessage.handle withOldName newListUpdate) ≠ newListUpdate.names ∧
      dynamicNames (AllowlistMessage.handle
          (AllowlistMessage.handle withOldName newListUpdate) newListUpdate) ≠
        dynamicNames (AllowlistMessage.handle withOldName newListUpdate) := by
  refine ⟨newListUpdate_type, newListUpdate_names, ?_, ?_⟩
  · rw [AllowlistMessage.dynamicNames_handle_full newListUpdate_type, dynamicNames_withOldName,
      newListUpdate_names]
    decide
  · rw [AllowlistMessage.dynamicNames_handle_full newListUpdate_type,
      AllowlistMessage.dynamicNames_handle_full newListUpdate_type, dynamicNames_withOldName,
      newListUpdate_names]
    decide

end RansomShield
