import RansomShield.Client.PushSystem
import RansomShield.Guarantees.NeverDenied

/-!
# The allowlist while it is replaced

A push clears the allowlist and then adds the new entries one by one, each in a locked section of
its own.  Whatever runs in between, and wherever a request fails, the callbacks find the old list or
an initial segment of the new one; they find the whole new list once all requests have succeeded
(`push_replaces`).  A process that is on both lists is recorded only while the segment lacks its
name, and this happens (`push_not_atomic`).
-/

namespace RansomShield

/-! ### Initial segments -/

/-- The name that a control action adds. -/
def Control.addedName : Control → Option (List UInt16)
  | .addDynamicAllowlistEntry name => some name
  | _ => none

theorem exec_changeNames_eq_foldl {ks : List Control} (h : .clearDynamicAllowlist ∉ ks)
    (names : List (List UInt16)) :
    exec Control.changeNames names ks = (ks.filterMap Control.addedName).foldl addName names := by
  induction ks generalizing names with
  | nil => rfl
  | cons k ks ih =>
    rw [exec_cons, ih fun hmem => h (List.mem_cons_of_mem k hmem)]
    cases k with
    | clearDynamicAllowlist => exact absurd List.mem_cons_self h
    | _ => rfl

theorem AllowlistMessage.addedNames {m : AllowlistMessage} (h : m.isClear = false) :
    .clearDynamicAllowlist ∉ m.controls ∧
      m.controls.filterMap Control.addedName = m.entries.map cut := by
  have hadd : ∀ bytes base n,
      .clearDynamicAllowlist ∉ entryControls bytes base n ++ [Control.drawSequence] ∧
        (entryControls bytes base n ++ [Control.drawSequence]).filterMap Control.addedName =
          (rawEntries bytes base n).map cut := by
    intro bytes base n
    rw [entryControls_eq]
    refine ⟨by simp, ?_⟩
    rw [List.filterMap_append, List.filterMap_map]
    exact (List.append_nil _).trans (congrFun List.filterMap_eq_map _)
  unfold controls entries
  rcases m.type with ht | ht | ht
  · rw [isClear, ht] at h
    cases h
  · rw [ht]
    exact hadd ..
  · rw [ht]
    exact hadd ..

theorem addedNames_pushControls (numbers : ℕ → UInt32) (entries : List WString) :
    .clearDynamicAllowlist ∉ (pushControls numbers entries).tail ∧
      (pushControls numbers entries).tail.filterMap Control.addedName =
        entries.map storedName := by
  obtain ⟨hclear, hentries⟩ := tail_pushMessages numbers entries
  have htail : (pushControls numbers entries).tail = .drawSequence ::
      (pushMessages numbers entries).tail.flatMap AllowlistMessage.controls := by
    rw [pushControls_eq]
    rfl
  rw [htail]
  refine ⟨?_, ?_⟩
  · rw [List.mem_cons]
    rintro (h | h)
    · cases h
    · obtain ⟨m, hm, hk⟩ := List.mem_flatMap.1 h
      exact (AllowlistMessage.addedNames (hclear m hm)).1 hk
  · rw [List.filterMap_cons_none rfl, List.filterMap_flatMap, ← map_cut_wcsncpyS,
      ← hentries, List.map_flatMap]
    refine List.flatMap_congr fun m hm => (AllowlistMessage.addedNames (hclear m hm)).2

variable {numbers : ℕ → UInt32} {entries : List WString}

theorem take_filter_of_prefix {α : Type*} {l l' : List α} (h : l' <+: l) (p : α → Bool) (n : ℕ) :
    (l'.filter p).take n = ((l.filter p).take n).take (l'.filter p).length := by
  have hfilter : l'.filter p <+: l.filter p := h.filter p
  conv_lhs => rw [List.prefix_iff_eq_take.1 hfilter]
  rw [List.take_take, List.take_take, Nat.min_comm]

/-- **The list after the first control actions of a push** is an initial segment of the new list,
and after all of them it is the new list. -/
theorem names_of_performed {performed rest : List Control}
    (htotal : performed ++ rest = pushControls numbers entries) (hne : performed ≠ []) :
    (∃ n, exec Control.changeNames [] performed = (newNames entries).take n) ∧
      (rest = [] → exec Control.changeNames [] performed = newNames entries) := by
  obtain ⟨hclear, hadded⟩ := addedNames_pushControls numbers entries
  cases performed with
  | nil => exact absurd rfl hne
  | cons k performed =>
    rw [← htotal, List.cons_append, List.tail_cons] at hclear hadded
    rw [pushControls_eq] at htotal
    obtain ⟨rfl, -⟩ := List.cons.inj htotal
    have hnames : exec Control.changeNames [] (.clearDynamicAllowlist :: performed) =
        ((performed.filterMap Control.addedName).filter (· ≠ [])).take rsMaxAllowlistEntries := by
      rw [exec_cons, exec_changeNames_eq_foldl fun h => hclear (List.mem_append_left _ h)]
      exact foldl_addName [] _
    rw [hnames, newNames, ← hadded]
    refine ⟨⟨_, take_filter_of_prefix ?_ _ _⟩, ?_⟩
    · exact (List.prefix_append performed rest).filterMap _
    · rintro rfl
      rw [List.append_nil]

/-! ### The list at every moment -/

/-- The image file name matches a name on the list. -/
def Listed (upcase : UInt16 → UInt16) (names : List (List UInt16)) (image : UnicodeString) :
    Prop :=
  image.chars ≠ [] ∧ ∃ entry ∈ names, (lastComponent image.chars).map upcase = entry.map upcase

variable {upcase : UInt16 → UInt16}

theorem Listed.allowlisted {s : DriverState} {image : UnicodeString}
    (h : Listed upcase (dynamicNames s) image) : Allowlisted upcase s image := by
  obtain ⟨hne, entry, hmem, hentry⟩ := h
  exact ⟨hne, entry, List.mem_append_right _ hmem, hentry⟩

theorem dynamicNames_of_progress {old : DriverState} {as : List PushAction} {t : PushState}
    (h : Progress old (pushControls numbers entries) as t) :
    dynamicNames t.system.driver = dynamicNames old ∨
      ∃ n, dynamicNames t.system.driver = (newNames entries).take n := by
  obtain ⟨performed, rest, htotal, ⟨-, hsame⟩ | ⟨hne, hholds⟩, -⟩ := h
  · refine .inl ?_
    rw [dynamicNames, dynamicNames, hsame.1, hsame.2]
  · rw [hholds.dynamicNames]
    exact .inr (names_of_performed htotal hne).1

/-- **The list at every moment of a push.**  Whatever runs between the locked sections of the push,
and wherever its requests fail: the callbacks find the old list, or an initial segment of the new
one.  A callback that obtains an image name that is on both lists lets the request pass, unless the
segment stops before the name.  When all requests have succeeded, the callbacks find the whole new
list. -/
theorem push_replaces {s₀ : SystemState} {as : List PushAction} {t : PushState}
    (hrun : (pushSystem upcase).run (PushState.start numbers entries s₀) as = some t) :
    (dynamicNames t.system.driver = dynamicNames s₀.driver ∨
      ∃ n, dynamicNames t.system.driver = (newNames entries).take n) ∧
    (∀ (data : FltCallbackData) image, data.Locates image →
      Listed upcase (dynamicNames s₀.driver) image → Listed upcase (newNames entries) image →
      data.passes upcase t.system.driver = true ∨
        ∃ n < (newNames entries).length,
          dynamicNames t.system.driver = (newNames entries).take n ∧
            ¬ Listed upcase ((newNames entries).take n) image) ∧
    ∀ hr, t.phase = .client (.done hr) → ¬ Failed as →
      dynamicNames t.system.driver = newNames entries := by
  have hprogress := push_progress hrun
  have hnames := dynamicNames_of_progress hprogress
  refine ⟨hnames, ?_, ?_⟩
  · intro data image hdata hold hnew
    rcases hnames with h | ⟨n, h⟩
    · exact .inl (hdata.passes (Listed.allowlisted (h ▸ hold)))
    · by_cases hlisted : Listed upcase ((newNames entries).take n) image
      · exact .inl (hdata.passes (Listed.allowlisted (h ▸ hlisted)))
      · have hn : n < (newNames entries).length := by
          by_contra hge
          rw [List.take_of_length_le (not_lt.1 hge)] at hlisted
          exact hlisted hnew
        exact .inr ⟨n, hn, h, hlisted⟩
  · intro hr hphase hok
    obtain ⟨performed, rest, htotal, htracks, hremaining⟩ := hprogress
    rw [hphase] at hremaining
    rcases hremaining with ⟨ms, hsends, rfl⟩ | ⟨-, hfailed⟩
    · -- nothing is left to send, so that all control actions have been performed
      have hms := List.map_eq_nil_iff.1 (Program.Follows.eq_nil hsends trivial)
      have hne : performed ≠ [] := by
        rintro rfl
        rw [hms, pushControls_eq] at htotal
        cases htotal
      rcases htracks with ⟨hnil, -⟩ | ⟨-, hholds⟩
      · exact absurd hnil hne
      · rw [hholds.dynamicNames]
        exact (names_of_performed htotal hne).2 (by rw [hms, List.flatMap_nil])
    · exact absurd hfailed hok

/-! ### A moment with neither list -/

/-- The image of a process. -/
def backupImage : UnicodeString :=
  rtlInitUnicodeString (wide "\\Device\\HarddiskVolume3\\backup.exe")

/-- The allowlist with the image, as it is pushed. -/
def backupList : List WString := [⟨wide "backup.exe", by decide⟩]

/-- The driver with this allowlist. -/
def withBackup : SystemState :=
  { SystemState.init with
    driver := rsAddDynamicAllowlistEntry DriverState.init (wide "backup.exe") }

/-- The process 8 writes after the allowlist was cleared for the same list to be pushed again. -/
def writesDuringPush : List PushAction :=
  [.deliver, .handle, .other (.track ⟨8, 0⟩ (writeRequest 8 .passiveLevel backupImage
      (.ofTicks 5) true)), .other (.advance ⟨8, 0⟩ .firstSection),
    .other (.advance ⟨8, 0⟩ (.allocate true)), .other (.advance ⟨8, 0⟩ .secondSection)]

/-- In the middle of this push, the callbacks find an initial segment of the list. -/
theorem push_replaces_backup :
    ∃ t, (pushSystem id).run (PushState.start UInt32.ofNat backupList withBackup)
        writesDuringPush = some t ∧
      (dynamicNames t.system.driver = dynamicNames withBackup.driver ∨
        ∃ n, dynamicNames t.system.driver = (newNames backupList).take n) := by
  obtain ⟨t, hrun, -⟩ := Machine.exists_of_any (pushSystem id) (fun _ => true)
    (PushState.start UInt32.ofNat backupList withBackup) writesDuringPush (by decide +kernel)
  exact ⟨t, hrun, (push_replaces hrun).1⟩

/-- **A process that is on both lists is recorded** in the middle of a push, when the list is
neither the old nor the new one. -/
theorem push_not_atomic :
    ∃ t, (pushSystem id).run (PushState.start UInt32.ofNat backupList withBackup)
        writesDuringPush = some t ∧
      dynamicNames withBackup.driver = [wide "backup.exe"] ∧
      newNames backupList = [wide "backup.exe"] ∧
      dynamicNames t.system.driver = [] ∧
      (rsLookupProcessContext t.system.driver 8).isSome = true := by
  obtain ⟨t, hrun, h⟩ := Machine.exists_of_any (pushSystem id)
    (fun t => decide (dynamicNames t.system.driver = []) &&
      (rsLookupProcessContext t.system.driver 8).isSome)
    (PushState.start UInt32.ofNat backupList withBackup) writesDuringPush (by decide +kernel)
  rw [Bool.and_eq_true] at h
  exact ⟨t, hrun, by decide +kernel, by decide +kernel, of_decide_eq_true h.1, h.2⟩

end RansomShield
