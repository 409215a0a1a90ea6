import RansomShield.Client.SharedSettings
import RansomShield.Guarantees.CommandLine
import RansomShield.Guarantees.InterruptedSave
import RansomShield.Machine.Simulation

/-!
# Settings that several processes change

The processes of the client are replicas of the settings in the registry (`Mirrors`).  A process
that goes on running undoes with its next save whatever the others have saved since it started
(`save_undoes_others`): the tray agent, when it pauses the monitoring, takes back the exceptions
that commands have added in the meantime.  Processes that each start after the last save of the
others lose nothing (`stored_of_undisturbed`).

A replica differs from the saved list behind the first name that is too long (`stored_of_save`).
-/

namespace RansomShield

variable {lower : UInt16 → UInt16} {m : ConfigManager} {reg : Registry} {v : Settings}

/-! ### Saving and loading -/

theorem storedSettings_eq (reg : Registry) :
    storedSettings reg = (loadEntries true reg.allowlist rsMaxAllowlistEntries 0).map fun entries =>
      (readDWord true reg.config rsRegvalThreshold rsDefaultFileCountThreshold,
        readDWord true reg.config rsRegvalTimewindow rsDefaultTimeWindowSeconds,
        readDWord true reg.config rsRegvalMonitoring
          (UInt32.ofNat rsDefaultMonitoringEnabled.toNat) != 0, entries) :=
  (runInitialize_new reg).trans (readValues_settings _ reg)

theorem readValue_stringValue_of_long {e : WString}
    (hlong : ¬ e.chars.length < rsMaxAllowlistNameLen)
    (hbounded : e.chars.length < 32768) : readValue (some (stringValue e)) = .stop := by
  have hlong' : 260 ≤ e.chars.length := not_lt.1 hlong
  rw [stringValue_of_length_lt hbounded]
  refine if_neg fun hfits => ?_
  have hsize : (stringBytes e).length ≤ 2 * 260 := hfits.2
  rw [length_stringBytes] at hsize
  omega

theorem getElem?_length_takeWhile {α : Type*} {f : α → Bool} {l : List α} {a : α}
    (h : l[(l.takeWhile f).length]? = some a) : f a = false := by
  induction l with
  | nil => simp at h
  | cons b l ih =>
    by_cases hb : f b = true
    · rw [List.takeWhile_cons_of_pos hb, List.length_cons, List.getElem?_cons_succ] at h
      exact ih h
    · rw [List.takeWhile_cons_of_neg hb, List.length_nil, List.getElem?_cons_zero] at h
      rw [← Option.some.inj h]
      exact Bool.not_eq_true _ ▸ hb

theorem loadEntries_of_saved {reg' : Registry} (hm : m.Opened)
    (hsaved : Saved m SaveFaults.none reg reg')
    (hbounded : ∀ e ∈ m.allowlist, e.chars.length < 32768) :
    loadEntries true reg'.allowlist rsMaxAllowlistEntries 0 =
      some (m.allowlist.takeWhile fun e => e.chars.length < rsMaxAllowlistNameLen) := by
  have hbegin := List.takeWhile_prefix (l := m.allowlist)
    fun e : WString => decide (e.chars.length < rsMaxAllowlistNameLen)
  rw [loadEntries_eq_some_iff_readValue]
  refine ⟨hbegin.length_le.trans m.length_le, fun i e hi => ?_, fun hlt => ?_⟩
  · have hshort := List.mem_takeWhile_imp (List.mem_of_getElem? hi)
    obtain ⟨hi', rfl⟩ := List.getElem?_eq_some_iff.1 hi
    rw [hsaved.entries i _ (List.prefix_iff_getElem?.1 hbegin i hi')]
    exact readValue_stringValue_iff.2 (by simpa using hshort)
  · -- the list ends, or a name that is too long follows
    cases hnext : m.allowlist[(m.allowlist.takeWhile fun e =>
        decide (e.chars.length < rsMaxAllowlistNameLen)).length]? with
    | none =>
      rw [hsaved.others _ (List.getElem?_eq_none_iff.1 hnext) hlt, hm.hAllowlistKey]
      rfl
    | some e =>
      rw [hsaved.entries _ e hnext]
      refine readValue_stringValue_of_long ?_ (hbounded e (List.mem_of_getElem? hnext))
      simpa using getElem?_length_takeWhile hnext

/-- **A saved list is read** up to the first name that is too long. -/
theorem stored_of_save (hm : m.Opened) (hbounded : Settings.Bounded m.settings) (reg : Registry) :
    storedSettings (m.saveToRegistry SaveFaults.none reg).1 =
      some (Settings.readable m.settings) := by
  have hsaved := saved_none hm reg
  have hmonitoring : (readDWord true (m.saveToRegistry SaveFaults.none reg).1.config
      rsRegvalMonitoring (UInt32.ofNat rsDefaultMonitoringEnabled.toNat) != 0) =
        m.monitoringEnabled := by
    rw [readDWord_dwordValue hsaved.monitoring]
    cases m.monitoringEnabled <;> rfl
  rw [storedSettings_eq, loadEntries_of_saved hm hsaved hbounded,
    readDWord_dwordValue hsaved.threshold, readDWord_dwordValue hsaved.timeWindow, hmonitoring]
  rfl

/-! ### The processes are replicas -/

variable (lower) in
theorem start_eq (s : SettingsState) (p : ClientId) (hv : storedSettings s.registry = some v) :
    ∃ m, m.Opened ∧ m.settings = v ∧ (settingsSystem lower).step s (.start p) =
      some { s with processes := Function.update s.processes p (some m) } := by
  obtain ⟨r, hr, rfl⟩ := Option.map_eq_some_iff.1 hv
  have hload := hr
  unfold ConfigManager.runInitialize at hload
  rw [if_neg (by decide), if_neg (by decide), if_neg (by decide)] at hload
  obtain ⟨_, -, rfl⟩ := Option.map_eq_some_iff.1 hload
  refine ⟨_, opened_of_runInitialize rfl hr, rfl, ?_⟩
  simp only [settingsSystem, hr, Option.map_some]

variable (lower) in
/-- **What a change does**: nothing when it is refused, and otherwise it is saved with everything
else. -/
theorem change_spec (hm : m.Opened) (reg : Registry) (c : SettingsChange) :
    (c.apply lower m.settings = none ∧ m.change lower reg c = (m, reg)) ∨
      ∃ m', m'.Opened ∧ c.apply lower m.settings = some m'.settings ∧
        m.change lower reg c = (m', (m'.saveToRegistry SaveFaults.none reg).1) := by
  cases c with
  | fileCountThreshold threshold =>
    exact .inr ⟨{ m with fileCountThreshold := threshold }, ⟨hm.1, hm.2, hm.3⟩, rfl, rfl⟩
  | timeWindowSeconds seconds =>
    exact .inr ⟨{ m with timeWindowSeconds := seconds }, ⟨hm.1, hm.2, hm.3⟩, rfl, rfl⟩
  | monitoringEnabled enabled =>
    exact .inr ⟨{ m with monitoringEnabled := enabled }, ⟨hm.1, hm.2, hm.3⟩, rfl, rfl⟩
  | addException imageName =>
    by_cases hany : m.allowlist.any (ConfigManager.sameName lower imageName.1) = true
    · refine .inl ⟨if_pos hany, ?_⟩
      simp [ConfigManager.change, ConfigManager.addException, hany]
    · by_cases hroom : m.allowlist.length < rsMaxAllowlistEntries
      · refine .inr ⟨{ m with
          allowlist := m.allowlist ++ [imageName.1]
          length_le := by rw [List.length_append]; exact hroom },
          ⟨hm.1, hm.2, hm.3⟩, (if_neg hany).trans (if_pos hroom), ?_⟩
        simp only [ConfigManager.change, ConfigManager.addException, if_neg hany, dif_pos hroom,
          if_true]
      · refine .inl ⟨(if_neg hany).trans (if_neg hroom), ?_⟩
        simp [ConfigManager.change, ConfigManager.addException, dif_neg hroom]
  | removeException imageName =>
    by_cases hany : m.allowlist.any (ConfigManager.sameName lower imageName.1) = true
    · refine .inr ⟨{ m with
        allowlist := m.allowlist.eraseP (ConfigManager.sameName lower imageName.1)
        length_le := List.eraseP_sublist.length_le.trans m.length_le },
        ⟨hm.1, hm.2, hm.3⟩, if_pos hany, ?_⟩
      simp only [ConfigManager.change, ConfigManager.removeException, if_pos hany, if_true]
    · refine .inl ⟨if_neg hany, ?_⟩
      simp [ConfigManager.change, ConfigManager.removeException, hany]

theorem bounded_of_apply {c : SettingsChange} {v v' : Settings} (hv : v.Bounded)
    (h : c.apply lower v = some v') : v'.Bounded := by
  cases c with
  | fileCountThreshold | timeWindowSeconds | monitoringEnabled =>
    cases h
    exact hv
  | addException imageName =>
    simp only [SettingsChange.apply] at h
    split_ifs at h
    cases h
    intro e he
    rcases List.mem_append.1 he with he | he
    · exact hv e he
    · rw [List.mem_singleton.1 he]
      exact imageName.2
  | removeException imageName =>
    simp only [SettingsChange.apply] at h
    split_ifs at h
    cases h
    exact fun e he => hv e (List.mem_of_mem_eraseP he)

/-- The processes and the registry are replicas of the settings. -/
structure Mirrors (s : SettingsState) (r : Replicas ClientId Settings) : Prop where
  opened : ∀ p m, s.processes p = some m → m.Opened ∧ Settings.Bounded m.settings
  copies : ∀ p, r.copies p = (s.processes p).map ConfigManager.settings
  bounded : r.value.Bounded
  stored : storedSettings s.registry = some r.value.readable

variable {s s' : SettingsState} {r r' : Replicas ClientId Settings} {a : SettingsAction}

theorem Settings.Bounded.readable (hv : v.Bounded) : v.readable.Bounded :=
  fun e he => hv e ((List.takeWhile_prefix _).subset he)

theorem Mirrors.set (h : Mirrors s r) (p : ClientId) (hm : m.Opened)
    (hbounded : Settings.Bounded m.settings) (hv : v.Bounded)
    (hstored : storedSettings reg = some v.readable) :
    Mirrors ⟨Function.update s.processes p (some m), reg⟩
      ⟨v, Function.update r.copies p (some m.settings)⟩ where
  opened q m' hq := by
    dsimp only at hq
    by_cases hqp : q = p
    · rw [hqp, Function.update_self] at hq
      cases hq
      exact ⟨hm, hbounded⟩
    · rw [Function.update_of_ne hqp] at hq
      exact h.opened q m' hq
  copies q := by
    dsimp only
    by_cases hqp : q = p
    · rw [hqp, Function.update_self, Function.update_self, Option.map_some]
    · rw [Function.update_of_ne hqp, Function.update_of_ne hqp]
      exact h.copies q
  bounded := hv
  stored := hstored

variable (lower) in
/-- **A process starts** with what it can read. -/
theorem Mirrors.start (h : Mirrors s r) (p : ClientId) :
    ∃ s', (settingsSystem lower).step s (.start p) = some s' ∧
      ∃ r', (replicas Settings.readable (SettingsChange.apply lower)).step r (.fetch p) = some r' ∧
        Mirrors s' r' := by
  obtain ⟨m, hm, hsettings, hstep⟩ := start_eq lower s p h.stored
  refine ⟨_, hstep, _, rfl, ?_⟩
  rw [← hsettings]
  exact h.set p hm (hsettings ▸ h.bounded.readable) h.bounded h.stored

variable (lower) in
/-- **A process changes** its copy and saves all of it. -/
theorem Mirrors.change (h : Mirrors s r) {p : ClientId} (hp : s.processes p = some m)
    (c : SettingsChange) :
    ∃ s', (settingsSystem lower).step s (.change p c) = some s' ∧
      ∃ r', (replicas Settings.readable (SettingsChange.apply lower)).step r (.commit p c) =
        some r' ∧ Mirrors s' r' := by
  obtain ⟨hm, hbounded⟩ := h.opened p m hp
  have hcopy : r.copies p = some m.settings := by rw [h.copies, hp, Option.map_some]
  refine ⟨_, Option.map_eq_some_iff.2 ⟨m, hp, rfl⟩, _, Option.map_eq_some_iff.2 ⟨_, hcopy, rfl⟩, ?_⟩
  rcases change_spec lower hm s.registry c with ⟨hnone, heq⟩ | ⟨m', hm', hsome, heq⟩
  · -- the change is refused
    have hsame := h.set p hm hbounded h.bounded h.stored
    rw [hnone, heq]
    rwa [← hcopy, Function.update_eq_self] at hsame
  · have hbounded' := bounded_of_apply hbounded hsome
    rw [hsome, heq]
    exact h.set p hm' hbounded' hbounded' (stored_of_save hm' hbounded' s.registry)

/-- **The processes are replicas**, step by step. -/
theorem Mirrors.step (h : Mirrors s r) (hstep : (settingsSystem lower).step s a = some s') :
    ∃ r', (replicas Settings.readable (SettingsChange.apply lower)).step r a.replica = some r' ∧
      Mirrors s' r' := by
  cases a with
  | start p =>
    obtain ⟨t, ht, hr⟩ := h.start lower p
    cases ht.symm.trans hstep
    exact hr
  | change p c =>
    obtain ⟨m, hm, -⟩ := Option.map_eq_some_iff.1 hstep
    obtain ⟨t, ht, hr⟩ := h.change lower hm c
    cases ht.symm.trans hstep
    exact hr

/-- **The replicas are processes**, step by step. -/
theorem Mirrors.step_back (h : Mirrors s r)
    (hstep : (replicas Settings.readable (SettingsChange.apply lower)).step r a.replica = some r') :
    ∃ s', (settingsSystem lower).step s a = some s' ∧ Mirrors s' r' := by
  cases a with
  | start p =>
    obtain ⟨t, ht, r'', hr'', hmirrors⟩ := h.start lower p
    cases hr''.symm.trans hstep
    exact ⟨t, ht, hmirrors⟩
  | change p c =>
    obtain ⟨v, hv, -⟩ := Option.map_eq_some_iff.1 hstep
    rw [h.copies] at hv
    obtain ⟨m, hm, -⟩ := Option.map_eq_some_iff.1 hv
    obtain ⟨t, ht, r'', hr'', hmirrors⟩ := h.change lower hm c
    cases hr''.symm.trans hstep
    exact ⟨t, ht, hmirrors⟩

/-- **The processes are replicas.** -/
theorem mirrors_of_run {as : List SettingsAction} (h : Mirrors s r)
    (hrun : (settingsSystem lower).run s as = some s') :
    ∃ r', (replicas Settings.readable (SettingsChange.apply lower)).run r
      (as.map SettingsAction.replica) = some r' ∧ Mirrors s' r' :=
  Machine.run_forall₂ (R := Mirrors) (Q := fun a b => b = a.replica)
    (by
      rintro s r a _ s' hs rfl hstep
      exact hs.step hstep)
    h (List.forall₂_map_right_iff.2 (List.forall₂_same.2 fun _ _ => rfl)) hrun

variable (lower) in
/-- **The replicas are processes.** -/
theorem run_of_replicas (as : List SettingsAction) (h : Mirrors s r)
    (hrun : (replicas Settings.readable (SettingsChange.apply lower)).run r
      (as.map SettingsAction.replica) = some r') :
    ∃ s', (settingsSystem lower).run s as = some s' ∧ Mirrors s' r' :=
  Machine.run_forall₂ (R := fun r s => Mirrors s r) (Q := fun b a => b = a.replica)
    (by
      rintro r s _ a r' hs rfl hstep
      exact hs.step_back hstep)
    h (List.forall₂_map_left_iff.2 (List.forall₂_same.2 fun _ _ => rfl)) hrun

theorem short_of_stored (h : storedSettings reg = some v) : v.Short := by
  rw [storedSettings_eq] at h
  obtain ⟨entries, hentries, rfl⟩ := Option.map_eq_some_iff.1 h
  exact length_lt_of_loadEntries hentries

theorem Settings.Short.bounded (h : v.Short) : v.Bounded :=
  fun e he => (h e he).trans (by decide)

theorem Settings.Short.readable_eq (h : v.Short) : v.readable = v := by
  have hkept : (v.2.2.2.takeWhile fun e => decide (e.chars.length < rsMaxAllowlistNameLen)) =
      v.2.2.2 := List.takeWhile_eq_self_iff.2 fun e he => decide_eq_true (h e he)
  rw [Settings.readable, hkept]

theorem mirrors_init (h : storedSettings reg = some v) :
    Mirrors (SettingsState.init reg) ⟨v, fun _ => none⟩ where
  opened _ _ hp := by cases hp
  copies _ := rfl
  bounded := (short_of_stored h).bounded
  stored := by rw [(short_of_stored h).readable_eq]; exact h

/-! ### What a save undoes -/

/-- **A save undoes what the others have saved** since the process has started.  Take any registry
that can be loaded, and any processes that start and change the settings; then one more process
starts, the others go on as they like, and it makes a change that is not refused.  What is stored
then is what would be stored if the others had done nothing since it started. -/
theorem save_undoes_others (lower : UInt16 → UInt16) (reg : Registry)
    (hload : (storedSettings reg).isSome) (before as : List SettingsAction) (p : ClientId)
    (c : SettingsChange) (s s₁ s₂ : SettingsState)
    (hbefore : (settingsSystem lower).run (SettingsState.init reg) before = some s)
    (hstart : .start p ∉ as)
    (hrun : (settingsSystem lower).run s (.start p :: as) = some s₁)
    (haccepted : ∃ m, s₁.processes p = some m ∧ (c.apply lower m.settings).isSome)
    (hsave : (settingsSystem lower).step s₁ (.change p c) = some s₂) :
    ∃ t, (settingsSystem lower).run s
        (.start p :: (as.filter fun a => a.process = p) ++ [.change p c]) = some t ∧
      storedSettings t.registry = storedSettings s₂.registry := by
  obtain ⟨v, hv⟩ := Option.isSome_iff_exists.1 hload
  obtain ⟨r, -, hr⟩ := mirrors_of_run (mirrors_init hv) hbefore
  obtain ⟨r₁, hrun₁, hr₁⟩ := mirrors_of_run hr hrun
  obtain ⟨r₂, hstep₂, hr₂⟩ := hr₁.step hsave
  obtain ⟨m, hm, haccepted⟩ := haccepted
  have hfetch : .fetch p ∉ as.map SettingsAction.replica := by
    intro hmem
    obtain ⟨a, ha, heq⟩ := List.mem_map.1 hmem
    cases a with
    | start q =>
      cases heq
      exact hstart ha
    | change q c => cases heq
  obtain ⟨t, ht, hvalue⟩ := value_of_commit_alone hfetch hrun₁ hstep₂
    ⟨m.settings, by rw [hr₁.copies, hm, Option.map_some], haccepted⟩
  have hfilter : (as.map SettingsAction.replica).filter (fun a => decide (a.client = p)) =
      (as.filter fun a => decide (a.process = p)).map SettingsAction.replica := by
    rw [List.filter_map]
    congr 2
    funext a
    cases a <;> rfl
  have hmap : (SettingsAction.start p :: (as.filter fun a => decide (a.process = p)) ++
      [SettingsAction.change p c]).map SettingsAction.replica =
        .fetch p :: (as.map SettingsAction.replica).filter (fun a => decide (a.client = p)) ++
          [.commit p c] := by
    rw [hfilter, List.map_append, List.map_cons]
    rfl
  rw [← hmap] at ht
  obtain ⟨s', hs', hmirrors⟩ := run_of_replicas lower _ hr ht
  refine ⟨s', hs', ?_⟩
  rw [hmirrors.stored, hr₂.stored, hvalue]

theorem storedSettings_emptyRegistry : storedSettings emptyRegistry =
    some (rsDefaultFileCountThreshold, rsDefaultTimeWindowSeconds, true, []) := by
  rw [storedSettings, runInitialize_emptyRegistry]
  rfl

/-- **The tray agent takes back an exception**: it starts, a command adds an exception, and it
pauses the monitoring. -/
theorem save_undoes_others_exception :
    ∃ s₁ s₂ t, (settingsSystem id).run (SettingsState.init emptyRegistry)
        [.start 0, .start 1, .change 1 (.addException fiveArgument)] = some s₁ ∧
      (settingsSystem id).step s₁ (.change 0 (.monitoringEnabled false)) = some s₂ ∧
      (settingsSystem id).run (SettingsState.init emptyRegistry)
        [.start 0, .change 0 (.monitoringEnabled false)] = some t ∧
      storedSettings t.registry = storedSettings s₂.registry := by
  obtain ⟨s₁, hrun, hr₁⟩ := run_of_replicas id
    [.start 0, .start 1, .change 1 (.addException fiveArgument)]
    (mirrors_init storedSettings_emptyRegistry) rfl
  obtain ⟨m, hm, -⟩ := Option.map_eq_some_iff.1 (hr₁.copies 0).symm
  obtain ⟨s₂, hsave, -⟩ := hr₁.change id hm (.monitoringEnabled false)
  obtain ⟨t, ht, hstored⟩ := save_undoes_others id emptyRegistry
    (by rw [storedSettings_emptyRegistry]; rfl) []
    [.start 1, .change 1 (.addException fiveArgument)] 0 (.monitoringEnabled false) _ s₁ s₂ rfl
    (by simp) hrun ⟨m, hm, rfl⟩ hsave
  exact ⟨s₁, s₂, t, hrun, hsave, ht, hstored⟩

/-! ### When all changes are kept -/

theorem short_of_apply {c : SettingsChange} {v v' : Settings} (hc : c.Short) (hv : v.Short)
    (h : c.apply lower v = some v') : v'.Short := by
  cases c with
  | fileCountThreshold | timeWindowSeconds | monitoringEnabled =>
    cases h
    exact hv
  | addException imageName =>
    simp only [SettingsChange.apply] at h
    split_ifs at h
    cases h
    intro e he
    rcases List.mem_append.1 he with he | he
    · exact hv e he
    · rw [List.mem_singleton.1 he]
      exact hc
  | removeException imageName =>
    simp only [SettingsChange.apply] at h
    split_ifs at h
    cases h
    exact fun e he => hv e (List.mem_of_mem_eraseP he)

/-- **No change is lost** when every process starts after the last save of the others: what is
stored then is what was stored, with all changes in the order in which they were made. -/
theorem stored_of_undisturbed {as : List SettingsAction} (hv : storedSettings reg = some v)
    (hshort : ∀ p c, .change p c ∈ as → c.Short)
    (has : Undisturbed (as.map SettingsAction.replica))
    (hrun : (settingsSystem lower).run (SettingsState.init reg) as = some s) :
    storedSettings s.registry =
      some ((as.filterMap SettingsAction.made).foldl (updated (SettingsChange.apply lower)) v) := by
  obtain ⟨r, hr, hmirrors⟩ := mirrors_of_run (mirrors_init hv) hrun
  have hgood : ∀ p c, .commit p c ∈ as.map SettingsAction.replica →
      ∀ v v', Settings.Short v → c.apply lower v = some v' → v'.Short := by
    intro p c hmem
    obtain ⟨a, ha, heq⟩ := List.mem_map.1 hmem
    cases a with
    | start q => cases heq
    | change q c' =>
      cases heq
      exact fun _ _ => short_of_apply (hshort p c ha)
  have haccumulated := value_of_undisturbed (fun _ => Settings.Short.readable_eq) hgood
    (short_of_stored hv) has hr
  have hmade : (as.map SettingsAction.replica).filterMap ReplicaAction.update =
      as.filterMap SettingsAction.made := by
    rw [List.filterMap_map]
    congr 1
    funext a
    cases a <;> rfl
  rw [hmirrors.stored, haccumulated.good.readable_eq, haccumulated.value, hmade]

end RansomShield
