import RansomShield.Client.StoredEntries

/-!
# The registry round trip

The writer stores a string of any length, and the reader has a buffer of 260 characters.  So what
was saved is read back if and only if every entry leaves room for its terminator; a longer entry
ends the list for the reader, and the next save deletes what was behind it (`long_exception_lost`).
Besides, the writer does not notice that it could not delete a value that the reader finds behind
the list.  Nothing else goes wrong, in any state of the client (`registry_round_trip_iff`).
-/

namespace RansomShield

/-! ### What was saved -/

theorem readDWord_dwordValue {key : RegKey} {name : List UInt16} {n : UInt32}
    (h : key name = some (dwordValue n)) (defaultValue : UInt32) :
    readDWord true key name defaultValue = n := by
  have hquery : regQueryValueEx true key name 4 = .success (dwordValue n) := by
    rw [regQueryValueEx, if_pos rfl, h]
    rfl
  have hread := readUlong_ulongBytes [] n []
  rw [List.append_nil] at hread
  unfold readDWord
  rw [hquery]
  exact (if_pos ⟨rfl, rfl⟩).trans hread

/-- **The value of an entry is read back** if and only if the buffer has room for it. -/
theorem readEntry_stringValue_iff {key : RegKey} {i : ℕ} {e : WString}
    (h : key (entryName i) = some (stringValue e)) :
    readEntry true key i = .entry e ↔ e.chars.length < rsMaxAllowlistNameLen := by
  rw [readEntry_eq_readValue, h]
  constructor
  · exact length_lt_of_readValue
  · intro hlen
    have hlt : e.chars.length < 260 := hlen
    have hdata : (stringValue e).data = stringBytes e := by
      rw [stringValue, Nat.mod_eq_of_lt (by omega), ← length_stringBytes, List.take_length]
    have hsize : (stringBytes e).length ≤ 2 * rsMaxAllowlistNameLen := by
      rw [length_stringBytes]
      show 2 * (e.chars.length + 1) ≤ 2 * 260
      omega
    rw [readValue, if_pos ⟨rfl, hdata ▸ hsize⟩, hdata, bufferString_stringBytes hlen]

theorem writeDWord_of_success {opened fails : Bool} {key : RegKey} {name : List UInt16}
    {value : UInt32} (h : (writeDWord opened fails key name value).2 = true) :
    opened = true ∧ (writeDWord opened fails key name value).1 =
      Function.update key name (some (dwordValue value)) :=
  regSetValueEx_of_success h

/-- Entries are written to an open key only. -/
theorem opened_of_writeEntries {opened : Bool} {fails : ℕ → Bool} {entries : List WString} {i : ℕ}
    {key : RegKey} (h : (writeEntries opened fails entries i key).2 = true) :
    entries = [] ∨ opened = true := by
  cases entries with
  | nil => exact .inl rfl
  | cons e entries =>
    simp only [writeEntries, Bool.and_eq_true] at h
    exact .inr (regSetValueEx_of_success h.1).1

/-- What a save leaves behind that is reported as a success. -/
structure Saved (m : ConfigManager) (faults : SaveFaults) (reg reg' : Registry) : Prop where
  opened : m.hConfigKey = true
  threshold : reg'.config rsRegvalThreshold = some (dwordValue m.fileCountThreshold)
  timeWindow : reg'.config rsRegvalTimewindow = some (dwordValue m.timeWindowSeconds)
  monitoring : reg'.config rsRegvalMonitoring =
    some (dwordValue (if m.monitoringEnabled then 1 else 0))
  entries : ∀ i e, m.allowlist[i]? = some e →
    reg'.allowlist (entryName i) = some (stringValue e)
  others : ∀ i, m.allowlist.length ≤ i → i < rsMaxAllowlistEntries →
    reg'.allowlist (entryName i) =
      if (m.hAllowlistKey && !faults.delete i) = true then none
      else reg.allowlist (entryName i)
  /-- Without the key of the list, there was nothing to write. -/
  allowlistKey : m.allowlist = [] ∨ m.hAllowlistKey = true

/-- **What a save leaves behind.** -/
theorem saved_of_success {m : ConfigManager} {faults : SaveFaults} {reg reg' : Registry}
    (h : m.saveToRegistry faults reg = (reg', true)) : Saved m faults reg reg' := by
  have hsuccess : (m.saveToRegistry faults reg).2 = true := by rw [h]
  have hreg : (m.saveToRegistry faults reg).1 = reg' := by rw [h]
  unfold ConfigManager.saveToRegistry at hsuccess hreg
  simp only [Bool.and_eq_true] at hsuccess hreg
  obtain ⟨⟨⟨⟨hthreshold, htimeWindow⟩, hmonitoring⟩, hversion⟩, hentries⟩ := hsuccess
  obtain ⟨hopened, hthreshold⟩ := writeDWord_of_success hthreshold
  rw [hthreshold] at htimeWindow hmonitoring hversion hreg
  obtain ⟨-, htimeWindow⟩ := writeDWord_of_success htimeWindow
  rw [htimeWindow] at hmonitoring hversion hreg
  obtain ⟨-, hmonitoring⟩ := writeDWord_of_success hmonitoring
  rw [hmonitoring] at hversion hreg
  obtain ⟨-, hversion⟩ := writeDWord_of_success hversion
  rw [hversion] at hreg
  subst hreg
  have hlen : 0 + m.allowlist.length ≤ rsMaxAllowlistEntries := by
    rw [Nat.zero_add]
    exact m.length_le
  refine ⟨hopened, ?_, ?_, ?_, ?_, ?_, ?_⟩
  · dsimp only
    rw [Function.update_of_ne (by decide), Function.update_of_ne (by decide),
      Function.update_of_ne (by decide), Function.update_self]
  · dsimp only
    rw [Function.update_of_ne (by decide), Function.update_of_ne (by decide),
      Function.update_self]
  · dsimp only
    rw [Function.update_of_ne (by decide), Function.update_self]
  · intro i e hi
    obtain ⟨hlt, rfl⟩ := List.getElem?_eq_some_iff.1 hi
    show (writeEntries ..).1 _ = _
    rw [writeEntries_spec hlen hentries (hlt.trans_le m.length_le),
      dif_pos ⟨Nat.zero_le i, by rw [Nat.sub_zero]; exact hlt⟩]
    rfl
  · intro i hi hlt
    show (writeEntries ..).1 _ = _
    rw [writeEntries_spec hlen hentries hlt, dif_neg (by omega), deleteEntries_apply le_rfl _ hlt]
    simp [hlt]
  · exact opened_of_writeEntries hentries

/-! ### Reading it back -/

/-- The handles are open, as they are after a successful `Initialize`. -/
structure ConfigManager.Opened (m : ConfigManager) : Prop where
  initialized : m.initialized = true
  hConfigKey : m.hConfigKey = true
  hAllowlistKey : m.hAllowlistKey = true

theorem readValues_settings (m : ConfigManager) (reg : Registry) :
    (m.readValues reg).map ConfigManager.settings =
      (loadEntries m.hAllowlistKey reg.allowlist rsMaxAllowlistEntries 0).map fun entries =>
        (readDWord m.hConfigKey reg.config rsRegvalThreshold rsDefaultFileCountThreshold,
          readDWord m.hConfigKey reg.config rsRegvalTimewindow rsDefaultTimeWindowSeconds,
          readDWord m.hConfigKey reg.config rsRegvalMonitoring
            (UInt32.ofNat rsDefaultMonitoringEnabled.toNat) != 0, entries) := by
  unfold ConfigManager.readValues
  split
  · next h => rw [h]; rfl
  · next entries h => simp only [h, Option.map_some, ConfigManager.settings]

theorem readValues_allowlist (m : ConfigManager) (reg : Registry) :
    (m.readValues reg).map ConfigManager.allowlist =
      loadEntries m.hAllowlistKey reg.allowlist rsMaxAllowlistEntries 0 := by
  unfold ConfigManager.readValues
  split
  · next h => rw [h]; rfl
  · next entries h => exact h.symm

theorem readValues_handles {m m' : ConfigManager} {reg : Registry}
    (h : m.readValues reg = some m') :
    m'.initialized = m.initialized ∧ m'.hConfigKey = m.hConfigKey ∧
      m'.hAllowlistKey = m.hAllowlistKey := by
  unfold ConfigManager.readValues at h
  split at h
  · cases h
  · cases h
    exact ⟨rfl, rfl, rfl⟩

theorem opened_of_runInitialize {m m' : ConfigManager} {c a : Bool} {reg : Registry}
    (hm : m.initialized = false) (h : m.runInitialize c a reg = some (m', true)) :
    m'.Opened := by
  unfold ConfigManager.runInitialize at h
  rw [hm] at h
  simp only [Bool.false_eq_true, if_false] at h
  split_ifs at h
  · cases h
  · cases h
  · obtain ⟨m'', hread, hm'⟩ := Option.map_eq_some_iff.1 h
    cases hm'
    obtain ⟨-, hconfig, hallowlist⟩ := readValues_handles hread
    exact ⟨rfl, hconfig, hallowlist⟩

/-- The entries that the reader would find: they leave room for their terminators, and a value
behind the list that was not deleted ends it. -/
structure Readable (m : ConfigManager) (faults : SaveFaults) (reg : Registry) : Prop where
  fits : ∀ e ∈ m.allowlist, e.chars.length < rsMaxAllowlistNameLen
  ends : m.allowlist.length < rsMaxAllowlistEntries →
    m.hAllowlistKey = false ∨ faults.delete m.allowlist.length = true →
    readEntry true reg.allowlist m.allowlist.length = .stop

/-- **When the list is read back** that was saved. -/
theorem loadEntries_saved_iff {m : ConfigManager} {faults : SaveFaults} {reg reg' : Registry}
    (h : Saved m faults reg reg') :
    loadEntries true reg'.allowlist rsMaxAllowlistEntries 0 = some m.allowlist ↔
      Readable m faults reg := by
  have hentry : ∀ i e, m.allowlist[i]? = some e →
      (readEntry true reg'.allowlist (0 + i) = .entry e ↔
        e.chars.length < rsMaxAllowlistNameLen) := by
    intro i e hi
    rw [Nat.zero_add]
    exact readEntry_stringValue_iff (h.entries i e hi)
  have hends : m.allowlist.length < rsMaxAllowlistEntries →
      (readEntry true reg'.allowlist (0 + m.allowlist.length) = .stop ↔
        (m.hAllowlistKey = false ∨ faults.delete m.allowlist.length = true →
          readEntry true reg.allowlist m.allowlist.length = .stop)) := by
    intro hlt
    have hvalue := h.others _ le_rfl hlt
    rw [Nat.zero_add, readEntry, readEntry, regQueryValueEx, regQueryValueEx, hvalue]
    cases m.hAllowlistKey <;> cases faults.delete m.allowlist.length <;> simp
  rw [loadEntries_eq_some_iff]
  constructor
  · rintro ⟨-, hentries, hstop⟩
    refine ⟨fun e he => ?_, fun hlt => (hends hlt).1 (hstop hlt)⟩
    obtain ⟨i, hi⟩ := List.getElem?_of_mem he
    exact (hentry i e hi).1 (hentries i e hi)
  · rintro ⟨hfits, hstop⟩
    refine ⟨m.length_le, fun i e hi => ?_, fun hlt => (hends hlt).2 (hstop hlt)⟩
    exact (hentry i e hi).2 (hfits e (List.mem_of_getElem? hi))

/-- **When the settings are read back** that were saved. -/
theorem readValues_saved_iff {m m' : ConfigManager} {faults : SaveFaults} {reg reg' : Registry}
    (h : Saved m faults reg reg') (hconfig : m'.hConfigKey = true) :
    (m'.readValues reg').map ConfigManager.settings = some m.settings ↔
      loadEntries m'.hAllowlistKey reg'.allowlist rsMaxAllowlistEntries 0 = some m.allowlist := by
  have hmonitoring : (readDWord true reg'.config rsRegvalMonitoring
      (UInt32.ofNat rsDefaultMonitoringEnabled.toNat) != 0) = m.monitoringEnabled := by
    rw [readDWord_dwordValue h.monitoring]
    cases m.monitoringEnabled <;> rfl
  rw [readValues_settings, hconfig, readDWord_dwordValue h.threshold,
    readDWord_dwordValue h.timeWindow, hmonitoring]
  simp only [ConfigManager.settings, Option.map_eq_some_iff, Prod.mk.injEq, true_and,
    exists_eq_right]

theorem runInitialize_new (reg : Registry) :
    (ConfigManager.new.runInitialize true true reg).map (fun r => r.1.settings) =
      (({ ConfigManager.new with hConfigKey := true, hAllowlistKey := true } :
        ConfigManager).readValues reg).map ConfigManager.settings := by
  unfold ConfigManager.runInitialize
  rw [if_neg (by decide), if_neg (by decide), if_neg (by decide), Option.map_map]
  rfl

theorem runInitialize_allowlist {m : ConfigManager} (hm : m.initialized = false) (reg : Registry) :
    ((m.runInitialize true true reg).map Prod.fst).map ConfigManager.allowlist =
      loadEntries true reg.allowlist rsMaxAllowlistEntries 0 := by
  rw [← readValues_allowlist { m with hConfigKey := true, hAllowlistKey := true } reg,
    ConfigManager.runInitialize, hm, if_neg Bool.false_ne_true, if_neg (by decide),
    if_neg (by decide), Option.map_map, Option.map_map]
  rfl

theorem runInitialize_not_loaded {m : ConfigManager} {configOpens allowlistOpens : Bool}
    (h : m.initialized = true ∨ configOpens = false ∨ allowlistOpens = false) (reg : Registry) :
    ∃ r, m.runInitialize configOpens allowlistOpens reg = some r ∧
      r.1.allowlist = m.allowlist := by
  unfold ConfigManager.runInitialize
  cases hm : m.initialized with
  | true => exact ⟨_, rfl, rfl⟩
  | false =>
    cases configOpens with
    | false => exact ⟨_, rfl, rfl⟩
    | true =>
      cases allowlistOpens with
      | false => exact ⟨_, rfl, rfl⟩
      | true =>
        rw [hm] at h
        simp at h

/-- Without the key of the list, the reader finds no entry. -/
theorem loadEntries_not_opened (key : RegKey) :
    loadEntries false key rsMaxAllowlistEntries 0 = some [] := rfl

/-- **The registry round trip.**  In every state of the client, and for every content of the
registry: when `SaveToRegistry` succeeds, then `LoadFromRegistry`, and `Initialize` in a new
process, read the same settings back if and only if every entry of the list has less than 260
characters, and no value that the reader can read was left behind the list, because its deletion
failed or the key of the list was never opened. -/
theorem registry_round_trip_iff (reg reg' : Registry) (m : ConfigManager) (faults : SaveFaults)
    (hsave : m.saveToRegistry faults reg = (reg', true)) :
    ((m.loadFromRegistry reg').map ConfigManager.settings = some m.settings ∧
      (ConfigManager.new.runInitialize true true reg').map (fun r => r.1.settings) =
        some m.settings) ↔ Readable m faults reg := by
  have hsaved := saved_of_success hsave
  rw [runInitialize_new, ConfigManager.loadFromRegistry, readValues_saved_iff hsaved hsaved.opened,
    readValues_saved_iff hsaved rfl, ← loadEntries_saved_iff hsaved]
  refine and_iff_right_of_imp ?_
  intro hload
  rcases hsaved.allowlistKey with hnil | hopened
  · cases hkey : m.hAllowlistKey with
    | true => exact hload
    | false => rw [loadEntries_not_opened, hnil]
  · rw [hopened]
    exact hload

/-! ### A long name -/

/-- The registry before the first start. -/
def emptyRegistry : Registry := ⟨fun _ => none, fun _ => none⟩

/-- The settings after the first start, with some names on the list. -/
def firstStart (allowlist : List WString) (h : allowlist.length ≤ rsMaxAllowlistEntries) :
    ConfigManager where
  fileCountThreshold := rsDefaultFileCountThreshold
  timeWindowSeconds := rsDefaultTimeWindowSeconds
  monitoringEnabled := true
  allowlist := allowlist
  length_le := h
  initialized := true
  hConfigKey := true
  hAllowlistKey := true

theorem runInitialize_emptyRegistry :
    ConfigManager.new.runInitialize true true emptyRegistry =
      some (firstStart [] (Nat.zero_le _), true) := rfl

/-- A name that fills the buffer of the reader. -/
def longException : WString := ⟨List.replicate 260 97, by decide⟩

/-- A name as it is usual. -/
def shortException : WString := ⟨wide "app.exe", by decide⟩

/-- A registry with a threshold and three names that were saved earlier. -/
def earlierRegistry : Registry where
  config name := if name = rsRegvalThreshold then some (dwordValue 7) else none
  allowlist := (storedRegistry
    [⟨wide "x.exe", by decide⟩, ⟨wide "y.exe", by decide⟩, shortException]).allowlist

/-- Settings that were changed, with two names. -/
def changedSettings : ConfigManager :=
  { firstStart [shortException, ⟨wide "edit.exe", by decide⟩] (by decide) with
    fileCountThreshold := 20
    timeWindowSeconds := 60
    monitoringEnabled := false }

/-- The deletion of the first value fails. -/
def keepsFirst : SaveFaults := { SaveFaults.none with delete := fun i => decide (i = 0) }

/-- The settings replace those of the registry. -/
theorem round_trip_changedSettings :
    ∃ reg', changedSettings.saveToRegistry keepsFirst earlierRegistry = (reg', true) ∧
      (changedSettings.loadFromRegistry earlierRegistry).map ConfigManager.settings ≠
        some changedSettings.settings ∧
      (changedSettings.loadFromRegistry reg').map ConfigManager.settings =
        some changedSettings.settings ∧
      (ConfigManager.new.runInitialize true true reg').map (fun r => r.1.settings) =
        some changedSettings.settings := by
  have hsave : (changedSettings.saveToRegistry keepsFirst earlierRegistry).2 = true := by
    decide +kernel
  refine ⟨_, Prod.ext rfl hsave, by decide +kernel, ?_⟩
  refine (registry_round_trip_iff earlierRegistry _ _ keepsFirst (Prod.ext rfl hsave)).2
    ⟨by decide, ?_⟩
  intro _ h
  rcases h with h | h
  · cases h
  · cases h

/-- **A long name is lost**, and what is behind it: both names are saved, the save is reported as a
success, and no name is read back. -/
theorem long_exception_lost :
    ∃ m reg', ConfigManager.new.runInitialize true true emptyRegistry =
        some (firstStart [] (Nat.zero_le _), true) ∧
      (configMachine id).run (firstStart [] (Nat.zero_le _), emptyRegistry)
        [.addException longException, .addException shortException] = some (m, emptyRegistry) ∧
      m.saveToRegistry SaveFaults.none emptyRegistry = (reg', true) ∧
      m.allowlist = [longException, shortException] ∧
      (m.loadFromRegistry reg').map ConfigManager.settings ≠ some m.settings ∧
      (m.loadFromRegistry reg').map ConfigManager.allowlist = some [] := by
  obtain ⟨reg', hsave⟩ : ∃ reg',
      (firstStart [longException, shortException] (by decide)).saveToRegistry
        SaveFaults.none emptyRegistry = (reg', true) := ⟨_, Prod.ext rfl (by decide +kernel)⟩
  have hload : loadEntries true
      ((firstStart [longException, shortException] (by decide)).saveToRegistry
        SaveFaults.none emptyRegistry).1.allowlist rsMaxAllowlistEntries 0 = some [] := by
    decide +kernel
  rw [hsave] at hload
  have hread := (readValues_allowlist
    (firstStart [longException, shortException] (by decide)) reg').trans hload
  refine ⟨firstStart [longException, shortException] (by decide), reg', rfl, rfl, hsave, rfl, ?_,
    hread⟩
  intro hsame
  obtain ⟨m', hm', hsettings⟩ := Option.map_eq_some_iff.1 hsame
  have hnames : m'.allowlist = [longException, shortException] :=
    congrArg (fun s : UInt32 × UInt32 × Bool × List WString => s.2.2.2) hsettings
  rw [← ConfigManager.loadFromRegistry, hm', Option.map_some, hnames] at hread
  cases hread

end RansomShield
