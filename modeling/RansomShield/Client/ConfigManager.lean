import RansomShield.Client.Registry
import RansomShield.Machine.Basic

/-!
# The settings of the client

The functions of `usermode/common/ConfigManager.cpp`: the settings in memory, with a list that never
has more than 128 entries, and how they are written to the registry and read back.  `configMachine`
makes any sequence of calls.

The writer deletes the values `Entry00` to `Entry127` and writes one for each entry of the list;
`deleteEntries_apply` and `writeEntries_spec` say which values it leaves behind.  The reader stops
at the first value that it cannot read (`loadEntries_eq_some_iff`).  A call of the registry may fail
while the settings are written (`SaveFaults`).  Reading an entry without a terminator is undefined,
and so is what comes of it: `none`.
-/

namespace RansomShield

/-! ### Names of values -/

/-- `RS_REGVAL_THRESHOLD`. -/
def rsRegvalThreshold : List UInt16 := wide "FileCountThreshold"

/-- `RS_REGVAL_TIMEWINDOW`. -/
def rsRegvalTimewindow : List UInt16 := wide "TimeWindowSeconds"

/-- `RS_REGVAL_MONITORING`. -/
def rsRegvalMonitoring : List UInt16 := wide "MonitoringEnabled"

/-- `RS_REGVAL_VERSION`. -/
def rsRegvalVersion : List UInt16 := wide "ProtocolVersion"

/-- `swprintf_s(valueName, _countof(valueName), L"%s%02lu", RS_REGVAL_ENTRY_PREFIX, i)`. -/
def entryName (i : ℕ) : List UInt16 :=
  wide "Entry" ++ (if i < 10 then wide "0" else []) ++
    (Nat.toDigits 10 i).map fun c => UInt16.ofNat c.toNat

/-- The number that the name of an entry ends in. -/
def entryNumber (name : List UInt16) : ℕ :=
  (name.drop 5).foldl (fun n c => 10 * n + (c.toNat - 48)) 0

theorem entryNumber_entryName : ∀ i < rsMaxAllowlistEntries, entryNumber (entryName i) = i := by
  decide +kernel

theorem entryName_inj {i j : ℕ} (hi : i < rsMaxAllowlistEntries) (hj : j < rsMaxAllowlistEntries)
    (h : entryName i = entryName j) : i = j := by
  rw [← entryNumber_entryName i hi, h, entryNumber_entryName j hj]

/-! ### Settings -/

/-- The settings of the client, and the handles of their keys. -/
structure ConfigManager where
  fileCountThreshold : UInt32
  timeWindowSeconds : UInt32
  monitoringEnabled : Bool
  allowlist : List WString
  length_le : allowlist.length ≤ rsMaxAllowlistEntries
  initialized : Bool
  /-- `m_hConfigKey` is open. -/
  hConfigKey : Bool
  /-- `m_hAllowlistKey` is open. -/
  hAllowlistKey : Bool

/-- The two keys of the client. -/
structure Registry where
  config : RegKey
  allowlist : RegKey

namespace ConfigManager

/-- The constructor. -/
def new : ConfigManager where
  fileCountThreshold := rsDefaultFileCountThreshold
  timeWindowSeconds := rsDefaultTimeWindowSeconds
  monitoringEnabled := true
  allowlist := []
  length_le := Nat.zero_le _
  initialized := false
  hConfigKey := false
  hAllowlistKey := false

/-- What is to be saved. -/
def settings (m : ConfigManager) : UInt32 × UInt32 × Bool × List WString :=
  (m.fileCountThreshold, m.timeWindowSeconds, m.monitoringEnabled, m.allowlist)

end ConfigManager

/-! ### Reading -/

/-- `ReadDWord`. -/
def readDWord (opened : Bool) (key : RegKey) (name : List UInt16) (defaultValue : UInt32) :
    UInt32 :=
  match regQueryValueEx opened key name 4 with
  | .success value =>
    if value.type = .regDword ∧ value.data.length = 4 then readUlong value.data 0
    else defaultValue
  | _ => defaultValue

/-- How a turn of the loop that reads the entries ends. -/
inductive EntryRead
  /-- `break`. -/
  | stop
  | entry (e : WString)
  /-- The string has no terminator. -/
  | undefined
  deriving DecidableEq

/-- The turn of the loop for an index. -/
def readEntry (opened : Bool) (key : RegKey) (i : ℕ) : EntryRead :=
  match regQueryValueEx opened key (entryName i) (2 * rsMaxAllowlistNameLen) with
  | .success value =>
    if value.type = .regSz then
      match bufferString rsMaxAllowlistNameLen value.data with
      | some e => .entry e
      | none => .undefined
    else .stop
  | _ => .stop

/-- The loop, for `n` indices from `i` on. -/
def loadEntries (opened : Bool) (key : RegKey) : ℕ → ℕ → Option (List WString)
  | 0, _ => some []
  | n + 1, i =>
    match readEntry opened key i with
    | .stop => some []
    | .entry e => (loadEntries opened key n (i + 1)).map (e :: ·)
    | .undefined => none

section

variable {opened : Bool} {key : RegKey} {n i : ℕ} {e : WString} {l : List WString}

theorem loadEntries_succ_eq_nil_iff :
    loadEntries opened key (n + 1) i = some [] ↔ readEntry opened key i = .stop := by
  rw [loadEntries]
  cases readEntry opened key i with
  | stop => simp
  | entry e => simp
  | undefined => simp

theorem loadEntries_succ_eq_cons_iff :
    loadEntries opened key (n + 1) i = some (e :: l) ↔
      readEntry opened key i = .entry e ∧ loadEntries opened key n (i + 1) = some l := by
  rw [loadEntries]
  cases readEntry opened key i with
  | stop => simp
  | undefined => simp
  | entry e' =>
    simp only [Option.map_eq_some_iff, List.cons.injEq, EntryRead.entry.injEq]
    constructor
    · rintro ⟨_, hl, rfl, rfl⟩
      exact ⟨rfl, hl⟩
    · rintro ⟨rfl, hl⟩
      exact ⟨l, hl, rfl, rfl⟩

/-- **What the reader makes of the values of a key**: a list whose entries it reads one after the
other, and behind which it stops. -/
theorem loadEntries_eq_some_iff :
    loadEntries opened key n i = some l ↔
      l.length ≤ n ∧ (∀ j e, l[j]? = some e → readEntry opened key (i + j) = .entry e) ∧
        (l.length < n → readEntry opened key (i + l.length) = .stop) := by
  induction n generalizing i l with
  | zero =>
    rw [loadEntries, Option.some.injEq]
    constructor
    · rintro rfl
      simp
    · rintro ⟨hlen, -, -⟩
      exact (List.length_eq_zero_iff.1 (Nat.le_zero.1 hlen)).symm
  | succ n ih =>
    cases l with
    | nil => simp [loadEntries_succ_eq_nil_iff]
    | cons e l =>
      -- the first turn reads the head, and the others read the tail
      have hentries : (∀ j e', (e :: l)[j]? = some e' → readEntry opened key (i + j) = .entry e') ↔
          readEntry opened key i = .entry e ∧
            ∀ j e', l[j]? = some e' → readEntry opened key (i + 1 + j) = .entry e' := by
        rw [← Nat.and_forall_add_one]
        simp [Nat.add_right_comm, Nat.add_assoc]
      rw [loadEntries_succ_eq_cons_iff, ih, hentries, List.length_cons, Nat.succ_le_succ_iff,
        Nat.succ_lt_succ_iff, Nat.add_right_comm i 1, Nat.add_assoc i]
      exact and_left_comm.trans (and_congr_right' and_assoc.symm)

end

theorem length_le_of_loadEntries {opened : Bool} {key : RegKey} {n i : ℕ} {l : List WString}
    (h : loadEntries opened key n i = some l) : l.length ≤ n :=
  (loadEntries_eq_some_iff.1 h).1

namespace ConfigManager

/-- The code that `Initialize` and `LoadFromRegistry` share. -/
def readValues (m : ConfigManager) (reg : Registry) : Option ConfigManager :=
  match h : loadEntries m.hAllowlistKey reg.allowlist rsMaxAllowlistEntries 0 with
  | none => none
  | some entries =>
    some
      { m with
        fileCountThreshold :=
          readDWord m.hConfigKey reg.config rsRegvalThreshold rsDefaultFileCountThreshold
        timeWindowSeconds :=
          readDWord m.hConfigKey reg.config rsRegvalTimewindow rsDefaultTimeWindowSeconds
        monitoringEnabled :=
          readDWord m.hConfigKey reg.config rsRegvalMonitoring
            (UInt32.ofNat rsDefaultMonitoringEnabled.toNat) != 0
        allowlist := entries
        length_le := length_le_of_loadEntries h }

/-- `Initialize`: whether the two keys can be opened is given. -/
def runInitialize (m : ConfigManager) (configOpens allowlistOpens : Bool) (reg : Registry) :
    Option (ConfigManager × Bool) :=
  if m.initialized then some (m, true)
  else if !configOpens then some (m, false)
  else if !allowlistOpens then some ({ m with hConfigKey := true }, false)
  else
    (readValues { m with hConfigKey := true, hAllowlistKey := true } reg).map fun m =>
      ({ m with initialized := true }, true)

/-- `LoadFromRegistry`. -/
def loadFromRegistry (m : ConfigManager) (reg : Registry) : Option ConfigManager :=
  m.readValues reg

end ConfigManager

/-! ### Writing -/

/-- The calls of the registry that fail while the settings are written. -/
structure SaveFaults where
  threshold : Bool
  timeWindow : Bool
  monitoring : Bool
  version : Bool
  /-- `RegDeleteValueW`, for each index. -/
  delete : ℕ → Bool
  /-- `RegSetValueExW`, for each entry. -/
  entry : ℕ → Bool

/-- No call fails. -/
def SaveFaults.none : SaveFaults := ⟨false, false, false, false, fun _ => false, fun _ => false⟩

/-- `WriteDWord`. -/
def writeDWord (opened fails : Bool) (key : RegKey) (name : List UInt16) (value : UInt32) :
    RegKey × Bool :=
  regSetValueEx opened fails key name (dwordValue value)

/-- The loop that deletes the values of the first `n` entries. -/
def deleteEntries (opened : Bool) (fails : ℕ → Bool) (n : ℕ) (key : RegKey) : RegKey :=
  (List.range n).foldl (fun key i => regDeleteValue opened (fails i) key (entryName i)) key

/-- The loop that writes the entries, from the index `i` on, and whether all writes succeed. -/
def writeEntries (opened : Bool) (fails : ℕ → Bool) : List WString → ℕ → RegKey → RegKey × Bool
  | [], _, key => (key, true)
  | e :: entries, i, key =>
    let (key, written) := regSetValueEx opened (fails i) key (entryName i) (stringValue e)
    let (key, success) := writeEntries opened fails entries (i + 1) key
    (key, written && success)

/-- `SaveToRegistry`. -/
def ConfigManager.saveToRegistry (m : ConfigManager) (faults : SaveFaults) (reg : Registry) :
    Registry × Bool :=
  let (config, thresholdSaved) :=
    writeDWord m.hConfigKey faults.threshold reg.config rsRegvalThreshold m.fileCountThreshold
  let (config, timeWindowSaved) :=
    writeDWord m.hConfigKey faults.timeWindow config rsRegvalTimewindow m.timeWindowSeconds
  let (config, monitoringSaved) :=
    writeDWord m.hConfigKey faults.monitoring config rsRegvalMonitoring
      (if m.monitoringEnabled then 1 else 0)
  let (config, versionSaved) :=
    writeDWord m.hConfigKey faults.version config rsRegvalVersion rsProtocolVersion
  -- a deletion that fails does not count
  let allowlist := deleteEntries m.hAllowlistKey faults.delete rsMaxAllowlistEntries reg.allowlist
  let (allowlist, entriesSaved) :=
    writeEntries m.hAllowlistKey faults.entry m.allowlist 0 allowlist
  ({ config := config, allowlist := allowlist },
    thresholdSaved && timeWindowSaved && monitoringSaved && versionSaved && entriesSaved)

theorem deleteEntries_succ (opened : Bool) (fails : ℕ → Bool) (n : ℕ) (key : RegKey) :
    deleteEntries opened fails (n + 1) key =
      regDeleteValue opened (fails n) (deleteEntries opened fails n key) (entryName n) := by
  rw [deleteEntries, List.range_succ, List.foldl_append]
  rfl

/-- **The values that are deleted.** -/
theorem deleteEntries_apply {opened : Bool} {fails : ℕ → Bool} {n : ℕ}
    (hn : n ≤ rsMaxAllowlistEntries) (key : RegKey) {i : ℕ} (hi : i < rsMaxAllowlistEntries) :
    deleteEntries opened fails n key (entryName i) =
      if i < n ∧ (opened && !fails i) = true then none else key (entryName i) := by
  induction n with
  | zero => simp [deleteEntries]
  | succ n ih =>
    rw [deleteEntries_succ, regDeleteValue]
    by_cases hin : i = n
    · subst hin
      cases hdel : opened && !fails i with
      | true => simp [Function.update_self]
      | false => rw [if_neg Bool.false_ne_true, ih (Nat.le_of_succ_le hn)]; simp [hdel]
    · have hname : entryName i ≠ entryName n :=
        fun h => hin (entryName_inj hi (Nat.lt_of_succ_le hn) h)
      have hsame : (if opened && !fails n then
            Function.update (deleteEntries opened fails n key) (entryName n) none
          else deleteEntries opened fails n key) (entryName i) =
          deleteEntries opened fails n key (entryName i) := by
        split_ifs
        · rw [Function.update_of_ne hname]
        · rfl
      have hlt : i < n + 1 ↔ i < n := by omega
      rw [hsame, ih (Nat.le_of_succ_le hn)]
      simp only [hlt]

/-- **The values that are written**, when all writes succeed. -/
theorem writeEntries_spec {opened : Bool} {fails : ℕ → Bool} {entries : List WString} {i : ℕ}
    {key : RegKey} (hlen : i + entries.length ≤ rsMaxAllowlistEntries)
    (h : (writeEntries opened fails entries i key).2 = true) {j : ℕ}
    (hj : j < rsMaxAllowlistEntries) :
    (writeEntries opened fails entries i key).1 (entryName j) =
      if h : i ≤ j ∧ j - i < entries.length then some (stringValue (entries.get ⟨j - i, h.2⟩))
      else key (entryName j) := by
  induction entries generalizing i key with
  | nil => simp [writeEntries]
  | cons e entries ih =>
    rw [List.length_cons] at hlen
    simp only [writeEntries, Bool.and_eq_true] at h ⊢
    obtain ⟨hwritten, hrest⟩ := h
    rw [ih (by omega) hrest, (regSetValueEx_of_success hwritten).2]
    by_cases hij : j = i
    · subst hij
      rw [dif_neg (by omega), Function.update_self, dif_pos ⟨le_rfl, by simp⟩]
      simp
    · have hname : entryName j ≠ entryName i := fun heq => hij (entryName_inj hj (by omega) heq)
      rw [Function.update_of_ne hname]
      by_cases hlt : i + 1 ≤ j ∧ j - (i + 1) < entries.length
      · have hsub : j - i = j - (i + 1) + 1 := by omega
        rw [dif_pos hlt, dif_pos ⟨by omega, by rw [List.length_cons]; omega⟩]
        simp only [hsub, List.get_cons_succ]
      · rw [dif_neg hlt, dif_neg]
        rw [List.length_cons]
        omega

/-! ### Changing the settings -/

namespace ConfigManager

/-- `SetFileCountThreshold`. -/
def setFileCountThreshold (m : ConfigManager) (threshold : UInt32) (faults : SaveFaults)
    (reg : Registry) : ConfigManager × Registry :=
  let m := { m with fileCountThreshold := threshold }
  (m, (m.saveToRegistry faults reg).1)

/-- `SetTimeWindowSeconds`. -/
def setTimeWindowSeconds (m : ConfigManager) (seconds : UInt32) (faults : SaveFaults)
    (reg : Registry) : ConfigManager × Registry :=
  let m := { m with timeWindowSeconds := seconds }
  (m, (m.saveToRegistry faults reg).1)

/-- `SetMonitoringEnabled`. -/
def setMonitoringEnabled (m : ConfigManager) (enabled : Bool) (faults : SaveFaults)
    (reg : Registry) : ConfigManager × Registry :=
  let m := { m with monitoringEnabled := enabled }
  (m, (m.saveToRegistry faults reg).1)

/-- `ClearExceptions`. -/
def clearExceptions (m : ConfigManager) : ConfigManager :=
  { m with allowlist := [], length_le := Nat.zero_le _ }

section

variable (lower : UInt16 → UInt16)

/-- `_wcsicmp(entry, imageName) == 0`, for the lower case of the locale. -/
def sameName (imageName entry : WString) : Bool :=
  entry.chars.map lower == imageName.chars.map lower

/-- `AddException`. -/
def addException (m : ConfigManager) (imageName : WString) : ConfigManager × Bool :=
  if m.allowlist.any (sameName lower imageName) then (m, false)
  else if h : m.allowlist.length < rsMaxAllowlistEntries then
    ({ m with
        allowlist := m.allowlist ++ [imageName]
        length_le := by rw [List.length_append]; exact h }, true)
  else (m, false)

/-- `RemoveException`: the first match is removed. -/
def removeException (m : ConfigManager) (imageName : WString) : ConfigManager × Bool :=
  if m.allowlist.any (sameName lower imageName) then
    ({ m with
        allowlist := m.allowlist.eraseP (sameName lower imageName)
        length_le := List.eraseP_sublist.length_le.trans m.length_le }, true)
  else (m, false)

/-- `IsException`. -/
def isException (m : ConfigManager) (imageName : WString) : Bool :=
  m.allowlist.any (sameName lower imageName)

end

end ConfigManager

/-- The calls of a client. -/
inductive ConfigCall
  | setFileCountThreshold (threshold : UInt32) (faults : SaveFaults)
  | setTimeWindowSeconds (seconds : UInt32) (faults : SaveFaults)
  | setMonitoringEnabled (enabled : Bool) (faults : SaveFaults)
  | addException (imageName : WString)
  | removeException (imageName : WString)
  | clearExceptions
  | saveToRegistry (faults : SaveFaults)
  | loadFromRegistry

/-- The settings and the registry under the calls of a client. -/
def configMachine (lower : UInt16 → UInt16) : Machine (ConfigManager × Registry) ConfigCall where
  step s
    | .setFileCountThreshold threshold faults =>
      some (s.1.setFileCountThreshold threshold faults s.2)
    | .setTimeWindowSeconds seconds faults => some (s.1.setTimeWindowSeconds seconds faults s.2)
    | .setMonitoringEnabled enabled faults => some (s.1.setMonitoringEnabled enabled faults s.2)
    | .addException imageName => some ((s.1.addException lower imageName).1, s.2)
    | .removeException imageName => some ((s.1.removeException lower imageName).1, s.2)
    | .clearExceptions => some (s.1.clearExceptions, s.2)
    | .saveToRegistry faults => some (s.1, (s.1.saveToRegistry faults s.2).1)
    | .loadFromRegistry => (s.1.loadFromRegistry s.2).map fun m => (m, s.2)

end RansomShield
