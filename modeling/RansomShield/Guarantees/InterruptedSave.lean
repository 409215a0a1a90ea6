import RansomShield.Client.StoredEntries
import RansomShield.Guarantees.RegistryRoundTrip

/-!
# A save that fails or is interrupted

`SaveToRegistry` deletes the values of all 128 entries and writes the entries one by one.  It goes
on after every call that fails, and the process may die between any two calls
(`ConfigManager.saveInterrupted`); with all its calls, this is the whole save
(`saveInterrupted_of_le`).  The reader stops at the first gap.  So the stored list survives a failed
save if and only if it was not touched, and the new list arrives if and only if all of it was
written (`interrupted_save_iff`).  A single write that fails can lose the list
(`failed_write_loses_list`).
-/

namespace RansomShield

/-- A call of the registry that `SaveToRegistry` makes. -/
inductive SaveCall
  | threshold
  | timeWindow
  | monitoring
  | version
  | delete (i : ℕ)
  | entry (i : ℕ) (e : WString)

namespace ConfigManager

variable (m : ConfigManager) (faults : SaveFaults)

/-- The calls of `SaveToRegistry`, in order. -/
def saveCalls : List SaveCall :=
  [.threshold, .timeWindow, .monitoring, .version] ++
    (List.range rsMaxAllowlistEntries).map SaveCall.delete ++
    m.allowlist.zipIdx.map fun e => .entry e.2 e.1

/-- The registry after a call. -/
def saveCall (reg : Registry) : SaveCall → Registry
  | .threshold =>
    { reg with
      config := (writeDWord m.hConfigKey faults.threshold reg.config rsRegvalThreshold
        m.fileCountThreshold).1 }
  | .timeWindow =>
    { reg with
      config := (writeDWord m.hConfigKey faults.timeWindow reg.config rsRegvalTimewindow
        m.timeWindowSeconds).1 }
  | .monitoring =>
    { reg with
      config := (writeDWord m.hConfigKey faults.monitoring reg.config rsRegvalMonitoring
        (if m.monitoringEnabled then 1 else 0)).1 }
  | .version =>
    { reg with
      config := (writeDWord m.hConfigKey faults.version reg.config rsRegvalVersion
        rsProtocolVersion).1 }
  | .delete i =>
    { reg with
      allowlist := regDeleteValue m.hAllowlistKey (faults.delete i) reg.allowlist (entryName i) }
  | .entry i e =>
    { reg with
      allowlist := (regSetValueEx m.hAllowlistKey (faults.entry i) reg.allowlist (entryName i)
        (stringValue e)).1 }

/-- `SaveToRegistry` in a process that dies after some calls. -/
def saveInterrupted (calls : ℕ) (reg : Registry) : Registry :=
  exec (m.saveCall faults) reg (m.saveCalls.take calls)

/-- The deletion of an entry is made, and takes effect. -/
def deletes (calls i : ℕ) : Bool :=
  decide (4 + i < calls) && m.hAllowlistKey && !faults.delete i

/-- The entry is written, and the write takes effect. -/
def writes (calls i : ℕ) : Bool :=
  decide (4 + rsMaxAllowlistEntries + i < calls) && m.hAllowlistKey && !faults.entry i

/-- The entry that is written at an index, if one is. -/
def written (calls i : ℕ) : Option WString :=
  if m.writes faults calls i = true then m.allowlist[i]? else none

/-! ### The loops -/

theorem exec_delete (n : ℕ) (reg : Registry) :
    exec (m.saveCall faults) reg ((List.range n).map SaveCall.delete) =
      { reg with
        allowlist := deleteEntries m.hAllowlistKey faults.delete n reg.allowlist } := by
  induction n with
  | zero => rfl
  | succ n ih =>
    rw [List.range_succ, List.map_append, exec_append, ih, deleteEntries_succ]
    rfl

theorem exec_entry (entries : List WString) (i : ℕ) (reg : Registry) :
    exec (m.saveCall faults) reg ((entries.zipIdx i).map fun e => .entry e.2 e.1) =
      { reg with
        allowlist := (writeEntries m.hAllowlistKey faults.entry entries i reg.allowlist).1 } := by
  induction entries generalizing i reg with
  | nil => rfl
  | cons e entries ih =>
    rw [List.zipIdx_cons, List.map_cons, exec_cons, ih]
    rfl

/-- **With all its calls**, it is `SaveToRegistry`. -/
theorem saveInterrupted_of_le {calls : ℕ} (h : m.saveCalls.length ≤ calls) (reg : Registry) :
    m.saveInterrupted faults calls reg = (m.saveToRegistry faults reg).1 := by
  rw [saveInterrupted, List.take_of_length_le h, saveCalls, exec_append, exec_append, exec_delete,
    exec_entry]
  simp only [exec_cons, exec_nil, saveCall, saveToRegistry]

end ConfigManager

/-- **The values that are written**, whichever writes fail. -/
theorem writeEntries_apply {opened : Bool} {fails : ℕ → Bool} {entries : List WString} {i : ℕ}
    (key : RegKey) (hlen : i + entries.length ≤ rsMaxAllowlistEntries) {j : ℕ}
    (hj : j < rsMaxAllowlistEntries) :
    (writeEntries opened fails entries i key).1 (entryName j) =
      ((if i ≤ j ∧ (opened && !fails j) = true then entries[j - i]? else none).map
        stringValue).or (key (entryName j)) := by
  induction entries generalizing i key with
  | nil => simp [writeEntries]
  | cons e entries ih =>
    rw [List.length_cons] at hlen
    have hrest := ih (regSetValueEx opened (fails i) key (entryName i) (stringValue e)).1
      (i := i + 1) (by omega)
    rw [writeEntries]
    refine hrest.trans ?_
    by_cases hij : j = i
    · -- the entries behind it have other names
      subst hij
      rw [if_neg (by omega), regSetValueEx]
      cases hok : opened && !fails j with
      | true => simp
      | false => simp
    · have hname : entryName j ≠ entryName i := fun heq => hij (entryName_inj hj (by omega) heq)
      have hsame : (regSetValueEx opened (fails i) key (entryName i) (stringValue e)).1
          (entryName j) = key (entryName j) := by
        rw [regSetValueEx]
        split_ifs
        · exact Function.update_of_ne hname _ _
        · rfl
      rw [hsame]
      by_cases hlt : i + 1 ≤ j
      · have hsub : j - i = j - (i + 1) + 1 := by omega
        have hle : i ≤ j := by omega
        simp only [hlt, hle, true_and, hsub, List.getElem?_cons_succ]
      · have hle : ¬ i ≤ j := by omega
        simp only [hlt, hle, false_and, if_false]

/-! ### The values that are left behind -/

section

variable (m : ConfigManager) (faults : SaveFaults) (calls : ℕ) (reg : Registry)

theorem allowlist_exec_settings {l : List SaveCall}
    (hl : l ⊆ [.threshold, .timeWindow, .monitoring, .version]) :
    (exec (m.saveCall faults) reg l).allowlist = reg.allowlist := by
  refine exec_invariant (I := fun reg' : Registry => reg'.allowlist = reg.allowlist) l rfl ?_
  intro reg' call hcall hreg'
  have hmem := hl hcall
  simp only [List.mem_cons, List.not_mem_nil, or_false] at hmem
  rcases hmem with rfl | rfl | rfl | rfl
  · exact hreg'
  · exact hreg'
  · exact hreg'
  · exact hreg'

theorem take_zipIdx {α : Type*} (l : List α) (i k : ℕ) :
    (l.zipIdx i).take k = (l.take k).zipIdx i := by
  induction l generalizing i k with
  | nil => simp
  | cons a l ih =>
    cases k with
    | zero => simp
    | succ k =>
      rw [List.zipIdx_cons, List.take_succ_cons, List.take_succ_cons, List.zipIdx_cons, ih]

theorem allowlist_saveInterrupted :
    (m.saveInterrupted faults calls reg).allowlist =
      (writeEntries m.hAllowlistKey faults.entry
        (m.allowlist.take (calls - (4 + rsMaxAllowlistEntries))) 0
        (deleteEntries m.hAllowlistKey faults.delete (min (calls - 4) rsMaxAllowlistEntries)
          reg.allowlist)).1 := by
  have hsettings := allowlist_exec_settings m faults reg
    (List.take_subset calls [SaveCall.threshold, .timeWindow, .monitoring, .version])
  have hfour : [SaveCall.threshold, .timeWindow, .monitoring, .version].length = 4 := rfl
  have hlength : ([SaveCall.threshold, .timeWindow, .monitoring, .version] ++
      (List.range rsMaxAllowlistEntries).map SaveCall.delete).length =
        4 + rsMaxAllowlistEntries := by
    rw [List.length_append, List.length_map, List.length_range, hfour]
  rw [ConfigManager.saveInterrupted, ConfigManager.saveCalls, List.take_append, hlength,
    List.take_append, exec_append, exec_append, ← List.map_take, ← List.map_take, List.take_range,
    ConfigManager.exec_delete, take_zipIdx, ConfigManager.exec_entry, hsettings,
    hfour]

theorem writes_iff {i : ℕ} :
    m.writes faults calls i = true ↔
      i < calls - (4 + rsMaxAllowlistEntries) ∧ (m.hAllowlistKey && !faults.entry i) = true := by
  rw [ConfigManager.writes, Bool.and_assoc, Bool.and_eq_true, decide_eq_true_eq]
  refine and_congr_left' ?_
  omega

theorem deletes_iff {i : ℕ} (hi : i < rsMaxAllowlistEntries) :
    m.deletes faults calls i = true ↔
      i < min (calls - 4) rsMaxAllowlistEntries ∧
        (m.hAllowlistKey && !faults.delete i) = true := by
  rw [ConfigManager.deletes, Bool.and_assoc, Bool.and_eq_true, decide_eq_true_eq]
  refine and_congr_left' ?_
  omega

/-- **The values that are left behind**: an entry that was written, or else nothing where a deletion
took effect, or else what was there. -/
theorem saveInterrupted_apply {i : ℕ} (hi : i < rsMaxAllowlistEntries) :
    (m.saveInterrupted faults calls reg).allowlist (entryName i) =
      ((m.written faults calls i).map stringValue).or
        (if m.deletes faults calls i = true then none else reg.allowlist (entryName i)) := by
  have hlen : 0 + (m.allowlist.take (calls - (4 + rsMaxAllowlistEntries))).length ≤
      rsMaxAllowlistEntries := by
    rw [Nat.zero_add]
    exact (List.length_take_le' _ _).trans m.length_le
  rw [allowlist_saveInterrupted, writeEntries_apply _ hlen hi,
    deleteEntries_apply (Nat.min_le_right _ _) _ hi, Nat.sub_zero, List.getElem?_take]
  simp only [ConfigManager.written, writes_iff, deletes_iff m faults calls hi, Nat.zero_le,
    true_and]
  by_cases hlt : i < calls - (4 + rsMaxAllowlistEntries)
  · simp only [hlt, if_true, true_and]
  · simp only [hlt, if_false, false_and, ite_self]

theorem readValue_saveInterrupted {i : ℕ} (hi : i < rsMaxAllowlistEntries) :
    readValue ((m.saveInterrupted faults calls reg).allowlist (entryName i)) =
      match m.written faults calls i with
      | some e => readValue (some (stringValue e))
      | none =>
        if m.deletes faults calls i = true then .stop
        else readValue (reg.allowlist (entryName i)) := by
  rw [saveInterrupted_apply m faults calls reg hi]
  cases m.written faults calls i with
  | some e => rfl
  | none =>
    simp only [Option.map_none, Option.none_or]
    split_ifs
    · rfl
    · rfl

/-- Where an entry is read, it was written, or it stood there and was left alone. -/
theorem readValue_saveInterrupted_eq_entry {i : ℕ} (hi : i < rsMaxAllowlistEntries)
    {e : WString} :
    readValue ((m.saveInterrupted faults calls reg).allowlist (entryName i)) = .entry e ↔
      (∃ e', m.written faults calls i = some e' ∧ readValue (some (stringValue e')) = .entry e) ∨
        (m.written faults calls i = none ∧ m.deletes faults calls i = false ∧
          readValue (reg.allowlist (entryName i)) = .entry e) := by
  rw [readValue_saveInterrupted m faults calls reg hi]
  cases m.written faults calls i with
  | some e' => simp
  | none => cases m.deletes faults calls i <;> simp

/-- Where the reader stops, no name that it can read was written, and the value was deleted or ended
the list already. -/
theorem readValue_saveInterrupted_eq_stop {i : ℕ} (hi : i < rsMaxAllowlistEntries) :
    readValue ((m.saveInterrupted faults calls reg).allowlist (entryName i)) = .stop ↔
      (∀ e', m.written faults calls i = some e' → readValue (some (stringValue e')) = .stop) ∧
        (m.written faults calls i = none → m.deletes faults calls i = true ∨
          readValue (reg.allowlist (entryName i)) = .stop) := by
  rw [readValue_saveInterrupted m faults calls reg hi]
  cases m.written faults calls i with
  | some e' => simp
  | none => cases m.deletes faults calls i <;> simp

end

/-! ### The two outcomes -/

/-- The old list is kept: at each of its entries, either the same name was written again, or neither
the deletion nor the write took effect; and no name that can be read was written behind it. -/
structure OldKept (m : ConfigManager) (faults : SaveFaults) (calls : ℕ) (old : List WString) :
    Prop where
  entries : ∀ i e, old[i]? = some e →
    (∃ e', m.written faults calls i = some e' ∧ readValue (some (stringValue e')) = .entry e) ∨
      (m.written faults calls i = none ∧ m.deletes faults calls i = false)
  ends : old.length < rsMaxAllowlistEntries → ∀ e', m.written faults calls old.length = some e' →
    readValue (some (stringValue e')) = .stop

/-- The new list has arrived: each of its entries was written and has less than 260 characters, or
the value there already was the same name and was left alone; and behind the list, the deletion took
effect or there was nothing to be read. -/
structure NewArrived (m : ConfigManager) (faults : SaveFaults) (calls : ℕ) (reg : Registry) :
    Prop where
  entries : ∀ i e, m.allowlist[i]? = some e →
    (m.writes faults calls i = true ∧ e.chars.length < rsMaxAllowlistNameLen) ∨
      (m.writes faults calls i = false ∧ m.deletes faults calls i = false ∧
        readValue (reg.allowlist (entryName i)) = .entry e)
  ends : m.allowlist.length < rsMaxAllowlistEntries →
    m.deletes faults calls m.allowlist.length = true ∨
      readValue (reg.allowlist (entryName m.allowlist.length)) = .stop

variable {m : ConfigManager} {faults : SaveFaults} {calls : ℕ} {reg : Registry}
  {old : List WString}

theorem readValue_stringValue_iff {e : WString} :
    readValue (some (stringValue e)) = .entry e ↔ e.chars.length < rsMaxAllowlistNameLen := by
  let key : RegKey := fun _ => some (stringValue e)
  have hread : readEntry true key 0 = .entry e ↔ e.chars.length < rsMaxAllowlistNameLen :=
    readEntry_stringValue_iff rfl
  rwa [readEntry_eq_readValue] at hread

/-- **When the old list is read.** -/
theorem loadEntries_old_iff
    (h : loadEntries true reg.allowlist rsMaxAllowlistEntries 0 = some old) :
    loadEntries true (m.saveInterrupted faults calls reg).allowlist rsMaxAllowlistEntries 0 =
      some old ↔ OldKept m faults calls old := by
  obtain ⟨hlen, hentries, hstop⟩ := loadEntries_eq_some_iff_readValue.1 h
  have hentry : ∀ {i e}, old[i]? = some e →
      (readValue ((m.saveInterrupted faults calls reg).allowlist (entryName i)) = .entry e ↔
        (∃ e', m.written faults calls i = some e' ∧ readValue (some (stringValue e')) = .entry e) ∨
          (m.written faults calls i = none ∧ m.deletes faults calls i = false)) := by
    intro i e he
    have hi := (List.getElem?_eq_some_iff.1 he).1.trans_le hlen
    rw [readValue_saveInterrupted_eq_entry m faults calls reg hi,
      and_iff_left (hentries i e he)]
  have hends : old.length < rsMaxAllowlistEntries →
      (readValue ((m.saveInterrupted faults calls reg).allowlist (entryName old.length)) = .stop ↔
        ∀ e', m.written faults calls old.length = some e' →
          readValue (some (stringValue e')) = .stop) := by
    intro hlt
    rw [readValue_saveInterrupted_eq_stop m faults calls reg hlt]
    exact and_iff_left fun _ => .inr (hstop hlt)
  rw [loadEntries_eq_some_iff_readValue, and_iff_right hlen]
  constructor
  · rintro ⟨hread, hstops⟩
    exact ⟨fun i e he => (hentry he).1 (hread i e he), fun hlt => (hends hlt).1 (hstops hlt)⟩
  · rintro ⟨hkept, hquiet⟩
    exact ⟨fun i e he => (hentry he).2 (hkept i e he), fun hlt => (hends hlt).2 (hquiet hlt)⟩

/-- **When the new list is read.** -/
theorem loadEntries_new_iff :
    loadEntries true (m.saveInterrupted faults calls reg).allowlist rsMaxAllowlistEntries 0 =
      some m.allowlist ↔ NewArrived m faults calls reg := by
  have hlen := m.length_le
  have hentry : ∀ {i e}, m.allowlist[i]? = some e →
      (readValue ((m.saveInterrupted faults calls reg).allowlist (entryName i)) = .entry e ↔
        (m.writes faults calls i = true ∧ e.chars.length < rsMaxAllowlistNameLen) ∨
          (m.writes faults calls i = false ∧ m.deletes faults calls i = false ∧
            readValue (reg.allowlist (entryName i)) = .entry e)) := by
    intro i e he
    have hi := (List.getElem?_eq_some_iff.1 he).1.trans_le hlen
    rw [readValue_saveInterrupted_eq_entry m faults calls reg hi, ConfigManager.written, he]
    cases hwrites : m.writes faults calls i with
    | true => simp [readValue_stringValue_iff]
    | false => simp
  have hends : m.allowlist.length < rsMaxAllowlistEntries →
      (readValue ((m.saveInterrupted faults calls reg).allowlist
          (entryName m.allowlist.length)) = .stop ↔
        m.deletes faults calls m.allowlist.length = true ∨
          readValue (reg.allowlist (entryName m.allowlist.length)) = .stop) := by
    intro hlt
    have hbehind : m.written faults calls m.allowlist.length = none := by
      rw [ConfigManager.written, List.getElem?_eq_none le_rfl, ite_self]
    rw [readValue_saveInterrupted_eq_stop m faults calls reg hlt, hbehind]
    simp
  rw [loadEntries_eq_some_iff_readValue, and_iff_right hlen]
  constructor
  · rintro ⟨hread, hstops⟩
    exact ⟨fun i e he => (hentry he).1 (hread i e he), fun hlt => (hends hlt).1 (hstops hlt)⟩
  · rintro ⟨harrived, hstops⟩
    exact ⟨fun i e he => (hentry he).2 (harrived i e he), fun hlt => (hends hlt).2 (hstops hlt)⟩

/-- **A save that fails or is interrupted.**  For every stored list, every list in memory, and every
choice of the calls that fail and of the call after which the process dies: a later load reads the
old list or the new one if and only if the old list was kept, or the new one has arrived. -/
theorem interrupted_save_iff (m : ConfigManager) (faults : SaveFaults) (calls : ℕ) (reg : Registry)
    (old : List WString) (later : ConfigManager) (hlater : later.hAllowlistKey = true)
    (hold : (later.loadFromRegistry reg).map ConfigManager.allowlist = some old) :
    ((later.loadFromRegistry (m.saveInterrupted faults calls reg)).map ConfigManager.allowlist =
        some old ∨
      (later.loadFromRegistry (m.saveInterrupted faults calls reg)).map ConfigManager.allowlist =
        some m.allowlist) ↔
      OldKept m faults calls old ∨ NewArrived m faults calls reg := by
  simp only [ConfigManager.loadFromRegistry, readValues_allowlist, hlater] at hold ⊢
  rw [loadEntries_old_iff hold, loadEntries_new_iff]

/-- A process that dies before the first deletion keeps the old list. -/
theorem oldKept_of_calls_le (h : calls ≤ 4) (old : List WString) : OldKept m faults calls old := by
  have hwritten : ∀ i, m.written faults calls i = none := by
    intro i
    have hlt : ¬ 4 + rsMaxAllowlistEntries + i < calls := by omega
    simp [ConfigManager.written, ConfigManager.writes, hlt]
  refine ⟨?_, ?_⟩
  · intro i e _
    have hlt : ¬ 4 + i < calls := by omega
    exact .inr ⟨hwritten i, by simp [ConfigManager.deletes, hlt]⟩
  · intro _ e' he'
    rw [hwritten] at he'
    cases he'

/-- A save without faults delivers the new list, if its names are short. -/
theorem newArrived_of_complete (hkey : m.hAllowlistKey = true) (hcalls : m.saveCalls.length ≤ calls)
    (hfits : ∀ e ∈ m.allowlist, e.chars.length < rsMaxAllowlistNameLen) (reg : Registry) :
    NewArrived m SaveFaults.none calls reg := by
  have hlength : m.saveCalls.length = 4 + rsMaxAllowlistEntries + m.allowlist.length := by
    rw [ConfigManager.saveCalls, List.length_append, List.length_append, List.length_map,
      List.length_map, List.length_range, List.length_zipIdx]
    rfl
  rw [hlength] at hcalls
  refine ⟨?_, ?_⟩
  · intro i e he
    have hlt : 4 + rsMaxAllowlistEntries + i < calls := by
      have := (List.getElem?_eq_some_iff.1 he).1
      omega
    refine .inl ⟨?_, hfits e (List.mem_of_getElem? he)⟩
    simp [ConfigManager.writes, hlt, hkey, SaveFaults.none]
  · intro hshort
    have hlt : 4 + m.allowlist.length < calls := by omega
    exact .inl (by simp [ConfigManager.deletes, hlt, hkey, SaveFaults.none])

/-- A registry with one name, and a list of two others. -/
def oldName : WString := ⟨wide "old.exe", by decide⟩

def twoNames : ConfigManager :=
  firstStart [shortException, ⟨wide "b.exe", by decide⟩] (by decide)

theorem loadEntries_oldName :
    (twoNames.loadFromRegistry (storedRegistry [oldName])).map ConfigManager.allowlist =
      some [oldName] :=
  (readValues_allowlist _ _).trans (by decide +kernel)

/-- A complete save, and one that ends before the first deletion. -/
theorem interrupted_save_complete :
    ((twoNames.loadFromRegistry (twoNames.saveInterrupted SaveFaults.none 134
          (storedRegistry [oldName]))).map ConfigManager.allowlist = some [oldName] ∨
        (twoNames.loadFromRegistry (twoNames.saveInterrupted SaveFaults.none 134
          (storedRegistry [oldName]))).map ConfigManager.allowlist = some twoNames.allowlist) ∧
      ((twoNames.loadFromRegistry (twoNames.saveInterrupted SaveFaults.none 4
          (storedRegistry [oldName]))).map ConfigManager.allowlist = some [oldName] ∨
        (twoNames.loadFromRegistry (twoNames.saveInterrupted SaveFaults.none 4
          (storedRegistry [oldName]))).map ConfigManager.allowlist = some twoNames.allowlist) := by
  constructor
  · refine (interrupted_save_iff twoNames SaveFaults.none 134 (storedRegistry [oldName]) [oldName]
      twoNames rfl loadEntries_oldName).2 (.inr ?_)
    exact newArrived_of_complete rfl le_rfl (by decide) _
  · refine (interrupted_save_iff twoNames SaveFaults.none 4 (storedRegistry [oldName]) [oldName]
      twoNames rfl loadEntries_oldName).2 (.inl ?_)
    exact oldKept_of_calls_le le_rfl _

/-- **A single write that fails loses both lists**: the old one is deleted, and the new one begins
with a gap. -/
theorem failed_write_loses_list :
    (twoNames.loadFromRegistry (storedRegistry [oldName])).map ConfigManager.allowlist =
        some [oldName] ∧
      (twoNames.loadFromRegistry (twoNames.saveInterrupted
        { SaveFaults.none with entry := fun i => i == 0 } 134
        (storedRegistry [oldName]))).map ConfigManager.allowlist = some [] ∧
      twoNames.allowlist ≠ [] := by
  refine ⟨loadEntries_oldName, (readValues_allowlist _ _).trans ?_, by decide⟩
  decide +kernel

end RansomShield
