import RansomShield.Client.StoredEntries
import RansomShield.Guarantees.RegistryRoundTrip

/-!
# The exceptions are a set

`AddException` refuses a name that is already on the list up to case, and `RemoveException` removes
the first match and no other.  Both treat the list as a set of names, which it is as long as it is
filled by `AddException` only (`DistinctNames`).  The loader fills it with whatever the registry
holds, so that the set is kept if and only if no registry is loaded that holds a name twice:
`keepsSet_iff` for one step, `exception_set_iff` for whole runs, and
`removed_exception_remains` for a name in two spellings.
-/

namespace RansomShield

open ConfigManager (sameName)

/-- A call of a client, or a change of the registry by another program. -/
inductive ExceptionCall
  | config (call : ConfigCall)
  | runInitialize (configOpens allowlistOpens : Bool)
  | registryChanges (reg : Registry)

section

variable (lower : UInt16 → UInt16)

/-- The settings and the registry under the calls of a client and changes from outside. -/
def exceptionMachine : Machine (ConfigManager × Registry) ExceptionCall where
  step s
    | .config call => (configMachine lower).step s call
    | .runInitialize configOpens allowlistOpens =>
      (s.1.runInitialize configOpens allowlistOpens s.2).map fun r => (r.1, s.2)
    | .registryChanges reg => some (s.1, reg)

/-- No two names of the list are equal up to case. -/
def DistinctNames (l : List WString) : Prop := l.Pairwise fun e e' => sameName lower e e' = false

/-- What a step promises about the set: no name is on the list twice, a name that was removed is no
exception, and a name that was added is one, while nothing changes for the other names. -/
def KeepsSet (s : ConfigManager × Registry) (call : ExceptionCall) : Prop :=
  ∀ s', (exceptionMachine lower).step s call = some s' →
    DistinctNames lower s'.1.allowlist ∧
    (∀ x, call = .config (.removeException x) → (s.1.removeException lower x).2 = true →
      s'.1.isException lower x = false) ∧
    ∀ x, call = .config (.addException x) → (s.1.addException lower x).2 = true →
      s'.1.isException lower x = true ∧ ∀ y, sameName lower x y = false →
        s'.1.isException lower y = s.1.isException lower y

/-- No two of the entries that are stored from `Entry00` on, without a gap, are equal up to case. -/
def StoresDistinct (key : RegKey) : Prop :=
  ∀ i j, i < j → j < rsMaxAllowlistEntries →
    (∀ k ≤ j, ∃ e, readValue (key (entryName k)) = .entry e) →
    ∀ e e', readValue (key (entryName i)) = .entry e → readValue (key (entryName j)) = .entry e' →
      sameName lower e e' = false

/-- A step that loads the list finds no name twice in the registry. -/
def LoadsDistinct (s : ConfigManager × Registry) : ExceptionCall → Prop
  | .config .loadFromRegistry => s.1.hAllowlistKey = true → StoresDistinct lower s.2.allowlist
  | .runInitialize true true => s.1.initialized = false → StoresDistinct lower s.2.allowlist
  | _ => True

end

/-! ### Names up to case -/

variable {lower : UInt16 → UInt16} {l : List WString} {x y e e' : WString}

theorem sameName_iff : sameName lower x y = true ↔ y.chars.map lower = x.chars.map lower :=
  beq_iff_eq

theorem sameName_of_matches (h : sameName lower x e = true) (h' : sameName lower x e' = true) :
    sameName lower e e' = true := by
  rw [sameName_iff] at h h' ⊢
  rw [h, h']

/-- **The names that are stored are the names that are loaded.** -/
theorem storesDistinct_iff {key : RegKey}
    (h : loadEntries true key rsMaxAllowlistEntries 0 = some l) :
    StoresDistinct lower key ↔ DistinctNames lower l := by
  obtain ⟨hlen, hentries, hstop⟩ := loadEntries_eq_some_iff_readValue.1 h
  have hread : ∀ {k} (hk : k < l.length), readValue (key (entryName k)) = .entry l[k] :=
    fun {k} hk => hentries k _ (List.getElem?_eq_getElem hk)
  rw [DistinctNames, List.pairwise_iff_getElem]
  constructor
  · intro hdistinct i j hi hj hij
    refine hdistinct i j hij (hj.trans_le hlen) ?_ _ _ (hread hi) (hread hj)
    intro k hk
    exact ⟨_, hread (hk.trans_lt hj)⟩
  · intro hpairwise i j hij hj hreach e e' he he'
    -- the loader does not stop before the second of the two names
    have hjl : j < l.length := by
      by_contra hnot
      obtain ⟨_, hentry⟩ := hreach l.length (not_lt.1 hnot)
      rw [hstop ((not_lt.1 hnot).trans_lt hj)] at hentry
      cases hentry
    have hil : i < l.length := hij.trans hjl
    rw [hread hil] at he
    rw [hread hjl] at he'
    cases he
    cases he'
    exact hpairwise i j hil hjl hij

/-! ### The operations -/

theorem any_eraseP_eq_false {α : Type*} {p : α → Bool} {l : List α}
    (h : l.Pairwise fun a b => p a = true → p b = false) : (l.eraseP p).any p = false := by
  induction l with
  | nil => rfl
  | cons a l ih =>
    obtain ⟨hhead, htail⟩ := List.pairwise_cons.1 h
    cases ha : p a with
    | true =>
      rw [List.eraseP_cons_of_pos ha, List.any_eq_false]
      intro b hb
      rw [hhead b hb ha]
      exact Bool.false_ne_true
    | false =>
      have hkeep : ¬ p a = true := by
        rw [ha]
        exact Bool.false_ne_true
      rw [List.eraseP_cons_of_neg hkeep, List.any_cons, ha, ih htail]
      rfl

variable {m : ConfigManager}

/-- **A removed name is no exception** any more, as long as the names are distinct. -/
theorem isException_removeException (h : DistinctNames lower m.allowlist)
    (hremoved : (m.removeException lower x).2 = true) :
    (m.removeException lower x).1.isException lower x = false := by
  unfold ConfigManager.removeException at hremoved ⊢
  split_ifs at hremoved ⊢
  · refine any_eraseP_eq_false (h.imp ?_)
    intro e e' hdistinct he
    by_contra he'
    rw [Bool.not_eq_false] at he'
    rw [sameName_of_matches he he'] at hdistinct
    cases hdistinct

/-- **An added name is an exception**, and nothing changes for the others. -/
theorem isException_addException (hadded : (m.addException lower x).2 = true) :
    (m.addException lower x).1.isException lower x = true ∧
      ∀ y, sameName lower x y = false →
        (m.addException lower x).1.isException lower y = m.isException lower y := by
  unfold ConfigManager.addException at hadded ⊢
  split_ifs at hadded ⊢ with hmem hroom
  · simp only [ConfigManager.isException, List.any_append, List.any_cons, List.any_nil,
      Bool.or_false]
    refine ⟨?_, ?_⟩
    · rw [sameName_iff.2 rfl, Bool.or_true]
    · intro y hy
      have hyx : sameName lower y x = false := by
        rw [← hy, Bool.eq_iff_iff, sameName_iff, sameName_iff]
        exact eq_comm
      rw [hyx, Bool.or_false]

theorem distinctNames_addException (h : DistinctNames lower m.allowlist) (x : WString) :
    DistinctNames lower (m.addException lower x).1.allowlist := by
  unfold ConfigManager.addException
  split_ifs with hmem hroom
  · exact h
  · refine List.pairwise_append.2 ⟨h, List.pairwise_singleton _ _, ?_⟩
    intro e he e' he'
    rw [List.mem_singleton.1 he']
    by_contra hsame
    rw [Bool.not_eq_false, sameName_iff] at hsame
    exact hmem (List.any_eq_true.2 ⟨e, he, sameName_iff.2 hsame.symm⟩)
  · exact h

theorem distinctNames_removeException (h : DistinctNames lower m.allowlist) (x : WString) :
    DistinctNames lower (m.removeException lower x).1.allowlist := by
  unfold ConfigManager.removeException
  split_ifs
  · exact h.sublist List.eraseP_sublist
  · exact h

/-! ### One step -/

variable {s s' : ConfigManager × Registry} {call : ExceptionCall}

theorem distinctNames_loaded_iff {opened : Bool} {reg : Registry}
    (h : loadEntries opened reg.allowlist rsMaxAllowlistEntries 0 = some l) :
    DistinctNames lower l ↔ (opened = true → StoresDistinct lower reg.allowlist) := by
  cases opened with
  | true =>
    rw [← storesDistinct_iff h]
    exact ⟨fun hstores _ => hstores, fun hstores => hstores rfl⟩
  | false =>
    rw [loadEntries_not_opened] at h
    cases h
    exact ⟨fun _ h => absurd h (by decide), fun _ => List.Pairwise.nil⟩

theorem loadsDistinct_runInitialize_iff {configOpens allowlistOpens : Bool} :
    LoadsDistinct lower s (.runInitialize configOpens allowlistOpens) ↔
      (s.1.initialized = false ∧ configOpens = true ∧ allowlistOpens = true →
        StoresDistinct lower s.2.allowlist) := by
  cases configOpens <;> cases allowlistOpens <;> simp [LoadsDistinct]

/-- **The list after a step is distinct** if and only if a load finds no name twice. -/
theorem distinctNames_step_iff (h : DistinctNames lower s.1.allowlist)
    (hstep : (exceptionMachine lower).step s call = some s') :
    DistinctNames lower s'.1.allowlist ↔ LoadsDistinct lower s call := by
  cases call with
  | registryChanges reg =>
    cases hstep
    exact iff_of_true h trivial
  | runInitialize configOpens allowlistOpens =>
    obtain ⟨r, hr, rfl⟩ := Option.map_eq_some_iff.1 hstep
    rw [loadsDistinct_runInitialize_iff]
    by_cases hloads : s.1.initialized = false ∧ configOpens = true ∧ allowlistOpens = true
    · rw [forall_prop_of_true hloads]
      obtain ⟨hm, rfl, rfl⟩ := hloads
      have hload := runInitialize_allowlist hm s.2
      rw [hr, Option.map_some, Option.map_some] at hload
      rw [distinctNames_loaded_iff hload.symm, forall_prop_of_true rfl]
    · -- the list stays as it is
      have hnot : s.1.initialized = true ∨ configOpens = false ∨ allowlistOpens = false := by
        simpa only [not_and_or, Bool.not_eq_false, Bool.not_eq_true] using hloads
      obtain ⟨r', hr', hsame⟩ := runInitialize_not_loaded hnot s.2
      cases hr.symm.trans hr'
      rw [hsame]
      exact iff_of_true h fun hload => absurd hload hloads
  | config call =>
    cases call with
    | loadFromRegistry =>
      obtain ⟨m', hm', rfl⟩ := Option.map_eq_some_iff.1 hstep
      have hload := readValues_allowlist s.1 s.2
      rw [← ConfigManager.loadFromRegistry, hm', Option.map_some] at hload
      exact distinctNames_loaded_iff hload.symm
    | addException x =>
      cases hstep
      exact iff_of_true (distinctNames_addException h x) trivial
    | removeException x =>
      cases hstep
      exact iff_of_true (distinctNames_removeException h x) trivial
    | clearExceptions =>
      cases hstep
      exact iff_of_true List.Pairwise.nil trivial
    | setFileCountThreshold | setTimeWindowSeconds | setMonitoringEnabled | saveToRegistry =>
      cases hstep
      exact iff_of_true h trivial

/-- **One step keeps the set** if and only if a load finds no name twice. -/
theorem keepsSet_iff (h : DistinctNames lower s.1.allowlist)
    (hstep : (exceptionMachine lower).step s call = some s') :
    KeepsSet lower s call ↔ LoadsDistinct lower s call := by
  rw [← distinctNames_step_iff h hstep]
  constructor
  · intro hkeeps
    exact (hkeeps s' hstep).1
  · intro hdistinct t ht
    cases hstep.symm.trans ht
    refine ⟨hdistinct, ?_, ?_⟩
    · rintro x rfl hremoved
      cases hstep
      exact isException_removeException h hremoved
    · rintro x rfl hadded
      cases hstep
      exact isException_addException hadded

/-! ### Runs -/

/-- **The exceptions are a set** in every run of calls and of changes from outside, from a new
client and any registry: every step keeps the set if and only if every step that loads the list
finds no name twice in the registry. -/
theorem exception_set_iff (lower : UInt16 → UInt16) {reg : Registry} {calls : List ExceptionCall}
    {s : ConfigManager × Registry}
    (hrun : (exceptionMachine lower).run (ConfigManager.new, reg) calls = some s) :
    (exceptionMachine lower).EveryStep (ConfigManager.new, reg) calls (KeepsSet lower) ↔
      (exceptionMachine lower).EveryStep (ConfigManager.new, reg) calls (LoadsDistinct lower) := by
  have hnew : DistinctNames lower ConfigManager.new.allowlist := List.Pairwise.nil
  constructor
  · intro hkeeps bs b t hb ht
    obtain ⟨t', hstep⟩ := Machine.exists_step hrun hb ht
    have hdistinct := (hkeeps.of_prefix ((List.prefix_append bs [b]).trans hb)).invariant
      (I := fun t => DistinctNames lower t.1.allowlist) ht hnew
      fun u c u' _ hc hu => (hc u' hu).1
    exact (keepsSet_iff hdistinct hstep).1 (hkeeps bs b t hb ht)
  · intro hloads bs b t hb ht
    obtain ⟨t', hstep⟩ := Machine.exists_step hrun hb ht
    have hdistinct := (hloads.of_prefix ((List.prefix_append bs [b]).trans hb)).invariant
      (I := fun t => DistinctNames lower t.1.allowlist) ht hnew
      fun u c u' hu hc hstep => (distinctNames_step_iff hu hstep).2 hc
    exact (keepsSet_iff hdistinct hstep).2 (hloads bs b t hb ht)

/-- The lower case of the letters from A to Z. -/
def asciiLower (c : UInt16) : UInt16 := if 65 ≤ c ∧ c ≤ 90 then c + 32 else c

theorem exists_runInitialize {reg : Registry}
    (h : loadEntries true reg.allowlist rsMaxAllowlistEntries 0 = some l) :
    ∃ m, ConfigManager.new.runInitialize true true reg = some (m, true) ∧ m.allowlist = l := by
  have hload := runInitialize_allowlist (m := ConfigManager.new) rfl reg
  rw [h] at hload
  obtain ⟨m, hm, rfl⟩ := Option.map_eq_some_iff.1 hload
  obtain ⟨r, hr, rfl⟩ := Option.map_eq_some_iff.1 hm
  refine ⟨r.1, ?_, rfl⟩
  rw [hr]
  obtain ⟨_, -, rfl⟩ := Option.map_eq_some_iff.1 hr
  rfl

/-- A name, the same name in capital letters, and another one. -/
def toolExe : WString := ⟨wide "tool.exe", by decide⟩

def capitalToolExe : WString := ⟨wide "TOOL.EXE", by decide⟩

def otherExe : WString := ⟨wide "other.exe", by decide⟩

/-- Two different names are loaded, and one of them is removed. -/
theorem exception_set_distinct :
    (exceptionMachine asciiLower).EveryStep (ConfigManager.new, storedRegistry [toolExe, otherExe])
      [.runInitialize true true, .config (.removeException capitalToolExe)]
      (KeepsSet asciiLower) := by
  have hload : loadEntries true (storedRegistry [toolExe, otherExe]).allowlist
      rsMaxAllowlistEntries 0 = some [toolExe, otherExe] := by decide +kernel
  obtain ⟨m, hm, -⟩ := exists_runInitialize hload
  have hstep : (exceptionMachine asciiLower).step
      (ConfigManager.new, storedRegistry [toolExe, otherExe]) (.runInitialize true true) =
        some (m, storedRegistry [toolExe, otherExe]) := by
    simp only [exceptionMachine, hm, Option.map_some]
  have hrun : (exceptionMachine asciiLower).run
      (ConfigManager.new, storedRegistry [toolExe, otherExe])
      [.runInitialize true true, .config (.removeException capitalToolExe)] =
        some ((m.removeException asciiLower capitalToolExe).1,
          storedRegistry [toolExe, otherExe]) := by
    rw [Machine.run_cons, hstep]
    rfl
  refine (exception_set_iff asciiLower hrun).2 (Machine.everyStep_cons ?_ ?_)
  · intro _
    exact (storesDistinct_iff hload).2 (by unfold DistinctNames; decide)
  · intro s' _
    exact Machine.everyStep_cons trivial fun _ _ => Machine.everyStep_nil _

/-- **A name in two spellings**: `RemoveException` removes one of them, and the name is still an
exception. -/
theorem removed_exception_remains :
    ∃ m m', ConfigManager.new.runInitialize true true (storedRegistry [toolExe, capitalToolExe]) =
        some (m, true) ∧
      ¬ DistinctNames asciiLower m.allowlist ∧
      m.removeException asciiLower toolExe = (m', true) ∧
      m'.isException asciiLower toolExe = true := by
  have hload : loadEntries true (storedRegistry [toolExe, capitalToolExe]).allowlist
      rsMaxAllowlistEntries 0 = some [toolExe, capitalToolExe] := by decide +kernel
  obtain ⟨m, hm, hlist⟩ := exists_runInitialize hload
  have hany : m.allowlist.any (sameName asciiLower toolExe) = true := by
    rw [hlist]
    decide
  refine ⟨m, _, hm, ?_, if_pos hany, ?_⟩
  · rw [hlist]
    unfold DistinctNames
    decide
  · show (m.allowlist.eraseP _).any _ = true
    rw [hlist]
    decide

end RansomShield
