import RansomShield.Tracker.Ring

/-!
# The tracker as a map from processes to contexts

The hash table is a finite map from PIDs to contexts: every operation of the driver acts on the
context of one process as a function of that context alone (`firstSection` and `secondSection` for
the locked sections of `RsRecordOperation`), and leaves the contexts of all other processes as they
are, in whichever bucket they are.  This needs a table in which every context is in the bucket of
its PID, and no PID has two (`DriverState.WellFormed`); the operations keep it so.
-/

namespace RansomShield

/-! ### One process -/

/-- Record an operation in a context, unless it is blocked. -/
def RsProcessContext.record (cfg : RsConfig) (ctx : RsProcessContext) (t : Int64) :
    RsProcessContext × SectionResult :=
  if ctx.isBlocked then (ctx, .alreadyBlocked)
  else ((recordAndEvaluate cfg ctx t).context, .evaluated (recordAndEvaluate cfg ctx t))

/-- The first locked section, from the context found to the context left behind. -/
def firstSection (cfg : RsConfig) (context : Option RsProcessContext) (t : Int64) :
    Option RsProcessContext × SectionResult :=
  match context with
  | none => (none, .missing)
  | some ctx => (some (ctx.record cfg t).1, (ctx.record cfg t).2)

/-- The second locked section, from the context found to the context left behind. -/
def secondSection (cfg : RsConfig) (context : Option RsProcessContext)
    (newContext : RsProcessContext) (t : Int64) : Option RsProcessContext × SectionResult :=
  match context with
  | none =>
    (some (recordAndEvaluate cfg newContext t).context,
      .evaluated (recordAndEvaluate cfg newContext t))
  | some ctx => (some (ctx.record cfg t).1, (ctx.record cfg t).2)

/-! ### Lookups -/

variable {s : DriverState} {p : UInt32}

theorem lookup_storeContext {ctx : RsProcessContext} (h : ctx.processId = p) (q : UInt32) :
    rsLookupProcessContext (s.storeContext p ctx) q =
      if q = p then (rsLookupProcessContext s p).map fun _ => ctx
      else rsLookupProcessContext s q :=
  Chained.lookup_modify (fun _ _ => h) q

theorem lookup_insertContext (ctx : RsProcessContext) (q : UInt32) :
    rsLookupProcessContext (s.insertContext ctx) q =
      if ctx.processId = q then some ctx else rsLookupProcessContext s q :=
  Chained.lookup_insert ctx q

theorem val_rsHashProcessId (p : UInt32) : (rsHashProcessId p).val = p.toNat % rsHashTableSize := by
  have hsize : (UInt32.ofNat rsHashTableSize).toNat = rsHashTableSize := by decide
  exact (UInt32.toNat_mod p _).trans (congrArg (p.toNat % ·) hsize)

theorem processId_of_lookup {ctx : RsProcessContext}
    (h : rsLookupProcessContext s p = some ctx) : ctx.processId = p :=
  Chained.key_of_lookup h

theorem recordInContext_snd (ctx : RsProcessContext) (t : Int64) :
    (recordInContext s p ctx t).2 = (ctx.record s.config t).2 := by
  unfold recordInContext RsProcessContext.record
  split_ifs <;> rfl

theorem lookup_recordInContext {ctx : RsProcessContext}
    (h : rsLookupProcessContext s p = some ctx) (t : Int64) (q : UInt32) :
    rsLookupProcessContext (recordInContext s p ctx t).1 q =
      if q = p then some (ctx.record s.config t).1 else rsLookupProcessContext s q := by
  unfold recordInContext RsProcessContext.record
  by_cases hb : ctx.isBlocked = true
  · simp only [if_pos hb]
    by_cases hq : q = p
    · rw [if_pos hq, hq, h]
    · rw [if_neg hq]
  · have hkey : (recordAndEvaluate s.config ctx t).context.processId = p :=
      (recordAndEvaluate_processId _ _ _).trans (processId_of_lookup h)
    simp only [if_neg hb]
    rw [lookup_storeContext hkey, h]
    rfl

theorem recordFirstSection_snd (t : Int64) :
    (recordFirstSection s p t).2 =
      (firstSection s.config (rsLookupProcessContext s p) t).2 := by
  unfold recordFirstSection firstSection
  cases rsLookupProcessContext s p with
  | none => rfl
  | some ctx => exact recordInContext_snd ctx t

/-- **The first locked section** changes the context of its process only. -/
theorem lookup_recordFirstSection (t : Int64) (q : UInt32) :
    rsLookupProcessContext (recordFirstSection s p t).1 q =
      if q = p then (firstSection s.config (rsLookupProcessContext s p) t).1
      else rsLookupProcessContext s q := by
  unfold recordFirstSection firstSection
  cases h : rsLookupProcessContext s p with
  | none =>
    by_cases hq : q = p
    · rw [if_pos hq, hq, h]
    · rw [if_neg hq]
  | some ctx => exact lookup_recordInContext h t q

theorem recordSecondSection_snd (newContext : RsProcessContext) (t : Int64) :
    (recordSecondSection s newContext p t).2 =
      (secondSection s.config (rsLookupProcessContext s p) newContext t).2 := by
  unfold recordSecondSection secondSection
  cases rsLookupProcessContext s p with
  | none => rfl
  | some ctx => exact recordInContext_snd ctx t

/-- **The second locked section** changes the context of its process only. -/
theorem lookup_recordSecondSection {newContext : RsProcessContext}
    (hp : newContext.processId = p) (t : Int64) (q : UInt32) :
    rsLookupProcessContext (recordSecondSection s newContext p t).1 q =
      if q = p then (secondSection s.config (rsLookupProcessContext s p) newContext t).1
      else rsLookupProcessContext s q := by
  unfold recordSecondSection secondSection
  cases h : rsLookupProcessContext s p with
  | some ctx => exact lookup_recordInContext h t q
  | none =>
    have hkey : (recordAndEvaluate s.config newContext t).context.processId = p :=
      (recordAndEvaluate_processId _ _ _).trans hp
    simp only []
    rw [lookup_storeContext hkey, lookup_insertContext, lookup_insertContext, if_pos hp]
    by_cases hq : q = p
    · rw [if_pos hq, if_pos hq]; rfl
    · rw [if_neg hq, if_neg hq, if_neg (hp.trans_ne (Ne.symm hq))]

/-! ### Uninterrupted sections -/

section

variable (image : Option UnicodeString) (t : Int64)

/-- A call for a blocked process is decided by its first lookup, and changes nothing. -/
theorem recordFirstSection_of_blocks {ctx : RsProcessContext}
    (hctx : rsLookupProcessContext s p = some ctx) (hb : ctx.isBlocked = true) :
    recordFirstSection s p t = (s, .alreadyBlocked) := by
  simp only [recordFirstSection, hctx, recordInContext, if_pos hb]

theorem recordSections_of_blocks {ctx : RsProcessContext}
    (hctx : rsLookupProcessContext s p = some ctx) (hb : ctx.isBlocked = true)
    (allocates : Bool) :
    recordSections s p image t allocates = (s, RecordResult.blocked) := by
  rw [recordSections, recordFirstSection_of_blocks t hctx hb]

/-- A call for an unblocked process that has a context records its operation there. -/
theorem recordSections_of_context {ctx : RsProcessContext}
    (hctx : rsLookupProcessContext s p = some ctx) (hb : ctx.isBlocked = false)
    (allocates : Bool) :
    recordSections s p image t allocates =
      (s.storeContext p (recordAndEvaluate s.config ctx t).context,
        (recordAndEvaluate s.config ctx t).result p) := by
  simp only [recordSections, recordFirstSection, hctx, recordInContext, hb, Bool.false_eq_true,
    if_false]

/-- A call for a process without a context records its operation in a new one. -/
theorem recordSections_of_none (hnone : rsLookupProcessContext s p = none) :
    recordSections s p image t true =
      ((s.insertContext (rsCreateProcessContext p image)).storeContext p
          (recordAndEvaluate s.config (rsCreateProcessContext p image) t).context,
        (recordAndEvaluate s.config (rsCreateProcessContext p image) t).result p) := by
  simp only [recordSections, recordFirstSection, hnone, recordSecondSection, if_true]

theorem recordSections_outOfMemory (hnone : rsLookupProcessContext s p = none) :
    recordSections s p image t false = (s, RecordResult.outOfMemory) := by
  simp only [recordSections, recordFirstSection, hnone, Bool.false_eq_true, if_false]

end

/-! ### The other globals -/

/-- Only the table and the number of tracked processes may differ. -/
def DriverState.SameGlobals (s s' : DriverState) : Prop :=
  ∃ table count, s' = { s with contextHashTable := table, trackedPidCount := count }

theorem DriverState.SameGlobals.config {s s' : DriverState} (h : s.SameGlobals s') :
    s'.config = s.config := by
  obtain ⟨_, _, rfl⟩ := h
  rfl

theorem DriverState.SameGlobals.clientPort {s s' : DriverState} (h : s.SameGlobals s') :
    s'.clientPort = s.clientPort := by
  obtain ⟨_, _, rfl⟩ := h
  rfl

theorem sameGlobals_recordInContext (s : DriverState) (p : UInt32) (ctx : RsProcessContext)
    (t : Int64) : s.SameGlobals (recordInContext s p ctx t).1 := by
  unfold recordInContext
  split_ifs
  · exact ⟨_, _, rfl⟩
  · exact ⟨_, _, rfl⟩

theorem sameGlobals_recordFirstSection (s : DriverState) (p : UInt32) (t : Int64) :
    s.SameGlobals (recordFirstSection s p t).1 := by
  unfold recordFirstSection
  cases rsLookupProcessContext s p with
  | none => exact ⟨_, _, rfl⟩
  | some ctx => exact sameGlobals_recordInContext s p ctx t

theorem sameGlobals_recordSecondSection (s : DriverState) (newContext : RsProcessContext)
    (p : UInt32) (t : Int64) : s.SameGlobals (recordSecondSection s newContext p t).1 := by
  unfold recordSecondSection
  cases rsLookupProcessContext s p with
  | none => exact ⟨_, _, rfl⟩
  | some ctx => exact sameGlobals_recordInContext s p ctx t

theorem sameGlobals_removeProcessContext (s : DriverState) (p : UInt32) :
    s.SameGlobals (rsRemoveProcessContext s p) := by
  unfold rsRemoveProcessContext
  cases rsLookupProcessContext s p with
  | none => exact ⟨_, _, rfl⟩
  | some ctx => exact ⟨_, _, rfl⟩

/-! ### Well-formed tables -/

/-- Every context is in the bucket of its PID, and no PID has two contexts. -/
def DriverState.WellFormed (s : DriverState) : Prop :=
  Chained.Valid RsProcessContext.processId rsHashProcessId s.contextHashTable

theorem wellFormed_init : DriverState.init.WellFormed := Chained.valid_empty

theorem DriverState.WellFormed.storeContext (h : s.WellFormed) {ctx : RsProcessContext}
    (hp : ctx.processId = p) : (s.storeContext p ctx).WellFormed :=
  Chained.Valid.modify h fun _ _ => hp

theorem DriverState.WellFormed.recordInContext (h : s.WellFormed) {ctx : RsProcessContext}
    (hctx : rsLookupProcessContext s p = some ctx) (t : Int64) :
    (recordInContext s p ctx t).1.WellFormed := by
  unfold RansomShield.recordInContext
  split_ifs
  · exact h
  · exact h.storeContext ((recordAndEvaluate_processId _ _ _).trans (processId_of_lookup hctx))

theorem DriverState.WellFormed.recordFirstSection (h : s.WellFormed) (p : UInt32) (t : Int64) :
    (recordFirstSection s p t).1.WellFormed := by
  unfold RansomShield.recordFirstSection
  cases hctx : rsLookupProcessContext s p with
  | none => exact h
  | some ctx => exact h.recordInContext hctx t

theorem DriverState.WellFormed.recordSecondSection (h : s.WellFormed)
    {newContext : RsProcessContext} (hp : newContext.processId = p) (t : Int64) :
    (recordSecondSection s newContext p t).1.WellFormed := by
  unfold RansomShield.recordSecondSection
  cases hctx : rsLookupProcessContext s p with
  | some ctx => exact h.recordInContext hctx t
  | none =>
    have hins : (s.insertContext newContext).WellFormed :=
      Chained.Valid.insert h (hp.symm ▸ hctx)
    exact hins.storeContext ((recordAndEvaluate_processId _ _ _).trans hp)

theorem DriverState.WellFormed.recordSections (h : s.WellFormed) (p : UInt32)
    (image : Option UnicodeString) (t : Int64) (allocates : Bool) :
    (recordSections s p image t allocates).1.WellFormed := by
  cases hctx : rsLookupProcessContext s p with
  | some ctx =>
    cases hb : ctx.isBlocked with
    | true =>
      rw [recordSections_of_blocks image t hctx hb]
      exact h
    | false =>
      rw [recordSections_of_context image t hctx hb]
      exact h.storeContext ((recordAndEvaluate_processId _ _ _).trans (processId_of_lookup hctx))
  | none =>
    cases allocates with
    | false =>
      rw [recordSections_outOfMemory image t hctx]
      exact h
    | true =>
      rw [recordSections_of_none image t hctx]
      have hins : (s.insertContext (rsCreateProcessContext p image)).WellFormed :=
        Chained.Valid.insert h hctx
      exact hins.storeContext (recordAndEvaluate_processId _ _ _)

theorem DriverState.WellFormed.removeProcessContext (h : s.WellFormed) (p : UInt32) :
    (rsRemoveProcessContext s p).WellFormed := by
  unfold rsRemoveProcessContext
  cases rsLookupProcessContext s p with
  | none => exact h
  | some ctx => exact Chained.Valid.erase h p

/-- **Removing a process** leaves the other processes as they are. -/
theorem lookup_removeProcessContext (h : s.WellFormed) (p q : UInt32) :
    rsLookupProcessContext (rsRemoveProcessContext s p) q =
      if q = p then none else rsLookupProcessContext s q := by
  unfold rsRemoveProcessContext
  cases hctx : rsLookupProcessContext s p with
  | some ctx => exact Chained.lookup_erase h p q
  | none =>
    by_cases hq : q = p
    · rw [if_pos hq, hq, hctx]
    · rw [if_neg hq]

end RansomShield
