import RansomShield.Client.RansomShieldModule
import RansomShield.System.Events
import RansomShield.Tracker.Allowlist

/-!
# Reuse of process ids

A context is keyed by its PID and freed by an unblock request only, not when its process exits.  A
process that is given the PID of an exited one finds the context of that one: its operations are
counted with the old ones, under the old image name, and they are denied if the old process was
blocked (`inherited`).  Nothing is inherited, whatever its requests are, exactly when the PID has no
context any more (`noInheritance_iff`).
-/

namespace RansomShield

/-- What a request gets: how it is completed, the count that was compared with the threshold, and
how the process is reported afterwards. -/
structure Response where
  completion : PreopCompletion
  recentCount : Option UInt32
  entry : Option RsBlockedPidEntry

variable (upcase : UInt16 → UInt16)

/-- The response to a request. -/
def respond (s : DriverState) (data : FltCallbackData) : Response where
  completion := (preOperation upcase s data).completion
  recentCount := (preOperation upcase s data).recorded.bind fun r => r.result.recentCount
  entry := (rsLookupProcessContext (preOperation upcase s data).state
    data.requestorProcessId).map RsProcessContext.blockedEntry

/-- The responses to the requests of a process, along a list of events. -/
def responses (p : UInt32) : DriverState → List DriverEvent → List Response
  | _, [] => []
  | s, .request data :: es =>
    if data.requestorProcessId = p then
      respond upcase s data :: responses p (preOperation upcase s data).state es
    else responses p (preOperation upcase s data).state es
  | s, e :: es => responses p (e.apply upcase s) es

/-- A process that is given the PID after the history gets the same responses, whatever comes next,
as if the earlier holders of the PID had never run. -/
def NoInheritance (p : UInt32) (h : List DriverEvent) : Prop :=
  ∀ es, responses upcase p (after upcase h) es =
    responses upcase p (after upcase (h.filter fun e => !e.isRequestOf p)) es

variable {upcase} {s s' : DriverState} {p : UInt32} {h : List DriverEvent}

/-! ### Without a context -/

/-- Responses depend on nothing but the context of the process and the settings. -/
theorem SameFor.respond_eq {data : FltCallbackData} (hs : SameFor data.requestorProcessId s s') :
    respond upcase s data = respond upcase s' data := by
  have hpasses := hs.settings.passes_eq upcase data
  have hstate := (hs.preOperation upcase data).context
  unfold respond
  rw [hstate]
  cases hpass : data.passes upcase s with
  | true => rw [preOperation_of_passes hpass, preOperation_of_passes (hpasses ▸ hpass)]; rfl
  | false =>
    have hpass' : data.passes upcase s' = false := hpasses ▸ hpass
    rw [preOperation_eq, preOperation_eq, if_neg (by simp [hpass]), if_neg (by simp [hpass'])]
    simp only [(rsRecordOperation_eq ..).2, (recordSections_eq ..).1, Option.bind_some,
      hs.context, hs.settings.config]

theorem SameFor.responses_eq (hs : SameFor p s s') (es : List DriverEvent) :
    responses upcase p s es = responses upcase p s' es := by
  induction es generalizing s s' with
  | nil => rfl
  | cons e es ih =>
    have hnext := ih (hs.apply upcase e)
    cases e with
    | request data =>
      simp only [responses]
      split_ifs with hp
      · subst hp
        rw [hs.respond_eq]
        exact congrArg _ hnext
      · exact hnext
    | message | connect | disconnect | exit => exact hnext

theorem wellFormed_after (upcase : UInt16 → UInt16) (h : List DriverEvent) :
    (after upcase h).WellFormed := by
  obtain ⟨s, hs, hdriver, -⟩ := reachable_after upcase h
  exact hdriver ▸ hs.sound.wellFormed

theorem after_concat (upcase : UInt16 → UInt16) (h : List DriverEvent) (e : DriverEvent) :
    after upcase (h ++ [e]) = e.apply upcase (after upcase h) :=
  exec_concat _ _ _ _

/-- Leaving out the requests of a process does not change the settings, and leaves the process
without a context. -/
theorem after_filter (upcase : UInt16 → UInt16) (p : UInt32) (h : List DriverEvent) :
    (after upcase h).SameSettings (after upcase (h.filter fun e => !e.isRequestOf p)) ∧
      rsLookupProcessContext (after upcase (h.filter fun e => !e.isRequestOf p)) p = none := by
  induction h using List.reverseRecOn with
  | nil => exact ⟨.refl _, rfl⟩
  | append_singleton h e ih =>
    rw [List.filter_append, after_concat]
    cases he : e.isRequestOf p with
    | true =>
      rw [List.filter_cons_of_neg (by simp [he]), List.filter_nil, List.append_nil]
      refine ⟨?_, ih.2⟩
      cases e with
      | request data => exact (DriverState.SameSettings.preOperation upcase _ data).trans ih.1
      | message | connect | disconnect | exit => cases he
    | false =>
      rw [List.filter_cons_of_pos (by simp [he]), List.filter_nil, after_concat]
      exact ⟨ih.1.apply upcase e, lookup_apply_of_none (wellFormed_after _ _) ih.2 he⟩

/-! ### With a context -/

theorem lookup_after_of_system (hp : p = 0 ∨ p = 4) :
    rsLookupProcessContext (after upcase h) p = none := by
  induction h using List.reverseRecOn with
  | nil => rfl
  | append_singleton h e ih =>
    rw [after_concat]
    cases he : e.isRequestOf p with
    | false => exact lookup_apply_of_none (wellFormed_after _ _) ih he
    | true =>
      cases e with
      | request data =>
        have hskipped : data.skipped = true := by
          rw [FltCallbackData.skipped, of_decide_eq_true he, decide_eq_true hp, Bool.or_true]
        simp only [DriverEvent.apply]
        rw [preOperation_of_passes (by rw [FltCallbackData.passes, hskipped, Bool.true_or])]
        exact ih
      | message | connect | disconnect | exit => cases he

/-- An image name that is too long to be on an allowlist. -/
def longName (c : UInt16) : UnicodeString := rtlInitUnicodeString (List.replicate 300 c)

theorem chars_longName (c : UInt16) : (longName c).chars = List.replicate 300 c := by
  show ((List.replicate 300 c).take 32766) = _
  exact List.take_of_length_le (by rw [List.length_replicate]; decide)

theorem not_allowlisted_longName {c : UInt16} (hc : c ≠ backslash) :
    ¬ Allowlisted upcase s (longName c) := by
  rintro ⟨-, entry, hentry, hequal⟩
  have hlast : lastComponent (List.replicate 300 c) = List.replicate 300 c := by
    rw [lastComponent, List.reverse_replicate, List.takeWhile_replicate_eq_filter,
      List.filter_replicate_of_pos (by simpa using hc), List.reverse_replicate]
  -- no entry is that long
  have hlength := congrArg List.length hequal
  rw [chars_longName, hlast, List.length_map, List.length_map, List.length_replicate] at hlength
  have := length_le_of_mem_entries hentry
  have hmax : rsMaxAllowlistNameLen = 260 := rfl
  omega

/-- A write of a process with such an image. -/
def longWrite (p : UInt32) (c : UInt16) : FltCallbackData :=
  writeRequest p .passiveLevel (longName c) (.ofTicks 0) true

theorem passes_longWrite (hp : ¬ (p = 0 ∨ p = 4)) {c : UInt16} (hc : c ≠ backslash) :
    (longWrite p c).passes upcase s = false := by
  have hskipped : (longWrite p c).skipped = false := by
    have hpaging : ¬ (0 : UInt32) &&& irpPagingIo ≠ 0 := by decide
    rw [FltCallbackData.skipped]
    exact Bool.or_eq_false_iff.2 ⟨decide_eq_false hpaging, decide_eq_false hp⟩
  have hallow : rsIsProcessAllowlisted upcase s (longName c) = false :=
    Bool.eq_false_iff.2 (rsIsProcessAllowlisted_iff.not.2 (not_allowlisted_longName hc))
  rw [FltCallbackData.passes, hskipped, longWrite, processImageName_writeRequest, imageAllowlisted,
    hallow, Bool.or_false]

variable (upcase) in
/-- A process that has a context is reported under the old image name. -/
theorem imageName_of_context (hp : ¬ (p = 0 ∨ p = 4)) {c : UInt16} (hc : c ≠ backslash)
    {ctx : RsProcessContext} (hctx : rsLookupProcessContext s p = some ctx) :
    (respond upcase s (longWrite p c)).entry.map RsBlockedPidEntry.imageName =
      some ctx.imageName := by
  rw [respond, lookup_preOperation (passes_longWrite hp hc), if_pos rfl]
  show ((recordContext s.config (rsLookupProcessContext s p) p _ _ _).1.map _).map _ = _
  rw [hctx, recordContext]
  split_ifs
  · rfl
  · exact congrArg some (recordAndEvaluate_imageName ..)

theorem imageName_of_none (hp : ¬ (p = 0 ∨ p = 4)) {c : UInt16} (hc : c ≠ backslash)
    (hnone : rsLookupProcessContext s p = none) :
    (respond upcase s (longWrite p c)).entry.map RsBlockedPidEntry.imageName =
      some (rsCopyImageName (some (longName c))) := by
  rw [respond, lookup_preOperation (passes_longWrite hp hc), if_pos rfl]
  show ((recordContext s.config (rsLookupProcessContext s p) p _ _ _).1.map _).map _ = _
  rw [hnone]
  exact congrArg some (recordAndEvaluate_imageName ..)

/-- **Nothing is inherited exactly when the PID has no context**: when the earlier holders recorded
nothing, or an unblock request has removed their context. -/
theorem noInheritance_iff (upcase : UInt16 → UInt16) (p : UInt32) (h : List DriverEvent) :
    NoInheritance upcase p h ↔ rsLookupProcessContext (after upcase h) p = none := by
  obtain ⟨hsettings, herased⟩ := after_filter upcase p h
  constructor
  · intro hno
    by_contra hne
    obtain ⟨ctx, hctx⟩ := Option.ne_none_iff_exists'.1 hne
    have hp : ¬ (p = 0 ∨ p = 4) := fun hp => hne (lookup_after_of_system hp)
    -- a name whose first character is not that of the old name
    have hname : ∃ c, c ≠ backslash ∧ c ≠ ctx.imageName 0 := by
      by_cases h0 : (97 : UInt16) = ctx.imageName 0
      · exact ⟨98, by decide, h0 ▸ by decide⟩
      · exact ⟨97, by decide, h0⟩
    obtain ⟨c, hc, hdiff⟩ := hname
    have hresponses := hno [.request (longWrite p c)]
    have hself : (longWrite p c).requestorProcessId = p := rfl
    simp only [responses, if_pos hself, List.cons.injEq, and_true] at hresponses
    have hnames := imageName_of_context upcase hp hc hctx
    rw [hresponses, imageName_of_none hp hc herased] at hnames
    exact hdiff (congrFun (Option.some.inj hnames) 0)
  · intro hnone es
    exact SameFor.responses_eq ⟨hsettings, hnone.trans herased.symm, wellFormed_after _ _,
      wellFormed_after _ _⟩ es

/-- A write of the process 8. -/
def reusedWrite (t : InterruptTime) : DriverEvent :=
  .request (writeRequest 8 .passiveLevel (rtlInitUnicodeString (wide "a.exe")) t true)

/-- The threshold is 2; a process with the PID 8 writes once, and exits. -/
def reusedHistory : List DriverEvent :=
  [.message (some (updateConfigRequest 0 2 10 1)) (some 24), reusedWrite (.ofTicks 5), .exit 8]

/-- **A process is denied for the operation of another one**: the next holder of the PID 8 is denied
its first write, which would pass if the earlier one had never run. -/
theorem inherited :
    (responses id 8 (after id reusedHistory) [reusedWrite (.ofTicks 6)]).map Response.completion =
        [.denied] ∧
      (responses id 8 (after id (reusedHistory.filter fun e => !e.isRequestOf 8))
        [reusedWrite (.ofTicks 6)]).map Response.completion = [.pass] ∧
      ¬ NoInheritance id 8 reusedHistory := by
  have hdenied : (responses id 8 (after id reusedHistory)
      [reusedWrite (.ofTicks 6)]).map Response.completion = [.denied] := by decide +kernel
  have hpass : (responses id 8 (after id (reusedHistory.filter fun e => !e.isRequestOf 8))
      [reusedWrite (.ofTicks 6)]).map Response.completion = [.pass] := by decide +kernel
  refine ⟨hdenied, hpass, ?_⟩
  intro hno
  rw [hno, hpass] at hdenied
  cases hdenied

end RansomShield
