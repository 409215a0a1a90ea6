import RansomShield.System.Atomic
import RansomShield.Tracker.Allowlist

/-!
# Allowlisted processes

A callback consults the allowlist only when it has obtained the image name of the process: at
PASSIVE_LEVEL, when there is a process and its image can be located.  A request for which it has
obtained an allowlisted name is never denied (`never_denied`), whatever happened before to the PID;
one for which it has not is recorded like any other (`never_denied_apc`).  A match lasts until the
dynamic allowlist is cleared (`Allowlisted.step`).
-/

namespace RansomShield

variable {upcase : UInt16 → UInt16} {s s' s₀ t : SystemState} {as : List Action} {a : Action}
  {c : CallId} {data : FltCallbackData} {name : UnicodeString}

/-! ### How long a match lasts -/

theorem dynamicNames_subset_of_sameGlobals {d d' : DriverState} (h : d.SameGlobals d') :
    dynamicNames d ⊆ dynamicNames d' := by
  obtain ⟨_, _, rfl⟩ := h
  exact List.Subset.refl _

/-- **A match lasts** through every step but the clearing of the dynamic allowlist. -/
theorem Allowlisted.step (h : Allowlisted upcase s.driver name)
    (hstep : (system upcase).step s a = some s') (ha : a ≠ .control .clearDynamicAllowlist) :
    Allowlisted upcase s'.driver name := by
  refine h.of_subset ?_
  obtain ⟨c, call, -, -, rfl⟩ | ⟨c, step, call, -, -, hcs⟩ | ⟨k, rfl, rfl⟩ :=
    system_step_cases hstep
  · exact List.Subset.refl _
  · obtain ⟨-, -, rfl⟩ | ⟨newContext, -, -, rfl⟩ | ⟨phase, driver', sent', hd, -, rfl⟩ :=
      callStep_cases hcs
    · exact dynamicNames_subset_of_sameGlobals (sameGlobals_recordFirstSection ..)
    · exact dynamicNames_subset_of_sameGlobals (sameGlobals_recordSecondSection ..)
    · rcases hd with rfl | rfl <;> exact List.Subset.refl _
  · cases k with
    | addDynamicAllowlistEntry entry => exact dynamicNames_subset_add s.driver entry
    | clearDynamicAllowlist => exact absurd rfl ha
    | removeProcessContext p =>
      exact dynamicNames_subset_of_sameGlobals (sameGlobals_removeProcessContext ..)
    | applyConfig | setMonitoring | drawSequence | getBlockedPids | getPidCounts | connect
    | disconnect => exact List.Subset.refl _

/-- A process that is allowlisted at the start of a run stays so, if the list is not cleared. -/
theorem Allowlisted.always (h : Allowlisted upcase s₀.driver name)
    (hno : ∀ a ∈ as, a ≠ .control .clearDynamicAllowlist) :
    (system upcase).Always s₀ as fun u => Allowlisted upcase u.driver name := by
  intro bs u hbs hrun
  refine Machine.run_invariant (M := system upcase)
    (I := fun u => Allowlisted upcase u.driver name) hrun h ?_
  intro u b u' hu hb hstep
  exact Allowlisted.step hu hstep (hno b (hbs.subset hb))

/-! ### Requests -/

/-- The callback obtains the image name: it runs at PASSIVE_LEVEL, there is a process, and its image
can be located. -/
def FltCallbackData.Locates (data : FltCallbackData) (name : UnicodeString) : Prop :=
  data.irql = .passiveLevel ∧ data.hasRequestorProcess = true ∧ data.locatedImageName = some name

theorem FltCallbackData.Locates.passes (h : data.Locates name) {d : DriverState}
    (hallow : Allowlisted upcase d name) : data.passes upcase d = true := by
  obtain ⟨hirql, hprocess, hlocated⟩ := h
  have hname : data.processImageName = some name := by
    rw [processImageName, if_pos hprocess, if_pos hirql, hlocated]
  rw [FltCallbackData.passes, hname, imageAllowlisted, rsIsProcessAllowlisted_iff.2 hallow,
    Bool.or_true]

theorem passed_step {call : Call} (hcall : s.calls c = some call) (hphase : call.phase = .passed)
    (hstep : (system upcase).step s a = some s') : s'.calls c = some call := by
  obtain ⟨d, new, hnew, -, rfl⟩ | ⟨d, step, old, -, hold, hcs⟩ | ⟨k, -, rfl⟩ :=
    system_step_cases hstep
  · have hne : c ≠ d := by
      rintro rfl
      cases hcall.symm.trans hnew
    rw [SystemState.start_calls, Function.update_of_ne hne, hcall]
  · have hne : c ≠ d := by
      rintro rfl
      cases hcall.symm.trans hold
      simp only [callStep, hphase, reduceCtorEq] at hcs
    obtain ⟨phase, hcalls⟩ := callStep_calls hcs
    rw [hcalls, Function.update_of_ne hne, hcall]
  · exact hcall

/-- **Allowlisted processes are not denied** where their name is known.  Along every run throughout
which the image file name matches an entry of an allowlist: a callback that obtains the name lets
the request pass and leaves the tracker as it is, whatever the other requests of the PID did,
without interruption or interleaved with other calls. -/
theorem never_denied (hrun : (system upcase).run s₀ as = some t)
    (hallow : (system upcase).Always s₀ as fun u => Allowlisted upcase u.driver name) :
    (∀ data : FltCallbackData, data.Locates name →
      preOperation upcase t.driver data = .passed t.driver) ∧
    ∀ c (data : FltCallbackData), (.pass c data ∈ as ∨ .track c data ∈ as) → data.Locates name →
      (t.calls c).bind Call.completion = some .pass := by
  constructor
  · intro data hdata
    rw [preOperation_eq, if_pos (hdata.passes (hallow as t List.prefix_rfl hrun))]
  · intro c data hmem hdata
    have hcalls : t.calls c = some (data.newCall .passed) := by
      refine Machine.run_induction (M := system upcase)
        (I := fun bs u => (.pass c data ∈ bs ∨ .track c data ∈ bs) →
          u.calls c = some (data.newCall .passed)) hrun (fun h => by simp at h)
        ?_ hmem
      intro bs b u u' hbs hu ih hstep h
      by_cases hold : .pass c data ∈ bs ∨ .track c data ∈ bs
      · exact passed_step (ih hold) rfl hstep
      · -- the callback lets the request pass, so that the action is `pass`
        have hpasses := hdata.passes (hallow.before hbs hu)
        rw [List.mem_append, List.mem_append, List.mem_singleton, List.mem_singleton] at h
        obtain rfl | rfl : b = .pass c data ∨ b = .track c data := by
          rcases h with (h | h) | (h | h)
          · exact absurd (.inl h) hold
          · exact .inl h.symm
          · exact absurd (.inr h) hold
          · exact .inr h.symm
        · simp only [system, Option.ite_none_right_eq_some, Option.some.injEq] at hstep
          rw [← hstep.2, SystemState.start_calls, Function.update_self]
        · simp only [system, hpasses, Bool.not_true, Bool.and_false, Bool.false_eq_true, if_false,
            reduceCtorEq] at hstep
    rw [hcalls]
    rfl

/-! ### The guarantee at work, and its limit -/

/-- The image of a process that is on the built-in allowlist. -/
def svchost : UnicodeString :=
  rtlInitUnicodeString (wide "\\Device\\HarddiskVolume3\\Windows\\System32\\svchost.exe")

theorem allowlisted_svchost (d : DriverState) : Allowlisted id d svchost :=
  .of_builtin (by decide +kernel) (show wide "svchost.exe" ∈ allowListNames by decide +kernel)
    (by decide +kernel)

/-- The process 8 writes, its image is found, and then at APC level, where it is not. -/
def svchostWrites : List Action :=
  [.pass ⟨8, 0⟩ (writeRequest 8 .passiveLevel svchost (.ofTicks 5) true),
    .track ⟨8, 1⟩ (writeRequest 8 .apcLevel svchost (.ofTicks 5) true),
    .advance ⟨8, 1⟩ .firstSection, .advance ⟨8, 1⟩ (.allocate true),
    .advance ⟨8, 1⟩ .secondSection, .advance ⟨8, 1⟩ .snapshotPort]

/-- Even after a write at APC level has blocked the process, its writes at PASSIVE_LEVEL pass. -/
theorem never_denied_svchost :
    ∃ t, (system id).run SystemState.init (.control (.applyConfig 1 1 1) :: svchostWrites) =
        some t ∧
      (t.calls ⟨8, 0⟩).bind Call.completion = some .pass ∧
      (preOperation id t.driver (writeRequest 8 .passiveLevel svchost (.ofTicks 6) true)).completion
        = .pass := by
  obtain ⟨t, hrun, -⟩ := Machine.exists_of_any (system id) (fun _ => true) SystemState.init
    (.control (.applyConfig 1 1 1) :: svchostWrites) (by decide +kernel)
  obtain ⟨hnext, hcalls⟩ := never_denied hrun fun _ u _ _ => allowlisted_svchost u.driver
  have hlocates : ∀ time,
      (writeRequest 8 .passiveLevel svchost time true).Locates svchost := fun _ => ⟨rfl, rfl, rfl⟩
  refine ⟨t, hrun, hcalls _ _ (.inl ?_) (hlocates (.ofTicks 5)),
    congrArg PreopOutcome.completion (hnext _ (hlocates (.ofTicks 6)))⟩
  exact List.mem_cons_of_mem _ List.mem_cons_self

/-- **An allowlisted process is denied** when its write arrives at APC level: the threshold is 1,
and the image name is not looked up. -/
theorem never_denied_apc :
    ∃ t, (system id).run SystemState.init (.control (.applyConfig 1 1 1) :: svchostWrites) =
        some t ∧
      ((system id).Always SystemState.init (.control (.applyConfig 1 1 1) :: svchostWrites)
        fun u => Allowlisted id u.driver svchost) ∧
      (t.calls ⟨8, 1⟩).bind Call.completion = some .denied := by
  obtain ⟨t, hrun, h⟩ := Machine.exists_of_any (system id)
    (fun t => decide ((t.calls ⟨8, 1⟩).bind Call.completion = some .denied)) SystemState.init
    (.control (.applyConfig 1 1 1) :: svchostWrites) (by decide +kernel)
  exact ⟨t, hrun, fun _ u _ _ => allowlisted_svchost u.driver, of_decide_eq_true h⟩

end RansomShield
