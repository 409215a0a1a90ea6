import RansomShield.Client.PushAllowlist

/-!
# A push that is reported as complete

`PushAllowlist` returns a success when the driver has accepted every request.  The driver skips the
entries that are empty and drops those that find no room, and accepts the request all the same
(`pushed_holds`).  So the allowlist is the one that was pushed when it has at most 128 entries and
none of them is empty, and not otherwise (`push_complete_iff`); of 129 entries, the last one is lost
(`push_incomplete`).
-/

namespace RansomShield

/-- The driver after a push of the entries, and the result of the push. -/
def pushed (numbers : ℕ → UInt32) (entries : List WString) (s : DriverState) :
    DriverState × HResult :=
  (pushAllowlist numbers entries).run serve s

/-! ### The responses of the driver -/

theorem replyStatus_withOutputBuffer {s : DriverState} {output : Option ℕ} {size : ℕ}
    {go : MessageOutcome} (h : replyStatus go.reply = .success) :
    replyStatus (withOutputBuffer s output size go).reply = .success :=
  withOutputBuffer_cases (P := fun m => replyStatus m.reply = .success) rfl fun _ _ _ => h

theorem replyStatus_allowlistRequest (s : DriverState) (t : RsMessageType)
    (size maxEntries countOffset : ℕ) (bytes : List UInt8) (output : Option ℕ) :
    replyStatus (allowlistRequest s t size maxEntries countOffset bytes output).reply =
      .success := by
  unfold allowlistRequest
  split_ifs
  · rfl
  · refine replyStatus_withOutputBuffer ?_
    simp only []
    split_ifs
    · rfl
    · exact replyStatus_withOutputBuffer rfl

/-- The driver never reports a failure in a reply. -/
theorem replyStatus_requestCase (s : DriverState) (bytes : List UInt8) (output : Option ℕ)
    (t : RsMessageType) : replyStatus (requestCase s bytes output t).reply = .success := by
  cases t with
  | queryBlockedPids | queryConfig | queryAllowlist | requestPause | requestResume
  | clearAllowlist => exact replyStatus_withOutputBuffer rfl
  | requestUnblockPid =>
    rw [requestCase, requestUnblockPid]
    split_ifs
    · rfl
    · exact replyStatus_withOutputBuffer rfl
  | updateConfig =>
    rw [requestCase, updateConfig]
    split_ifs
    · rfl
    · exact replyStatus_withOutputBuffer rfl
  | updateAllowlistChunk | updateAllowlistFull => exact replyStatus_allowlistRequest ..
  | notifyBlockedPid | notifyConfigUpdated | notifyAllowlistUpdated | replyBlockedPids
  | replyUnblockPid => rfl

theorem replyStatus_rsMessageNotifyCallback (s : DriverState) (bytes : List UInt8)
    (output : Option ℕ) :
    replyStatus (rsMessageNotifyCallback s (some bytes) output).reply = .success := by
  rcases rsMessageNotifyCallback_cases s bytes output with h | ⟨t, -, h⟩
  · rw [h]
    rfl
  · rw [h, replyStatus_requestCase]

theorem AllowlistMessage.serve_ok (m : AllowlistMessage) (s : DriverState) :
    (serve s m.arguments).2.Ok := by
  refine ⟨?_, replyStatus_rsMessageNotifyCallback ..⟩
  show (HResult.ofStatus (rsMessageNotifyCallback ..).status).failed = false
  rw [AllowlistMessage.arguments, m.accepted s]
  decide

/-! ### The allowlist after a push -/

variable (numbers : ℕ → UInt32) (entries : List WString) (s : DriverState)

theorem holds_handle_clear (sequenceNumber : UInt32) :
    (AllowlistMessage.handle s (clearMessage sequenceNumber)).Holds [] := by
  rw [AllowlistMessage.handle, clearMessage, (isRequest_clear sequenceNumber).eq_requestCase]
  exact (holds_clear s).congr rfl rfl

theorem pushed_eq :
    (pushed numbers entries s).1 =
        exec AllowlistMessage.handle s (pushMessages numbers entries) ∧
      (pushed numbers entries s).2.failed = false := by
  have hok : ∀ s, ∀ args ∈ (pushMessages numbers entries).map AllowlistMessage.arguments,
      (serve s args).2.Ok := by
    intro s args hargs
    obtain ⟨m, -, rfl⟩ := List.mem_map.1 hargs
    exact m.serve_ok s
  obtain ⟨hstate, hresult⟩ :=
    Program.run_of_follows (pushAllowlist_sends numbers entries) hok s
  refine ⟨?_, hresult⟩
  rw [pushed, hstate, exec, List.foldl_map]
  rfl

/-- **The allowlist after a push**, and its result: the driver keeps what it can of the entries, and
the push succeeds. -/
theorem pushed_holds :
    (pushed numbers entries s).1.Holds (newNames entries) ∧
      (pushed numbers entries s).2.failed = false := by
  obtain ⟨hstate, hresult⟩ := pushed_eq numbers entries s
  refine ⟨?_, hresult⟩
  rw [hstate, ← exec_pushMessages numbers entries []]
  exact AllowlistMessage.holds_exec (holds_handle_clear s (numbers 0)) _

theorem take_filter_eq_self {α : Type*} {p : α → Bool} {l : List α} {n : ℕ} :
    (l.filter p).take n = l ↔ l.length ≤ n ∧ ∀ a ∈ l, p a = true := by
  constructor
  · intro h
    have hlen := congrArg List.length h
    have hfilter := List.length_filter_le p l
    rw [List.length_take] at hlen
    exact ⟨by omega, List.length_filter_eq_length_iff.1 (by omega)⟩
  · rintro ⟨hlen, hall⟩
    rw [List.filter_eq_self.2 hall, List.take_of_length_le hlen]

theorem storedName_eq_nil {e : WString} : storedName e = [] ↔ e.chars = [] := by
  rw [storedName, List.take_eq_nil_iff]
  simp

/-- **A push that is reported as complete** is complete if and only if it has at most 128 entries
and none of them is empty. -/
theorem push_complete_iff :
    ((pushed numbers entries s).2.failed = false →
      dynamicNames (pushed numbers entries s).1 = entries.map storedName) ↔
    entries.length ≤ rsMaxAllowlistEntries ∧ ∀ e ∈ entries, e.chars ≠ [] := by
  obtain ⟨hholds, hresult⟩ := pushed_holds numbers entries s
  rw [hholds.dynamicNames, newNames]
  constructor
  · intro h
    obtain ⟨hlen, hall⟩ := take_filter_eq_self.1 (h hresult)
    rw [List.length_map] at hlen
    refine ⟨hlen, fun e he hnil => ?_⟩
    simpa [storedName_eq_nil, hnil] using hall _ (List.mem_map_of_mem he)
  · rintro ⟨hlen, hall⟩ -
    refine take_filter_eq_self.2 ⟨by rwa [List.length_map], ?_⟩
    intro name hname
    obtain ⟨e, he, rfl⟩ := List.mem_map.1 hname
    simpa [storedName_eq_nil] using hall e he

/-- A list with one entry too many. -/
def oneTooMany : List WString := List.replicate 129 ⟨wide "a.exe", by decide⟩

/-- **The last of 129 entries is lost**: the push succeeds, and the driver holds 128 names. -/
theorem push_incomplete :
    (pushed (fun n => UInt32.ofNat n) oneTooMany DriverState.init).2.failed = false ∧
      dynamicNames (pushed (fun n => UInt32.ofNat n) oneTooMany DriverState.init).1 ≠
        oneTooMany.map storedName := by
  obtain ⟨hholds, hresult⟩ :=
    pushed_holds (fun n => UInt32.ofNat n) oneTooMany DriverState.init
  refine ⟨hresult, fun h => ?_⟩
  have hle := hholds.length_le
  rw [← hholds.dynamicNames, h, List.length_map, oneTooMany, List.length_replicate] at hle
  exact absurd hle (by decide)

end RansomShield
