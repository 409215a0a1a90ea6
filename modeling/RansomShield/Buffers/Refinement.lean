import RansomShield.Buffers.Bounds

/-!
# The handler on bytes and the handler on messages

The two models of `RsMessageNotifyCallback` agree (`Buffered.implements`): on the first
`InputBufferLength` bytes of its input, the handler of `Driver/CommPort.lean` leaves the same state,
returns the same status and length, and replies exactly when something is written.
-/

namespace RansomShield

namespace Buffered

/-- The outcomes agree. -/
structure Outcome.Implements (o : Outcome) (a : MessageOutcome) : Prop where
  state : o.state = a.state
  status : o.status = a.status
  returnLength : o.returnLength = a.returnLength
  reply : o.writes = [] ↔ a.reply = none

/-- The memory that holds some bytes, and zeros behind them. -/
def ofBytes (bytes : List UInt8) : Memory := fun i => bytes.getD i 0

variable {s : DriverState} {bytes : List UInt8} {outputBuffer : Option Memory} {m : ℕ}

theorem scan_ofBytes (k offset : ℕ) : scan (ofBytes bytes) k offset = scanEntry bytes k offset := by
  induction k generalizing offset with
  | zero => rfl
  | succ k ih =>
    rw [scan, scanEntry, ih]
    rfl

theorem addEntries_ofBytes (countOffset base entryCount : ℕ) (st : DriverState × List ℕ) :
    (addEntries (ofBytes bytes) countOffset base entryCount st).1 =
      RansomShield.addEntries bytes base entryCount st.1 := by
  unfold addEntries RansomShield.addEntries
  induction entryCount with
  | zero => rfl
  | succ k ih =>
    rw [List.range_succ, List.foldl_append, List.foldl_append, List.foldl_cons, List.foldl_cons,
      List.foldl_nil, List.foldl_nil, addEntry, ih, scan_ofBytes]

theorem implements_invalidParameter (reads : List ℕ) :
    (invalidParameter s reads).Implements (RansomShield.invalidParameter s) :=
  ⟨rfl, rfl, rfl, by simp [invalidParameter, RansomShield.invalidParameter]⟩

theorem implements_checkOutput {size : ℕ} {go : Outcome} {go' : MessageOutcome}
    (h : outputBuffer.isSome → size ≤ m → go.Implements go') :
    (checkOutput s outputBuffer m size go).Implements
      (withOutputBuffer s (outputBuffer.map fun _ => m) size go') := by
  unfold checkOutput withOutputBuffer
  cases outputBuffer with
  | none => exact ⟨rfl, rfl, rfl, by simp [bufferTooSmall]⟩
  | some _ =>
    simp only [Option.isNone_some, Bool.false_eq_true, false_or, Option.map_some]
    split_ifs with hm
    · exact ⟨rfl, rfl, rfl, by simp [bufferTooSmall]⟩
    · exact h rfl (not_lt.1 hm)

theorem implements_success {state : DriverState} {size : ℕ} {reads : List ℕ}
    {w : Store UInt8} {ws : List (Store UInt8)} {reply : RsReply} :
    Outcome.Implements ⟨state, .success, size, reads, w :: ws⟩
      ⟨state, .success, size, some reply⟩ :=
  ⟨rfl, rfl, rfl, by simp⟩

theorem implements_genericRequest {t : RsMessageType} {reads : List ℕ}
    {change change' : DriverState → DriverState} (h : change s = change' s) :
    (checkOutput s outputBuffer m sizeofReplyGeneric
      (genericRequest s t reads change)).Implements
      (RansomShield.genericRequest s t (outputBuffer.map fun _ => m) change') := by
  refine implements_checkOutput fun _ _ => ?_
  rw [genericRequest, h]
  exact implements_success

theorem implements_genericRequest_of_room {t : RsMessageType} {reads : List ℕ}
    {change change' : DriverState → DriverState} (h : change s = change' s)
    (hsome : outputBuffer.isSome) (hm : sizeofReplyGeneric ≤ m) :
    (genericRequest s t reads change).Implements
      (RansomShield.genericRequest s t (outputBuffer.map fun _ => m) change') := by
  obtain ⟨_, rfl⟩ := Option.isSome_iff_exists.1 hsome
  simp only [RansomShield.genericRequest, withOutputBuffer, Option.map_some,
    if_neg (not_lt.2 hm)]
  rw [genericRequest, h]
  exact implements_success

theorem implements_allowlistRequest {t : RsMessageType} {size maxEntries countOffset : ℕ} :
    (allowlistRequest s (ofBytes bytes) bytes.length outputBuffer m t size maxEntries
      countOffset).Implements
      (RansomShield.allowlistRequest s t size maxEntries countOffset bytes
        (outputBuffer.map fun _ => m)) := by
  unfold allowlistRequest RansomShield.allowlistRequest
  split_ifs
  · exact implements_invalidParameter _
  · refine implements_checkOutput fun hsome hm => ?_
    show Outcome.Implements (if maxEntries < (ulong (ofBytes bytes) countOffset).toNat then _
      else _) (if maxEntries < (ulong (ofBytes bytes) countOffset).toNat then _ else _)
    split_ifs
    · exact implements_invalidParameter _
    · exact implements_genericRequest_of_room
        (addEntries_ofBytes countOffset (countOffset + 4) _ (s, _)) hsome hm

theorem implements_dispatch (hn : ¬ bytes.length < sizeofMessageHeader)
    (hsize : ¬ bytes.length < (readUlong bytes 4).toNat) :
    (dispatch s (ofBytes bytes) bytes.length outputBuffer m).Implements
      (RansomShield.rsMessageNotifyCallback s (some bytes) (outputBuffer.map fun _ => m)) := by
  simp only [RansomShield.rsMessageNotifyCallback, if_neg hn, if_neg hsize]
  have htype : (requestTypes.find? fun t => t.code = ulong (ofBytes bytes) 0) =
    requestType bytes := rfl
  unfold dispatch
  rw [htype]
  cases requestType bytes with
  | none => exact implements_invalidParameter _
  | some t =>
    cases t with
    | queryBlockedPids | queryConfig | queryAllowlist =>
      exact implements_checkOutput fun _ _ => implements_success
    | requestUnblockPid =>
      show (requestUnblockPid ..).Implements (RansomShield.requestUnblockPid ..)
      unfold requestUnblockPid RansomShield.requestUnblockPid
      split_ifs
      · exact implements_invalidParameter _
      · exact implements_checkOutput fun _ _ => implements_success
    | requestPause | requestResume | clearAllowlist => exact implements_genericRequest rfl
    | updateConfig =>
      show (updateConfig ..).Implements (RansomShield.updateConfig ..)
      unfold updateConfig RansomShield.updateConfig
      split_ifs
      · exact implements_invalidParameter _
      · exact implements_genericRequest rfl
    | updateAllowlistChunk | updateAllowlistFull => exact implements_allowlistRequest
    | notifyBlockedPid | notifyConfigUpdated | notifyAllowlistUpdated | replyBlockedPids
    | replyUnblockPid => exact implements_invalidParameter _

theorem implements_ofBytes (s : DriverState) (bytes : List UInt8) (outputBuffer : Option Memory)
    (m : ℕ) :
    (rsMessageNotifyCallback s (some (ofBytes bytes)) bytes.length outputBuffer m).Implements
      (RansomShield.rsMessageNotifyCallback s (some bytes) (outputBuffer.map fun _ => m)) := by
  by_cases hn : bytes.length < sizeofMessageHeader
  · simp only [rsMessageNotifyCallback, RansomShield.rsMessageNotifyCallback, if_pos hn]
    exact implements_invalidParameter _
  · by_cases hsize : bytes.length < (readUlong bytes 4).toNat
    · have hsize' : bytes.length < (ulong (ofBytes bytes) 4).toNat := hsize
      simp only [rsMessageNotifyCallback, RansomShield.rsMessageNotifyCallback, if_neg hn,
        if_pos hsize, if_pos hsize']
      exact implements_invalidParameter _
    · have hsize' : ¬ bytes.length < (ulong (ofBytes bytes) 4).toNat := hsize
      have h : (dispatch s (ofBytes bytes) bytes.length outputBuffer m).Implements _ :=
        implements_dispatch hn hsize
      simp only [rsMessageNotifyCallback, if_neg hn, if_neg hsize']
      exact ⟨h.state, h.status, h.returnLength, h.reply⟩

/-- **The two models of the handler agree**, on the bytes that the input buffer holds. -/
theorem implements (s : DriverState) (inputBuffer : Option Memory) (n : ℕ)
    (outputBuffer : Option Memory) (m : ℕ) :
    (rsMessageNotifyCallback s inputBuffer n outputBuffer m).Implements
      (RansomShield.rsMessageNotifyCallback s
        (inputBuffer.map fun input => (List.range n).map input)
        (outputBuffer.map fun _ => m)) := by
  cases inputBuffer with
  | none => exact implements_invalidParameter _
  | some input =>
    -- what is behind the buffer does not matter
    have hbytes : ∀ i < n, ofBytes ((List.range n).map input) i = input i := by
      intro i hi
      rw [ofBytes, List.getD_eq_getElem _ _ (by simpa using hi), List.getElem_map,
        List.getElem_range]
    have hsafe := safe_rsMessageNotifyCallback s (some input) n outputBuffer m
    rw [← rsMessageNotifyCallback_congr fun i hi => hbytes i (hsafe.reads i hi)]
    have h := implements_ofBytes s ((List.range n).map input) outputBuffer m
    rwa [List.length_map, List.length_range] at h

end Buffered

end RansomShield
