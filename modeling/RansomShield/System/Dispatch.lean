import RansomShield.System.Steps
import Mathlib.Data.List.GetD

/-!
# Messages as control actions

`RsMessageNotifyCallback` handles one message with several locked sections.  Here each message is
the list of its control actions (`messageControls`): the state that the handler leaves behind is
that of these actions (`rsMessageNotifyCallback_state`), and a run of the driver performs them one
by one (`run_messageControls`), with other actions in between or without.  How a message is answered
does not depend on the state (`rsMessageNotifyCallback_status`), and only a request to unblock a
process removes a context (`mem_messageControls_remove`).
-/

namespace RansomShield

/-- The control actions that add the entries of an allowlist message. -/
def entryControls (bytes : List UInt8) (base entryCount : ℕ) : List Control :=
  (List.range entryCount).map fun i =>
    .addDynamicAllowlistEntry (scanEntry bytes (rsMaxAllowlistNameLen - 1) (base + 520 * i))

/-- The control actions of a request that is carried out. -/
def requestControls (bytes : List UInt8) : RsMessageType → List Control
  | .queryBlockedPids => [.drawSequence, .getBlockedPids]
  | .requestUnblockPid => [.drawSequence, .removeProcessContext (readUlong bytes 16)]
  | .queryConfig => [.drawSequence, .getPidCounts]
  | .queryAllowlist => [.drawSequence]
  | .requestPause => [.setMonitoring 0, .drawSequence]
  | .requestResume => [.setMonitoring 1, .drawSequence]
  | .updateConfig =>
    [.applyConfig (readUlong bytes 16) (readUlong bytes 20) (bytes.getD 24 0), .drawSequence]
  | .clearAllowlist => [.clearDynamicAllowlist, .drawSequence]
  | .updateAllowlistChunk =>
    entryControls bytes 28 (readUlong bytes 24).toNat ++ [.drawSequence]
  | .updateAllowlistFull =>
    entryControls bytes 20 (readUlong bytes 16).toNat ++ [.drawSequence]
  | _ => []

/-- The control actions of a message: none, unless it is answered with `STATUS_SUCCESS`. -/
def messageControls (s : DriverState) (input : Option (List UInt8)) (output : Option ℕ) :
    List Control :=
  match input with
  | none => []
  | some bytes =>
    if (rsMessageNotifyCallback s input output).status = .success then
      (requestType bytes).elim [] (requestControls bytes)
    else []

/-! ### The handlers -/

/-- The outcome is that of the control actions when it is a success, and changes nothing
otherwise. -/
def MessageOutcome.Performs (m : MessageOutcome) (s : DriverState) (ks : List Control) : Prop :=
  m.state = exec Control.apply s (if m.status = .success then ks else [])

variable {s : DriverState} {ks : List Control}

theorem performs_invalidParameter : (invalidParameter s).Performs s ks := rfl

/-- A request whose output buffer is checked is refused, or it goes on. -/
theorem withOutputBuffer_cases {P : MessageOutcome → Prop} {output : Option ℕ} {size : ℕ}
    {go : MessageOutcome}
    (hsmall : P { state := s, status := .bufferTooSmall, returnLength := size, reply := none })
    (hgo : ∀ length, output = some length → size ≤ length → P go) :
    P (withOutputBuffer s output size go) := by
  unfold withOutputBuffer
  cases output with
  | none => exact hsmall
  | some length =>
    simp only []
    split_ifs with hlength
    · exact hsmall
    · exact hgo length rfl (not_lt.1 hlength)

theorem performs_withOutputBuffer {output : Option ℕ} {size : ℕ} {go : MessageOutcome}
    (h : go.Performs s ks) : (withOutputBuffer s output size go).Performs s ks :=
  withOutputBuffer_cases (P := fun m => m.Performs s ks) rfl fun _ _ _ => h

theorem performs_genericRequest (ks : List Control) {t : RsMessageType} {output : Option ℕ}
    {change : DriverState → DriverState} (h : change s = exec Control.apply s ks) :
    (genericRequest s t output change).Performs s (ks ++ [.drawSequence]) := by
  refine performs_withOutputBuffer ?_
  show drawSequence (change s) = exec Control.apply s (ks ++ [.drawSequence])
  rw [exec_concat, ← h]
  rfl

theorem addEntries_eq (bytes : List UInt8) (base entryCount : ℕ) :
    addEntries bytes base entryCount s =
      exec Control.apply s (entryControls bytes base entryCount) := by
  rw [addEntries, exec, entryControls, List.foldl_map]
  rfl

theorem performs_allowlistRequest {t : RsMessageType} {size maxEntries countOffset : ℕ}
    {bytes : List UInt8} {output : Option ℕ} :
    (allowlistRequest s t size maxEntries countOffset bytes output).Performs s
      (entryControls bytes (countOffset + 4) (readUlong bytes countOffset).toNat ++
        [.drawSequence]) := by
  unfold allowlistRequest
  split_ifs
  · exact performs_invalidParameter
  · refine performs_withOutputBuffer ?_
    simp only []
    split_ifs
    · exact performs_invalidParameter
    · exact performs_genericRequest _ (addEntries_eq bytes _ _)

theorem performs_updateConfig {bytes : List UInt8} {output : Option ℕ} :
    (updateConfig s bytes output).Performs s (requestControls bytes .updateConfig) := by
  unfold updateConfig
  split_ifs
  · exact performs_invalidParameter
  · exact performs_genericRequest [.applyConfig _ _ _] rfl

theorem performs_requestUnblockPid {bytes : List UInt8} {output : Option ℕ} :
    (requestUnblockPid s bytes output).Performs s (requestControls bytes .requestUnblockPid) := by
  unfold requestUnblockPid
  split_ifs
  · exact performs_invalidParameter
  · exact performs_withOutputBuffer rfl

theorem performs_rsMessageNotifyCallback {bytes : List UInt8} {output : Option ℕ} :
    (rsMessageNotifyCallback s (some bytes) output).Performs s
      ((requestType bytes).elim [] (requestControls bytes)) := by
  unfold rsMessageNotifyCallback
  simp only []
  split_ifs
  · exact performs_invalidParameter
  · exact performs_invalidParameter
  · -- each request is its own list of control actions; other types are refused
    cases requestType bytes with
    | none => exact performs_invalidParameter
    | some t =>
      cases t with
      | queryBlockedPids | queryConfig | queryAllowlist => exact performs_withOutputBuffer rfl
      | requestUnblockPid => exact performs_requestUnblockPid
      | requestPause => exact performs_genericRequest [.setMonitoring 0] rfl
      | requestResume => exact performs_genericRequest [.setMonitoring 1] rfl
      | updateConfig => exact performs_updateConfig
      | clearAllowlist => exact performs_genericRequest [.clearDynamicAllowlist] rfl
      | updateAllowlistChunk | updateAllowlistFull => exact performs_allowlistRequest
      | notifyBlockedPid | notifyConfigUpdated | notifyAllowlistUpdated | replyBlockedPids
      | replyUnblockPid => exact performs_invalidParameter

/-- **The state after a message** is that of its control actions. -/
theorem rsMessageNotifyCallback_state (s : DriverState) (input : Option (List UInt8))
    (output : Option ℕ) :
    (rsMessageNotifyCallback s input output).state =
      exec Control.apply s (messageControls s input output) := by
  cases input with
  | none => rfl
  | some bytes => exact performs_rsMessageNotifyCallback

/-! ### The status -/

theorem withOutputBuffer_status {s s' : DriverState} (output : Option ℕ) (size : ℕ)
    {go go' : MessageOutcome} (h : go.status = go'.status) :
    (withOutputBuffer s output size go).status = (withOutputBuffer s' output size go').status := by
  unfold withOutputBuffer
  cases output with
  | none => rfl
  | some length =>
    simp only []
    split_ifs
    · rfl
    · exact h

theorem genericRequest_status (s s' : DriverState) (t : RsMessageType) (output : Option ℕ)
    (change change' : DriverState → DriverState) :
    (genericRequest s t output change).status = (genericRequest s' t output change').status :=
  withOutputBuffer_status output _ rfl

theorem allowlistRequest_status (s s' : DriverState) (t : RsMessageType)
    (size maxEntries countOffset : ℕ) (bytes : List UInt8) (output : Option ℕ) :
    (allowlistRequest s t size maxEntries countOffset bytes output).status =
      (allowlistRequest s' t size maxEntries countOffset bytes output).status := by
  unfold allowlistRequest
  split_ifs
  · rfl
  · refine withOutputBuffer_status output _ ?_
    simp only []
    split_ifs
    · rfl
    · exact genericRequest_status ..

/-- **How a message is answered** does not depend on the state. -/
theorem rsMessageNotifyCallback_status (s s' : DriverState) (input : Option (List UInt8))
    (output : Option ℕ) :
    (rsMessageNotifyCallback s input output).status =
      (rsMessageNotifyCallback s' input output).status := by
  cases input with
  | none => rfl
  | some bytes =>
    unfold rsMessageNotifyCallback
    simp only []
    split_ifs
    · rfl
    · rfl
    · cases requestType bytes with
      | none => rfl
      | some t =>
        cases t with
        | queryBlockedPids | queryConfig | queryAllowlist => exact withOutputBuffer_status _ _ rfl
        | requestUnblockPid =>
          simp only [requestUnblockPid]
          split_ifs
          · rfl
          · exact withOutputBuffer_status _ _ rfl
        | updateConfig =>
          simp only [updateConfig]
          split_ifs
          · rfl
          · exact genericRequest_status ..
        | requestPause | requestResume | clearAllowlist => exact genericRequest_status ..
        | updateAllowlistChunk | updateAllowlistFull => exact allowlistRequest_status ..
        | notifyBlockedPid | notifyConfigUpdated | notifyAllowlistUpdated | replyBlockedPids
        | replyUnblockPid => rfl

theorem messageControls_congr (s s' : DriverState) (input : Option (List UInt8))
    (output : Option ℕ) : messageControls s input output = messageControls s' input output := by
  unfold messageControls
  rw [rsMessageNotifyCallback_status s s']

/-! ### Runs -/

theorem run_controls (upcase : UInt16 → UInt16) (s : SystemState) (ks : List Control) :
    (system upcase).run s (ks.map Action.control) =
      some { s with
        driver := exec Control.apply s.driver ks
        history := s.history ++ ks.flatMap Control.events } := by
  induction ks generalizing s with
  | nil =>
    rw [List.flatMap_nil, List.append_nil]
    rfl
  | cons k ks ih =>
    rw [List.map_cons, Machine.run_cons]
    show (system upcase).run { s with driver := _, history := _ } _ = _
    rw [ih, List.flatMap_cons, List.append_assoc]
    rfl

/-- **A message is a run of the driver**, from the state in which it arrives to the state that the
handler leaves behind. -/
theorem run_messageControls (upcase : UInt16 → UInt16) (s : SystemState)
    (input : Option (List UInt8)) (output : Option ℕ) :
    (system upcase).run s ((messageControls s.driver input output).map Action.control) =
      some { s with
        driver := (rsMessageNotifyCallback s.driver input output).state
        history := s.history ++
          (messageControls s.driver input output).flatMap Control.events } := by
  rw [run_controls, rsMessageNotifyCallback_state]

/-! ### What a message can do -/

theorem mem_messageControls {input : Option (List UInt8)} {output : Option ℕ} {k : Control}
    (h : k ∈ messageControls s input output) :
    ∃ bytes t, input = some bytes ∧ requestType bytes = some t ∧ k ∈ requestControls bytes t := by
  unfold messageControls at h
  cases input with
  | none => cases h
  | some bytes =>
    simp only [] at h
    split_ifs at h
    · cases ht : requestType bytes with
      | none =>
        rw [ht] at h
        cases h
      | some t =>
        rw [ht] at h
        exact ⟨bytes, t, rfl, ht, h⟩
    · cases h

/-- **Only a request to unblock a process removes a context**, namely that of this process. -/
theorem mem_messageControls_remove {input : Option (List UInt8)} {output : Option ℕ}
    {p : UInt32} (h : .removeProcessContext p ∈ messageControls s input output) :
    ∃ bytes, input = some bytes ∧ requestType bytes = some .requestUnblockPid ∧
      readUlong bytes 16 = p := by
  obtain ⟨bytes, t, hinput, ht, hk⟩ := mem_messageControls h
  cases t with
  | requestUnblockPid =>
    simp only [requestControls, List.mem_cons, reduceCtorEq, Control.removeProcessContext.injEq,
      List.not_mem_nil, or_false, false_or] at hk
    exact ⟨bytes, hinput, ht, hk.symm⟩
  | _ => simp [requestControls, entryControls] at hk

/-! ### Bytes -/

/-- The bytes of a `ULONG`. -/
def ulongBytes (n : UInt32) : List UInt8 :=
  [UInt8.ofNat n.toNat, UInt8.ofNat (n.toNat / 2 ^ 8), UInt8.ofNat (n.toNat / 2 ^ 16),
    UInt8.ofNat (n.toNat / 2 ^ 24)]

theorem readUlong_ulongBytes (front : List UInt8) (n : UInt32) (rest : List UInt8) :
    readUlong (front ++ (ulongBytes n ++ rest)) front.length = n := by
  have hbyte : ∀ k, (front ++ (ulongBytes n ++ rest)).getD (front.length + k) 0 =
      (ulongBytes n ++ rest).getD k 0 := by
    intro k
    rw [List.getD_append_right _ _ _ _ (Nat.le_add_right _ _), Nat.add_sub_cancel_left]
  have hzero := hbyte 0
  have hlt := n.toNat_lt
  rw [Nat.add_zero] at hzero
  rw [readUlong, hzero, hbyte, hbyte, hbyte]
  -- the number is the sum of its four digits to the base 256
  apply UInt32.toNat_inj.1
  simp only [ulongBytes, List.cons_append, List.nil_append, List.getD_cons_zero,
    List.getD_cons_succ, UInt8.toNat_ofNat', UInt32.toNat_ofNat']
  omega

/-- The bytes of a `WCHAR`. -/
def wcharBytes (c : UInt16) : List UInt8 := [UInt8.ofNat c.toNat, UInt8.ofNat (c.toNat / 2 ^ 8)]

theorem length_wcharBytes (c : UInt16) : (wcharBytes c).length = 2 := rfl

/-! ### Configuration requests -/

/-- The state is what a configuration request leaves behind that is answered with
`STATUS_SUCCESS`. -/
def Accepted (fileCountThreshold timeWindowSeconds : UInt32) (s : DriverState) : Prop :=
  ∃ s₀ bytes output, requestType bytes = some .updateConfig ∧
    readUlong bytes 16 = fileCountThreshold ∧ readUlong bytes 20 = timeWindowSeconds ∧
    (rsMessageNotifyCallback s₀ (some bytes) output).status = .success ∧
    (rsMessageNotifyCallback s₀ (some bytes) output).state = s

end RansomShield
