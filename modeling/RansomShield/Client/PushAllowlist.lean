import RansomShield.Client.Defs
import RansomShield.Client.Requests
import RansomShield.Machine.Program

/-!
# Pushing the allowlist

`CommManager::PushAllowlist` as a program that sends requests.  It clears the allowlist of the
driver, and then sends the new one: in one message when it has at most 128 entries, and in chunks of
32 entries otherwise.  The requests of a push are those of its messages (`pushAllowlist_sends`), and
`exec_pushMessages` gives the names that the driver keeps of the entries when it has handled all of
them.
-/

namespace RansomShield

/-! ### The program -/

/-- What a call of `SendRequest` gives back: its result, and `Status` of the reply buffer, which was
zeroed. -/
structure SendOutcome where
  hr : HResult
  status : NtStatus
  deriving DecidableEq

/-- The arguments of a call of `SendRequest`: the request and the size of the reply buffer. -/
abbrev SendArguments := List UInt8 × ℕ

/-- The calls of `SendRequest` of a client that returns an `HRESULT`. -/
abbrev ClientProgram := Program SendArguments SendOutcome HResult

/-- The entries of a chunk: from `startIdx` up to `endIdx`. -/
def chunkEntries (entries : List WString) (chunkIdx : ℕ) : List WString :=
  (entries.drop (chunkIdx * rsMaxAllowlistChunk)).take rsMaxAllowlistChunk

/-- The loop over the last `remaining` chunks.  `numbers` are the sequence numbers that `MakeHeader`
draws for the requests of the push. -/
def pushChunks (numbers : ℕ → UInt32) (entries : List WString) (totalChunks : ℕ) :
    ℕ → HResult → ClientProgram
  | 0, hr => .done hr
  | remaining + 1, _ =>
    let chunkIdx := totalChunks - (remaining + 1)
    .request
      (chunkRequest (numbers (chunkIdx + 1)) chunkIdx totalChunks (chunkEntries entries chunkIdx),
        sizeofReplyGeneric)
      fun outcome =>
        if outcome.hr.failed then .done outcome.hr
        else if outcome.status ≠ .success then .done outcome.hr
        else pushChunks numbers entries totalChunks remaining outcome.hr

/-- The number of chunks. -/
def totalChunks (entries : List WString) : ℕ :=
  (entries.length + rsMaxAllowlistChunk - 1) / rsMaxAllowlistChunk

/-- `CommManager::PushAllowlist`. -/
def pushAllowlist (numbers : ℕ → UInt32) (entries : List WString) : ClientProgram :=
  .request (clearRequest (numbers 0), sizeofReplyGeneric) fun outcome =>
    if outcome.hr.failed then .done outcome.hr
    else if entries.length ≤ rsMaxAllowlistEntries then
      .request (fullRequest (numbers 1) entries, sizeofReplyGeneric) fun outcome =>
        .done outcome.hr
    else pushChunks numbers entries (totalChunks entries) (totalChunks entries) outcome.hr

/-- `Status` of a reply buffer that was zeroed before the request. -/
def replyStatus : Option RsReply → NtStatus
  | some (.generic _ status) => status
  | _ => .success

/-- `FilterSendMessage` passes the request to `RsMessageNotifyCallback`. -/
def serve (s : DriverState) (args : SendArguments) : DriverState × SendOutcome :=
  let m := rsMessageNotifyCallback s (some args.1) (some args.2)
  (m.state, { hr := .ofStatus m.status, status := replyStatus m.reply })

/-! ### The messages of a push -/

theorem length_chunkEntries_le (entries : List WString) (chunkIdx : ℕ) :
    (chunkEntries entries chunkIdx).length ≤ rsMaxAllowlistChunk :=
  List.length_take_le _ _

/-- The messages of a push, in order. -/
def pushMessages (numbers : ℕ → UInt32) (entries : List WString) : List AllowlistMessage :=
  clearMessage (numbers 0) ::
    if h : entries.length ≤ rsMaxAllowlistEntries then [fullMessage (numbers 1) h]
    else
      (List.range (totalChunks entries)).map fun i =>
        chunkMessage (numbers (i + 1)) i (totalChunks entries) (length_chunkEntries_le entries i)

/-- The call of `SendRequest` for a message. -/
def AllowlistMessage.arguments (m : AllowlistMessage) : SendArguments := (m.bytes, m.outputLength)

/-- The outcome is in order: a success, and so is the status in the reply. -/
def SendOutcome.Ok (outcome : SendOutcome) : Prop :=
  outcome.hr.failed = false ∧ outcome.status = .success

/-- The result is a failure. -/
def SendOutcome.Fails (outcome : SendOutcome) : Prop := outcome.hr.failed = true

/-- A program sends the requests of the messages, and succeeds with them. -/
abbrev ClientProgram.Sends (messages : List AllowlistMessage) (p : ClientProgram) : Prop :=
  p.Follows SendOutcome.Ok SendOutcome.Fails (fun hr => hr.failed = false)
    (messages.map AllowlistMessage.arguments)

variable (numbers : ℕ → UInt32) (entries : List WString)

/-- A client that gives up when a request has failed, and otherwise goes on or gives up after a
response that is not in order. -/
theorem sends_cons {m : AllowlistMessage} {ms : List AllowlistMessage}
    {next : SendOutcome → ClientProgram}
    (hfails : ∀ outcome, outcome.hr.failed = true → (next outcome).IsDone)
    (hnext : ∀ outcome, outcome.hr.failed = false →
      (next outcome).Sends ms ∨ (next outcome).IsDone ∧ ¬ outcome.Ok) :
    ClientProgram.Sends (m :: ms) (.request m.arguments next) := by
  refine ⟨rfl, fun outcome => ⟨?_, hfails outcome⟩⟩
  cases hfailed : outcome.hr.failed with
  | true =>
    refine .inr ⟨hfails outcome hfailed, fun hok => ?_⟩
    cases hfailed.symm.trans hok.1
  | false => exact hnext outcome hfailed

theorem pushChunks_sends (total remaining : ℕ) (hle : remaining ≤ total) (hr : HResult)
    (hhr : hr.failed = false) :
    (pushChunks numbers entries total remaining hr).Sends
      ((List.range' (total - remaining) remaining).map fun i =>
        chunkMessage (numbers (i + 1)) i total (length_chunkEntries_le entries i)) := by
  induction remaining generalizing hr with
  | zero => exact hhr
  | succ remaining ih =>
    have hnext : total - (remaining + 1) + 1 = total - remaining := by omega
    rw [List.range'_succ, hnext]
    refine sends_cons ?_ ?_
    · intro outcome hfailed
      simp only [hfailed, if_true]
      trivial
    · intro outcome hfailed
      by_cases hstatus : outcome.status = .success
      · simp only [hfailed, Bool.false_eq_true, if_false, hstatus, ne_eq, not_true_eq_false]
        exact .inl (ih (by omega) outcome.hr hfailed)
      · refine .inr ⟨?_, fun hok => hstatus hok.2⟩
        simp only [hfailed, Bool.false_eq_true, if_false, hstatus, ne_eq, not_false_eq_true,
          if_true]
        trivial

/-- **The requests of a push** are those of its messages. -/
theorem pushAllowlist_sends :
    (pushAllowlist numbers entries).Sends (pushMessages numbers entries) := by
  refine sends_cons ?_ ?_
  · intro outcome hfailed
    simp only [hfailed, if_true]
    trivial
  · intro outcome hfailed
    refine .inl ?_
    by_cases hlen : entries.length ≤ rsMaxAllowlistEntries
    · simp only [hfailed, Bool.false_eq_true, if_false, hlen, if_true, dif_pos]
      exact sends_cons (fun _ _ => trivial) fun outcome hfailed => .inl hfailed
    · simp only [hfailed, Bool.false_eq_true, if_false, hlen, dif_neg, not_false_eq_true]
      have h := pushChunks_sends numbers entries (totalChunks entries) (totalChunks entries) le_rfl
        outcome.hr hfailed
      rwa [Nat.sub_self, ← List.range_eq_range'] at h

/-! ### The names of a push -/

/-- The name that the driver stores of an entry: its first 259 characters. -/
def storedName (e : WString) : List UInt16 := e.chars.take (rsMaxAllowlistNameLen - 1)

/-- The names that the driver keeps of the entries. -/
def newNames (entries : List WString) : List (List UInt16) :=
  ((entries.map storedName).filter (· ≠ [])).take rsMaxAllowlistEntries

theorem map_cut_wcsncpyS : (entries.map wcsncpyS).map cut = entries.map storedName := by
  rw [List.map_map]
  exact List.map_congr_left fun e _ => cut_wcsncpyS e

theorem flatMap_chunkEntries (n : ℕ) :
    (List.range n).flatMap (chunkEntries entries) = entries.take (n * rsMaxAllowlistChunk) := by
  induction n with
  | zero => simp
  | succ n ih =>
    rw [List.range_succ, List.flatMap_append, ih, List.flatMap_singleton, Nat.succ_mul,
      List.take_add]
    rfl

/-- The messages behind the clear do not clear, and carry all of the entries. -/
theorem tail_pushMessages :
    (∀ m ∈ (pushMessages numbers entries).tail, m.isClear = false) ∧
      (pushMessages numbers entries).tail.flatMap AllowlistMessage.entries =
        entries.map wcsncpyS := by
  unfold pushMessages
  rw [List.tail_cons]
  split_ifs with h
  · refine ⟨?_, ?_⟩
    · intro m hm
      rw [List.mem_singleton.1 hm, AllowlistMessage.isClear, fullMessage,
        (isRequest_full _ h).type]
      rfl
    · rw [List.flatMap_singleton, fullMessage_entries]
  · refine ⟨?_, ?_⟩
    · intro m hm
      obtain ⟨i, -, rfl⟩ := List.mem_map.1 hm
      rw [AllowlistMessage.isClear, chunkMessage,
        (isRequest_chunk _ _ _ (length_chunkEntries_le entries i)).type]
      rfl
    · have hlen : entries.length ≤ totalChunks entries * rsMaxAllowlistChunk := by
        show entries.length ≤ (entries.length + 32 - 1) / 32 * 32
        omega
      rw [List.flatMap_map]
      simp only [chunkMessage_entries]
      rw [← List.map_flatMap, flatMap_chunkEntries, List.take_of_length_le hlen]

theorem exec_changeNames_of_not_isClear {messages : List AllowlistMessage}
    (h : ∀ m ∈ messages, m.isClear = false) (names : List (List UInt16)) :
    exec AllowlistMessage.changeNames names messages =
      ((messages.flatMap AllowlistMessage.entries).map cut).foldl addName names := by
  induction messages generalizing names with
  | nil => rfl
  | cons m messages ih =>
    rw [exec_cons, ih fun m' hm' => h m' (List.mem_cons_of_mem _ hm'), AllowlistMessage.changeNames,
      h m List.mem_cons_self, List.flatMap_cons, List.map_append, List.foldl_append]
    rfl

/-- **The list of names after all messages of a push.** -/
theorem exec_pushMessages (names : List (List UInt16)) :
    exec AllowlistMessage.changeNames names (pushMessages numbers entries) = newNames entries := by
  obtain ⟨hclear, hentries⟩ := tail_pushMessages numbers entries
  have hfirst : AllowlistMessage.changeNames names (clearMessage (numbers 0)) = [] := by
    rw [AllowlistMessage.changeNames, AllowlistMessage.isClear, clearMessage,
      (isRequest_clear _).type]
    rfl
  show exec _ (AllowlistMessage.changeNames names (clearMessage (numbers 0)))
    (pushMessages numbers entries).tail = _
  rw [hfirst, exec_changeNames_of_not_isClear hclear, hentries, map_cut_wcsncpyS]
  exact foldl_addName [] _

end RansomShield
