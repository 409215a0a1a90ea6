import RansomShield.Client.HeaderClient
import RansomShield.Client.Listing
import RansomShield.Guarantees.FullUpdate
import RansomShield.Guarantees.SequenceNumbers
import RansomShield.System.Meaning

/-!
# The meaning of a message is all that counts

Two buffers with the same meaning are answered alike in every state, so that the sequence number,
the protocol version, the indices of the chunks and what lies behind the fields do not matter.
Conversely the states that the driver reaches tell any two meanings apart (`serve_injective`), and
every meaning can be sent (`meaning_encode`): the meanings are the buffers up to what the driver can
show (`same_meaning_iff`).  The client in the header and `CommManager` send the same meanings
(`header_client_agrees`).
-/

namespace RansomShield

/-! ### Meanings are told apart -/

namespace EntryNames

variable {maxEntries : ℕ}

/-- **The names that are added**, as far as there is room. -/
theorem dynamicNames_add (entries : EntryNames maxEntries) (s : DriverState) :
    dynamicNames (entries.add s) =
      (dynamicNames s ++ entries.names).take rsMaxAllowlistEntries := by
  have hall : ∀ names : List (List UInt16), (∀ name ∈ names, IsName name) → ∀ s,
      dynamicNames (names.foldl rsAddDynamicAllowlistEntry s) =
        names.foldl addName (dynamicNames s) := by
    intro names hnames
    induction names with
    | nil => exact fun _ => rfl
    | cons name names ih =>
      intro s
      rw [List.foldl_cons, List.foldl_cons, ih fun other h => hnames other (.tail _ h),
        RansomShield.dynamicNames_add s (hnames name (.head _))]
  have hle : (dynamicNames s).length ≤ rsMaxAllowlistEntries := by
    rw [length_dynamicNames]
    exact s.dynamicAllowlistCount.2
  have hkept : entries.names.filter (· ≠ []) = entries.names :=
    List.filter_eq_self.2 fun name h => decide_eq_true (entries.nonempty name h)
  rw [add, hall _ entries.isName, foldl_addName_of_le _ hle, hkept]

/-- An empty list tells two lists of names apart. -/
theorem eq_of_dynamicNames_eq {entries entries' : EntryNames maxEntries}
    (hmax : maxEntries ≤ rsMaxAllowlistEntries)
    (h : dynamicNames (entries.add DriverState.init) =
      dynamicNames (entries'.add DriverState.init)) : entries = entries' := by
  have hnames : ∀ e : EntryNames maxEntries, dynamicNames (e.add DriverState.init) = e.names := by
    intro e
    rw [e.dynamicNames_add, holds_init.dynamicNames, List.nil_append]
    exact List.take_of_length_le (e.length_le.trans hmax)
  rw [hnames, hnames] at h
  exact ext_names h

end EntryNames

namespace DriverRequest

/-- The type of the reply. -/
def replyType : DriverRequest → Option RsMessageType
  | .refused | .tooManyEntries => none
  | .queryBlockedPids => some .replyBlockedPids
  | .requestUnblockPid _ => some .replyUnblockPid
  | .queryConfig => some .queryConfig
  | .queryAllowlist => some .queryAllowlist
  | .requestPause => some .requestPause
  | .requestResume => some .requestResume
  | .updateConfig .. => some .updateConfig
  | .clearAllowlist => some .clearAllowlist
  | .updateAllowlistChunk _ => some .updateAllowlistChunk
  | .updateAllowlistFull _ => some .updateAllowlistFull

/-- The largest of the replies. -/
abbrev largestReply : ℕ := sizeofReplyBlockedPids

theorem replyType_serve (r : DriverRequest) (s : DriverState) :
    (r.serve s (some largestReply)).reply.map (fun reply => reply.header.messageType) =
      r.replyType := by
  have hle : ∀ size ∈ [sizeofReplyBlockedPids, sizeofReplyUnblockPid, sizeofReplyConfig,
      sizeofReplyAllowlist, sizeofReplyGeneric], size ≤ largestReply := by decide
  cases r with
  | refused => rfl
  | _ =>
    simp only [serve, RansomShield.queryBlockedPids, RansomShield.queryConfig,
      RansomShield.queryAllowlist, RansomShield.requestPause, RansomShield.requestResume,
      RansomShield.clearAllowlist, genericRequest]
    rw [withOutputBuffer_of_le (hle _ (by simp))]
    rfl

end DriverRequest

/-- The driver after the first settings. -/
def configuredState (n : UInt32) : SystemState :=
  { SystemState.init with
    driver := rsApplyConfig SystemState.init.driver n n 0
    history := SystemState.init.history ++ (Control.applyConfig n n 0).events }

theorem reachable_configuredState (upcase : UInt16 → UInt16) (n : UInt32) :
    Reachable upcase (configuredState n) := ⟨[.control (.applyConfig n n 0)], rfl⟩

section

variable {old threshold seconds : UInt32} {monitoring : UInt8}

theorem config_serve_updateConfig (s : DriverState) :
    ((DriverRequest.updateConfig threshold seconds monitoring).serve s
      (some DriverRequest.largestReply)).state.config =
        (rsApplyConfig s threshold seconds monitoring).config := rfl

theorem fileCountThreshold_serve (hold : 0 < old) :
    ((DriverRequest.updateConfig threshold seconds monitoring).serve (configuredState old).driver
      (some DriverRequest.largestReply)).state.config.fileCountThreshold =
        if 0 < threshold then threshold else old := by
  rw [config_serve_updateConfig]
  simp only [rsApplyConfig, configuredState, if_pos hold]

theorem timeWindowSeconds_serve (hold : 0 < old) :
    ((DriverRequest.updateConfig threshold seconds monitoring).serve (configuredState old).driver
      (some DriverRequest.largestReply)).state.config.timeWindowSeconds =
        if 0 < seconds then seconds else old := by
  rw [config_serve_updateConfig]
  simp only [rsApplyConfig, configuredState, if_pos hold]

end

/-- A setting where zero keeps the old one is known from what it does to two old ones. -/
theorem eq_of_kept {v v' : UInt32}
    (h : ∀ old : UInt32, 0 < old → (if 0 < v then v else old) = if 0 < v' then v' else old) :
    v = v' := by
  have hone := h 1 (by decide)
  have htwo := h 2 (by decide)
  by_cases hv : 0 < v
  · by_cases hv' : 0 < v'
    · rwa [if_pos hv, if_pos hv'] at hone
    · rw [if_pos hv, if_neg hv'] at hone htwo
      exact absurd (hone.symm.trans htwo) (by decide)
  · by_cases hv' : 0 < v'
    · rw [if_neg hv, if_pos hv'] at hone htwo
      exact absurd (hone.trans htwo.symm) (by decide)
    · rw [UInt32.not_lt, UInt32.le_zero_iff] at hv hv'
      rw [hv, hv']

/-- **Two meanings differ** in some answer or in some state. -/
theorem serve_injective (upcase : UInt16 → UInt16) {r r' : DriverRequest}
    (h : ∀ s, Reachable upcase s → ∀ output, r.serve s.driver output = r'.serve s.driver output) :
    r = r' := by
  have hinit := h SystemState.init ⟨[], rfl⟩
  have hlargest := hinit (some DriverRequest.largestReply)
  have htype : r.replyType = r'.replyType := by
    rw [← r.replyType_serve SystemState.init.driver, hlargest, r'.replyType_serve]
  cases r with
  | refused =>
    cases r' with
    | refused => rfl
    | tooManyEntries => cases congrArg MessageOutcome.status (hinit none)
    | _ => cases htype
  | tooManyEntries =>
    cases r' with
    | refused => cases congrArg MessageOutcome.status (hinit none)
    | tooManyEntries => rfl
    | _ => cases htype
  | requestUnblockPid processId =>
    cases r' with
    | requestUnblockPid processId' =>
      have hreply := congrArg MessageOutcome.reply hlargest
      rw [(RsReply.unblockPid.inj (Option.some.inj hreply)).2.2]
    | _ => cases htype
  | updateConfig threshold seconds monitoring =>
    cases r' with
    | updateConfig threshold' seconds' monitoring' =>
      have hconfig := fun n => congrArg (fun m => m.state.config)
        (h (configuredState n) (reachable_configuredState upcase n)
          (some DriverRequest.largestReply))
      have hthreshold : threshold = threshold' := eq_of_kept fun old hold => by
        have hkept := congrArg RsConfig.fileCountThreshold (hconfig old)
        rwa [fileCountThreshold_serve hold, fileCountThreshold_serve hold] at hkept
      have hseconds : seconds = seconds' := eq_of_kept fun old hold => by
        have hkept := congrArg RsConfig.timeWindowSeconds (hconfig old)
        rwa [timeWindowSeconds_serve hold, timeWindowSeconds_serve hold] at hkept
      have hmonitoring : monitoring = monitoring' :=
        congrArg RsConfig.monitoringEnabled (hconfig 1)
      rw [hthreshold, hseconds, hmonitoring]
    | _ => cases htype
  | updateAllowlistChunk entries =>
    cases r' with
    | updateAllowlistChunk entries' =>
      have hnames : entries = entries' := EntryNames.eq_of_dynamicNames_eq (by decide)
        (congrArg (fun m => dynamicNames m.state) hlargest)
      rw [hnames]
    | _ => cases htype
  | updateAllowlistFull entries =>
    cases r' with
    | updateAllowlistFull entries' =>
      have hnames : entries = entries' := EntryNames.eq_of_dynamicNames_eq (by decide)
        (congrArg (fun m => dynamicNames m.state) hlargest)
      rw [hnames]
    | _ => cases htype
  | queryBlockedPids | queryConfig | queryAllowlist | requestPause | requestResume
  | clearAllowlist =>
    cases r' <;> first | rfl | cases htype

/-! ### Every meaning can be sent -/

namespace EntryNames

variable {maxEntries : ℕ}

/-- The names that arrive of the strings of the client: they are cut, and nothing is sent for an
empty one. -/
def ofStrings (entries : List WString) (h : entries.length ≤ maxEntries) :
    EntryNames maxEntries where
  names := (entries.map fun e => e.chars.take (rsMaxAllowlistNameLen - 1)).filter (· ≠ [])
  length_le := by
    refine (List.length_filter_le _ _).trans ?_
    rwa [List.length_map]
  isName name hname := by
    obtain ⟨e, -, rfl⟩ := List.mem_map.1 (List.mem_of_mem_filter hname)
    exact isName_take e
  nonempty name hname := by simpa using List.of_mem_filter hname

/-- The names as strings of the client. -/
def strings (entries : EntryNames maxEntries) : List WString :=
  entries.names.attach.map fun name => ⟨name.1, (entries.isName name.1 name.2).2⟩

theorem length_strings (entries : EntryNames maxEntries) : entries.strings.length ≤ maxEntries := by
  rw [strings, List.length_map, List.length_attach]
  exact entries.length_le

theorem ofStrings_strings (entries : EntryNames maxEntries) :
    ofStrings entries.strings entries.length_strings = entries := by
  have hcut : entries.strings.map (fun e => e.chars.take (rsMaxAllowlistNameLen - 1)) =
      entries.names := by
    rw [strings, List.map_map]
    refine (List.map_congr_left fun name _ => ?_).trans (List.attach_map_subtype_val entries.names)
    exact List.take_of_length_le (entries.isName name.1 name.2).1
  have hkept : entries.names.filter (· ≠ []) = entries.names :=
    List.filter_eq_self.2 fun name h => decide_eq_true (entries.nonempty name h)
  exact ext_names ((congrArg (List.filter fun name => decide (name ≠ [])) hcut).trans hkept)

/-- **The names of the strings arrive**, where the driver reads the entries back. -/
theorem scan_eq_ofStrings {bytes : List UInt8} {base entryCount : ℕ} {entries : List WString}
    (h : entryCount ≤ maxEntries) (hlength : entries.length ≤ maxEntries)
    (hentries : rawEntries bytes base entryCount = entries.map wcsncpyS) :
    scan bytes base h = ofStrings entries hlength := by
  have hnames : (List.range entryCount).map (fun i =>
      scanEntry bytes (rsMaxAllowlistNameLen - 1) (base + 520 * i)) =
        entries.map fun e => e.chars.take (rsMaxAllowlistNameLen - 1) :=
    calc (List.range entryCount).map (fun i =>
          scanEntry bytes (rsMaxAllowlistNameLen - 1) (base + 520 * i))
      _ = (List.range entryCount).map fun i => cut (entryAt bytes (base + 520 * i)) := by
        exact List.map_congr_left fun i _ => scanEntry_eq_cut bytes (base + 520 * i)
      _ = (rawEntries bytes base entryCount).map cut := by
        simp only [rawEntries, List.map_map, Function.comp_def]
      _ = (entries.map wcsncpyS).map cut := by rw [hentries]
      _ = entries.map fun e => e.chars.take (rsMaxAllowlistNameLen - 1) := by
        simp only [List.map_map, Function.comp_def, cut_wcsncpyS]
  exact ext_names (congrArg (List.filter fun name => decide (name ≠ [])) hnames)

end EntryNames

section

variable (n : UInt32)

/-- **A request that consists of its header.** -/
theorem meaning_header {t : RsMessageType} (ht : t ∈ requestTypes) :
    meaning (makeHeader n t sizeofMessageHeader) =
      requestMeaning (makeHeader n t sizeofMessageHeader) t :=
  (isRequest_header n ht).meaning_eq

theorem isRequest_unblockPid (processId : UInt32) :
    IsRequest (makeHeader n .requestUnblockPid sizeofRequestUnblockPid ++ ulongBytes processId)
      .requestUnblockPid :=
  isRequest_makeHeader (by decide) rfl (by decide)

/-- **The process that the client asks for.** -/
theorem meaning_unblockRequest (processId : UInt32) :
    meaning (makeHeader n .requestUnblockPid sizeofRequestUnblockPid ++ ulongBytes processId) =
      .requestUnblockPid processId := by
  have hread : readUlong (makeHeader n .requestUnblockPid sizeofRequestUnblockPid ++
      ulongBytes processId) 16 = processId :=
    readUlong_ulongBytes (makeHeader n .requestUnblockPid sizeofRequestUnblockPid) processId []
  rw [(isRequest_unblockPid n processId).meaning_eq, requestMeaning, hread]
  exact if_neg (by simp [makeHeader, ulongBytes, sizeofRequestUnblockPid])

/-- **The settings that the client asks for.** -/
theorem meaning_updateConfigRequest (threshold seconds : UInt32) (monitoring : UInt8) :
    meaning (updateConfigRequest n threshold seconds monitoring) =
      .updateConfig threshold seconds monitoring := by
  have hthreshold : readUlong (updateConfigRequest n threshold seconds monitoring) 16 =
      threshold :=
    readUlong_ulongBytes (makeHeader n .updateConfig sizeofRequestUpdateConfig) threshold _
  have hseconds : readUlong (updateConfigRequest n threshold seconds monitoring) 20 =
      seconds := by
    rw [updateConfigRequest, ← List.append_assoc]
    exact readUlong_ulongBytes _ seconds _
  rw [(isRequest_updateConfig ..).meaning_eq, requestMeaning, hthreshold, hseconds]
  rfl

variable {entries : List WString}

/-- **The names of a chunk.** -/
theorem meaning_chunkRequest (chunkIndex chunkCount : ℕ)
    (h : entries.length ≤ rsMaxAllowlistChunk) :
    meaning (chunkRequest n chunkIndex chunkCount entries) =
      .updateAllowlistChunk (.ofStrings entries h) := by
  have hsize : ¬ (chunkRequest n chunkIndex chunkCount entries).length <
      sizeofRequestUpdateAllowlistChunk := by
    rw [chunkRequest, List.length_append, length_entriesBytes h]
    exact lt_irrefl _
  have hcount := chunkRequest_entryCount n chunkIndex chunkCount h
  have hentries := chunkMessage_entries n chunkIndex chunkCount h
  rw [(isRequest_chunk n chunkIndex chunkCount h).meaning_eq, requestMeaning, allowlistMeaning,
    if_neg hsize, dif_pos (hcount.trans_le h)]
  simp only [AllowlistMessage.entries, chunkMessage,
    (isRequest_chunk n chunkIndex chunkCount h).type] at hentries
  rw [EntryNames.scan_eq_ofStrings _ h hentries]

/-- **The names of a full update.** -/
theorem meaning_fullRequest (h : entries.length ≤ rsMaxAllowlistEntries) :
    meaning (fullRequest n entries) = .updateAllowlistFull (.ofStrings entries h) := by
  have hsize : ¬ (fullRequest n entries).length < sizeofRequestUpdateAllowlistFull := by
    rw [fullRequest, List.length_append, length_entriesBytes h]
    exact lt_irrefl _
  have hcount := fullRequest_entryCount n h
  have hentries := fullMessage_entries n h
  rw [(isRequest_full n h).meaning_eq, requestMeaning, allowlistMeaning, if_neg hsize,
    dif_pos (hcount.trans_le h)]
  simp only [AllowlistMessage.entries, fullMessage, (isRequest_full n h).type] at hentries
  rw [EntryNames.scan_eq_ofStrings _ h hentries]

end

/-- A chunk that claims one entry more than a chunk can have. -/
def overfullChunk (sequenceNumber : UInt32) : List UInt8 :=
  (makeHeader sequenceNumber .updateAllowlistChunk sizeofRequestUpdateAllowlistChunk ++
    (ulongBytes 0 ++ ulongBytes 1)) ++ (ulongBytes (UInt32.ofNat (rsMaxAllowlistChunk + 1)) ++
      (entriesArray rsMaxAllowlistChunk []).flatMap entryBytes)

/-- A buffer with a meaning, under any sequence number. -/
def DriverRequest.encode (sequenceNumber : UInt32) : DriverRequest → List UInt8
  | .refused => []
  | .tooManyEntries => overfullChunk sequenceNumber
  | .queryBlockedPids => makeHeader sequenceNumber .queryBlockedPids sizeofMessageHeader
  | .requestUnblockPid processId =>
    makeHeader sequenceNumber .requestUnblockPid sizeofRequestUnblockPid ++ ulongBytes processId
  | .queryConfig => queryConfigRequest sequenceNumber
  | .queryAllowlist => makeHeader sequenceNumber .queryAllowlist sizeofMessageHeader
  | .requestPause => pauseMonitoringRequest sequenceNumber
  | .requestResume => resumeMonitoringRequest sequenceNumber
  | .updateConfig threshold seconds monitoring =>
    updateConfigRequest sequenceNumber threshold seconds monitoring
  | .clearAllowlist => clearRequest sequenceNumber
  | .updateAllowlistChunk entries => chunkRequest sequenceNumber 0 1 entries.strings
  | .updateAllowlistFull entries => fullRequest sequenceNumber entries.strings

theorem isRequest_overfullChunk (n : UInt32) :
    IsRequest (overfullChunk n) .updateAllowlistChunk := by
  rw [overfullChunk, List.append_assoc]
  refine isRequest_makeHeader (by decide) ?_ (by decide)
  rw [List.length_append, List.length_append, List.length_append,
    length_entriesBytes (Nat.zero_le rsMaxAllowlistChunk)]
  rfl

theorem length_overfullChunk (n : UInt32) :
    (overfullChunk n).length = sizeofRequestUpdateAllowlistChunk := by
  have hheader : (makeHeader n .updateAllowlistChunk sizeofRequestUpdateAllowlistChunk ++
      (ulongBytes 0 ++ ulongBytes 1)).length = 24 := rfl
  have hcount : (ulongBytes (UInt32.ofNat (rsMaxAllowlistChunk + 1))).length = 4 := rfl
  rw [overfullChunk, List.length_append, hheader, List.length_append, hcount,
    length_entriesBytes (Nat.zero_le rsMaxAllowlistChunk),
    sizeofRequestUpdateAllowlistChunk]
  omega

theorem meaning_overfullChunk (n : UInt32) : meaning (overfullChunk n) = .tooManyEntries := by
  have hcount : readUlong (overfullChunk n) 24 = UInt32.ofNat (rsMaxAllowlistChunk + 1) :=
    readUlong_ulongBytes (makeHeader n .updateAllowlistChunk sizeofRequestUpdateAllowlistChunk ++
      (ulongBytes 0 ++ ulongBytes 1)) _ _
  have htoo : ¬ (readUlong (overfullChunk n) 24).toNat ≤ rsMaxAllowlistChunk := by
    rw [hcount]
    decide
  rw [(isRequest_overfullChunk n).meaning_eq, requestMeaning, allowlistMeaning,
    if_neg (length_overfullChunk n).not_lt, dif_neg htoo]

/-- **Every meaning can be sent**, under any sequence number. -/
theorem meaning_encode (n : UInt32) (r : DriverRequest) : meaning (r.encode n) = r := by
  cases r with
  | refused => rfl
  | tooManyEntries => exact meaning_overfullChunk n
  | requestUnblockPid processId => exact meaning_unblockRequest n processId
  | updateConfig threshold seconds monitoring =>
    exact meaning_updateConfigRequest n threshold seconds monitoring
  | updateAllowlistChunk entries =>
    rw [DriverRequest.encode, meaning_chunkRequest n 0 1 entries.length_strings,
      entries.ofStrings_strings]
  | updateAllowlistFull entries =>
    rw [DriverRequest.encode, meaning_fullRequest n entries.length_strings,
      entries.ofStrings_strings]
  | queryBlockedPids | queryConfig | queryAllowlist | requestPause | requestResume
  | clearAllowlist => exact meaning_header n (by decide)

/-! ### Buffers with the same meaning -/

/-- **When two buffers are handled alike**: the driver answers them alike in every state that it can
reach, for every output buffer, and goes on alike, if and only if they have the same meaning. -/
theorem same_meaning_iff (upcase : UInt16 → UInt16) (bytes bytes' : List UInt8) :
    (∀ s, Reachable upcase s → ∀ output,
      rsMessageNotifyCallback s.driver (some bytes) output =
        rsMessageNotifyCallback s.driver (some bytes') output) ↔
      meaning bytes = meaning bytes' := by
  constructor
  · intro h
    refine serve_injective upcase fun s hs output => ?_
    rw [← rsMessageNotifyCallback_eq_serve, ← rsMessageNotifyCallback_eq_serve]
    exact h s hs output
  · intro h s _ output
    rw [rsMessageNotifyCallback_eq_serve, rsMessageNotifyCallback_eq_serve, h]

/-! ### The client in the header -/

theorem meaning_zeroed_query :
    meaning (zeroedHeader .queryBlockedPids sizeofMessageHeader) = .queryBlockedPids := rfl

theorem meaning_zeroed_unblock (processId : UInt32) :
    meaning (zeroedHeader .requestUnblockPid sizeofRequestUnblockPid ++ ulongBytes processId) =
      .requestUnblockPid processId := by
  have hrequest : IsRequest (zeroedHeader .requestUnblockPid sizeofRequestUnblockPid ++
      ulongBytes processId) .requestUnblockPid :=
    ⟨(by decide : 16 ≤ 20), (by decide : 20 ≤ 20), rfl⟩
  have hread : readUlong (zeroedHeader .requestUnblockPid sizeofRequestUnblockPid ++
      ulongBytes processId) 16 = processId :=
    readUlong_ulongBytes (zeroedHeader .requestUnblockPid sizeofRequestUnblockPid) processId []
  rw [hrequest.meaning_eq, requestMeaning, hread]
  exact if_neg (by simp [zeroedHeader, ulongBytes, sizeofRequestUnblockPid])

theorem filterSendMessage_eq_send (deliveries : ℕ → Delivery) (driver : Option DriverState)
    (requests replySize : ℕ) {request request' : List UInt8} (reply : Memory)
    (h : meaning request = meaning request') :
    let own := filterSendMessage (deliveries requests) driver request reply replySize
    let other := (Session.mk true driver requests).send deliveries (request', replySize)
    own.1 = other.1.driver ∧ own.2.1 = other.2.1 ∧
      ∀ r, other.2.2 = some r → Buffered.readReply own.2.2 = some r := by
  intro own other
  cases driver with
  | none => exact ⟨rfl, rfl, fun _ hr => by cases hr⟩
  | some s =>
    have himplements := Buffered.implements_ofBytes s request (some reply) replySize
    have hdelivers := Buffered.readReply_output s (some (Buffered.ofBytes request))
      request.length reply replySize
    rw [Option.map_some] at himplements hdelivers
    rw [Session.ofBytes_request] at hdelivers
    rw [rsMessageNotifyCallback_eq_serve, h, ← rsMessageNotifyCallback_eq_serve]
      at himplements hdelivers
    simp only [own, other, filterSendMessage, Session.send, if_true, himplements.state,
      himplements.status]
    split_ifs
    · exact ⟨rfl, rfl, fun r hr => hdelivers r hr reply⟩
    all_goals exact ⟨rfl, rfl, fun _ hr => by cases hr⟩

/-- **The client in the header does what `CommManager` does.**  Whatever becomes of a request, and
whatever sequence number `CommManager` would draw: both queries have the same result and leave the
same driver behind, and the caller's structure is read as the reply that arrives, whatever it held
before; both requests to unblock a process have the same result and leave the same driver behind;
and every notification of the driver arrives with all its fields. -/
theorem header_client_agrees (deliveries : ℕ → Delivery) (driver : Option DriverState)
    (requests : ℕ) (number processId : UInt32) (memory : Memory) :
    (let own := ransomShieldQueryBlockedPids (deliveries requests) driver memory
     let other := (Session.mk true driver requests).send deliveries
       (makeHeader number .queryBlockedPids sizeofMessageHeader, sizeofReplyBlockedPids)
     own.1 = other.1.driver ∧ own.2.1 = other.2.1 ∧
       ∀ r, other.2.2 = some r → Buffered.readReply own.2.2 = some r) ∧
    (let other := (Session.mk true driver requests).send deliveries
       (makeHeader number .requestUnblockPid sizeofRequestUnblockPid ++ ulongBytes processId,
         sizeofReplyUnblockPid)
     ransomShieldUnblockPid (deliveries requests) driver processId memory =
       (other.1.driver, other.2.1)) ∧
    ∀ (n : BlockNotification) (filterHeader : Fin sizeofFilterMessageHeader → UInt8)
      (driverStack stack : Memory),
      readNotification (ransomShieldGetNotification (List.ofFn filterHeader)
        (Buffered.notificationBytes (n.message number) driverStack) stack memory) =
          some (n.message number) := by
  refine ⟨?_, ?_, ?_⟩
  · refine filterSendMessage_eq_send deliveries driver requests _ memory ?_
    rw [meaning_zeroed_query, meaning_header number (by decide)]
    rfl
  · have hsame := filterSendMessage_eq_send deliveries driver requests sizeofReplyUnblockPid memory
      ((meaning_zeroed_unblock processId).trans (meaning_unblockRequest number processId).symm)
    exact Prod.ext hsame.1 hsame.2.1
  · intro n filterHeader driverStack stack
    exact readNotification_get n number (List.length_ofFn) driverStack stack memory

end RansomShield
