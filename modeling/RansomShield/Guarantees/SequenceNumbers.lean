import RansomShield.System.Dispatch
import RansomShield.Machine.Tickets

/-!
# Sequence numbers

Every message of the driver draws its number from `g_MessageSequence` under the lock.  A reply is
built while its handler runs (`reply_sequenceNumber`), but a notification is sent after the lock is
released, since `FltSendMessage` cannot be called with it.  So the numbers are those of a counter
with tickets (`tickets_of_run`): no number is used twice as long as the counter does not wrap
around, and a client may receive a notification after one with a larger number
(`overtaken_notification`), but only when the call that sends it had drawn its number by then
(`sequence_numbers`).
-/

namespace RansomShield

/-! ### Replies -/

/-- The header of a reply. -/
def RsReply.header : RsReply → RsMessageHeader
  | .blockedPids header _ _ => header
  | .unblockPid header _ _ => header
  | .config header _ _ _ _ _ => header
  | .allowlist header _ _ => header
  | .generic header _ => header

/-- The outcome has a reply only if it is a success, and the reply carries the number that the only
draw among the control actions takes. -/
def MessageOutcome.Numbered (m : MessageOutcome) (s : DriverState) (controls : List Control) :
    Prop :=
  ∀ reply, m.reply = some reply → m.status = .success ∧
    ∃ ks ks', controls = ks ++ .drawSequence :: ks' ∧ .drawSequence ∉ ks ∧ .drawSequence ∉ ks' ∧
      reply.header.sequenceNumber = (exec Control.apply s ks).messageSequence

section

variable {s : DriverState}

theorem numbered_of_none {m : MessageOutcome} (h : m.reply = none) (controls : List Control) :
    m.Numbered s controls := by
  intro reply hreply
  rw [h] at hreply
  cases hreply

theorem numbered_withOutputBuffer {output : Option ℕ} {size : ℕ} {go : MessageOutcome}
    {controls : List Control} (h : go.Numbered s controls) :
    (withOutputBuffer s output size go).Numbered s controls :=
  withOutputBuffer_cases (P := fun m => m.Numbered s controls) (numbered_of_none rfl _)
    fun _ _ _ => h

theorem numbered_genericRequest (ks : List Control) {t : RsMessageType} {output : Option ℕ}
    {change : DriverState → DriverState} (h : change s = exec Control.apply s ks)
    (hks : .drawSequence ∉ ks) :
    (genericRequest s t output change).Numbered s (ks ++ [.drawSequence]) := by
  refine numbered_withOutputBuffer ?_
  rintro reply ⟨⟩
  exact ⟨rfl, ks, [], rfl, hks, List.not_mem_nil, by rw [← h]; rfl⟩

theorem numbered_allowlistRequest {t : RsMessageType} {size maxEntries countOffset : ℕ}
    {bytes : List UInt8} {output : Option ℕ} :
    (allowlistRequest s t size maxEntries countOffset bytes output).Numbered s
      (entryControls bytes (countOffset + 4) (readUlong bytes countOffset).toNat ++
        [.drawSequence]) := by
  unfold allowlistRequest
  split_ifs
  · exact numbered_of_none rfl _
  · refine numbered_withOutputBuffer ?_
    dsimp only
    split_ifs
    · exact numbered_of_none rfl _
    · refine numbered_genericRequest _ (addEntries_eq bytes _ _) ?_
      simp [entryControls]

theorem numbered_rsMessageNotifyCallback {bytes : List UInt8} {output : Option ℕ} :
    (rsMessageNotifyCallback s (some bytes) output).Numbered s
      ((requestType bytes).elim [] (requestControls bytes)) := by
  have hfirst : ∀ (m : MessageOutcome) (ks : List Control), m.status = .success →
      (∀ reply, m.reply = some reply →
        reply.header.sequenceNumber = s.messageSequence) → .drawSequence ∉ ks →
      m.Numbered s (.drawSequence :: ks) := by
    intro m ks hstatus hnumber hks reply hreply
    exact ⟨hstatus, [], ks, rfl, List.not_mem_nil, hks, hnumber reply hreply⟩
  unfold rsMessageNotifyCallback
  dsimp only
  split_ifs
  · exact numbered_of_none rfl _
  · exact numbered_of_none rfl _
  · cases requestType bytes with
    | none => exact numbered_of_none rfl _
    | some t =>
      cases t with
      | queryBlockedPids | queryConfig | queryAllowlist =>
        refine numbered_withOutputBuffer (hfirst _ _ rfl ?_ (by simp))
        rintro reply ⟨⟩
        rfl
      | requestUnblockPid =>
        simp only [requestUnblockPid]
        split_ifs
        · exact numbered_of_none rfl _
        · refine numbered_withOutputBuffer (hfirst _ _ rfl ?_ (by simp))
          rintro reply ⟨⟩
          rfl
      | requestPause => exact numbered_genericRequest [.setMonitoring 0] rfl (by simp)
      | requestResume => exact numbered_genericRequest [.setMonitoring 1] rfl (by simp)
      | updateConfig =>
        simp only [updateConfig]
        split_ifs
        · exact numbered_of_none rfl _
        · exact numbered_genericRequest [.applyConfig _ _ _] rfl (by simp)
      | clearAllowlist =>
        exact numbered_genericRequest [.clearDynamicAllowlist] rfl (by simp)
      | updateAllowlistChunk | updateAllowlistFull => exact numbered_allowlistRequest
      | notifyBlockedPid | notifyConfigUpdated | notifyAllowlistUpdated | replyBlockedPids
      | replyUnblockPid => exact numbered_of_none rfl _

end

/-- **A reply carries the number that its handler draws.** -/
theorem reply_sequenceNumber (s : DriverState) (input : Option (List UInt8))
    (output : Option ℕ) (reply : RsReply)
    (hreply : (rsMessageNotifyCallback s input output).reply = some reply) :
    ∃ ks ks', messageControls s input output = ks ++ .drawSequence :: ks' ∧
      .drawSequence ∉ ks ∧ .drawSequence ∉ ks' ∧
      reply.header.sequenceNumber = (exec Control.apply s ks).messageSequence := by
  cases input with
  | none => cases hreply
  | some bytes =>
    obtain ⟨hstatus, hnumber⟩ := numbered_rsMessageNotifyCallback reply hreply
    rw [messageControls, if_pos hstatus]
    exact hnumber

/-! ### The numbers of a state -/

/-- The message that a call has built, and not sent yet. -/
def CallPhase.unsent : CallPhase → Option RsNotificationBlockedPid
  | .sending _ _ notification => some notification
  | _ => none

namespace SystemState

variable (s : SystemState)

/-- The message that a call has built, and not sent yet. -/
def unsent (c : CallId) : Option RsNotificationBlockedPid :=
  (s.calls c).bind fun call => call.phase.unsent

/-- The numbers of the notifications, in the order in which they are sent. -/
def sentNumbers : List UInt32 := s.sent.map fun message => message.2.header.sequenceNumber

variable {s}

theorem unsent_of_calls {c : CallId} {call : Call} (hcall : s.calls c = some call) :
    s.unsent c = call.phase.unsent := by
  rw [unsent, hcall, Option.bind_some]

theorem unsent_update {s' : SystemState} {c : CallId} {call : Call}
    (h : s'.calls = Function.update s.calls c (some call)) :
    s'.unsent = Function.update s.unsent c call.phase.unsent := by
  funext d
  rw [Function.update_apply]
  exact bind_update h _ d

theorem unsent_update_same {s' : SystemState} {c : CallId} {call : Call}
    (h : s'.calls = Function.update s.calls c (some call))
    (hphase : call.phase.unsent = s.unsent c) : s'.unsent = s.unsent := by
  rw [unsent_update h, hphase, Function.update_eq_self]

end SystemState

theorem SectionResult.unsent_phase (p : UInt32) (r : SectionResult) :
    (r.phase p).unsent = none := by
  unfold SectionResult.phase
  cases r.result p with
  | none => rfl
  | some result => cases hn : result.notification <;> simp [hn, CallPhase.unsent]

theorem DriverState.SameGlobals.messageSequence {s s' : DriverState} (h : s.SameGlobals s') :
    s'.messageSequence = s.messageSequence := by
  obtain ⟨_, _, rfl⟩ := h
  rfl

/-! ### What a step does to the numbers -/

/-- What an action does to the counter. -/
def Action.ticket : Action → Option (TicketAction CallId)
  | .advance c .drawSequence => some (.draw c)
  | .advance c .sendMessage => some (.use c)
  | .control .drawSequence => some .spend
  | _ => none

/-- What a step does to the numbers. -/
inductive NumberStep (s : SystemState) : Action → SystemState → Prop
  | draws {c s'} {notification : RsNotificationBlockedPid} (hfree : s.unsent c = none)
    (hnumber : notification.header.sequenceNumber = s.driver.messageSequence)
    (hnext : s'.driver.messageSequence = s.driver.messageSequence + 1)
    (hunsent : s'.unsent = Function.update s.unsent c (some notification))
    (hsent : s'.sent = s.sent) : NumberStep s (.advance c .drawSequence) s'
  | sends {c port notification s'} (hnotification : s.unsent c = some notification)
    (hnext : s'.driver.messageSequence = s.driver.messageSequence)
    (hunsent : s'.unsent = Function.update s.unsent c none)
    (hsent : s'.sent = s.sent ++ [(port, notification)]) :
    NumberStep s (.advance c .sendMessage) s'
  | replies {s'} (hnext : s'.driver.messageSequence = s.driver.messageSequence + 1)
    (hunsent : s'.unsent = s.unsent) (hsent : s'.sent = s.sent) :
    NumberStep s (.control .drawSequence) s'
  | other {a s'} (hticket : a.ticket = none)
    (hnext : s'.driver.messageSequence = s.driver.messageSequence)
    (hunsent : s'.unsent = s.unsent) (hsent : s'.sent = s.sent) : NumberStep s a s'

theorem numberStep_of_callStep {s s' : SystemState} {c : CallId} {call : Call} {step : CallStep}
    (hcall : s.calls c = some call) (h : callStep s c call step = some s') :
    NumberStep s (.advance c step) s' := by
  have hold := SystemState.unsent_of_calls hcall
  unfold callStep at h
  split at h
  · next hphase =>
    cases h
    refine .other rfl (sameGlobals_recordFirstSection ..).messageSequence
      (SystemState.unsent_update_same rfl ?_) rfl
    rw [SectionResult.unsent_phase, hold, hphase]
    rfl
  · next hphase =>
    cases h
    exact .other rfl rfl (SystemState.unsent_update_same rfl (by rw [hold, hphase]; rfl)) rfl
  · next hphase =>
    cases h
    exact .other rfl rfl (SystemState.unsent_update_same rfl (by rw [hold, hphase]; rfl)) rfl
  · next hphase =>
    cases h
    refine .other rfl (sameGlobals_recordSecondSection ..).messageSequence
      (SystemState.unsent_update_same rfl ?_) rfl
    rw [SectionResult.unsent_phase, hold, hphase]
    rfl
  · next hphase =>
    split at h
    · cases h
      exact .other rfl rfl (SystemState.unsent_update_same rfl (by rw [hold, hphase]; rfl)) rfl
    · cases h
      exact .other rfl rfl (SystemState.unsent_update_same rfl (by rw [hold, hphase]; rfl)) rfl
  · next result n port hphase =>
    cases h
    have hunsent := SystemState.unsent_update (SystemState.setPhase_calls s c call
      (.sending result port (n.message s.driver.messageSequence)))
    exact .draws (by rw [hold, hphase]; rfl) rfl rfl hunsent rfl
  · next result port notification hphase =>
    cases h
    have hunsent := SystemState.unsent_update
      (SystemState.setPhase_calls s c call (.returned result))
    exact .sends (by rw [hold, hphase]; rfl) rfl hunsent rfl
  · cases h

/-- **What a step does to the numbers.** -/
theorem numberStep_of_step {upcase : UInt16 → UInt16} {s s' : SystemState} {a : Action}
    (h : (system upcase).step s a = some s') : NumberStep s a s' := by
  cases a with
  | advance c step =>
    obtain ⟨call, hcall, hstep⟩ := Option.bind_eq_some_iff.1 h
    exact numberStep_of_callStep hcall hstep
  | control k =>
    cases h
    cases k with
    | drawSequence => exact .replies rfl rfl rfl
    | removeProcessContext p =>
      exact .other rfl (sameGlobals_removeProcessContext s.driver p).messageSequence rfl rfl
    | addDynamicAllowlistEntry entry =>
      refine .other rfl ?_ rfl rfl
      simp only [Control.apply, rsAddDynamicAllowlistEntry]
      split_ifs <;> rfl
    | applyConfig | setMonitoring | clearDynamicAllowlist | getBlockedPids | getPidCounts
    | connect | disconnect => exact .other rfl rfl rfl rfl
  | pass c data | track c data | call c image t =>
    obtain ⟨d, call, hd, hphase, rfl⟩ | ⟨d, step, call, ha, -, -⟩ | ⟨k, ha, -⟩ :=
      system_step_cases h
    · refine .other rfl rfl (SystemState.unsent_update_same rfl ?_) rfl
      rw [SystemState.unsent, hd]
      rcases hphase with hphase | hphase
      · rw [hphase]
        rfl
      · rw [hphase]
        rfl
    · cases ha
    · cases ha

/-! ### Runs of the counter -/

/-- The action draws a number. -/
def Action.draws : Action → Bool
  | .advance _ .drawSequence => true
  | .control .drawSequence => true
  | _ => false

/-- The number that a reply draws. -/
def replyNumber (s : SystemState) (a : Action) (_ : SystemState) : List UInt32 :=
  match a with
  | .control .drawSequence => [s.driver.messageSequence]
  | _ => []

/-- The numbers of the replies in a run. -/
def replyNumbers (upcase : UInt16 → UInt16) (as : List Action) : List UInt32 :=
  (system upcase).outputs replyNumber SystemState.init as

theorem of_ticket_eq_none {a : Action} (h : a.ticket = none) (s s' : SystemState) :
    a.draws = false ∧ replyNumber s a s' = [] := by
  cases a with
  | advance c step => cases step <;> first | exact ⟨rfl, rfl⟩ | cases h
  | control k => cases k <;> first | exact ⟨rfl, rfl⟩ | cases h
  | pass | track | call => exact ⟨rfl, rfl⟩

/-- The numbers of the driver are those of the counter. -/
structure SystemState.Counted (s : SystemState) (replies : List UInt32)
    (t : TicketState CallId) : Prop where
  next : s.driver.messageSequence = UInt32.ofNat t.next
  held : ∀ c, (s.unsent c).map (fun m => m.header.sequenceNumber) = (t.held c).map UInt32.ofNat
  used : s.sentNumbers = t.used.map UInt32.ofNat
  spent : replies = t.spent.map UInt32.ofNat

theorem counted_init : SystemState.init.Counted [] (.init CallId) := ⟨rfl, fun _ => rfl, rfl, rfl⟩

theorem SystemState.Counted.exists_unsent {s : SystemState} {replies : List UInt32}
    {t : TicketState CallId} (h : s.Counted replies t) {c : CallId} {n : ℕ}
    (hheld : t.held c = some n) :
    ∃ message, s.unsent c = some message ∧ message.header.sequenceNumber = UInt32.ofNat n := by
  have hc := h.held c
  rw [hheld, Option.map_some] at hc
  exact Option.map_eq_some_iff.1 hc

theorem map_update {C A B D : Type*} [DecidableEq C] {f : C → Option A} {f' : C → Option B}
    {g : A → D} {g' : B → D} (h : ∀ c, (f c).map g = (f' c).map g') {c : C} {x : Option A}
    {x' : Option B} (hx : x.map g = x'.map g') (d : C) :
    (Function.update f c x d).map g = (Function.update f' c x' d).map g' := by
  by_cases hdc : d = c
  · rw [hdc, Function.update_self, Function.update_self]
    exact hx
  · rw [Function.update_of_ne hdc, Function.update_of_ne hdc]
    exact h d

/-- **A step of the driver is a step of the counter**, or none. -/
theorem SystemState.Counted.step {s s' : SystemState} {replies : List UInt32}
    {t : TicketState CallId} {a : Action} (h : s.Counted replies t) (hstep : NumberStep s a s') :
    ∃ t', (tickets CallId).run t a.ticket.toList = some t' ∧
      s'.Counted (replies ++ replyNumber s a s') t' ∧ t'.next = t.next + a.draws.toNat := by
  have hnext : s.driver.messageSequence + 1 = UInt32.ofNat (t.next + 1) := by
    rw [h.next, UInt32.ofNat_add]
    rfl
  cases hstep with
  | @draws c _ notification hfree hnumber hnext' hunsent hsent =>
    have hheld : t.held c = none := by
      have hc := h.held c
      rw [hfree] at hc
      exact Option.map_eq_none_iff.1 hc.symm
    refine ⟨_, (Machine.run_singleton ..).trans (TicketState.step_iff.2 (.draw hheld)),
      ⟨hnext'.trans hnext, fun d => ?_, ?_, ?_⟩, rfl⟩
    · rw [hunsent]
      refine map_update h.held ?_ d
      rw [Option.map_some, Option.map_some, hnumber, h.next]
    · rw [SystemState.sentNumbers, hsent]
      exact h.used
    · rw [h.spent]
      exact List.append_nil _
  | @sends c port notification _ hnotification hnext' hunsent hsent =>
    obtain ⟨n, hheld, hn⟩ : ∃ n, t.held c = some n ∧
        UInt32.ofNat n = notification.header.sequenceNumber := by
      have hc := h.held c
      rw [hnotification, Option.map_some] at hc
      exact Option.map_eq_some_iff.1 hc.symm
    refine ⟨_, (Machine.run_singleton ..).trans (TicketState.step_iff.2 (.use hheld)),
      ⟨hnext'.trans h.next, fun d => ?_, ?_, ?_⟩, rfl⟩
    · rw [hunsent]
      exact map_update h.held rfl d
    · rw [SystemState.sentNumbers, hsent, List.map_append, List.map_append, ← h.used,
        SystemState.sentNumbers, List.map_singleton, List.map_singleton, hn]
    · rw [h.spent]
      exact List.append_nil _
  | replies hnext' hunsent hsent =>
    refine ⟨_, (Machine.run_singleton ..).trans (TicketState.step_iff.2 .spend),
      ⟨hnext'.trans hnext, fun d => ?_, ?_, ?_⟩, rfl⟩
    · rw [hunsent]
      exact h.held d
    · rw [SystemState.sentNumbers, hsent]
      exact h.used
    · rw [h.spent, List.map_append, replyNumber, h.next]
      rfl
  | other hticket hnext' hunsent hsent =>
    obtain ⟨hdraws, hreply⟩ := of_ticket_eq_none hticket s s'
    refine ⟨t, by rw [hticket]; rfl, ⟨hnext'.trans h.next, fun d => ?_, ?_, ?_⟩, ?_⟩
    · rw [hunsent]
      exact h.held d
    · rw [SystemState.sentNumbers, hsent]
      exact h.used
    · rw [hreply, List.append_nil]
      exact h.spent
    · rw [hdraws]
      rfl

/-- **A run of the driver is a run of the counter.** -/
theorem tickets_of_run {upcase : UInt16 → UInt16} {as : List Action} {s : SystemState}
    (hrun : (system upcase).run SystemState.init as = some s) :
    ∃ t, (tickets CallId).run (.init CallId) (as.filterMap Action.ticket) = some t ∧
      s.Counted (replyNumbers upcase as) t ∧ t.next = as.countP Action.draws := by
  refine Machine.run_induction (I := fun as s => ∃ t,
    (tickets CallId).run (.init CallId) (as.filterMap Action.ticket) = some t ∧
      s.Counted (replyNumbers upcase as) t ∧ t.next = as.countP Action.draws) hrun
    ⟨_, rfl, counted_init, rfl⟩ ?_
  rintro bs b s s' - hs ⟨t, ht, hcounted, hnext⟩ hstep
  obtain ⟨t', ht', hcounted', hnext'⟩ := hcounted.step (numberStep_of_step hstep)
  refine ⟨t', ?_, ?_, ?_⟩
  · rw [List.filterMap_append, Machine.run_append, ht, Option.bind_some, ← ht',
      List.filterMap_cons, List.filterMap_nil]
    cases b.ticket <;> rfl
  · rw [replyNumbers, Machine.outputs_concat hs hstep]
    exact hcounted'
  · rw [hnext', hnext, List.countP_append, List.countP_singleton]
    cases b.draws <;> rfl

/-! ### The order of the numbers -/

theorem exists_concat_of_filterMap {A B : Type*} {f : A → Option B} {as : List A} {bs : List B}
    {b : B} (h : bs ++ [b] <+: as.filterMap f) :
    ∃ cs a, cs ++ [a] <+: as ∧ cs.filterMap f = bs ∧ f a = some b := by
  induction as using List.reverseRecOn with
  | nil =>
    have hnil := List.prefix_nil.1 h
    exact absurd hnil (by simp)
  | append_singleton as a ih =>
    have hearlier : bs ++ [b] <+: as.filterMap f →
        ∃ cs a', cs ++ [a'] <+: as ++ [a] ∧ cs.filterMap f = bs ∧ f a' = some b := by
      intro h
      obtain ⟨cs, a', hcs, hbs, hb⟩ := ih h
      exact ⟨cs, a', hcs.trans (List.prefix_append _ _), hbs, hb⟩
    rw [List.filterMap_append, List.filterMap_cons, List.filterMap_nil] at h
    cases ha : f a with
    | none =>
      rw [ha, List.append_nil] at h
      exact hearlier h
    | some b' =>
      rw [ha] at h
      rcases List.prefix_concat_iff.1 h with heq | h
      · obtain ⟨rfl, hb⟩ := List.append_singleton_inj.1 heq
        exact ⟨as, a, List.prefix_rfl, rfl, ha.trans (congrArg some hb.symm)⟩
      · exact hearlier h

theorem eq_of_ticket_use {a : Action} {c : CallId} (h : a.ticket = some (.use c)) :
    a = .advance c .sendMessage := by
  cases a with
  | advance d step => cases step <;> cases h; rfl
  | control k => cases k <;> cases h
  | pass | track | call => cases h

/-- **Sequence numbers.**  In every interleaving in which fewer than `2 ^ 32` numbers are drawn, the
notifications and the replies carry different numbers, a reply being given the number that its
handler draws; and of two notifications that are sent out of order, the smaller number was already
drawn, and its message not yet sent, when the larger one was sent. -/
theorem sequence_numbers (upcase : UInt16 → UInt16) (as : List Action) (s : SystemState)
    (hrun : (system upcase).run SystemState.init as = some s)
    (hdrawn : as.countP Action.draws < 2 ^ 32) :
    (s.sentNumbers ++ replyNumbers upcase as).Nodup ∧
      (∀ driver input output reply,
        (rsMessageNotifyCallback driver input output).reply = some reply →
        ∃ ks ks', messageControls driver input output = ks ++ .drawSequence :: ks' ∧
          .drawSequence ∉ ks ∧ .drawSequence ∉ ks' ∧
          reply.header.sequenceNumber = (exec Control.apply driver ks).messageSequence) ∧
      ∀ i j n m, i < j → s.sentNumbers[i]? = some n → s.sentNumbers[j]? = some m → m < n →
        ∃ bs c c' s', bs ++ [.advance c .sendMessage] <+: as ∧
          (system upcase).run SystemState.init bs = some s' ∧
          s'.sentNumbers = s.sentNumbers.take i ∧
          (∃ message, s'.unsent c = some message ∧ message.header.sequenceNumber = n) ∧
          ∃ message, s'.unsent c' = some message ∧ message.header.sequenceNumber = m := by
  obtain ⟨t, ht, hcounted, hnext⟩ := tickets_of_run hrun
  have hsound := TicketState.sound_run ht
  have hlt : ∀ n ∈ t.used ++ t.spent, n < 2 ^ 32 := fun n hn =>
    (hsound.lt n hn).trans (hnext.trans_lt hdrawn)
  refine ⟨?_, reply_sequenceNumber, ?_⟩
  · rw [hcounted.used, hcounted.spent, ← List.map_append]
    refine hsound.nodup.map_on ?_
    intro n hn m hm heq
    have htoNat := congrArg UInt32.toNat heq
    rwa [UInt32.toNat_ofNat', UInt32.toNat_ofNat', Nat.mod_eq_of_lt (hlt n hn),
      Nat.mod_eq_of_lt (hlt m hm)] at htoNat
  · intro i j n m hij hi hj hmn
    rw [hcounted.used, List.getElem?_map] at hi hj
    obtain ⟨n', hused, rfl⟩ := Option.map_eq_some_iff.1 hi
    obtain ⟨m', hused', rfl⟩ := Option.map_eq_some_iff.1 hj
    have hmn' : m' < n' := by
      have hn' := hlt n' (List.mem_append_left _ (List.mem_of_getElem? hused))
      have hm' := hlt m' (List.mem_append_left _ (List.mem_of_getElem? hused'))
      rwa [UInt32.lt_iff_toNat_lt, UInt32.toNat_ofNat', UInt32.toNat_ofNat',
        Nat.mod_eq_of_lt hm', Nat.mod_eq_of_lt hn'] at hmn
    obtain ⟨bs, c, c', u, hbs, hu, htake, hheld, hheld'⟩ :=
      TicketState.held_of_overtaken ht hij hused hused' hmn'
    obtain ⟨cs, a, hcs, rfl, ha⟩ := exists_concat_of_filterMap hbs
    cases eq_of_ticket_use ha
    obtain ⟨s', hs'⟩ := Machine.exists_run_of_prefix hrun ((List.prefix_append _ _).trans hcs)
    obtain ⟨u', hu', hcounted', -⟩ := tickets_of_run hs'
    obtain rfl : u = u' := Option.some.inj (hu.symm.trans hu')
    refine ⟨cs, c, c', s', hcs, hs', ?_, hcounted'.exists_unsent hheld,
      hcounted'.exists_unsent hheld'⟩
    rw [hcounted'.used, hcounted.used, htake, List.map_take]

/-! ### A notification that is overtaken -/

/-- A request to change the settings is answered, and draws 0.  Then the first operations of two
processes are blocked.  The call of the process 8 draws 1 and that of the process 12 draws 2, and
the latter sends first. -/
def overtaking : List Action :=
  [.control (.connect 3), .control (.applyConfig 1 9 1), .control .drawSequence,
    .call ⟨8, 0⟩ none (.ofTicks 5), .call ⟨12, 0⟩ none (.ofTicks 6),
    .advance ⟨8, 0⟩ .firstSection, .advance ⟨8, 0⟩ (.allocate true),
    .advance ⟨8, 0⟩ .secondSection, .advance ⟨12, 0⟩ .firstSection,
    .advance ⟨12, 0⟩ (.allocate true), .advance ⟨12, 0⟩ .secondSection,
    .advance ⟨8, 0⟩ .snapshotPort, .advance ⟨8, 0⟩ .drawSequence,
    .advance ⟨12, 0⟩ .snapshotPort, .advance ⟨12, 0⟩ .drawSequence,
    .advance ⟨12, 0⟩ .sendMessage, .advance ⟨8, 0⟩ .sendMessage]

/-- **A notification arrives after its successor**, at the same client. -/
theorem overtaken_notification :
    ∃ s, (system id).run SystemState.init overtaking = some s ∧
      overtaking.countP Action.draws < 2 ^ 32 ∧ s.sent.map Prod.fst = [3, 3] ∧
      s.sentNumbers = [2, 1] ∧ ¬ s.sentNumbers.Pairwise (· < ·) := by
  obtain ⟨s, hrun, h⟩ := Machine.exists_of_any (system id)
    (fun s => decide (s.sent.map Prod.fst = [3, 3]) && decide (s.sentNumbers = [2, 1]))
    SystemState.init overtaking (by decide +kernel)
  rw [Bool.and_eq_true, decide_eq_true_iff, decide_eq_true_iff] at h
  refine ⟨s, hrun, by decide, h.1, h.2, ?_⟩
  rw [h.2]
  decide

/-- When the larger number is sent, the call of the process 8 holds the smaller one. -/
theorem sequence_numbers_overtaking :
    ∃ s, (system id).run SystemState.init overtaking = some s ∧
      (s.sentNumbers ++ replyNumbers id overtaking).Nodup ∧
      ∃ bs c c' s', bs ++ [.advance c .sendMessage] <+: overtaking ∧
        (system id).run SystemState.init bs = some s' ∧
        (∃ message, s'.unsent c = some message ∧ message.header.sequenceNumber = 2) ∧
        ∃ message, s'.unsent c' = some message ∧ message.header.sequenceNumber = 1 := by
  obtain ⟨s, hrun, h⟩ := Machine.exists_of_any (system id)
    (fun s => decide (s.sentNumbers = [2, 1])) SystemState.init overtaking (by decide +kernel)
  obtain ⟨hnodup, -, horder⟩ := sequence_numbers id overtaking s hrun (by decide)
  have hsent : s.sentNumbers = [2, 1] := of_decide_eq_true h
  obtain ⟨bs, c, c', s', hbs, hs', -, hlarger, hsmaller⟩ :=
    horder 0 1 2 1 Nat.zero_lt_one (by rw [hsent]; rfl) (by rw [hsent]; rfl) (by decide)
  exact ⟨s, hrun, hnodup, bs, c, c', s', hbs, hs', hlarger, hsmaller⟩

end RansomShield
