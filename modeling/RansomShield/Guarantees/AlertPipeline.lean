import RansomShield.Client.AlertPipeline
import RansomShield.Guarantees.AlertOrder
import RansomShield.Guarantees.AlertRate
import RansomShield.Guarantees.ListenerBytes

/-!
# Alerts, from the driver to the screen

Every message that the listener of the tray agent fetches becomes one alert and one line of the
log, in the order in which the messages are fetched, and nothing else does (`alert_pipeline`): the
bytes are understood as they were meant, the queue of the window keeps the order, and no text is too
long for its buffer.  So an alert is shown at most once for each block of a process, and exactly
once when no message is lost on the way (`alerts_shown_once`).

`PipelineLedger` says where every message is, and every step keeps it.
-/

namespace RansomShield

open Buffered (ListenerEvent)

variable {upcase : UInt16 → UInt16} {logger : EventLogger} {s s' : PipelineState}
  {as : List PipelineAction} {a : PipelineAction}

/-! ### What is read off a run -/

/-- The steps of the driver. -/
def driverActions (as : List PipelineAction) : List Action :=
  as.filterMap fun
    | .driver a _ => some a
    | _ => none

/-- The message that a step fetches. -/
def fetchedBy (s : PipelineState) (a : PipelineAction) (_ : PipelineState) :
    List RsNotificationBlockedPid :=
  match a with
  | .getMessage i _ _ _ => s.inbox[i]?.toList
  | _ => []

/-- The messages that the listener has fetched, in order. -/
def fetched (upcase : UInt16 → UInt16) (logger : EventLogger) (as : List PipelineAction) :
    List RsNotificationBlockedPid :=
  (alertPipeline upcase).outputs fetchedBy (.init logger) as

/-- What a step does to the queue of the window. -/
def trayActionBy (s : PipelineState) (a : PipelineAction) (_ : PipelineState) :
    List NotificationAction :=
  match a, s.listener with
  | .queueAlert, .queueing processId imageName operationCount =>
    [.queueAlert 0 ⟨processId, .ofArray imageName, operationCount⟩]
  | .postMessage, _ => [.postMessage 0]
  | .window a, _ => [a.toNotificationAction]
  | _, _ => []

/-- What happens to the queue of the window. -/
def trayActions (upcase : UInt16 → UInt16) (logger : EventLogger) (as : List PipelineAction) :
    List NotificationAction :=
  (alertPipeline upcase).outputs trayActionBy (.init logger) as

/-- The alert about a message. -/
def RsNotificationBlockedPid.alert (m : RsNotificationBlockedPid) : RsAlertData :=
  ⟨m.processId, .ofArray m.imageName, m.operationCount⟩

namespace AlertListener

/-- The alert that is still to be queued. -/
def unqueued : AlertListener → List RsAlertData
  | .queueing processId imageName operationCount =>
    [⟨processId, .ofArray imageName, operationCount⟩]
  | _ => []

/-- The text that is still to be logged. -/
def unlogged : AlertListener → List (List UInt16)
  | .waiting => []
  | .queueing processId imageName operationCount | .posting processId imageName operationCount =>
    [detectedText processId (some (wcs imageName)) operationCount]
  | .logging event => (eventText event).toList.map Prod.snd

/-- The progress of `QueueAlert`. -/
def queueCall : AlertListener → QueueCall
  | .posting .. => .posting
  | _ => .idle

/-- The listener handles a block notification, with a name that has a terminator. -/
def Named : AlertListener → Prop
  | .waiting => True
  | .queueing _ imageName _ | .posting _ imageName _ => 0 ∈ List.ofFn imageName
  | .logging event => ∃ processId imageName operationCount,
    event = .blockedPid processId imageName operationCount ∧ 0 ∈ List.ofFn imageName

end AlertListener

/-- The step loses no message. -/
def PipelineAction.Lossless : PipelineAction → Prop
  | .driver _ arrives => arrives = true
  | .expire _ => False
  | _ => True

/-- The lines that were written about alerts. -/
def EventLogger.withAlerts (logger : EventLogger) (lines : List (SystemTime × List UInt16)) :
    EventLogger :=
  lines.foldl (fun logger line => logger.withLine line.1 (wide "ALERT") line.2) logger

theorem EventLogger.withAlerts_concat (logger : EventLogger)
    (lines : List (SystemTime × List UInt16)) (line : SystemTime × List UInt16) :
    logger.withAlerts (lines ++ [line]) =
      (logger.withAlerts lines).withLine line.1 (wide "ALERT") line.2 :=
  List.foldl_append

/-! ### The ledger -/

/-- Where every message is. -/
structure PipelineLedger (upcase : UInt16 → UInt16) (logger : EventLogger)
    (as : List PipelineAction) (s : PipelineState) : Prop where
  driver : (system upcase).run SystemState.init (driverActions as) = some s.system
  window : notificationManager.run NotificationState.init (trayActions upcase logger as) =
    some s.notifications
  calls : s.notifications.calls = Function.update (fun _ => .idle) 0 s.listener.queueCall
  /-- What was fetched, and what the port holds, was sent. -/
  arrived : (fetched upcase logger as ++ s.inbox).Subperm (s.system.sent.map Prod.snd)
  lossless : (∀ a ∈ as, a.Lossless) →
    (fetched upcase logger as ++ s.inbox).Perm (s.system.sent.map Prod.snd)
  queued : alertsPushed (trayActions upcase logger as) ++ s.listener.unqueued =
    (fetched upcase logger as).map RsNotificationBlockedPid.alert
  logged : ∃ lines, s.logger = logger.withAlerts lines ∧
    lines.map Prod.snd ++ s.listener.unlogged = (fetched upcase logger as).map alertText
  named : s.listener.Named

theorem pipelineLedger_init (upcase : UInt16 → UInt16) (logger : EventLogger) :
    PipelineLedger upcase logger [] (.init logger) where
  driver := rfl
  window := rfl
  calls := (Function.update_eq_self _ _).symm
  arrived := List.Subperm.refl _
  lossless _ := List.Perm.refl _
  queued := rfl
  logged := ⟨[], rfl, rfl⟩
  named := trivial

theorem sent_of_step {t t' : SystemState} {b : Action} (h : (system upcase).step t b = some t') :
    ∃ messages, t'.sent = t.sent ++ messages := by
  cases numberStep_of_step h with
  | draws _ _ _ _ hsent | replies _ _ hsent | other _ _ _ hsent =>
    exact ⟨[], hsent.trans (List.append_nil _).symm⟩
  | sends _ _ _ hsent => exact ⟨_, hsent⟩

theorem zero_mem_of_sent {bs : List Action} {t : SystemState}
    (hrun : (system upcase).run SystemState.init bs = some t) {m : RsNotificationBlockedPid}
    (hm : m ∈ t.sent.map Prod.snd) :
    m.header.messageType = .notifyBlockedPid ∧ 0 ∈ List.ofFn m.imageName := by
  obtain ⟨message, hmessage, rfl⟩ := List.mem_map.1 hm
  obtain ⟨n, k, hn⟩ := exists_message_of_mem_sent hrun hmessage
  obtain ⟨path, -, hpath⟩ := (blockedFor_of_sent hrun).2 message hmessage
  refine ⟨by rw [hn]; rfl, ?_⟩
  rw [hpath]
  exact (holdsPath_rsCopyImageName path).zero_mem

section

variable (hrun : (alertPipeline upcase).run (.init logger) as = some s)
  (hstep : (alertPipeline upcase).step s a = some s')

include hrun hstep

theorem fetched_concat :
    fetched upcase logger (as ++ [a]) = fetched upcase logger as ++ fetchedBy s a s' :=
  Machine.outputs_concat hrun hstep

theorem trayActions_concat :
    trayActions upcase logger (as ++ [a]) =
      trayActions upcase logger as ++ trayActionBy s a s' :=
  Machine.outputs_concat hrun hstep

end

theorem driverActions_concat (as : List PipelineAction) (a : PipelineAction) :
    driverActions (as ++ [a]) = driverActions as ++ driverActions [a] :=
  List.filterMap_append

theorem alertsPushed_append (as bs : List NotificationAction) :
    alertsPushed (as ++ bs) = alertsPushed as ++ alertsPushed bs :=
  List.filterMap_append

namespace PipelineLedger

theorem driver_of_nil (hl : PipelineLedger upcase logger as s) (ha : driverActions [a] = []) :
    (system upcase).run SystemState.init (driverActions (as ++ [a])) = some s.system := by
  rw [driverActions_concat, ha, List.append_nil]
  exact hl.driver

theorem window_concat (hl : PipelineLedger upcase logger as s) {b : NotificationAction}
    {notifications : NotificationState}
    (h : notificationManager.step s.notifications b = some notifications) :
    notificationManager.run NotificationState.init (trayActions upcase logger as ++ [b]) =
      some notifications := by
  rw [Machine.run_concat, hl.window]
  exact h

/-- Nothing is lost between the port and the listener when nothing is fetched. -/
theorem lossless_of_fetched (hl : PipelineLedger upcase logger as s)
    (hfetched : fetched upcase logger (as ++ [a]) = fetched upcase logger as)
    (hno : ∀ c ∈ as ++ [a], c.Lossless) :
    (fetched upcase logger (as ++ [a]) ++ s.inbox).Perm (s.system.sent.map Prod.snd) := by
  rw [hfetched]
  exact hl.lossless fun c hc => hno c (List.mem_append_left _ hc)

variable (hl : PipelineLedger upcase logger as s)
  (hrun : (alertPipeline upcase).run (.init logger) as = some s)

include hl hrun

theorem driverStep {b : Action} {t : SystemState} {arrives : Bool}
    (h : (system upcase).step s.system b = some t) :
    PipelineLedger upcase logger (as ++ [.driver b arrives]) (s.afterDriver t arrives) := by
  have hstep : (alertPipeline upcase).step s (.driver b arrives) =
      some (s.afterDriver t arrives) := by
    simp only [alertPipeline, h, Option.map_some]
  obtain ⟨messages, hsent⟩ := sent_of_step h
  have hdrop : t.sent.drop s.system.sent.length = messages := by
    rw [hsent, List.drop_left]
  have hmap : t.sent.map Prod.snd = s.system.sent.map Prod.snd ++ messages.map Prod.snd := by
    rw [hsent, List.map_append]
  have hfetched := (fetched_concat hrun hstep).trans (List.append_nil _)
  have htray := (trayActions_concat hrun hstep).trans (List.append_nil _)
  refine ⟨?_, ?_, hl.calls, ?_, ?_, ?_, ?_, hl.named⟩
  · rw [driverActions_concat, Machine.run_append, hl.driver]
    exact (Machine.run_singleton ..).trans h
  · rw [htray]
    exact hl.window
  · rw [hfetched]
    show List.Subperm _ (t.sent.map Prod.snd)
    rw [hmap, PipelineState.afterDriver, hdrop]
    cases arrives with
    | true =>
      rw [if_pos rfl, ← List.append_assoc]
      exact (List.subperm_append_right _).2 hl.arrived
    | false => exact hl.arrived.trans (List.sublist_append_left _ _).subperm
  · intro hno
    have harrives : arrives = true := hno (.driver b arrives) (by simp)
    have hold := hl.lossless fun c hc => hno c (List.mem_append_left _ hc)
    rw [hfetched]
    show List.Perm _ (t.sent.map Prod.snd)
    rw [hmap, PipelineState.afterDriver, hdrop, if_pos harrives, ← List.append_assoc]
    exact hold.append_right _
  · rw [hfetched, htray]
    exact hl.queued
  · rw [hfetched]
    exact hl.logged

theorem expire {i : ℕ} (hi : i < s.inbox.length) :
    PipelineLedger upcase logger (as ++ [.expire i]) { s with inbox := s.inbox.eraseIdx i } := by
  have hstep : (alertPipeline upcase).step s (.expire i) =
      some { s with inbox := s.inbox.eraseIdx i } := if_pos hi
  have hfetched := (fetched_concat hrun hstep).trans (List.append_nil _)
  have htray := (trayActions_concat hrun hstep).trans (List.append_nil _)
  refine ⟨?_, ?_, hl.calls, ?_, ?_, ?_, ?_, hl.named⟩
  · exact hl.driver_of_nil rfl
  · rw [htray]
    exact hl.window
  · rw [hfetched]
    exact ((List.eraseIdx_sublist s.inbox i).append_left _).subperm.trans hl.arrived
  · intro hno
    exact (hno (.expire i) (by simp)).elim
  · rw [hfetched, htray]
    exact hl.queued
  · rw [hfetched]
    exact hl.logged

theorem getMessage {i : ℕ} {m : RsNotificationBlockedPid} {header : List UInt8}
    (stack buffer : Memory) (hw : s.listener = .waiting) (hi : s.inbox[i]? = some m)
    (hheader : header.length = sizeofFilterMessageHeader) :
    PipelineLedger upcase logger (as ++ [.getMessage i header stack buffer])
      (s.afterGetMessage i m header stack buffer) := by
  have hstep : (alertPipeline upcase).step s (.getMessage i header stack buffer) =
      some (s.afterGetMessage i m header stack buffer) := by
    simp only [alertPipeline, hw, hi, if_pos hheader]
  have hfetched := fetched_concat hrun hstep
  rw [fetchedBy, hi, Option.toList_some] at hfetched
  have htray := (trayActions_concat hrun hstep).trans (List.append_nil _)
  obtain ⟨hlt, rfl⟩ := List.getElem?_eq_some_iff.1 hi
  have hperm : (fetched upcase logger as ++ [s.inbox[i]] ++ s.inbox.eraseIdx i).Perm
      (fetched upcase logger as ++ s.inbox) := by
    rw [List.append_assoc, List.singleton_append]
    exact (List.getElem_cons_eraseIdx_perm hlt).append_left _
  have hsent : s.inbox[i] ∈ s.system.sent.map Prod.snd :=
    hl.arrived.subset (List.mem_append_right _ (List.getElem_mem hlt))
  obtain ⟨htype, hname⟩ := zero_mem_of_sent hl.driver hsent
  have hlistener : (s.afterGetMessage i s.inbox[i] header stack buffer).listener =
      .queueing s.inbox[i].processId s.inbox[i].imageName s.inbox[i].operationCount := by
    rw [PipelineState.afterGetMessage,
      Buffered.listenerCallback_filterGetMessage htype hheader stack buffer,
      AlertListener.callback]
  refine ⟨?_, ?_, ?_, ?_, ?_, ?_, ?_, ?_⟩
  · exact hl.driver_of_nil rfl
  · rw [htray]
    exact hl.window
  · rw [hlistener]
    exact hl.calls.trans (by rw [hw]; rfl)
  · rw [hfetched]
    exact hperm.subperm.trans hl.arrived
  · intro hno
    rw [hfetched]
    exact hperm.trans (hl.lossless fun c hc => hno c (List.mem_append_left _ hc))
  · have hqueued := hl.queued
    rw [hw] at hqueued
    rw [hfetched, htray, hlistener, List.map_append, ← hqueued]
    exact congrArg (· ++ _) (List.append_nil _).symm
  · obtain ⟨lines, hlogger, hlines⟩ := hl.logged
    rw [hw, AlertListener.unlogged, List.append_nil] at hlines
    refine ⟨lines, hlogger, ?_⟩
    rw [hfetched, hlistener, List.map_append, ← hlines]
    rfl
  · rw [hlistener]
    exact hname

theorem queueAlert {processId operationCount : UInt32} {imageName : Fin rsMaxImageNameLen → UInt16}
    {notifications : NotificationState}
    (hq : s.listener = .queueing processId imageName operationCount)
    (h : notificationManager.step s.notifications
      (.queueAlert 0 ⟨processId, .ofArray imageName, operationCount⟩) = some notifications)
    (hstep : (alertPipeline upcase).step s .queueAlert = some
      { s with
        notifications := notifications
        listener := .posting processId imageName operationCount }) :
    PipelineLedger upcase logger (as ++ [.queueAlert])
      { s with
        notifications := notifications
        listener := .posting processId imageName operationCount } := by
  have hfetched := (fetched_concat hrun hstep).trans (List.append_nil _)
  have htray := trayActions_concat hrun hstep
  simp only [trayActionBy, hq] at htray
  refine ⟨?_, ?_, ?_, ?_, ?_, ?_, ?_, ?_⟩
  · exact hl.driver_of_nil rfl
  · rw [htray]
    exact hl.window_concat h
  · cases notificationStep_of_step h with
    | queueAlert _ hcall =>
      show Function.update s.notifications.calls 0 _ = _
      rw [hl.calls, Function.update_idem]
      rfl
  · rw [hfetched]
    exact hl.arrived
  · exact hl.lossless_of_fetched hfetched
  · have hqueued := hl.queued
    rw [hq] at hqueued
    rw [hfetched, htray, alertsPushed_append, ← hqueued]
    exact List.append_nil _
  · obtain ⟨lines, hlogger, hlines⟩ := hl.logged
    rw [hq] at hlines
    rw [hfetched]
    exact ⟨lines, hlogger, hlines⟩
  · have hnamed := hl.named
    rw [hq] at hnamed
    exact hnamed

theorem postMessage {processId operationCount : UInt32}
    {imageName : Fin rsMaxImageNameLen → UInt16} {notifications : NotificationState}
    (hp : s.listener = .posting processId imageName operationCount)
    (h : notificationManager.step s.notifications (.postMessage 0) = some notifications)
    (hstep : (alertPipeline upcase).step s .postMessage = some
      { s with
        notifications := notifications
        listener := .logging (.blockedPid processId imageName operationCount) }) :
    PipelineLedger upcase logger (as ++ [.postMessage])
      { s with
        notifications := notifications
        listener := .logging (.blockedPid processId imageName operationCount) } := by
  have hfetched := (fetched_concat hrun hstep).trans (List.append_nil _)
  have htray := trayActions_concat hrun hstep
  simp only [trayActionBy] at htray
  have hname : 0 ∈ List.ofFn imageName := by
    have hnamed := hl.named
    rw [hp] at hnamed
    exact hnamed
  refine ⟨?_, ?_, ?_, ?_, ?_, ?_, ?_, ?_⟩
  · exact hl.driver_of_nil rfl
  · rw [htray]
    exact hl.window_concat h
  · cases notificationStep_of_step h with
    | postMessage hcall =>
      show Function.update s.notifications.calls 0 _ = _
      rw [hl.calls, Function.update_idem]
      rfl
  · rw [hfetched]
    exact hl.arrived
  · exact hl.lossless_of_fetched hfetched
  · have hqueued := hl.queued
    rw [hp] at hqueued
    rw [hfetched, htray, alertsPushed_append, ← hqueued]
    exact List.append_assoc _ _ _
  · obtain ⟨lines, hlogger, hlines⟩ := hl.logged
    rw [hp] at hlines
    rw [hfetched, AlertListener.unlogged, eventText_blockedPid hname]
    exact ⟨lines, hlogger, hlines⟩
  · exact ⟨processId, imageName, operationCount, rfl, hname⟩

theorem log {event : ListenerEvent} {st : SystemTime} {logger' : EventLogger}
    (hlog : s.listener = .logging event) (h : s.logger.logEvent st event = some logger')
    (hstep : (alertPipeline upcase).step s (.log st) = some
      { s with logger := logger', listener := .waiting }) :
    PipelineLedger upcase logger (as ++ [.log st])
      { s with logger := logger', listener := .waiting } := by
  have hfetched := (fetched_concat hrun hstep).trans (List.append_nil _)
  have htray := (trayActions_concat hrun hstep).trans (List.append_nil _)
  obtain ⟨processId, imageName, operationCount, rfl, hname⟩ :
      ∃ processId imageName operationCount,
        event = .blockedPid processId imageName operationCount ∧ 0 ∈ List.ofFn imageName := by
    have hnamed := hl.named
    rw [hlog] at hnamed
    exact hnamed
  have htext := eventText_blockedPid hname processId operationCount
  obtain ⟨-, hline⟩ : _ ∧ s.logger.logEvent st _ = some _ :=
    EventLogger.logEvent_eq htext (by simp)
  refine ⟨?_, ?_, ?_, ?_, ?_, ?_, ?_, trivial⟩
  · exact hl.driver_of_nil rfl
  · rw [htray]
    exact hl.window
  · exact hl.calls.trans (by rw [hlog]; rfl)
  · rw [hfetched]
    exact hl.arrived
  · exact hl.lossless_of_fetched hfetched
  · have hqueued := hl.queued
    rw [hlog] at hqueued
    rw [hfetched, htray]
    exact hqueued
  · obtain ⟨lines, hlogger, hlines⟩ := hl.logged
    rw [hlog, AlertListener.unlogged, htext] at hlines
    refine ⟨lines ++ [(st, detectedText processId (some (wcs imageName)) operationCount)], ?_, ?_⟩
    · cases hline.symm.trans h
      rw [EventLogger.withAlerts_concat, ← hlogger]
    · rw [hfetched, ← hlines, List.map_append]
      exact List.append_nil _

theorem windowStep {b : WindowAction} {notifications : NotificationState}
    (h : notificationManager.step s.notifications b.toNotificationAction = some notifications) :
    PipelineLedger upcase logger (as ++ [.window b]) { s with notifications := notifications } := by
  have hstep : (alertPipeline upcase).step s (.window b) =
      some { s with notifications := notifications } := by
    simp only [alertPipeline, h, Option.map_some]
  have hfetched := (fetched_concat hrun hstep).trans (List.append_nil _)
  have htray := trayActions_concat hrun hstep
  simp only [trayActionBy] at htray
  refine ⟨?_, ?_, ?_, ?_, ?_, ?_, ?_, hl.named⟩
  · exact hl.driver_of_nil rfl
  · rw [htray]
    exact hl.window_concat h
  · -- the window does not call `QueueAlert`
    have hcalls : notifications.calls = s.notifications.calls := by
      cases b <;> cases notificationStep_of_step h <;> rfl
    exact hcalls.trans hl.calls
  · rw [hfetched]
    exact hl.arrived
  · exact hl.lossless_of_fetched hfetched
  · have hpushed : alertsPushed [b.toNotificationAction] = [] := by cases b <;> rfl
    rw [hfetched, htray, alertsPushed_append, hpushed, List.append_nil]
    exact hl.queued
  · rw [hfetched]
    exact hl.logged

/-- **Every step keeps the ledger.** -/
theorem step (hstep : (alertPipeline upcase).step s a = some s') :
    PipelineLedger upcase logger (as ++ [a]) s' := by
  cases pipelineStep_of_step hstep with
  | driver arrives h => exact hl.driverStep hrun h
  | expire hi => exact hl.expire hrun hi
  | getMessage stack buffer hw hi hheader => exact hl.getMessage hrun stack buffer hw hi hheader
  | queueAlert hq _ h => exact hl.queueAlert hrun hq h hstep
  | postMessage hp h => exact hl.postMessage hrun hp h hstep
  | log hlog h => exact hl.log hrun hlog h hstep
  | window h => exact hl.windowStep hrun h

end PipelineLedger

theorem pipelineLedger_of_run (hrun : (alertPipeline upcase).run (.init logger) as = some s) :
    PipelineLedger upcase logger as s :=
  Machine.run_induction (M := alertPipeline upcase) (I := PipelineLedger upcase logger) hrun
    (pipelineLedger_init upcase logger) fun _ _ _ _ _ hu hl hstep => hl.step hu hstep

/-! ### The listener goes on -/

namespace PipelineLedger

variable (hl : PipelineLedger upcase logger as s)

include hl

theorem exists_log {event : ListenerEvent} (hlog : s.listener = .logging event)
    (st : SystemTime) :
    ∃ t, (alertPipeline upcase).step s (.log st) = some t ∧ t.listener = .waiting := by
  obtain ⟨processId, imageName, operationCount, rfl, hname⟩ :
      ∃ processId imageName operationCount,
        event = .blockedPid processId imageName operationCount ∧ 0 ∈ List.ofFn imageName := by
    have hnamed := hl.named
    rw [hlog] at hnamed
    exact hnamed
  obtain ⟨logger', hline⟩ : ∃ logger',
      s.logger.logEvent st (.blockedPid processId imageName operationCount) = some logger' :=
    ⟨_, (EventLogger.logEvent_eq (eventText_blockedPid hname _ _) (by simp)).2⟩
  refine ⟨{ s with logger := logger', listener := .waiting }, ?_, rfl⟩
  simp only [alertPipeline, hlog, hline, Option.map_some]

theorem exists_postMessage {processId operationCount : UInt32}
    {imageName : Fin rsMaxImageNameLen → UInt16}
    (hp : s.listener = .posting processId imageName operationCount) :
    ∃ t, (alertPipeline upcase).step s .postMessage = some t ∧
      t.listener = .logging (.blockedPid processId imageName operationCount) := by
  have hcall : s.notifications.calls 0 = .posting := by
    rw [hl.calls, hp, Function.update_self]
    rfl
  obtain ⟨notifications, hstep⟩ : ∃ notifications,
      notificationManager.step s.notifications (.postMessage 0) = some notifications := by
    simp only [notificationManager, hcall]
    exact ⟨_, rfl⟩
  refine ⟨{ s with
    notifications := notifications
    listener := .logging (.blockedPid processId imageName operationCount) }, ?_, rfl⟩
  simp only [alertPipeline, hp, hstep, Option.map_some]

theorem exists_queueAlert {processId operationCount : UInt32}
    {imageName : Fin rsMaxImageNameLen → UInt16}
    (hq : s.listener = .queueing processId imageName operationCount) :
    ∃ t, (alertPipeline upcase).step s .queueAlert = some t ∧
      t.listener = .posting processId imageName operationCount := by
  have hcall : s.notifications.calls 0 = .idle := by
    rw [hl.calls, hq, Function.update_self]
    rfl
  have hname : 0 ∈ List.ofFn imageName := by
    have hnamed := hl.named
    rw [hq] at hnamed
    exact hnamed
  obtain ⟨notifications, hstep⟩ : ∃ notifications, notificationManager.step s.notifications
      (.queueAlert 0 ⟨processId, .ofArray imageName, operationCount⟩) = some notifications := by
    simp only [notificationManager, hcall]
    exact ⟨_, rfl⟩
  refine ⟨{ s with
    notifications := notifications
    listener := .posting processId imageName operationCount }, ?_, rfl⟩
  simp only [alertPipeline, hq, PipelineState.queueAlert, if_pos hname, hstep, Option.map_some]

end PipelineLedger

/-- **The listener gets back to `FilterGetMessage`**, by steps of its own. -/
theorem exists_run_waiting (hrun : (alertPipeline upcase).run (.init logger) as = some s)
    (st : SystemTime) :
    ∃ bs t, bs <:+ [.queueAlert, .postMessage, .log st] ∧
      (alertPipeline upcase).run s bs = some t ∧ t.listener = .waiting := by
  have hl := pipelineLedger_of_run hrun
  cases hlistener : s.listener with
  | waiting => exact ⟨[], s, List.nil_suffix, rfl, hlistener⟩
  | logging event =>
    obtain ⟨t, ht, hwaiting⟩ := hl.exists_log hlistener st
    refine ⟨[.log st], t, ⟨[.queueAlert, .postMessage], rfl⟩, ?_, hwaiting⟩
    rw [Machine.run_singleton, ht]
  | posting processId imageName operationCount =>
    obtain ⟨t, ht, hlogging⟩ := hl.exists_postMessage hlistener
    obtain ⟨u, hu, hwaiting⟩ := (hl.step hrun ht).exists_log hlogging st
    refine ⟨[.postMessage, .log st], u, ⟨[.queueAlert], rfl⟩, ?_, hwaiting⟩
    rw [Machine.run_cons, ht, Option.bind_some, Machine.run_singleton, hu]
  | queueing processId imageName operationCount =>
    obtain ⟨t, ht, hposting⟩ := hl.exists_queueAlert hlistener
    have hrun' : (alertPipeline upcase).run (.init logger) (as ++ [.queueAlert]) = some t := by
      rw [Machine.run_concat, hrun]
      exact ht
    obtain ⟨u, hu, hlogging⟩ := (hl.step hrun ht).exists_postMessage hposting
    obtain ⟨v, hv, hwaiting⟩ := ((hl.step hrun ht).step hrun' hu).exists_log hlogging st
    refine ⟨[.queueAlert, .postMessage, .log st], v, List.suffix_rfl, ?_, hwaiting⟩
    rw [Machine.run_cons, ht, Option.bind_some, Machine.run_cons, hu, Option.bind_some,
      Machine.run_singleton, hv]

/-! ### Main results -/

/-- **From the driver to the screen**, in every interleaving: what the listener has fetched and what
the port holds are messages that the driver has sent, each at most once; the alerts that were shown,
the one in the hand of the window, those in the queue and the one that is about to be queued are, in
this order, those of the fetched messages; so are the lines of the log, which fit their buffers; the
names are the image paths of processes that were blocked; and the listener gets back to
`FilterGetMessage` by steps of its own. -/
theorem alert_pipeline (upcase : UInt16 → UInt16) (logger : EventLogger)
    (as : List PipelineAction) (s : PipelineState)
    (hrun : (alertPipeline upcase).run (.init logger) as = some s) :
    (fetched upcase logger as ++ s.inbox).Subperm (s.system.sent.map Prod.snd) ∧
      alertsShown (trayActions upcase logger as) ++ s.notifications.inHand ++
          s.notifications.alertQueue ++ s.listener.unqueued =
        (fetched upcase logger as).map RsNotificationBlockedPid.alert ∧
      (∃ lines, s.logger = logger.withAlerts lines ∧
        lines.map Prod.snd ++ s.listener.unlogged = (fetched upcase logger as).map alertText) ∧
      (∀ m ∈ fetched upcase logger as, ∃ path,
        BlockedFor upcase (driverActions as) m.processId m.imageName path ∧
          HoldsPath m.imageName (imageChars path)) ∧
      ∀ st, ∃ bs t, bs <:+ [.queueAlert, .postMessage, .log st] ∧
        (alertPipeline upcase).run s bs = some t ∧ t.listener = .waiting := by
  have hl := pipelineLedger_of_run hrun
  refine ⟨hl.arrived, ?_, hl.logged, ?_, exists_run_waiting hrun⟩
  · rw [(alertQueue_run hl.window).1]
    exact hl.queued
  · intro m hm
    have hsent := hl.arrived.subset (List.mem_append_left s.inbox hm)
    obtain ⟨message, hmessage, rfl⟩ := List.mem_map.1 hsent
    obtain ⟨path, hblocked, hname⟩ := (blockedFor_of_sent hl.driver).2 message hmessage
    have hpath := holdsPath_rsCopyImageName path
    rw [← hname] at hpath
    exact ⟨path, hblocked, hpath⟩

/-- Nothing is on its way: the port is empty, the listener waits, no message is posted and the
window procedure does nothing. -/
structure PipelineState.Quiet (s : PipelineState) : Prop where
  inbox : s.inbox = []
  listener : s.listener = .waiting
  posted : s.notifications.posted = 0
  wndProc : s.notifications.wndProc = .idle

/-- **How often alerts are shown**, in every interleaving: about a process at most once more often
than it was unblocked; and, when no message was lost and nothing is on its way, for every message
of the driver exactly once. -/
theorem alerts_shown_once (upcase : UInt16 → UInt16) (logger : EventLogger)
    (as : List PipelineAction) (s : PipelineState)
    (hrun : (alertPipeline upcase).run (.init logger) as = some s) :
    (∀ p, (alertsShown (trayActions upcase logger as)).countP (fun alert => alert.pid = p) ≤
      (driverActions as).countP (Action.removes p) + (s.system.driver.blocks p).toNat) ∧
    ((∀ a ∈ as, a.Lossless) → s.Quiet →
      (alertsShown (trayActions upcase logger as)).Perm
        (s.system.sent.map fun message => message.2.alert)) := by
  have hl := pipelineLedger_of_run hrun
  obtain ⟨hshown, hawake⟩ := alertQueue_run hl.window
  refine ⟨fun p => ?_, fun hno hquiet => ?_⟩
  · have hqueued : alertsShown (trayActions upcase logger as) <+:
        (fetched upcase logger as).map RsNotificationBlockedPid.alert := by
      rw [← hl.queued, ← hshown, List.append_assoc, List.append_assoc]
      exact List.prefix_append _ _
    calc (alertsShown (trayActions upcase logger as)).countP (fun alert => alert.pid = p)
        ≤ ((fetched upcase logger as).map RsNotificationBlockedPid.alert).countP
            fun alert => alert.pid = p := hqueued.sublist.countP_le
      _ = (fetched upcase logger as).countP fun m => m.processId = p := List.countP_map
      _ ≤ (fetched upcase logger as ++ s.inbox).countP fun m => m.processId = p :=
        (List.sublist_append_left _ _).countP_le
      _ ≤ (s.system.sent.map Prod.snd).countP fun m => m.processId = p := hl.arrived.countP_le _
      _ = s.system.sent.countP fun message => message.2.processId = p := List.countP_map
      _ ≤ _ := messages_le_removals hl.driver p
  · have hcalls : ∀ i, s.notifications.calls i = .idle := by
      intro i
      rw [hl.calls, hquiet.listener]
      exact congrFun (Function.update_eq_self _ _) i
    have hqueue := hawake.alertQueue_eq_nil ⟨hquiet.posted, hcalls, hquiet.wndProc⟩
    have hhand : s.notifications.inHand = [] := by
      rw [NotificationState.inHand, hquiet.wndProc]
    have hqueued := hl.queued
    rw [hquiet.listener, ← hshown, hqueue, hhand, List.append_nil, List.append_nil] at hqueued
    have hperm := (hl.lossless hno).map RsNotificationBlockedPid.alert
    rw [hquiet.inbox, List.append_nil, List.map_map, ← hqueued] at hperm
    exact (List.Perm.of_eq (List.append_nil _).symm).trans hperm

/-- A process is blocked at once, and the alert is shown. -/
def shownAtOnce : List PipelineAction :=
  blockedAtOnce.map (.driver · true) ++
    [.getMessage 0 (List.replicate 16 7) (fun _ => 1) (fun _ => 2), .queueAlert, .postMessage,
      .log ⟨2026, 1, 2, 3, 4, 5⟩, .window .dispatchMessage, .window .drainAlert,
      .window .showRansomwareAlert, .window .drainAlert]

/-- A log without lines. -/
def emptyLog : EventLogger := ⟨true, true, [], []⟩

/-- The listener is in `FilterGetMessage`. -/
def AlertListener.waits : AlertListener → Bool
  | .waiting => true
  | .queueing .. | .posting .. | .logging _ => false

theorem AlertListener.eq_waiting_of_waits {l : AlertListener} (h : l.waits = true) :
    l = .waiting := by
  cases l with
  | waiting => rfl
  | _ => cases h

theorem shownAtOnce_quiet :
    ∃ s, (alertPipeline id).run (.init emptyLog) shownAtOnce = some s ∧ s.Quiet ∧
      s.system.sent.length = 1 := by
  obtain ⟨s, hrun, h⟩ := Machine.exists_of_any (alertPipeline id)
    (fun s => decide (s.inbox = []) && s.listener.waits &&
      decide (s.notifications.posted = 0) && decide (s.notifications.wndProc = .idle) &&
      decide (s.system.sent.length = 1)) (.init emptyLog) shownAtOnce (by decide +kernel)
  simp only [Bool.and_eq_true, decide_eq_true_iff] at h
  obtain ⟨⟨⟨⟨hinbox, hlistener⟩, hposted⟩, hwndProc⟩, hsent⟩ := h
  exact ⟨s, hrun, ⟨hinbox, AlertListener.eq_waiting_of_waits hlistener, hposted, hwndProc⟩, hsent⟩

theorem alert_pipeline_shownAtOnce :
    ∃ s, (alertPipeline id).run (.init emptyLog) shownAtOnce = some s ∧
      (fetched id emptyLog shownAtOnce ++ s.inbox).Subperm (s.system.sent.map Prod.snd) ∧
      ∀ m ∈ fetched id emptyLog shownAtOnce, ∃ path,
        BlockedFor id (driverActions shownAtOnce) m.processId m.imageName path ∧
          HoldsPath m.imageName (imageChars path) := by
  obtain ⟨s, hrun, -⟩ := shownAtOnce_quiet
  have h := alert_pipeline id emptyLog shownAtOnce s hrun
  exact ⟨s, hrun, h.1, h.2.2.2.1⟩

theorem alerts_shown_once_shownAtOnce :
    ∃ s, (alertPipeline id).run (.init emptyLog) shownAtOnce = some s ∧
      s.system.sent.length = 1 ∧
      (alertsShown (trayActions id emptyLog shownAtOnce)).Perm
        (s.system.sent.map fun message => message.2.alert) := by
  obtain ⟨s, hrun, hquiet, hsent⟩ := shownAtOnce_quiet
  have h := alerts_shown_once id emptyLog shownAtOnce s hrun
  refine ⟨s, hrun, hsent, h.2 ?_ hquiet⟩
  simp [shownAtOnce, blockedAtOnce, PipelineAction.Lossless]

end RansomShield
