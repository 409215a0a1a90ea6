import RansomShield.System.ClientPorts

/-!
# Who closes the client ports of the driver

Only `RsDestroyCommPort` passes a client port to `FltCloseClientPort`.  A client that disconnects
earlier leaves its port open, because the disconnect callback merely resets `g_ClientPort`, and no
other client is accepted (`client_port_leaked`); a client that connects while `RsDestroyCommPort` is
on its way from `g_ClientPort` to the server port leaves its port open, too; and a call of
`RsSendBlockNotification` that has copied `g_ClientPort` sends on the port after it was closed
(`client_port_used_after_close`).

These are the only ways in which a port is mishandled (`Exposes`): without such steps every port is
closed in time and none is used after it, and a run that is over has no such step if this holds
(`client_ports_closed`).  Runs without such steps keep the invariant `Kept`, and a step of this kind
leaves a port that is `Doomed`.
-/

namespace RansomShield

namespace PortState

variable (s : PortState)

/-- The port counts against `MaxConnections`. -/
def Open (p : PortHandle) : Prop := p < s.issued ∧ p ∉ s.closed

/-- `RsDestroyCommPort` is done with `g_ClientPort`. -/
def PastClient : Prop := s.teardown = .closingServer ∨ s.teardown = .returned

/-- No call of `RsSendBlockNotification` is in flight, nor is `RsDestroyCommPort`. -/
def Settled : Prop :=
  (s.teardown = .idle ∨ s.teardown = .returned) ∧ ∀ c, s.system.localClientPort c = none

end PortState

/-- Every client port is closed once, at the latest when its disconnect callback or
`RsDestroyCommPort` has returned. -/
structure ClosesPorts (s : PortState) : Prop where
  once : s.closed.Nodup
  closed : ∀ p < s.issued, p ∈ s.disconnected ∨ s.teardown = .returned → p ∈ s.closed

/-- The step does not send on a port that was closed. -/
def SendsOpen (s : PortState) : PortAction → Prop
  | .other (.advance c .sendMessage) => ∀ p, s.system.localClientPort c = some p → p ∉ s.closed
  | _ => True

/-- A client disconnects whose port was not closed; or a client connects after `RsDestroyCommPort`
has tested `g_ClientPort`; or `RsDestroyCommPort` closes a port that a notification has copied. -/
def Exposes (s : PortState) : PortAction → Prop
  | .connect => s.teardown ≠ .idle
  | .disconnect p => p ∉ s.closed
  | .destroy => ∃ p c, s.teardown = .closing (some p) ∧ s.system.localClientPort c = some p
  | .other _ => False

/-- What each phase of `RsDestroyCommPort` knows. -/
def PortState.Knows (s : PortState) : TeardownPhase → Prop
  | .idle => s.closed = [] ∧ s.serverPort = true
  | .reading => s.closed = [] ∧ s.system.driver.clientPort.isSome = true
  | .clearing q => s.closed = [] ∧ s.system.driver.clientPort = q ∧ q.isSome = true
  | .closing q => s.closed = [] ∧ s.system.driver.clientPort = none ∧ ∃ p, q = some p ∧ s.Open p
  | .closingServer => s.system.driver.clientPort = none
  | .returned => s.system.driver.clientPort = none ∧ s.serverPort = false

/-- Every open port is `g_ClientPort`, or `RsDestroyCommPort` is about to close it; what
`g_ClientPort` is and what calls have copied is open. -/
structure Kept (s : PortState) : Prop where
  once : s.closed.Nodup
  issued : ∀ p ∈ s.closed, p < s.issued
  disconnected : ∀ p ∈ s.disconnected, p ∈ s.closed
  clientPort : ∀ p, s.system.driver.clientPort = some p → s.Open p
  owned : ∀ p, s.Open p →
    s.system.driver.clientPort = some p ∨ s.teardown = .closing (some p)
  copied : ∀ c p, s.system.localClientPort c = some p → s.Open p
  knows : s.Knows s.teardown

/-- A call has copied a port that was closed, or `RsDestroyCommPort` has left a port open. -/
def Doomed (s : PortState) : Prop :=
  (∃ c, ∃ p ∈ s.closed, s.system.localClientPort c = some p) ∨ s.PastClient ∧ ∃ p, s.Open p

variable {upcase : UInt16 → UInt16} {s s' : PortState} {a : PortAction} {p : PortHandle}

/-- Another client is accepted while the server port is open and no client port is. -/
theorem accepts_iff : s.accepts = true ↔ s.serverPort = true ∧ ∀ p, ¬ s.Open p := by
  have hopen : s.openPorts = [] ↔ ∀ p, ¬ s.Open p := by
    simp [PortState.openPorts, PortState.Open, List.filter_eq_nil_iff]
  rw [PortState.accepts, Bool.and_eq_true, decide_eq_true_iff, maxConnections, Nat.lt_one_iff,
    List.length_eq_zero_iff, hopen]

theorem ClosesPorts.accepts (h : ClosesPorts s) (hserver : s.serverPort = true)
    (hgone : ∀ p < s.issued, p ∈ s.disconnected) : s.accepts = true := by
  refine accepts_iff.2 ⟨hserver, ?_⟩
  rintro p ⟨hp, hopen⟩
  exact hopen (h.closed p hp (.inl (hgone p hp)))

/-! ### Runs in which no port is exposed -/

theorem kept_init : Kept PortState.init where
  once := List.nodup_nil
  issued p hp := by cases hp
  disconnected p hp := by cases hp
  clientPort p hp := by cases hp
  owned p hp := absurd hp.1 (Nat.not_lt_zero p)
  copied c p hp := by cases hp
  knows := ⟨rfl, rfl⟩

namespace Kept

theorem knows_of_eq {t : TeardownPhase} (h : Kept s) (ht : s.teardown = t) : s.Knows t :=
  ht ▸ h.knows

/-- While `RsDestroyCommPort` is not about to close a port, only `g_ClientPort` is open. -/
theorem clientPort_of_open (h : Kept s) (ht : ∀ q, s.teardown ≠ .closing q) (hp : s.Open p) :
    s.system.driver.clientPort = some p :=
  (h.owned p hp).resolve_right (ht _)

theorem pastClient (h : Kept s) (hp : p ∈ s.closed) : s.PastClient := by
  have hne : s.closed ≠ [] := List.ne_nil_of_mem hp
  cases ht : s.teardown with
  | idle | reading | clearing | closing => exact absurd (h.knows_of_eq ht).1 hne
  | closingServer => exact .inl ht
  | returned => exact .inr ht

theorem clientPort_eq_none (h : Kept s) (hpast : s.PastClient) :
    s.system.driver.clientPort = none := by
  rcases hpast with ht | ht
  · exact h.knows_of_eq ht
  · exact (h.knows_of_eq ht).1

theorem not_open (h : Kept s) (hpast : s.PastClient) : ¬ s.Open p := by
  intro hopen
  have hnot : ∀ q, s.teardown ≠ .closing q := by
    rcases hpast with ht | ht <;> simp [ht]
  cases (h.clientPort_eq_none hpast).symm.trans (h.clientPort_of_open hnot hopen)

theorem exists_open (h : Kept s) (hidle : s.teardown ≠ .idle) (hpast : ¬ s.PastClient) :
    ∃ p, s.Open p := by
  cases ht : s.teardown with
  | idle => exact absurd ht hidle
  | reading =>
    obtain ⟨p, hp⟩ := Option.isSome_iff_exists.1 (h.knows_of_eq ht).2
    exact ⟨p, h.clientPort p hp⟩
  | clearing q =>
    obtain ⟨-, hport, hclient⟩ := h.knows_of_eq ht
    obtain ⟨p, hp⟩ := Option.isSome_iff_exists.1 hclient
    exact ⟨p, h.clientPort p (hport.trans hp)⟩
  | closing q =>
    obtain ⟨-, -, p, -, hp⟩ := h.knows_of_eq ht
    exact ⟨p, hp⟩
  | closingServer => exact absurd (.inl ht) hpast
  | returned => exact absurd (.inr ht) hpast

theorem closesPorts (h : Kept s) : ClosesPorts s where
  once := h.once
  closed p hp := by
    rintro (hgone | hreturned)
    · exact h.disconnected p hgone
    · by_contra hclosed
      exact h.not_open (.inr hreturned) ⟨hp, hclosed⟩

theorem sendsOpen (h : Kept s) : SendsOpen s a := by
  unfold SendsOpen
  split
  · intro p hp
    exact (h.copied _ p hp).2
  · trivial

section

variable {system : SystemState}

theorem connect (h : Kept s) (hidle : s.teardown = .idle) (haccepts : s.accepts = true)
    (hport : system.driver.clientPort = some s.issued)
    (hcopies : ∀ c, system.localClientPort c = s.system.localClientPort c) :
    Kept { s with system := system, issued := s.issued + 1 } := by
  obtain ⟨hserver, hnone⟩ := accepts_iff.1 haccepts
  refine ⟨h.once, ?_, h.disconnected, ?_, ?_, ?_, ?_⟩
  · intro p hp
    exact Nat.lt_succ_of_lt (h.issued p hp)
  · intro p hp
    cases hport.symm.trans hp
    exact ⟨Nat.lt_succ_self _, fun hmem => lt_irrefl _ (h.issued _ hmem)⟩
  · rintro p ⟨hlt, hp⟩
    rcases Nat.lt_succ_iff_lt_or_eq.1 hlt with hlt | rfl
    · exact absurd ⟨hlt, hp⟩ (hnone p)
    · exact .inl hport
  · intro c p hp
    have hopen := h.copied c p ((hcopies c).symm.trans hp)
    exact ⟨Nat.lt_succ_of_lt hopen.1, hopen.2⟩
  · show PortState.Knows _ s.teardown
    rw [hidle]
    exact ⟨(h.knows_of_eq hidle).1, hserver⟩

theorem disconnect (h : Kept s) (hp : p ∈ s.closed) (hport : system.driver.clientPort = none)
    (hcopies : ∀ c, system.localClientPort c = s.system.localClientPort c) :
    Kept { s with system := system, disconnected := s.disconnected ++ [p] } := by
  have hpast := h.pastClient hp
  refine ⟨h.once, h.issued, ?_, ?_, ?_, ?_, ?_⟩
  · intro q hq
    rcases List.mem_append.1 hq with hq | hq
    · exact h.disconnected q hq
    · exact List.mem_singleton.1 hq ▸ hp
  · intro q hq
    cases hport.symm.trans hq
  · intro q hq
    exact absurd hq (h.not_open hpast)
  · intro c q hq
    exact h.copied c q ((hcopies c).symm.trans hq)
  · show PortState.Knows _ s.teardown
    rcases hpast with ht | ht
    · rw [ht]
      exact hport
    · rw [ht]
      exact ⟨hport, (h.knows_of_eq ht).2⟩

/-- `RsDestroyCommPort` resets `g_ClientPort`: the port changes hands. -/
theorem clear {q : Option PortHandle} (h : Kept s) (ht : s.teardown = .clearing q)
    (hport : system.driver.clientPort = none)
    (hcopies : ∀ c, system.localClientPort c = s.system.localClientPort c) :
    Kept { s with system := system, teardown := .closing q } := by
  obtain ⟨hclosed, rfl, hclient⟩ := h.knows_of_eq ht
  obtain ⟨p, hp⟩ := Option.isSome_iff_exists.1 hclient
  refine ⟨h.once, h.issued, h.disconnected, ?_, ?_, ?_, hclosed, hport, p, hp,
    h.clientPort p hp⟩
  · intro q hq
    cases hport.symm.trans hq
  · intro q hq
    exact .inr (congrArg TeardownPhase.closing (h.clientPort_of_open (by simp [ht]) hq))
  · intro c q hq
    exact h.copied c q ((hcopies c).symm.trans hq)

/-- `RsDestroyCommPort` closes a port that no call has copied. -/
theorem close {q : Option PortHandle} (h : Kept s) (ht : s.teardown = .closing q)
    (hcopies : ∀ p c, q = some p → s.system.localClientPort c ≠ some p) :
    Kept { s with closed := s.closed ++ q.toList, teardown := .closingServer } := by
  obtain ⟨hclosed, hport, p, rfl, hopen⟩ := h.knows_of_eq ht
  have hnew : s.closed ++ (some p).toList = [p] := by rw [hclosed]; rfl
  rw [hnew]
  refine ⟨List.nodup_singleton p, ?_, ?_, ?_, ?_, ?_, hport⟩
  · intro q hq
    exact List.mem_singleton.1 hq ▸ hopen.1
  · intro q hq
    have hold := h.disconnected q hq
    rw [hclosed] at hold
    cases hold
  · intro q hq
    cases hport.symm.trans hq
  · rintro q ⟨hlt, hq⟩
    rcases h.owned q ⟨hlt, by simp [hclosed]⟩ with hown | hown
    · cases hport.symm.trans hown
    · cases ht.symm.trans hown
      exact absurd (List.mem_singleton_self p) hq
  · intro c q hq
    refine ⟨(h.copied c q hq).1, fun hmem => hcopies p c rfl ?_⟩
    exact hq.trans (congrArg some (List.mem_singleton.1 hmem))

theorem other (h : Kept s) (hport : system.driver.clientPort = s.system.driver.clientPort)
    (hcopies : ∀ c p, system.localClientPort c = some p →
      s.system.localClientPort c = some p ∨ s.system.driver.clientPort = some p) :
    Kept { s with system := system } := by
  refine ⟨h.once, h.issued, h.disconnected, ?_, ?_, ?_, ?_⟩
  · intro p hp
    exact h.clientPort p (hport.symm.trans hp)
  · intro p hp
    exact (h.owned p hp).imp hport.trans id
  · intro c p hp
    rcases hcopies c p hp with hcopy | hcopy
    · exact h.copied c p hcopy
    · exact h.clientPort p hcopy
  · show PortState.Knows _ s.teardown
    have hknows := h.knows
    cases ht : s.teardown <;> rw [ht] at hknows <;>
      simpa only [PortState.Knows, PortState.Open, hport] using hknows

end

theorem advance {t : TeardownPhase} {serverPort : Bool} (h : Kept s)
    (ht : ∀ q, s.teardown ≠ .closing q)
    (hknows : PortState.Knows { s with serverPort := serverPort, teardown := t } t) :
    Kept { s with serverPort := serverPort, teardown := t } :=
  ⟨h.once, h.issued, h.disconnected, h.clientPort,
    fun _ hp => .inl (h.clientPort_of_open ht hp), h.copied, hknows⟩

/-- **A step that exposes no port.** -/
theorem step (h : Kept s) (hsafe : ¬ Exposes s a)
    (hstep : (portSystem upcase).step s a = some s') : Kept s' := by
  cases portStep_of_step hstep with
  | connects haccepts hport hcopies => exact h.connect (not_not.1 hsafe) haccepts hport hcopies
  | disconnects hp hfirst hport hcopies => exact h.disconnect (not_not.1 hsafe) hport hcopies
  | findsClient ht hclient => exact h.advance (by simp [ht]) ⟨(h.knows_of_eq ht).1, hclient⟩
  | findsNone ht hnone => exact h.advance (by simp [ht]) hnone
  | readsPort ht =>
    obtain ⟨hclosed, hclient⟩ := h.knows_of_eq ht
    exact h.advance (by simp [ht]) ⟨hclosed, rfl, hclient⟩
  | clearsPort ht hport hcopies => exact h.clear ht hport hcopies
  | closesPort ht =>
    refine h.close ht ?_
    rintro p c rfl hcopy
    exact hsafe ⟨p, c, ht, hcopy⟩
  | closesServer ht =>
    exact h.advance (by simp [ht]) ⟨h.clientPort_eq_none (.inl ht), rfl⟩
  | other hport hcopies =>
    refine h.other hport fun c p hp => ?_
    rcases hcopies c with hkeep | ⟨-, hnone⟩ | ⟨-, hcopy⟩
    · exact .inl (hkeep.symm.trans hp)
    · cases hnone.symm.trans hp
    · exact .inr (hcopy.symm.trans hp)

end Kept

/-! ### Runs in which a port is exposed -/

namespace Doomed

/-- **What is doomed stays doomed**, as long as nothing is sent on a closed port. -/
theorem step (h : Doomed s) (hsends : SendsOpen s a)
    (hstep : (portSystem upcase).step s a = some s') : Doomed s' := by
  rcases h with ⟨c, p, hp, hcopy⟩ | ⟨hpast, p, hopen⟩
  · -- the call keeps its copy until it sends
    cases portStep_of_step hstep with
    | connects _ _ hcopies | disconnects _ _ _ hcopies | clearsPort _ _ hcopies =>
      exact .inl ⟨c, p, hp, (hcopies c).trans hcopy⟩
    | closesPort => exact .inl ⟨c, p, List.mem_append_left _ hp, hcopy⟩
    | findsClient | findsNone | readsPort | closesServer => exact .inl ⟨c, p, hp, hcopy⟩
    | other hport hcopies =>
      rcases hcopies c with hkeep | ⟨rfl, -⟩ | ⟨hnone, -⟩
      · exact .inl ⟨c, p, hp, hkeep.trans hcopy⟩
      · exact absurd hp (hsends p hcopy)
      · cases hnone.symm.trans hcopy
  · -- `RsDestroyCommPort` does not come back to the port
    cases portStep_of_step hstep with
    | connects => exact .inr ⟨hpast, p, Nat.lt_succ_of_lt hopen.1, hopen.2⟩
    | disconnects | other => exact .inr ⟨hpast, p, hopen⟩
    | closesServer => exact .inr ⟨.inr rfl, p, hopen⟩
    | findsClient ht | findsNone ht | readsPort ht | clearsPort ht | closesPort ht =>
      rcases hpast with hpast | hpast <;> cases ht.symm.trans hpast

/-- When everything is settled, no port is doomed. -/
theorem not_settled (h : Doomed s) (hcloses : ClosesPorts s) : ¬ s.Settled := by
  rintro ⟨hteardown, hcopies⟩
  rcases h with ⟨c, p, -, hcopy⟩ | ⟨hpast, p, hp, hopen⟩
  · cases (hcopies c).symm.trans hcopy
  · have hreturned : s.teardown = .returned := by
      rcases hteardown with hidle | hreturned
      · rcases hpast with ht | ht <;> cases hidle.symm.trans ht
      · exact hreturned
    exact hopen (hcloses.closed p hp (.inr hreturned))

end Doomed

/-- A step that exposes a port dooms it, or leaves it open at once. -/
theorem Kept.doomed (h : Kept s) (hexposes : Exposes s a)
    (hstep : (portSystem upcase).step s a = some s') (hcloses : ClosesPorts s') : Doomed s' := by
  cases portStep_of_step hstep with
  | connects haccepts =>
    obtain ⟨-, hnone⟩ := accepts_iff.1 haccepts
    have hpast : s.PastClient := by
      by_contra hpast
      obtain ⟨p, hp⟩ := h.exists_open hexposes hpast
      exact hnone p hp
    refine .inr ⟨hpast, s.issued, Nat.lt_succ_self _, fun hmem => ?_⟩
    exact lt_irrefl _ (h.issued _ hmem)
  | @disconnects p _ hp =>
    refine absurd (hcloses.closed p hp (.inl ?_)) hexposes
    exact List.mem_append_right _ (List.mem_singleton_self p)
  | closesPort ht =>
    obtain ⟨p, c, hclosing, hcopy⟩ := hexposes
    cases ht.symm.trans hclosing
    exact .inl ⟨c, p, List.mem_append_right _ (List.mem_singleton_self p), hcopy⟩
  | findsClient ht | findsNone ht | readsPort ht | clearsPort ht | closesServer ht =>
    obtain ⟨p, c, hclosing, -⟩ := hexposes
    cases ht.symm.trans hclosing
  | other => exact hexposes.elim

/-! ### The guarantee -/

section

variable {as : List PortAction}

theorem kept_run (hrun : (portSystem upcase).run PortState.init as = some s)
    (hsteps : (portSystem upcase).EveryStep PortState.init as fun s a => ¬ Exposes s a) :
    Kept s :=
  hsteps.invariant hrun kept_init fun _ _ _ h hsafe hstep => h.step hsafe hstep

theorem kept_or_doomed (hrun : (portSystem upcase).run PortState.init as = some s)
    (hcloses : (portSystem upcase).Always PortState.init as ClosesPorts)
    (hsends : (portSystem upcase).EveryStep PortState.init as SendsOpen) :
    ((portSystem upcase).EveryStep PortState.init as fun s a => ¬ Exposes s a) ∨ Doomed s := by
  refine Machine.run_induction (I := fun bs s =>
    ((portSystem upcase).EveryStep PortState.init bs fun s a => ¬ Exposes s a) ∨ Doomed s)
    hrun (.inl (Machine.everyStep_nil _)) ?_
  intro bs b u u' hb hu hI hstep
  have hcloses' : ClosesPorts u' := by
    refine hcloses (bs ++ [b]) u' hb ?_
    rw [Machine.run_concat, hu, Option.bind_some, hstep]
  rcases hI with hsafe | hdoomed
  · by_cases hexposes : Exposes u b
    · exact .inr ((kept_run hu hsafe).doomed hexposes hstep hcloses')
    · exact .inl (hsafe.concat hu hexposes)
  · exact .inr (hdoomed.step (hsends bs b u hb hu) hstep)

/-- **The client ports are closed.**  In a run in which no client disconnects before its port was
closed, no client connects after `RsDestroyCommPort` has tested `g_ClientPort`, and no port is
closed while a notification has a copy of it: every client port is closed exactly once, at the
latest when its disconnect callback or `RsDestroyCommPort` has returned, and nothing is sent on it
afterwards.  And a run at whose end no notification and no `RsDestroyCommPort` is in flight has
these properties only if all of its steps are such. -/
theorem client_ports_closed (upcase : UInt16 → UInt16) (as : List PortAction) :
    (((portSystem upcase).EveryStep PortState.init as fun s a => ¬ Exposes s a) →
      (portSystem upcase).Always PortState.init as ClosesPorts ∧
        (portSystem upcase).EveryStep PortState.init as SendsOpen) ∧
    ∀ s, (portSystem upcase).run PortState.init as = some s → s.Settled →
      (portSystem upcase).Always PortState.init as ClosesPorts →
      (portSystem upcase).EveryStep PortState.init as SendsOpen →
      (portSystem upcase).EveryStep PortState.init as fun s a => ¬ Exposes s a := by
  refine ⟨?_, ?_⟩
  · intro hsteps
    refine ⟨?_, ?_⟩
    · intro bs s hbs hs
      exact (kept_run hs (hsteps.of_prefix hbs)).closesPorts
    · intro bs b s hb hs
      exact (kept_run hs (hsteps.of_prefix ((List.prefix_append bs [b]).trans hb))).sendsOpen
  · intro s hrun hsettled hcloses hsends
    refine (kept_or_doomed hrun hcloses hsends).resolve_right fun hdoomed => ?_
    exact hdoomed.not_settled (hcloses as s List.prefix_rfl hrun) hsettled

end

/-- A client connects, and disconnects when `RsDestroyCommPort` has closed its port. -/
def closesInTime : List PortAction :=
  [.connect, .destroy, .destroy, .destroy, .destroy, .disconnect 0, .destroy]

/-- The states of this run, behind the first step. -/
def oneClient (clientPort : Option PortHandle) (closed disconnected : List PortHandle)
    (teardown : TeardownPhase) : PortState where
  system := { SystemState.init with driver := { DriverState.init with clientPort := clientPort } }
  serverPort := true
  issued := 1
  closed := closed
  disconnected := disconnected
  teardown := teardown

theorem client_ports_closed_in_time :
    (portSystem id).Always PortState.init closesInTime ClosesPorts ∧
      (portSystem id).EveryStep PortState.init closesInTime SendsOpen := by
  refine (client_ports_closed id closesInTime).1 ?_
  -- no notification is in flight, and the client is gone when its port was closed
  refine Machine.everyStep_cons (fun h => h rfl) fun s hs => ?_
  obtain rfl : oneClient (some 0) [] [] .idle = s := Option.some.inj hs
  refine Machine.everyStep_cons (fun ⟨_, _, h, _⟩ => by cases h) fun s hs => ?_
  obtain rfl : oneClient (some 0) [] [] .reading = s := Option.some.inj hs
  refine Machine.everyStep_cons (fun ⟨_, _, h, _⟩ => by cases h) fun s hs => ?_
  obtain rfl : oneClient (some 0) [] [] (.clearing (some 0)) = s := Option.some.inj hs
  refine Machine.everyStep_cons (fun ⟨_, _, h, _⟩ => by cases h) fun s hs => ?_
  obtain rfl : oneClient none [] [] (.closing (some 0)) = s := Option.some.inj hs
  refine Machine.everyStep_cons (fun ⟨_, _, _, h⟩ => by cases h) fun s hs => ?_
  obtain rfl : oneClient none [0] [] .closingServer = s := Option.some.inj hs
  refine Machine.everyStep_cons (fun h => h (List.mem_singleton_self 0)) fun s hs => ?_
  obtain rfl : oneClient none [0] [0] .closingServer = s := Option.some.inj hs
  exact Machine.everyStep_cons (fun ⟨_, _, h, _⟩ => by cases h) fun s _ =>
    Machine.everyStep_nil s

/-- **A client port is leaked**: when the client has disconnected, its port is still open, and no
other client is accepted. -/
theorem client_port_leaked :
    ∃ s, (portSystem id).run PortState.init [.connect, .disconnect 0] = some s ∧
      0 ∈ s.disconnected ∧ 0 ∉ s.closed ∧ s.accepts = false ∧ ¬ ClosesPorts s := by
  refine ⟨_, rfl, by decide, by decide, rfl, fun h => ?_⟩
  have hclosed := h.closed 0 (by decide) (.inl (by decide))
  cases hclosed

/-- A call blocks its process and copies `g_ClientPort`, and then `RsDestroyCommPort` closes the
port. -/
def closesUnderNotification : List PortAction :=
  [.connect, .other (.control (.applyConfig 1 9 1)), .other (.call ⟨8, 0⟩ none (.ofTicks 5)),
    .other (.advance ⟨8, 0⟩ .firstSection), .other (.advance ⟨8, 0⟩ (.allocate true)),
    .other (.advance ⟨8, 0⟩ .secondSection), .other (.advance ⟨8, 0⟩ .snapshotPort),
    .other (.advance ⟨8, 0⟩ .drawSequence), .destroy, .destroy, .destroy, .destroy]

/-- **A client port is used after it was closed**: the call goes on to send on it. -/
theorem client_port_used_after_close :
    ∃ s, (portSystem id).run PortState.init closesUnderNotification = some s ∧
      ¬ SendsOpen s (.other (.advance ⟨8, 0⟩ .sendMessage)) ∧
      ((portSystem id).step s (.other (.advance ⟨8, 0⟩ .sendMessage))).isSome = true := by
  obtain ⟨s, hrun, h⟩ := Machine.exists_of_any (portSystem id)
    (fun s => decide (s.closed = [0]) &&
      decide (s.system.localClientPort ⟨8, 0⟩ = some 0) &&
      ((portSystem id).step s (.other (.advance ⟨8, 0⟩ .sendMessage))).isSome)
    PortState.init closesUnderNotification (by decide +kernel)
  simp only [Bool.and_eq_true, decide_eq_true_eq] at h
  obtain ⟨⟨hclosed, hcopy⟩, henabled⟩ := h
  refine ⟨s, hrun, fun hsends => ?_, henabled⟩
  refine hsends 0 hcopy ?_
  rw [hclosed]
  exact List.mem_singleton_self 0

end RansomShield
