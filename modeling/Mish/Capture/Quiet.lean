import Mish.Capture.Adapter
import Mish.Capture.Confirmation

/-!
# Capture that stays off

A backend is quiet while its status neither wants nor reports capture. Switching
a backend off leaves it quiet; audits, and switching off again, write quiet
statuses only, so a quiet backend also stays so when such an operation is
dropped half-way.
-/

namespace Mish.Capture
open Interaction SystemProxy

/-! ## The System Proxy -/

namespace SystemProxy

/-- The System Proxy is neither wanted nor on. -/
def Quiet (status : CaptureRuntimeStatus) : Prop :=
  status.systemProxy.desired = false ∧ status.systemProxyEnabled = false

def WritesQuiet : Request → Prop
  | .writeStatus status => Quiet status
  | _ => True

abbrev Quietly {σ α : Type} (behaves : Behaviour σ) :=
  Safe (α := α) (platform behaves) fun _ r => WritesQuiet r

section
variable {σ : Type} {behaves : Behaviour σ} {endpoint : LoopbackProxyEndpoint} {w : World σ}
  {current : CaptureRuntimeStatus}

theorem quiet_kept {r a t} (h : Quiet w.status)
    (writes : WritesQuiet r) (step : platform behaves w r a t) : Quiet t.status := by
  rw [step.2.2]
  cases r with
  | writeStatus status => exact writes
  | _ => exact h

theorem quiet_driftStatus {status} (failure : Option CaptureFailureKind)
    (observed : SystemProxyObservedState) (unwanted : status.systemProxy.desired = false) :
    Quiet (driftStatus status failure observed) := ⟨unwanted, rfl⟩

theorem restoreExactPrior_quiet {prior} :
    Quietly behaves (fun _ _ => True) (restoreExactPrior endpoint prior) w := by
  have loop : KeptByLoop behaves (fun _ r => WritesQuiet r) (fun _ => True)
      (some prior.serviceId) := by
    constructor <;> exact fun _ _ => ⟨trivial, fun _ _ _ => trivial⟩
  unfold restoreExactPrior
  simp only [safe_bind, safe_free, safe_ite, forall_fallible, safe_pure]
  refine ⟨trivial, fun _ _ _ => trivial, fun _ _ _ => ⟨fun _ => trivial, fun _ => ?_⟩⟩
  refine ⟨trivial, fun _ _ _ => trivial, fun _ _ _ => ?_⟩
  refine (confirmTarget_safe loop trivial).mono ?_
  rintro (_ | _) _ _ <;> trivial

theorem restore_quiet {selection} : Quietly behaves (fun result t => ∀ status, result = .ok status →
    Quiet t.status) (restore endpoint selection) w := by
  unfold Quietly restore
  rw [safe_bind]
  refine loadValidatedJournal_safe trivial (fun e a s _ => ?_) (fun s _ _ => ?_)
  · simp [recordUnknownDrift, WritesQuiet, quiet_driftStatus, withdrawn]
  cases w.journal with
  | none =>
    simp [forall_fallible, recordFailure, WritesQuiet, Quiet, statusAfter, offStatus,
      CaptureRuntimeStatus.off]
  | some journal =>
    simp only [safe_ite, safe_bind, safe_free, forall_fallible]
    refine ⟨trivial, fun e t _ => ?_, fun owned t _ => ⟨fun _ => ?_, fun _ => ?_⟩⟩
    · simp [recordUnknownDrift, WritesQuiet, quiet_driftStatus, withdrawn]
    · simp [markDrift, WritesQuiet, quiet_driftStatus, withdrawn]
    · refine restoreExactPrior_quiet.mono ?_
      rintro (e | restored) u _
      · simp [markDrift, WritesQuiet, quiet_driftStatus, withdrawn]
      · simp only [safe_bind, safe_free, forall_fallible]
        refine ⟨trivial, fun e s _ => ?_, fun _ s _ => ?_⟩
        · simp [markDrift, WritesQuiet, quiet_driftStatus, withdrawn]
        · simp [WritesQuiet, Quiet, offStatus, CaptureRuntimeStatus.off, statusAfter]

/-- Switching off leaves a quiet status behind, and writes no other where it
found one. -/
theorem switchOff_quiet {held : Prop} {selection} (coreHealthy : Bool)
    (preflight : Option SystemProxyPreflight) (before : held → Quiet w.status) :
    Safe (platform behaves) (fun _ r => held → WritesQuiet r)
    (fun result t => ∀ status, result = .ok status → Quiet t.status)
    (reconcileWithPreflight endpoint ⟨false, selection⟩ coreHealthy preflight) w := by
  have off : (false && selection.systemProxy) = false := rfl
  unfold reconcileWithPreflight guarded reconcileLockedWithPreflight
  simp only [safe_bind, safe_ite, safe_free, safe_lockOperation, safe_pure, recordFailure,
    setPending, safe_readStatus, safe_writeStatus, off]
  refine ⟨fun _ => trivial, fun _ _ _ => ⟨fun _ => by simp, fun _ => ?_⟩⟩
  refine ⟨fun _ => trivial, fun _ _ => ⟨fun _ => trivial, fun _ _ _ => ⟨fun _ => by simp,
    fun _ => ?_⟩⟩⟩
  refine ⟨fun _ => trivial, fun _ _ _ => ⟨fun _ => ?_, fun _ => ⟨fun _ => by simp, fun _ => ?_⟩⟩⟩
  · exact ⟨fun _ => ⟨rfl, rfl⟩, fun _ _ => by simp⟩
  · refine ⟨fun _ => trivial, fun _ _ => ⟨fun yes => ⟨rfl, (before yes).2⟩, fun _ _ => ?_⟩⟩
    refine ⟨fun _ => ?_, fun wanted => absurd rfl wanted⟩
    exact restore_quiet.weaken fun _ _ writes _ => writes

theorem recordUnknownDrift_quiet {failure} (unwanted : current.systemProxy.desired = false) :
    Quietly behaves (fun _ t => Quiet t.status) (recordUnknownDrift current failure) w := by
  have quiet := quiet_driftStatus (some failure) .unknown unwanted
  simp only [recordUnknownDrift, safe_writeStatus]
  exact ⟨quiet, fun _ _ => quiet⟩

theorem restrictRecoveryToRelinquish_quiet (h : Quiet w.status) :
    Quietly behaves (fun _ _ => True) restrictRecoveryToRelinquish w := by
  simp only [restrictRecoveryToRelinquish, safe_bind, safe_readStatus, safe_writeStatus]
  exact ⟨trivial, fun _ _ => ⟨h, fun _ _ => trivial⟩⟩

/-- What is not wanted is confirmed to be off, or still counts as failed. -/
theorem auditObserved_quiet (journal : Option CaptureJournal)
    (observed : NetworkServiceProxyState) (unwanted : current.systemProxy.desired = false) :
    Quietly behaves (fun _ _ => True) (auditObserved endpoint current journal observed) w := by
  unfold auditObserved
  simp only [safe_ite, safe_bind, safe_writeStatus, safe_pure, unwanted, Bool.false_eq_true,
    false_and, false_implies, not_false_eq_true, true_implies, true_and, implies_true, and_true]
  exact ⟨fun _ => ⟨rfl, rfl⟩, fun _ => ⟨rfl, rfl⟩⟩

theorem auditSupported_quiet (coreHealthy : Bool) {journal} (h : Quiet current) :
    Quietly behaves (fun _ _ => True) (auditSupported endpoint coreHealthy current journal) w := by
  have observes : Quietly behaves (fun _ _ => True)
      (auditSupported.observeAndAudit endpoint current journal) w := by
    unfold auditSupported.observeAndAudit
    simp only [safe_bind, safe_free, forall_fallible, safe_ite, safe_pure]
    refine ⟨trivial, fun e s _ => ⟨fun _ => ?_, fun _ => trivial⟩, fun observed s _ => ?_⟩
    · exact (recordUnknownDrift_quiet h.1).mono fun _ _ _ => trivial
    · exact auditObserved_quiet journal observed h.1
  unfold auditSupported
  simp only [h.1, Bool.and_false, Bool.false_and, Bool.false_eq_true, if_false, safe_ite, safe_bind,
    safe_pure]
  exact ⟨fun _ => restore_quiet.mono fun _ _ _ => trivial, fun _ => observes⟩

theorem auditLocked_quiet (coreHealthy : Bool) (h : Quiet w.status) :
    Quietly behaves (fun _ _ => True) (auditLocked endpoint coreHealthy) w := by
  unfold auditLocked
  simp only [safe_bind, safe_readStatus]
  refine ⟨trivial, fun s _ => loadValidatedJournal_safe trivial (fun e a s _ => ?_) fun s _ _ => ?_⟩
  · simp only [safe_bind, safe_ite, safe_pure]
    refine (recordUnknownDrift_quiet h.1).mono fun _ t quiet => ⟨fun _ => ?_, fun _ => trivial⟩
    exact restrictRecoveryToRelinquish_quiet quiet
  · simp only [safe_free, safe_ite, safe_bind, safe_pure]
    refine ⟨trivial, fun a s _ => ⟨fun _ => ⟨fun _ => ?_, fun _ => trivial⟩, fun _ => ?_⟩⟩
    · exact (recordUnknownDrift_quiet h.1).mono fun _ _ _ => trivial
    · exact auditSupported_quiet coreHealthy h

/-- An audit of a quiet System Proxy writes quiet statuses only. -/
theorem audit_quiet (reason : CaptureAuditReason) (coreHealthy : Bool) (h : Quiet w.status) :
    Quietly behaves (fun _ _ => True) (auditWithMutation endpoint reason coreHealthy) w := by
  unfold auditWithMutation guarded
  simp only [safe_bind, safe_ite, safe_free, safe_lockOperation, safe_readStatus,
    safe_pure]
  refine ⟨trivial, fun _ _ _ => ⟨fun _ => ⟨trivial, fun _ _ => trivial⟩, fun _ => ?_⟩⟩
  refine ⟨trivial, fun _ _ => ⟨trivial, fun _ _ _ => ⟨fun _ => ?_, fun _ => ?_⟩⟩⟩
  · exact ⟨trivial, fun _ _ => trivial⟩
  · exact auditLocked_quiet coreHealthy h

end

end SystemProxy

/-! ## TUN -/

namespace Tun

/-- TUN is neither wanted nor on. -/
def Quiet (status : TunRuntimeStatus) : Prop :=
  status.desired = false ∧ (status.phase = .applied → status.observed ≠ .enabled)

def WritesQuiet : Request → Prop
  | .writeStatus status => Quiet status
  | _ => True

abbrev Quietly {τ α : Type} (behaves : Behaviour τ) :=
  Safe (α := α) (helper behaves) fun _ r => WritesQuiet r

section
variable {τ : Type} {behaves : Behaviour τ} {w : World τ}

theorem quiet_kept {r a t} (h : Quiet w.status)
    (writes : WritesQuiet r) (step : helper behaves w r a t) : Quiet t.status := by
  rw [step.2.2]
  cases r with
  | writeStatus status => exact writes
  | _ => exact h

theorem quiet_confirmedStatus {observation now}
    (disabled : observation.confirmsDisabledAt now = true) (later : UInt64) :
    Quiet (confirmedStatus false observation (observation.observedStateAt later)) := by
  have off := TunNetworkObservation.observedStateAt_ne_enabled disabled later
  exact ⟨rfl, fun _ => off⟩

/-- Observing reads and writes no status. -/
theorem observeTun_quiet :
    Quietly behaves (fun _ t => t.status = w.status) Helper.observeTun w := by
  unfold Helper.observeTun Helper.observeTunLocked
  simp [WritesQuiet]

/-- What it returns was seen to be disabled. -/
theorem setTunEnabled_quiet : Quietly behaves (fun result t => t.status = w.status ∧
    ∀ observation, result = .ok observation →
    ∃ now, observation.confirmsDisabledAt now = true) (Helper.setTunEnabled false) w := by
  unfold Helper.setTunEnabled Helper.observeTunLocked
  simp only [safe_bind, safe_lockOperation, safe_free, safe_ite, safe_pure]
  refine ⟨trivial, fun _ _ => ⟨trivial, fun snapshot _ _ => ⟨fun _ => by simp, fun _ => ?_⟩⟩⟩
  refine ⟨trivial, fun switched _ _ => ?_⟩
  cases switched with
  | error error => simp
  | ok =>
    simp only [safe_bind, safe_free, safe_ite, safe_pure, safe_observeTun]
    refine ⟨trivial, fun snapshot _ _ => ⟨fun _ => by simp, fun _ => ?_⟩⟩
    refine ⟨trivial, fun observed _ _ => ?_⟩
    cases observed with
    | error error => simp
    | ok observation =>
      simp only [safe_bind, safe_free, safe_ite, safe_pure, safe_clearFailure]
      refine ⟨trivial, fun now _ _ => ⟨fun _ => ⟨trivial, fun _ _ _ => by simp⟩,
        fun confirmed => ?_⟩⟩
      refine ⟨trivial, fun _ _ => ⟨trivial, ?_⟩⟩
      rintro _ ⟨⟩
      exact ⟨now, by simpa using confirmed⟩

theorem quiet_pending {observation observed} :
    Quiet ⟨false, none, observation, observed, .pending⟩ := ⟨rfl, nofun⟩

theorem quiet_failed {failure observed observation} :
    Quiet ⟨false, some failure, observation, observed, .failed⟩ := ⟨rfl, nofun⟩

theorem switchOff_quiet (coreHealthy : Bool) : Quietly behaves
    (fun result t => ∀ status, result = .ok status → Quiet t.status)
    (reconcile false coreHealthy) w := by
  unfold reconcile switch setPending
  simp only [safe_bind, safe_readStatus, safe_ite, safe_pure, safe_writeStatus,
    Bool.false_eq_true, if_false, Bool.not_false, Bool.true_and, Bool.false_and]
  refine ⟨trivial, fun _ _ => ⟨fun converged _ _ => ?_, fun _ => ⟨trivial, fun _ _ => ?_⟩⟩⟩
  · simp only [Bool.and_eq_true, decide_eq_true_eq, Bool.not_eq_true'] at converged
    exact ⟨converged.2, by simp [converged.1]⟩
  refine ⟨quiet_pending, fun _ _ => setTunEnabled_quiet.mono ?_⟩
  rintro (error | observation) t ⟨_, seen⟩
  · simp only [safe_bind]
    refine observeTun_quiet.mono ?_
    rintro (_ | observation) u _
    · simp only [recordFailure, safe_bind, safe_writeStatus, safe_pure]
      exact ⟨quiet_failed, fun _ _ => by simp⟩
    · simp only [recordFailure, observedState, safe_bind, safe_free, safe_writeStatus, safe_pure]
      exact ⟨trivial, fun _ _ _ => ⟨quiet_failed, fun _ _ => by simp⟩⟩
  · obtain ⟨now, disabled⟩ := seen observation rfl
    simp only [observedState, safe_bind, safe_free, safe_writeStatus, safe_pure]
    refine ⟨trivial, fun later _ _ => ?_⟩
    have quiet := quiet_confirmedStatus disabled later
    exact ⟨quiet, fun _ _ _ _ => quiet⟩

theorem availability_quiet : Quietly behaves (fun _ t => t.status = w.status) availability w := by
  unfold availability
  simp only [safe_bind, safe_free]
  refine ⟨trivial, fun snapshot s _ => ?_⟩
  cases snapshot.availability <;> simp [WritesQuiet]

theorem recordDrift_quiet {failure} (h : Quiet w.status) :
    Quietly behaves (fun _ _ => True) (recordDrift failure) w := by
  simp only [recordDrift, safe_bind, safe_readStatus, safe_writeStatus]
  exact ⟨trivial, fun _ _ => ⟨⟨h.1, by simp⟩, fun _ _ => trivial⟩⟩

theorem auditObserved_quiet {current} (observation : TunNetworkObservation)
    (unwanted : current.desired = false) (h : Quiet w.status) :
    Quietly behaves (fun _ _ => True) (auditObserved current observation) w := by
  unfold auditObserved recordObservedDrift observedState
  simp only [safe_bind, safe_free, safe_ite, safe_readStatus, safe_writeStatus, safe_pure, unwanted]
  refine ⟨trivial, fun now _ _ => ⟨fun disabled => ⟨trivial, fun later _ _ => ?_⟩, fun _ => ?_⟩⟩
  · exact ⟨quiet_confirmedStatus (by simpa using disabled) later, fun _ _ => trivial⟩
  · refine ⟨trivial, fun _ _ _ => ⟨trivial, fun _ _ => ⟨trivial, fun _ _ _ => ?_⟩⟩⟩
    exact ⟨⟨h.1, by simp⟩, fun _ _ => trivial⟩

theorem audit_quiet (coreHealthy : Bool) (h : Quiet w.status) :
    Quietly behaves (fun _ _ => True) (audit coreHealthy) w := by
  unfold audit
  simp only [safe_bind, safe_readStatus, h.1, Bool.false_and, Bool.false_eq_true, safe_ite,
    Bool.false_or, false_implies, not_false_eq_true, true_implies, true_and]
  refine ⟨trivial, fun _ _ => availability_quiet.mono fun available t same => ?_⟩
  have quiet : Quiet t.status := by
    rw [same]
    exact h
  refine ⟨fun _ => ⟨fun _ => ?_, fun _ => trivial⟩, fun _ => ?_⟩
  · simp only [safe_free]
    exact ⟨trivial, fun _ _ _ => Safe.mono (recordDrift_quiet quiet) fun _ _ _ => trivial⟩
  · refine observeTun_quiet.mono ?_
    rintro (error | observation) u unchanged
    · rw [← unchanged] at quiet
      exact (recordDrift_quiet quiet).bind fun _ _ _ => trivial
    · rw [← unchanged] at quiet
      exact auditObserved_quiet observation h.1 quiet

end

end Tun

/-! ## Both backends -/

/-- The status neither wants nor reports capture, and its selection is allowed. -/
structure Calm (allowed : CaptureSelection → Prop) (status : CaptureRuntimeStatus) : Prop where
  systemProxy : SystemProxy.Quiet status
  tunUnwanted : status.tun.desired = false
  tunOff : status.tunEnabled = false
  selection : allowed status.captureSelection

namespace CaptureEffectAdapter

def Quiet {σ τ : Type} (c : CaptureEffectAdapter) (w : Worlds σ τ) : Prop :=
  SystemProxy.Quiet w.1.status ∧ (c.hasTun = true → Tun.Quiet w.2.status)

def WritesQuiet : SystemProxy.Request ⊕ Tun.Request → Prop
  | .inl r => SystemProxy.WritesQuiet r
  | .inr r => Tun.WritesQuiet r

abbrev Quietly {σ τ α : Type} (services : Behaviour σ) (network : Tun.Behaviour τ) :=
  Safe (α := α) (backends services network) fun _ r => WritesQuiet r

section
variable {σ τ : Type} {c : CaptureEffectAdapter} {services : Behaviour σ}
  {network : Tun.Behaviour τ} {w : Worlds σ τ} {held : Prop} {allowed : CaptureSelection → Prop}
  {r : SystemProxy.Request ⊕ Tun.Request} {a : SumReply Reply Tun.Reply r} (coreHealthy : Bool)
  {previous : CaptureRuntimeStatus} {req : CaptureRequest}

theorem quiet_kept {t} (h : Quiet c w)
    (writes : WritesQuiet r) (step : backends services network w r a t) : Quiet c t := by
  cases r with
  | inl r =>
    obtain ⟨step, same⟩ := step
    refine ⟨quiet_kept h.1 writes step, ?_⟩
    rw [same]
    exact h.2
  | inr r =>
    obtain ⟨step, same⟩ := step
    refine ⟨?_, fun has => Tun.quiet_kept (h.2 has) writes step⟩
    rw [same]
    exact h.1

/-- A status combined from quiet backends is calm. -/
theorem calm_combine {selection proxy tun} (quiet : SystemProxy.Quiet proxy)
    (tunQuiet : Tun.Quiet tun)
    (chosen : allowed selection) : Calm allowed (combine selection proxy tun) where
  systemProxy := quiet
  tunUnwanted := tunQuiet.1
  tunOff := by
    have := tunQuiet.2
    simpa [combine] using this
  selection := chosen

theorem tunStatus_reads : Quietly services network (fun status t => t.1 = w.1 ∧
    t.2.status = w.2.status ∧ status = if c.hasTun then w.2.status else .off) c.tunStatus w := by
  unfold tunStatus
  cases c.hasTun with
  | false => exact ⟨rfl, rfl, rfl⟩
  | true =>
    simp only [Quietly, if_true, onTun, backends, safe_inr, Tun.safe_readStatus]
    exact ⟨trivial, fun _ _ => ⟨trivial, trivial, trivial⟩⟩

/-- Reading both statuses changes neither. -/
theorem combinedStatus_calm {selection} : Quietly services network
    (fun status t => Quiet c w → Quiet c t ∧ ∀ allowed, allowed selection → Calm allowed status)
    (c.combinedStatus selection) w := by
  unfold combinedStatus
  simp only [safe_bind, onProxy, backends, safe_inl, safe_readStatus]
  refine ⟨trivial, fun s _ => tunStatus_reads.mono ?_⟩
  rintro tun t ⟨proxySame, tunSame, rfl⟩
  intro quiet
  refine ⟨⟨?_, fun has => ?_⟩, fun allowed chosen => calm_combine quiet.1 ?_ chosen⟩
  · rw [proxySame]
    exact quiet.1
  · rw [tunSame]
    exact quiet.2 has
  · cases has : c.hasTun with
    | false => exact ⟨rfl, by rintro ⟨⟩⟩
    | true => exact quiet.2 has

/-! ### Switching off -/

theorem setSystemProxy_off {selection preflight} (coreHealthy : Bool)
    (before : held → SystemProxy.Quiet w.1.status) :
    Safe (backends services network) (fun _ r => held → WritesQuiet r)
    (fun result t => t.2 = w.2 ∧ (result = .ok () → SystemProxy.Quiet t.1.status))
    (c.setSystemProxy false selection coreHealthy preflight) w := by
  unfold setSystemProxy
  simp only [safe_bind, onProxy, backends, safe_inl]
  refine (SystemProxy.switchOff_quiet coreHealthy preflight before).mono ?_
  rintro (_ | status) t off
  · exact ⟨rfl, by rintro ⟨⟩⟩
  · exact ⟨rfl, fun _ => off status rfl⟩

theorem setTun_off : Quietly services network (fun result t => t.1 = w.1 ∧
    (result = .ok () → c.hasTun = true → Tun.Quiet t.2.status)) (c.setTun false coreHealthy) w := by
  unfold setTun
  cases has : c.hasTun with
  | false => exact ⟨rfl, by simp⟩
  | true =>
    simp only [if_true, safe_bind, onTun, backends, safe_inr]
    refine (Tun.switchOff_quiet coreHealthy).mono ?_
    rintro (_ | status) t off
    · exact ⟨rfl, by rintro ⟨⟩⟩
    · exact ⟨rfl, fun _ _ => off status rfl⟩

theorem quiet_of_converged {status} (h : Tun.isConverged status false = true) :
    Tun.Quiet status := by
  simp only [Tun.isConverged, Bool.false_eq_true, if_false, Bool.and_eq_true, Bool.not_eq_true',
    decide_eq_true_eq] at h
  exact ⟨h.1, by simp [h.2]⟩

theorem disableTunFirst_off : Quietly services network
    (fun result t => t.1 = w.1 ∧ (result = .ok () → c.hasTun = true → Tun.Quiet t.2.status))
    (c.disableTunFirst false coreHealthy) w := by
  unfold disableTunFirst
  cases has : c.hasTun with
  | false => exact ⟨rfl, nofun⟩
  | true =>
    simp only [Bool.not_false, Bool.and_true, if_true, safe_bind, onTun, backends, safe_inr,
      Tun.safe_readStatus, safe_ite, safe_pure]
    refine ⟨trivial, fun s _ => ⟨fun converged => ⟨trivial, fun _ _ => ?_⟩, fun _ => ?_⟩⟩
    · exact quiet_of_converged converged
    · exact (setTun_off coreHealthy).mono fun result t off => ⟨off.1, fun done _ => off.2 done has⟩

theorem quiet_kept_if {s t} (h : held → Quiet c s) (writes : held → WritesQuiet r)
    (step : backends services network s r a t) : held → Quiet c t :=
  fun yes => quiet_kept (h yes) (writes yes) step

/-- Undoing a switch that failed returns its error, and does nothing where TUN
was off before. -/
theorem undoTun_fails {tunWasEnabled coreHealthy} (error : CaptureTransitionError)
    (before : held → tunWasEnabled = false) :
    Safe (backends services network) (fun _ r => held → WritesQuiet r)
    (fun result _ => ∃ error, result = .error error)
    (c.undoTun tunWasEnabled false coreHealthy error) w := by
  cases tunWasEnabled with
  | false => exact ⟨error, rfl⟩
  | true =>
    have free : ∀ (s : Worlds σ τ) (r : SystemProxy.Request ⊕ Tun.Request),
        held → WritesQuiet r := fun _ _ yes => nomatch before yes
    refine (safe_of_allowed free).bind ?_
    rintro (_ | _) t _
    · exact (safe_of_allowed free).bind fun _ _ _ => ⟨_, rfl⟩
    · exact ⟨error, rfl⟩

/-- A transition that switches everything off leaves quiet backends behind, and
keeps those it found. -/
theorem transition_off (preflight : Option CapturePreflight) (off : req.active = false)
    (before : held → Quiet c w ∧ previous.tunEnabled = false) :
    Safe (backends services network) (fun _ r => held → WritesQuiet r)
    (fun result t => (∃ status, result = .ok status) → Quiet c t)
    (c.transition req coreHealthy preflight previous) w := by
  unfold transition tunRefused
  simp only [off, Bool.false_and, Bool.false_eq_true, if_false, safe_bind, safe_pure]
  refine ((disableTunFirst_off coreHealthy).weaken fun _ _ writes _ => writes).mono ?_
  rintro (error | _) t ⟨proxySame, tunOff⟩
  · simp
  have proxyBefore : held → SystemProxy.Quiet t.1.status := by
    intro yes
    rw [proxySame]
    exact (before yes).1.1
  rw [safe_bind]
  refine (setSystemProxy_off coreHealthy proxyBefore).mono ?_
  rintro (error | _) u ⟨tunSame, proxyOff⟩
  · refine (undoTun_fails error fun yes => (before yes).2).mono ?_
    rintro _ _ ⟨_, rfl⟩ ⟨_, impossible⟩
    cases impossible
  · rw [safe_bind]
    have quiet : Quiet c u := by
      refine ⟨proxyOff rfl, ?_⟩
      rw [tunSame]
      exact tunOff rfl
    exact (combinedStatus_calm.weaken fun _ _ writes _ => writes).mono
      fun _ _ read _ => (read quiet).1

theorem auditTun_quiet (h : Quiet c w) :
    Quietly services network (fun _ _ => True) (c.auditTun coreHealthy) w := by
  unfold auditTun
  cases has : c.hasTun with
  | false => trivial
  | true =>
    simp only [Quietly, if_true, onTun, backends, safe_inr]
    exact Tun.audit_quiet coreHealthy (h.2 has)

/-- Both audits keep quiet backends quiet. -/
theorem audits_quiet {α : Type} {reason coreHealthy}
    {rest : Fallible (CaptureRuntimeStatus × Bool) → Fallible (TunRuntimeStatus × Bool) →
      Effectful α} {post} (h : Quiet c w)
    (next : ∀ system tun t, Quiet c t → Quietly services network post (rest system tun) t) :
    Quietly services network post (do
      let system ← onProxy (auditWithMutation c.endpoint reason coreHealthy)
      let tun ← c.auditTun coreHealthy
      rest system tun) w := by
  have proxy : Quietly services network (fun _ _ => True)
      (onProxy (auditWithMutation c.endpoint reason coreHealthy)) w := by
    simp only [Quietly, onProxy, backends, safe_inl]
    exact audit_quiet reason coreHealthy h.1
  refine (proxy.keeping (fun _ _ _ _ => quiet_kept) h).bind ?_
  rintro system t ⟨_, quiet⟩
  refine ((auditTun_quiet coreHealthy quiet).keeping (fun _ _ _ _ => quiet_kept) quiet).bind ?_
  rintro tun u ⟨_, quiet⟩
  exact next system tun u quiet

/-! ### The effects -/

theorem observe_quiet (req : CaptureRequest) (coreHealthy : Bool) (h : Quiet c w) :
    Quietly services network (fun _ t => Quiet c t) (c.observe req coreHealthy) w := by
  refine audits_quiet h fun system tun t quiet => ?_
  refine combinedStatus_calm.bind fun status u read => ?_
  cases firstError system tun with
  | some error => exact (read quiet).1
  | none =>
    simp only [safe_ite, safe_pure]
    exact ⟨fun _ => (read quiet).1, fun _ => (read quiet).1⟩

theorem observeOutcome_quiet (chosen : allowed req.selection) (h : Quiet c w) :
    Quietly services network (fun outcome t => Quiet c t ∧ Calm allowed outcome.status)
    (c.observeOutcome req coreHealthy) w := by
  refine (observe_quiet req coreHealthy h).bind fun result t quiet => ?_
  refine combinedStatus_calm.bind fun status u read => ?_
  exact ⟨(read quiet).1, (read quiet).2 allowed chosen⟩

theorem auditOutcome_quiet {reason coreHealthy} (chosen : allowed previous.captureSelection)
    (h : Quiet c w) : Quietly services network (fun outcome t => Quiet c t ∧
    Calm allowed outcome.status) (c.auditOutcome reason coreHealthy previous) w := by
  refine audits_quiet h fun system tun t quiet => ?_
  refine combinedStatus_calm.bind fun status u read => ?_
  exact ⟨(read quiet).1, (read quiet).2 allowed chosen⟩

/-- The outcome of switching everything off. What an error leaves behind is calm
only where it was before. -/
theorem mutateOutcome_off (preflight : Option CapturePreflight) (off : req.active = false)
    (chosen : allowed req.selection) (before : held → Quiet c w ∧ Calm allowed previous) :
    Safe (backends services network) (fun _ r => held → WritesQuiet r)
    (fun outcome t => held ∨ outcome.error = none → Quiet c t ∧ Calm allowed outcome.status)
    (c.mutateOutcome req coreHealthy preflight previous) w := by
  refine ((transition_off coreHealthy preflight off fun yes =>
    ⟨(before yes).1, (before yes).2.tunOff⟩).keeping (fun _ _ _ _ => quiet_kept_if)
      fun yes => (before yes).1).bind ?_
  rintro result t ⟨done, kept⟩
  refine (combinedStatus_calm.weaken fun _ _ writes _ => writes).bind fun status u read => ?_
  intro ended
  cases result with
  | error error =>
    have yes : held := by simpa [errorOf] using ended
    exact ⟨(read (kept yes)).1, (read (kept yes)).2 allowed (before yes).2.selection⟩
  | ok status =>
    have quiet : Quiet c t := done ⟨status, rfl⟩
    exact ⟨(read quiet).1, (read quiet).2 allowed chosen⟩

end

end CaptureEffectAdapter

end Mish.Capture
