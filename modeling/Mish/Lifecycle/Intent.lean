import Mish.Capture.PublishedPhase
import Mish.Capture.SingleFlight
import Mish.Lifecycle.AtRest

/-!
# Capture follows the user's intent

A history is a sequence of user commands and coordinator calls. Its window is
open while the last command that succeeded asked for no capture, and none has
asked for it since. In an open window capture is off, and what the coordinator
does keeps it off unless it replays the selection kept from before.
-/

namespace Mish.Lifecycle
open Interaction Capture CaptureReconciler
open SystemProxy (Fallible anything)

/-- The call may come to the replay of the kept selection. -/
def Host.replays (h : Host) (authority : LifecycleAuthoritySnapshot) : Call → Bool
  | .coreAvailability running => running && authority.state = .awake
  | .platformEvent event => authority.sequence < event.sequence &&
      (h.hasSource && saturatingSucc authority.sequence < event.sequence ||
        event.kind = .wake && authority.state ≠ .awake ||
        event.kind = .networkChanged && authority.state = .awake)
  | .reconcileAfterEventGap => h.hasSource
  | _ => false

section
variable {m : CaptureMachine} {σ τ ρ : Type} {c : CaptureEffectAdapter}
  {services : SystemProxy.Behaviour σ} {network : Tun.Behaviour τ}
  {behaves : Environment Request Reply ρ} {allowed : CaptureSelection → Prop} {off : Prop}
  {d : Desktop m σ τ ρ} {h : Host} {α : Type} {event : PlatformLifecycleEvent}
  {req : CaptureRequest} {coordinatorCall : Call}

/-! ## Calls that do not come to the replay -/

/-- A program started in one state keeps the reconciler at rest. -/
abbrev KeepsFrom {α : Type} (c : CaptureEffectAdapter) (services : SystemProxy.Behaviour σ)
    (network : Tun.Behaviour τ) (behaves : Environment Request Reply ρ)
    (allowed : CaptureSelection → Prop) (off : Prop) (p : Action α) (d : Desktop m σ τ ρ) : Prop :=
  Rests c allowed off d → Safe (desktop c services network behaves)
    (fun _ r => off → Restrained allowed r) (fun _ t => Rests c allowed off t) p d

/-- A request followed by the rest of the program, with the authority in view. -/
theorem keepsFrom_call {r} {f : Reply r → Action α} (other : Restrained allowed r)
    (next : ∀ a (t : Desktop m σ τ ρ), ReadsAuthority d.authority r a →
    t.authority = authorityAfter d.authority r →
    KeepsFrom c services network behaves allowed off (f a) t) :
    KeepsFrom c services network behaves allowed off (call r >>= f) d := by
  intro rests
  refine safe_request_bind.mpr ⟨fun _ => other, fun a t e => ?_⟩
  exact next a t e.2.1 e.2.2.1 (rests.step (fun _ => other) e)

theorem keepsFrom_readAuthority {f : LifecycleAuthoritySnapshot → Action α}
    (next : ∀ t : Desktop m σ τ ρ, t.authority = d.authority →
    KeepsFrom c services network behaves allowed off (f d.authority) t) :
    KeepsFrom c services network behaves allowed off (call .readAuthority >>= f) d := by
  refine keepsFrom_call trivial fun read t reads same => ?_
  obtain rfl : read = d.authority := reads
  exact next t same

theorem keepsFrom_of_keeps {p : Action α}
    (kept : Keeps m c services network behaves allowed off p) :
    KeepsFrom c services network behaves allowed off p d :=
  kept d

theorem handleCoreAvailability_without {running}
    (none : h.replays d.authority (.coreAvailability running) = false) :
    KeepsFrom c services network behaves allowed off (h.handleCoreAvailability running) d := by
  refine keepsFrom_call trivial fun _ t _ same => keepsFrom_readAuthority fun u _ => ?_
  rw [show t.authority = d.authority from same]
  refine keepsFrom_of_keeps (.bind (invalidateNetworkDns_keeps (plain keeps_unasking)) fun _ => ?_)
  by_cases awake : d.authority.state = .awake
  · have stopped : running = false := by simpa [Host.replays, awake] using none
    simp only [awake, stopped, ne_eq, not_true_eq_false, if_false, Bool.false_eq_true]
    exact auditWithoutCore_keeps keeps_unasking
  · simp only [awake, ne_eq, not_false_eq_true, if_true]
    refine .ite ?_ (.pure _)
    exact .bind (keeps_other trivial) fun _ => .bind (keeps_other trivial) fun _ => .pure _

/-- An event that neither wakes the desktop nor reports a network change to it. -/
theorem applyEvent_without (woken : event.kind = .wake → d.authority.state = .awake)
    (changed : event.kind = .networkChanged → d.authority.state ≠ .awake) :
    KeepsFrom c services network behaves allowed off (h.applyEvent event) d := by
  refine keepsFrom_readAuthority fun t same => ?_
  by_cases awaiting : d.authority.state = .unknownAfterGap ∧ event.kind = .networkChanged
  · rw [if_pos awaiting]
    exact keepsFrom_of_keeps (.bind (keeps_other trivial) fun _ =>
      .bind (keeps_other trivial) fun _ => .pure _)
  · rw [if_neg awaiting]
    refine keepsFrom_readAuthority fun u _ => ?_
    rw [same]
    refine keepsFrom_call trivial fun _ v _ written => ?_
    cases kind : event.kind with
    | sleep =>
      refine keepsFrom_of_keeps (.ite ?_ (.pure _))
      exact .bind (suspendConsumers_keeps keeps_unasking _) fun _ => .pure _
    | wake =>
      simp only [woken kind, ne_eq, not_true_eq_false, if_false]
      exact keepsFrom_of_keeps (.pure _)
    | networkChanged =>
      refine keepsFrom_readAuthority fun w _ => ?_
      have asleep : v.authority.state ≠ .awake := by
        rw [written]
        simp only [authorityAfter, kind]
        exact changed kind
      simp only [asleep, ne_eq, not_false_eq_true, if_true]
      exact keepsFrom_of_keeps (.pure _)

theorem handlePlatformEvent_without (none : h.replays d.authority (.platformEvent event) = false) :
    KeepsFrom c services network behaves allowed off (h.handlePlatformEvent event) d := by
  refine keepsFrom_call trivial fun _ t _ same => keepsFrom_readAuthority fun u sameU => ?_
  have same : t.authority = d.authority := same
  rw [same] at sameU ⊢
  by_cases stale : event.sequence ≤ d.authority.sequence
  · rw [if_pos stale]
    exact keepsFrom_of_keeps (.pure _)
  · have newer : d.authority.sequence < event.sequence := by omega
    simp only [Host.replays, newer, decide_true, Bool.true_and, Bool.or_eq_false_iff,
      Bool.and_eq_false_iff, decide_eq_false_iff_not] at none
    obtain ⟨⟨noGap, woken⟩, changed⟩ := none
    have next : ¬(h.hasSource = true ∧ saturatingSucc d.authority.sequence < event.sequence) := by
      rintro ⟨source, gap⟩
      simp [source, gap] at noGap
    rw [if_neg stale, if_neg next]
    apply applyEvent_without
    · intro wakes
      rw [sameU]
      simpa [wakes] using woken
    · intro reported
      rw [sameU]
      simpa [reported] using changed

theorem reconcileAfterEventGap_without
    (none : h.replays d.authority .reconcileAfterEventGap = false) :
    Keeps m c services network behaves allowed off h.reconcileAfterEventGap := by
  have sourceless : h.hasSource = false := none
  refine .bind (keeps_other trivial) fun _ => .bind (writeAuthority_keeps keeps_unasking _) fun _ => ?_
  refine .bind (discontinueConsumersAfterGap_keeps keeps_unasking) fun _ => ?_
  simp only [sourceless, Bool.false_eq_true, if_false]
  exact .bind (writeAuthority_keeps keeps_unasking _) fun _ => .pure _

theorem keepsFrom_discarding {p : Action α}
    (kept : KeepsFrom c services network behaves allowed off p d) :
    KeepsFrom c services network behaves allowed off (do let _ ← p) d :=
  fun rests => (kept rests).bind fun _ _ left => left

/-- A call that does not come to the replay asks for no capture. -/
theorem program_without (coordinatorCall : Call)
    (none : h.replays d.authority coordinatorCall = false) :
    KeepsFrom c services network behaves allowed off (coordinatorCall.program h) d := by
  cases coordinatorCall with
  | initializePlatformAuthority => exact initializePlatformAuthority_keeps keeps_unasking d
  | restartAudit => exact restartAudit_keeps (plain keeps_unasking) d
  | platformEvent event => exact keepsFrom_discarding (handlePlatformEvent_without none)
  | coreAvailability running => exact keepsFrom_discarding (handleCoreAvailability_without none)
  | runtimeReplacement running =>
    exact keepsFrom_discarding (handleRuntimeReplacement_keeps keeps_unasking running d)
  | periodicAudit => exact keepsFrom_discarding (periodicAudit_keeps (plain keeps_unasking) d)
  | reconcileAfterEventGap => exact keepsFrom_discarding (reconcileAfterEventGap_without none d)
  | eventStreamClosed => exact handleEventStreamClosed_keeps keeps_unasking d

/-! ## User commands -/

/-- A command that asks for no capture leaves it off where it was, and wherever
it succeeds. -/
theorem setCapture_leaves {held : Prop}
    (rests : Rests c (fun _ => True) (req.active = false ∧ held) d) :
    Safe (desktop c services network behaves) (fun _ _ => True)
    (fun result t => Rests c (fun _ => True)
    (req.active = false ∧ (held ∨ result = .ok ())) t) (h.setCapture req) d := by
  -- what the reading of the core and the bookkeeping keep
  have maintained {α : Type} {p : Action α} {u : Desktop m σ τ ρ} {off : Prop}
      (kept : Keeps m c services network behaves (fun _ => True) off p)
      (before : Rests c (fun _ => True) off u) :
      Safe (desktop c services network behaves) (fun _ _ => True)
        (fun _ t => Rests c (fun _ => True) off t) p u :=
    (kept u before).weaken fun _ _ _ => trivial
  unfold Host.setCapture
  rw [safe_ite]
  constructor
  · intro _
    refine (maintained (coreHealthy_keeps (plain keeps_unasking)) rests).bind fun healthy u before => ?_
    refine safe_request_bind.mpr ⟨trivial, fun result t e => ?_⟩
    have leaves : Leaves c (fun _ => True) (req.active = false) held result t.capture := by
      have asks (inactive : req.active = false) : req.active = false ∧ True := ⟨inactive, trivial⟩
      exact (reconcile_leaves healthy before.idle asks fun inactive was =>
        before.calm ⟨inactive, was⟩).result e.1
    cases result with
    | error error =>
      have left : Rests c (fun _ => True) (req.active = false ∧ held) t :=
        ⟨leaves.1, fun yes => leaves.2 yes.1 (.inl yes.2)⟩
      refine safe_request_bind.mpr ⟨trivial, fun _ v e => ?_⟩
      have asks : req.active = false ∧ held →
          Restrained (fun _ => True) (.recordCaptureFailure error) := fun _ => trivial
      have after := left.step asks e
      exact after.mono fun yes => ⟨yes.1, yes.2.resolve_right nofun⟩
    | ok status =>
      have left : Rests c (fun _ => True) (req.active = false) t :=
        ⟨leaves.1, fun inactive => leaves.2 inactive (.inr ⟨status, rfl⟩)⟩
      refine (maintained (finishCaptureReconciliation_keeps keeps_unasking _) left).mono fun _ v after => ?_
      exact after.mono And.left
  · intro _
    exact rests.mono fun yes => ⟨yes.1, yes.2.resolve_right nofun⟩

/-! ## Histories -/

/-- The desktop before the first command: nothing is published as wanted. What the
journal holds and what the platform is set to is arbitrary. -/
structure Fresh (d : Desktop m σ τ ρ) : Prop where
  runner : d.capture.runner = .start (m.initial .off)
  systemProxy : d.capture.worlds.1.status = .off
  tun : d.capture.worlds.2.status = .off
  authority : d.authority = .initial

/-- The window after a command: closed by one that asks for capture, opened by
one that succeeds in switching it off. -/
def windowAfter (window : Bool) (req : CaptureRequest) (result : Fallible Unit) : Bool :=
  if req.active then false else window || result.toOption.isSome

/-- The states between commands and coordinator calls, with the window. A call in
an open window is one `admits` holds of. -/
inductive History (c : CaptureEffectAdapter) (services : SystemProxy.Behaviour σ)
    (network : Tun.Behaviour τ) (behaves : Environment Request Reply ρ) (h : Host)
    (admits : Desktop m σ τ ρ → Call → Prop) : Bool → Desktop m σ τ ρ → Prop where
  | fresh {d : Desktop m σ τ ρ} : Fresh d → History c services network behaves h admits true d
  | command {window d t result} (req : CaptureRequest) :
      History c services network behaves h admits window d →
      Exec (desktop c services network behaves) (h.setCapture req) d (.done result) t →
      History c services network behaves h admits (windowAfter window req result) t
  | coordinate {window d t} (coordinatorCall : Call) :
      History c services network behaves h admits window d →
      (window = true → admits d coordinatorCall) →
      Exec (desktop c services network behaves) (coordinatorCall.program h) d (.done ()) t →
      History c services network behaves h admits window t

def Desktop.published (d : Desktop m σ τ ρ) : CaptureRuntimeStatus :=
  d.capture.runner.state.projection

/-- Nothing is desired or enabled in `after` that was not in `before`. -/
def NoMoreThan (before after : CaptureRuntimeStatus) : Prop :=
  (after.systemProxy.desired = true → before.systemProxy.desired = true) ∧
  (after.systemProxyEnabled = true → before.systemProxyEnabled = true) ∧
  (after.tun.desired = true → before.tun.desired = true) ∧
  (after.tunEnabled = true → before.tunEnabled = true)

/-- However it is answered, the call never requests active capture, and switches
nothing on. -/
def TurnsNothingOn (c : CaptureEffectAdapter) (services : SystemProxy.Behaviour σ)
    (network : Tun.Behaviour τ) (behaves : Environment Request Reply ρ) (h : Host)
    (d : Desktop m σ τ ρ) (coordinatorCall : Call) : Prop :=
  (∀ req coreHealthy next t, Exec (desktop c services network behaves)
    (coordinatorCall.program h) d (.call (.reconcile req coreHealthy) next) t →
      req.active = false) ∧
  ∀ t, Exec (desktop c services network behaves) (coordinatorCall.program h) d (.done ()) t →
    NoMoreThan d.published t.published

/-- The call finds nothing selected, or does not come to the replay. -/
def Harmless (h : Host) (d : Desktop m σ τ ρ) (coordinatorCall : Call) : Prop :=
  Unselected d.published.captureSelection ∨ h.replays d.authority coordinatorCall = false

theorem Fresh.rests (fresh : Fresh d) : Rests c (fun _ => True) True d := by
  constructor
  · constructor
    · rw [fresh.runner]
      exact StateMachine.conserved_start _
    · rw [fresh.runner]
      exact fun _ => ⟨rfl, .inl ⟨_, rfl⟩⟩
  · intro _
    constructor
    · rw [fresh.runner]
      exact ⟨⟨rfl, rfl⟩, rfl, rfl, trivial⟩
    · constructor
      · rw [fresh.systemProxy]
        exact ⟨rfl, rfl⟩
      · intro _
        rw [fresh.tun]
        exact ⟨rfl, nofun⟩

/-- In an open window a harmless call is restrained and keeps capture off. -/
theorem harmless_safe (rests : Rests c (fun _ => True) True d)
    (harmless : Harmless h d coordinatorCall) :
    Safe (desktop c services network behaves) (fun _ r => Restrained (fun _ => True) r)
    (fun _ t => Rests c (fun _ => True) True t) (coordinatorCall.program h) d := by
  have weaken {allowed : CaptureSelection → Prop} {r : Request}
      (restrained : True → Restrained allowed r) : Restrained (fun _ => True) r := by
    have asks := restrained trivial
    cases r with
    | reconcile req coreHealthy => exact ⟨asks.1, trivial⟩
    | _ => trivial
  rcases harmless with unselected | elsewhere
  · -- with nothing selected, the selection published stays empty
    obtain ⟨calm, quiet⟩ := rests.calm trivial
    have empty : Rests c Unselected True d :=
      ⟨rests.idle, fun _ => ⟨⟨calm.systemProxy, calm.tunUnwanted, calm.tunOff, unselected⟩, quiet⟩⟩
    have kept : Keeps m c services network behaves Unselected True (coordinatorCall.program h) :=
      program_keeps keeps_unasking (unselected_keeps h) coordinatorCall
    refine ((kept d empty).weaken fun _ _ => weaken).mono fun _ t after => ⟨after.idle, fun _ => ?_⟩
    obtain ⟨calm, quiet⟩ := after.calm trivial
    exact ⟨⟨calm.systemProxy, calm.tunUnwanted, calm.tunOff, trivial⟩, quiet⟩
  · exact (program_without coordinatorCall elsewhere rests).weaken fun _ _ => weaken

variable {window : Bool} {t : Desktop m σ τ ρ}

theorem Rests.command {result} (rests : Rests c (fun _ => True) (window = true) d)
    (run : Exec (desktop c services network behaves) (h.setCapture req) d (.done result) t) :
    Rests c (fun _ => True) (windowAfter window req result = true) t := by
  have before : Rests c (fun _ => True) (req.active = false ∧ window = true) d :=
    rests.mono And.right
  have after := (setCapture_leaves before).result run
  apply after.mono
  intro opened
  unfold windowAfter at opened
  split at opened
  · cases opened
  · rename_i inactive
    refine ⟨Bool.eq_false_iff.mpr inactive, ?_⟩
    rcases Bool.or_eq_true_iff.mp opened with held | succeeded
    · exact .inl held
    · cases result with
      | ok => exact .inr rfl
      | error error => cases succeeded

theorem Rests.coordinate (rests : Rests c (fun _ => True) (window = true) d)
    (harmless : window = true → Harmless h d coordinatorCall)
    (run : Exec (desktop c services network behaves) (coordinatorCall.program h) d (.done ()) t) :
    Rests c (fun _ => True) (window = true) t := by
  cases window with
  | true =>
    have kept := (harmless_safe (rests.mono fun _ => rfl) (harmless rfl)).result run
    exact kept.mono fun _ => trivial
  | false =>
    have free : Safe (desktop c services network behaves)
        (fun _ r => False → Restrained (fun _ => True) r) (fun _ _ => True)
        (coordinatorCall.program h) d := safe_of_allowed fun _ _ => False.elim
    have kept := free.invariant (fun _ _ _ _ before asks e => Rests.step before asks e)
      (rests.mono False.elim) run
    exact kept.mono nofun

theorem History.rests (history : History c services network behaves h (Harmless h) window d) :
    Rests c (fun _ => True) (window = true) d := by
  induction history with
  | fresh fresh => exact fresh.rests.mono fun _ => trivial
  | command req _ run ih => exact ih.command run
  | coordinate coordinatorCall _ harmless run ih => exact ih.coordinate harmless run

/-- While the user wants capture off, a call that finds nothing selected, or does
not come to the replay of the selection, turns nothing on, in every history whose
calls in an open window are of that kind. -/
theorem harmless_turnsNothingOn {coordinatorCall : Call}
    (history : History c services network behaves h (Harmless h) true d)
    (harmless : Harmless h d coordinatorCall) :
    TurnsNothingOn c services network behaves h d coordinatorCall := by
  have rests : Rests c (fun _ => True) True d := history.rests.mono fun _ => rfl
  constructor
  · intro req coreHealthy next t run
    exact ((harmless_safe rests harmless).request_allowed run).1
  · intro t run
    obtain ⟨calm, _⟩ := ((harmless_safe rests harmless).result run).calm trivial
    have unwanted : t.published.systemProxy.desired = false := calm.systemProxy.1
    have disabled : t.published.systemProxyEnabled = false := calm.systemProxy.2
    have tunUnwanted : t.published.tun.desired = false := calm.tunUnwanted
    have tunOff : t.published.tunEnabled = false := calm.tunOff
    simp [NoMoreThan, unwanted, disabled, tunUnwanted, tunOff]

end

/-! ## A run that replays the selection -/

namespace Sample

def adapter : CaptureEffectAdapter := ⟨1, .managed, false⟩

/-- There is no TUN helper, so nothing is asked of it. -/
def helperReply (w : Tun.World Unit) : (r : Tun.Request) → Tun.Reply r
  | .readStatus => w.status
  | .writeStatus _ | .clearFailure | .lockOperation => ()
  | .snapshot => ⟨.unavailable, "", .unknown, none, none, .idle⟩
  | .setTunEnabled _ => .ok ()
  | .observeTun => .error ⟨.connectionFailed, ""⟩
  | .now => 0

def respond (w : Worlds Unit Unit) : (r : SystemProxy.Request ⊕ Tun.Request) →
    SumReply SystemProxy.Reply Tun.Reply r × Worlds Unit Unit
  | .inl r =>
    ((SystemProxy.obedientService.respond w.1 r).1,
      (SystemProxy.obedientService.respond w.1 r).2, w.2)
  | .inr r => (helperReply w.2 r, w.1, ⟨Tun.statusAfter w.2.status r, ()⟩)

theorem respond_backends (w : Worlds Unit Unit) (r : SystemProxy.Request ⊕ Tun.Request) :
    backends anything (fun _ _ _ _ => True) w r (respond w r).1 (respond w r).2 := by
  cases r with
  | inl r => exact ⟨SystemProxy.Script.platform_respond (fun _ _ => trivial) w.1 r, rfl⟩
  | inr r =>
    refine ⟨⟨?_, trivial, rfl⟩, rfl⟩
    cases r <;> trivial

abbrev Actor := Live CaptureMachine.sample Unit Unit

/-- The first task in flight ends. -/
def joinFirst (d : Actor) : Actor :=
  match d.runner.phase, d.runner.tasks with
  | .running, task :: _ =>
    let ended := (adapter.execute task.effect).run respond d.worlds
    ⟨d.runner.join task.id (.completed ended.1), ended.2⟩
  | _, _ => d

abbrev SampleTicks : Actor → Actor → Prop :=
  Ticks adapter SystemProxy.anything fun _ _ _ _ => True

theorem joinFirst_ticks (d : Actor) : SampleTicks d (joinFirst d) := by
  unfold joinFirst
  split
  · rename_i task rest running listed
    have member : task ∈ d.runner.tasks := by
      rw [listed]
      exact List.mem_cons_self
    exact .single (.join task _ running member (exec_run respond_backends _ _) (.inl rfl))
  · exact .refl

/-- The actor goes, if it is still there. -/
def gone (d : Actor) : Actor :=
  match d.runner.phase with
  | .running => ⟨d.runner.fail .cancelled, d.worlds⟩
  | _ => d

theorem gone_ticks (d : Actor) : SampleTicks d (gone d) ∧ (gone d).runner.phase ≠ .running := by
  unfold gone
  split
  · rename_i running
    exact ⟨.single (.abort running), nofun⟩
  · rename_i other
    exact ⟨.refl, other⟩

def answer (d : Actor) : (r : CaptureReconciler.Request) → CaptureReconciler.Reply r × Actor
  | .runtimeTransition => (false, d)
  | .snapshot => (d.runner.state, d)
  | .admitInput input =>
    match d.runner.phase with
    | .running => (admission d.runner input, ⟨d.runner.admitInput input, d.worlds⟩)
    | _ => (.error runtimeTransitionError, d)
  | .awaitEnd operation =>
    let ended := joinFirst (joinFirst d)
    if ended.runner.state.activeOperation.any operation.names then (none, gone ended)
    else (some ended.runner.state, ended)

theorem answer_live (d : Actor) (r : CaptureReconciler.Request) :
    live adapter anything (fun _ _ _ _ => True) d r (answer d r).1 (answer d r).2 := by
  cases r with
  | runtimeTransition => exact ⟨d, .refl, rfl⟩
  | snapshot => exact ⟨d, .refl, rfl, rfl⟩
  | admitInput input =>
    refine ⟨d, .refl, ?_⟩
    simp only [answer]
    split
    · rename_i running
      exact .inr ⟨running, rfl, rfl⟩
    · exact .inl ⟨rfl, rfl⟩
  | awaitEnd operation =>
    have ticks : SampleTicks d (joinFirst (joinFirst d)) :=
      (joinFirst_ticks d).trans (joinFirst_ticks _)
    simp only [answer]
    split
    · obtain ⟨goes, dead⟩ := gone_ticks (joinFirst (joinFirst d))
      exact ⟨_, ticks.trans goes, dead, rfl⟩
    · rename_i ended
      exact ⟨_, ticks, rfl, Bool.eq_false_iff.mpr ended, rfl⟩

abbrev Machine := Desktop CaptureMachine.sample Unit Unit Unit

/-- The core runs, and nothing else the coordinator asks has much to say. -/
def reply (d : Machine) : (r : Request) → Reply r × Actor
  | .runtimeTransitionPending => (CaptureReconciler.call .runtimeTransition).run answer d.capture
  | .captureStatus => CaptureReconciler.status.run answer d.capture
  | .reconcile req healthy => (CaptureReconciler.reconcile req healthy).run answer d.capture
  | .audit reason healthy => (CaptureReconciler.audit reason healthy).run answer d.capture
  | .readAuthority => (d.authority, d.capture)
  | .observeSleepState => (.timedOut, d.capture)
  | .coreStatus => (.running, d.capture)
  | .coreConfigured => (true, d.capture)
  | .recentTrafficRevision => (0, d.capture)
  | .recentTrafficProfile => (none, d.capture)
  | .lockTransition | .writeAuthority _ | .pauseObservations _ | .resumeObservations
  | .captureApplied _ | .stopRecentTraffic | .suspendRecentTraffic | .discontinueRecentTraffic
  | .resumeRecentTraffic _ | .publishStatus | .publishCoordinatorObservation
  | .invalidateNetworkDns | .refreshNetworkDns | .recordCaptureFailure _
  | .recordApplicationEvent _ | .resolveCaptureFailureNotifications => ((), d.capture)

def serve (d : Machine) (r : Request) : Reply r × Machine :=
  ((reply d r).1, ⟨(reply d r).2, authorityAfter d.authority r, ()⟩)

abbrev sampleDesktop : Environment Request Reply Machine :=
  desktop adapter SystemProxy.anything (fun _ _ _ _ => True) fun _ _ _ _ => True

theorem serve_desktop (d : Machine) (r : Request) :
    sampleDesktop d r (serve d r).1 (serve d r).2 := by
  have captures : Captures adapter anything (fun _ _ _ _ => True) d.capture r
      (serve d r).1 (serve d r).2.capture := by
    cases r with
    | runtimeTransitionPending | captureStatus | reconcile | audit => exact exec_run answer_live _ _
    | _ => rfl
  refine ⟨captures, ?_, rfl, trivial⟩
  cases r <;> trivial

def host : Host := ⟨true, false, false⟩

def fresh : Machine :=
  ⟨⟨.start (CaptureMachine.sample.initial .off), .fresh, ⟨.off, ()⟩⟩, .initial, ()⟩

def switchOff : CaptureRequest := ⟨false, ⟨true, false⟩⟩

/-- The desktop after the user has switched capture off, with System Proxy chosen. -/
def switchedOff : Machine := ((host.setCapture switchOff).run serve fresh).2

def reconciles : Request → Bool
  | .reconcile _ _ => true
  | _ => false

theorem switchedOff_history {admits} :
    History adapter anything (fun _ _ _ _ => True) (fun _ _ _ _ => True) host admits
    true switchedOff := by
  have run := exec_run serve_desktop (host.setCapture switchOff) fresh
  exact .command switchOff (.fresh ⟨rfl, rfl, rfl, rfl⟩) run

end Sample
open Sample

/-- Capture is off, with the user's selection kept, and the core reports that it is
running: the coordinator requests active capture, and System Proxy comes on. -/
theorem coreAvailability_turnsOn :
    History Sample.adapter SystemProxy.anything (fun _ _ _ _ => True) (fun _ _ _ _ => True)
      Sample.host (fun _ _ => True) true Sample.switchedOff ∧
    (∃ next t, Exec Sample.sampleDesktop ((Call.coreAvailability true).program Sample.host)
      Sample.switchedOff (.call (.reconcile ⟨true, ⟨true, false⟩⟩ true) next) t) ∧
    (∃ t, Exec Sample.sampleDesktop ((Call.coreAvailability true).program Sample.host)
      Sample.switchedOff (.done ()) t ∧
      ¬NoMoreThan Sample.switchedOff.published t.published) ∧
    ¬TurnsNothingOn Sample.adapter SystemProxy.anything (fun _ _ _ _ => True)
      (fun _ _ _ _ => True) Sample.host Sample.switchedOff (.coreAvailability true) := by
  let program := (Call.coreAvailability true).program Sample.host
  have asked : ∃ next t, Exec Sample.sampleDesktop program Sample.switchedOff
      (.call (.reconcile ⟨true, ⟨true, false⟩⟩ true) next) t := by
    have waits : (program.runUntil Sample.serve (fun _ r => Sample.reconciles r)
        Sample.switchedOff).1.pending = some (.reconcile ⟨true, ⟨true, false⟩⟩ true) := by
      decide +kernel
    obtain ⟨next, waiting⟩ := Program.eq_call_of_pending waits
    have run := exec_runUntil Sample.serve_desktop (fun _ r => Sample.reconciles r) program
      Sample.switchedOff
    rw [waiting] at run
    exact ⟨next, _, run⟩
  refine ⟨Sample.switchedOff_history, asked, ⟨_, exec_run Sample.serve_desktop program _, ?_⟩, ?_⟩
  · intro fewer
    have after : (program.run Sample.serve Sample.switchedOff).2.published.systemProxyEnabled =
        true := by decide +kernel
    have kept := fewer.2.1 after
    cases kept
  · intro turnsNothingOn
    obtain ⟨next, t, run⟩ := asked
    cases turnsNothingOn.1 _ _ _ _ run

/-- The periodic audit leaves the same desktop as it is. -/
theorem periodicAudit_turnsNothingOn :
    Sample.switchedOff.published.captureSelection = ⟨true, false⟩ ∧
    TurnsNothingOn Sample.adapter SystemProxy.anything (fun _ _ _ _ => True)
      (fun _ _ _ _ => True) Sample.host Sample.switchedOff .periodicAudit :=
  ⟨by decide +kernel, harmless_turnsNothingOn (Sample.switchedOff_history) (.inr rfl)⟩

end Mish.Lifecycle
