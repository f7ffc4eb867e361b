import Mish.Lifecycle.Upkeep

/-!
# Observation follows the authority

Which command the coordinator has given to the observations of the current runtime last, over every
sequence of its calls. The core changes only with the call that reports it, and a runtime that
replaces another has been given no command yet.
-/

namespace Mish.Lifecycle
open Interaction Capture

inductive ObservationCommand where
  | pause | resume

structure Watch where
  authority : LifecycleAuthoritySnapshot
  (running configured : Bool)
  last : Option ObservationCommand

namespace Watch

/-- The observations were not resumed although everything is there to be observed. -/
def Stranded (w : Watch) : Prop :=
  w.authority.state = .awake ∧ w.running = true ∧ w.configured = true ∧
    w.last ≠ some .resume

def after (w : Watch) : Request → Watch
  | .writeAuthority authority => { w with authority }
  | .pauseObservations _ => { w with last := some .pause }
  | .resumeObservations => { w with last := some .resume }
  | _ => w

/-- `admits w busy`: a capture operation may be pending, if `busy`, when its status is read. -/
def Answers (admits : Watch → Bool → Prop) (w : Watch) : (r : Request) → Reply r → Prop
  | .readAuthority, read => read = w.authority
  | .coreStatus, phase => phase = .running ↔ w.running = true
  | .coreConfigured, configured => configured = w.configured
  | .captureStatus, status => admits w status.captureOperation.isBusy
  | _, _ => True

/-- If `calm`, a coordinator that finds the observations stranded finds no operation pending. -/
def Unhindered (calm : Prop) (w : Watch) (busy : Bool) : Prop := calm → w.Stranded → busy = false

end Watch
open Watch

def watching (admits : Watch → Bool → Prop) : Environment Request Reply Watch :=
  fun w r a t => w.Answers admits r a ∧ t = w.after r

/-- What a call finds, given the configuration of a runtime that comes with it. -/
def Watch.called (w : Watch) (configured : Bool) : Call → Watch
  | .coreAvailability running => { w with running }
  | .runtimeReplacement running => { w with running, configured, last := none }
  | _ => w

/-- One call, run to its end. The authority is initialized before anything else is done with it. -/
def Watch.Calls (h : Host) (admits : Watch → Bool → Prop) (call : Call) (w t : Watch) : Prop :=
  (call = .initializePlatformAuthority → w.authority = .initial) ∧
    ∃ configured, Exec (watching admits) (call.program h) (w.called configured call) (.done ()) t

/-- The core of the first runtime, if it runs, is observed. -/
inductive Watch.Reached (h : Host) (calm : Prop) : Watch → Prop where
  | start {w} : w.authority = .initial → ¬w.Stranded → Reached h calm w
  | call {w t} (call : Call) :
      Reached h calm w → w.Calls h (Unhindered calm) call t → Reached h calm t

structure Follows (calm : Prop) (least : Nat) (w : Watch) : Prop where
  paused : w.authority.state ≠ .awake → w.last = some .pause
  resumed : calm → ¬w.Stranded
  onward : least ≤ w.authority.sequence

/-- The program leaves the observations as the authority wants them. -/
abbrev Leads {α : Type} (calm : Prop) (least : Nat) (p : Action α) (w : Watch) : Prop :=
  Safe (watching (Unhindered calm)) (fun _ _ => True) (fun _ t => Follows calm least t) p w

/-- The program gives no command and leaves the authority alone. -/
abbrev Idles {α : Type} (calm : Prop) (w : Watch) (p : Action α) : Prop :=
  Maintains (watching (Unhindered calm)) (fun _ _ => True) (· = w) p

abbrev Pauses (calm : Prop) (w : Watch) (p : Action Unit) : Prop :=
  Safe (watching (Unhindered calm)) (fun _ _ => True) (fun _ t => t = { w with last := some .pause })
    p w

section
variable {calm : Prop} {least : Nat} {w : Watch} {h : Host} {α β : Type}

/-! ## Rules -/

theorem leads_call {r} {f : Reply r → Action α} (next : ∀ a, w.Answers (Unhindered calm) r a →
    Leads calm least (f a) (w.after r)) : Leads calm least (call r >>= f) w := by
  refine ⟨trivial, ?_⟩
  rintro a t ⟨answers, rfl⟩
  exact next a answers

theorem leads_read {f : LifecycleAuthoritySnapshot → Action α}
    (next : Leads calm least (f w.authority) w) :
    Leads calm least (call .readAuthority >>= f) w := by
  refine leads_call fun read is => ?_
  obtain rfl : read = w.authority := is
  exact next

theorem leads_ite {c : Prop} [Decidable c] {p q : Action α} (yes : c → Leads calm least p w)
    (no : ¬c → Leads calm least q w) : Leads calm least (if c then p else q) w :=
  safe_ite.2 ⟨yes, no⟩

theorem idles_call {r} (idle : w.after r = w) : Idles calm w (call r) := by
  rintro _ rfl
  refine ⟨trivial, ?_⟩
  rintro _ _ ⟨-, rfl⟩
  exact idle

theorem idles_plain (r : Request) (plain : Plain r) : Idles calm w (call r) :=
  idles_call (by cases r <;> first | rfl | cases plain)

theorem leads_past {p} {f : α → Action β} (idles : Idles calm w p)
    (next : ∀ a, Leads calm least (f a) w) : Leads calm least (p >>= f) w := by
  refine (idles w rfl).bind ?_
  rintro a _ rfl
  exact next a

theorem leads_idle {p : Action α} (idles : Idles calm w p) (follows : Follows calm least w) :
    Leads calm least p w :=
  (idles w rfl).mono fun _ _ same => same ▸ follows

theorem leads_pause {p} {f : Unit → Action α} (pauses : Pauses calm w p)
    (next : Leads calm least (f ()) { w with last := some .pause }) :
    Leads calm least (p >>= f) w := by
  refine pauses.bind ?_
  rintro _ _ rfl
  exact next

theorem audit_idles {reason} : Idles calm w (do return coordinated (← h.auditCapture reason)) :=
  .bind (auditCapture_keeps idles_plain reason) fun _ => .pure _

theorem restoreAndContinue_idles : Idles calm w h.restoreAndContinue := by
  refine restoreAndContinue_keeps idles_plain (restoreCaptureIntent_keeps idles_plain
    (fun _ later => past idles_plain ⟨⟩ fun status => later status trivial) fun _ _ _ => ?_)
  exact .ite (idles_call rfl) (idles_plain _ trivial)

theorem follows_asleep (asleep : w.authority.state ≠ .awake) (paused : w.last = some .pause)
    (onward : least ≤ w.authority.sequence) : Follows calm least w :=
  ⟨fun _ => paused, fun _ stranded => asleep stranded.1, onward⟩

theorem follows_awake (awake : w.authority.state = .awake) (free : calm → ¬w.Stranded)
    (onward : least ≤ w.authority.sequence) : Follows calm least w :=
  ⟨fun asleep => absurd awake asleep, free, onward⟩

/-! ## The handlers -/

theorem pausing {change reason} (idles : Idles calm w change) : Pauses calm w (do
      h.invalidateNetworkDns
      Host.publishing change
      call (.pauseObservations reason)) := by
  refine (invalidateNetworkDns_keeps idles_plain w rfl).bind ?_
  rintro _ _ rfl
  refine (publishing_keeps idles_plain idles _ rfl).bind ?_
  rintro _ _ rfl
  exact ⟨trivial, fun _ _ answered => answered.2⟩

theorem suspendConsumers_pauses {reason} : Pauses calm w (h.suspendConsumers reason) :=
  pausing (idles_plain _ trivial)

theorem discontinueConsumersAfterGap_pauses : Pauses calm w h.discontinueConsumersAfterGap :=
  pausing (idles_plain _ trivial)

theorem coreReady_tells : Safe (watching (Unhindered calm)) (fun _ _ => True)
    (fun ready t => t = w ∧ (w.running = true → w.configured = true → ready = true))
    Host.coreReady w := by
  refine ⟨trivial, ?_⟩
  rintro phase _ ⟨is, rfl⟩
  refine safe_ite.2 ⟨fun _ => ⟨trivial, ?_⟩, fun down => ⟨rfl, fun running => ?_⟩⟩
  · rintro configured _ ⟨rfl, rfl⟩
    exact ⟨rfl, fun _ => id⟩
  · exact absurd (is.2 running) down

theorem captureOperationPending_tells : Safe (watching (Unhindered calm)) (fun _ _ => True)
    (fun busy t => t = w ∧ (busy = true → calm → ¬w.Stranded)) h.captureOperationPending w := by
  refine safe_ite.2 ⟨fun _ => ⟨trivial, ?_⟩, fun _ => ⟨rfl, nofun⟩⟩
  rintro status _ ⟨is, rfl⟩
  refine ⟨rfl, fun busy quiet stranded => ?_⟩
  cases busy.symm.trans (is quiet stranded)

theorem rebuild_leads (awake : w.authority.state = .awake) (onward : least ≤ w.authority.sequence) :
    Leads calm least (do
      if ← Host.coreReady then
        call .resumeObservations
        h.restoreAndContinue
      else return coordinated (← h.auditCapture .coreHealthChanged)) w := by
  refine coreReady_tells.bind ?_
  rintro ready _ ⟨rfl, is⟩
  refine leads_ite (fun _ => ?_) fun unready => ?_
  · refine leads_call fun _ _ => leads_idle restoreAndContinue_idles ?_
    exact follows_awake awake (fun _ stranded => stranded.2.2.2 rfl) onward
  · refine leads_idle audit_idles (follows_awake awake (fun _ stranded => ?_) onward)
    exact unready (is stranded.2.1 stranded.2.2.1)

section
variable (paused : w.authority.state ≠ .awake → w.last = some .pause)
  (onward : least ≤ w.authority.sequence)
include paused onward

theorem rebuildCurrentAuthorityLocked_leads {reason} {pauseBeforeRebuild : Bool} :
    Leads calm least (h.rebuildCurrentAuthorityLocked reason pauseBeforeRebuild) w := by
  refine leads_read (leads_ite (fun asleep => follows_asleep asleep (paused asleep) onward) ?_)
  intro awake
  have awake := not_not.1 awake
  refine captureOperationPending_tells.bind ?_
  rintro busy _ ⟨rfl, free⟩
  refine leads_ite (fun busy => follows_awake awake (free busy) onward) fun _ => ?_
  refine leads_ite (fun _ => ?_) fun _ => rebuild_leads awake onward
  exact leads_past (publishing_keeps idles_plain (idles_plain _ trivial)) fun _ =>
    leads_call fun _ _ => rebuild_leads awake onward

omit paused onward in
/-- The names of the network are looked up again after what has succeeded. -/
theorem refreshes {p : Action (Coordinated Unit)} {result} (leads : Leads calm least p w) :
    Leads calm least (do
      match ← p with
      | .error error => return .error error
      | .ok () =>
        h.refreshNetworkDns
        return (.ok result : Coordinated β)) w := by
  refine leads.bind fun result t follows => ?_
  cases result with
  | error => exact follows
  | ok => exact leads_idle (.bind (refreshNetworkDns_keeps idles_plain) fun _ => .pure _) follows

theorem rebuildForEvent_leads {pauseBeforeRebuild : Bool} :
    Leads calm least (h.rebuildForEvent pauseBeforeRebuild) w :=
  leads_past (invalidateNetworkDns_keeps idles_plain) fun _ =>
    refreshes (rebuildCurrentAuthorityLocked_leads paused onward)

end

theorem recoverAfterEventGapLocked_leads (onward : least ≤ w.authority.sequence) :
    Leads calm least h.recoverAfterEventGapLocked w := by
  refine leads_read (leads_call fun _ _ => leads_pause discontinueConsumersAfterGap_pauses ?_)
  have gaveUp (recovery) (v : Watch) (asleep : v.authority.state ≠ .awake)
      (paused : v.last = some .pause) (later : least ≤ v.authority.sequence) :
      Leads calm least (do Host.setRecovery recovery; return (.ok () : Coordinated Unit)) v :=
    leads_read (leads_call fun _ _ => follows_asleep asleep paused later)
  refine leads_ite (fun _ => leads_call fun answer _ => ?_) fun _ => gaveUp _ _ nofun rfl onward
  cases answer with
  | timedOut | unavailable => exact gaveUp _ _ nofun rfl onward
  | observed observation =>
    refine leads_read (leads_ite (fun _ => gaveUp _ _ nofun rfl onward) fun newer => ?_)
    have newer : least ≤ observation.sequence := Nat.le_trans onward (Nat.le_of_not_le newer)
    refine leads_read (leads_call fun _ _ => leads_ite (fun _ => ?_) fun asleep => ?_)
    · exact refreshes (rebuildCurrentAuthorityLocked_leads (fun _ => rfl) newer)
    · refine follows_asleep (fun awake => asleep ?_) rfl newer
      revert awake
      cases observation.state <;> simp [Watch.after, authorityState]

section
variable {event : PlatformLifecycleEvent} (follows : Follows calm least w)
  (newer : least ≤ event.sequence)
include follows newer

theorem awaitRecovery_leads {c : Prop} (unknown : w.authority.state = .unknownAfterGap ∧ c) :
    Leads calm least (Host.awaitRecovery event) w := by
  have asleep : w.authority.state ≠ .awake := by simp [unknown.1]
  exact leads_read (leads_call fun _ _ => follows_asleep asleep (follows.paused asleep) newer)

theorem applyEvent_leads : Leads calm least (h.applyEvent event) w := by
  refine leads_read (leads_ite (awaitRecovery_leads follows newer) fun _ => ?_)
  refine leads_read (leads_call fun _ _ => ?_)
  cases event.kind with
  | sleep =>
    refine leads_ite (fun _ => ?_) fun asleep => ?_
    · exact leads_pause suspendConsumers_pauses (follows_asleep nofun rfl newer)
    · exact follows_asleep nofun (follows.paused asleep) newer
  | wake =>
    refine leads_ite (fun _ => rebuildForEvent_leads (absurd rfl) newer) fun awake => ?_
    exact follows_awake rfl (fun c stranded => follows.resumed c ⟨not_not.1 awake, stranded.2⟩) newer
  | networkChanged =>
    refine leads_read (leads_ite (fun asleep => ?_) fun _ => ?_)
    · exact follows_asleep asleep (follows.paused asleep) newer
    · refine rebuildForEvent_leads ?_ newer
      exact follows.paused

omit newer in
theorem handlePlatformEvent_leads : Leads calm least (h.handlePlatformEvent event) w := by
  refine leads_call fun _ _ => leads_read (leads_ite (fun _ => follows) fun newer => ?_)
  have newer : least ≤ event.sequence := Nat.le_trans follows.onward (Nat.le_of_not_le newer)
  refine leads_ite (fun _ => ?_) fun _ => applyEvent_leads follows newer
  refine (recoverAfterEventGapLocked_leads follows.onward).bind fun result t follows => ?_
  cases result with
  | error => exact follows
  | ok =>
    refine leads_read (leads_ite (fun _ => follows) fun _ => ?_)
    exact leads_ite (awaitRecovery_leads follows newer) fun _ => applyEvent_leads follows newer

end

theorem gap_leads {recovery : LifecycleRecoveryState} (onward : least ≤ w.authority.sequence) :
    Leads calm least (do
      Host.markUnknown recovery
      h.discontinueConsumersAfterGap) w := by
  refine leads_read (leads_call fun _ _ => ?_)
  exact discontinueConsumersAfterGap_pauses.mono fun _ _ is => is ▸ follows_asleep nofun rfl onward

theorem initializePlatformAuthority_leads (follows : Follows calm 0 w)
    (awake : w.authority.state = .awake) : Leads calm 0 h.initializePlatformAuthority w := by
  refine leads_call fun _ _ => leads_ite (fun _ => leads_call fun answer _ => ?_) fun _ => follows
  cases answer with
  | timedOut | unavailable => exact gap_leads follows.onward
  | observed observation =>
    refine leads_read (leads_read (leads_call fun _ _ => leads_ite (fun asleep => ?_) fun is => ?_))
    · refine suspendConsumers_pauses.mono fun _ _ is => is ▸ follows_asleep ?_ rfl (Nat.zero_le _)
      simp [Watch.after, asleep.2, authorityState]
    · refine follows_awake ?_ (fun c stranded => follows.resumed c ⟨awake, stranded.2⟩) (Nat.zero_le _)
      revert is
      cases observation.state <;> simp [Watch.after, authorityState, awake]

section
variable {running : Bool} (onward : least ≤ w.authority.sequence)
include onward

/-- What the two calls that are told whether the core runs do while awake. -/
theorem told_leads {ready : Action (Coordinated Unit)} (is : w.running = running)
    (awake : ¬w.authority.state ≠ .awake)
    (whenReady : Follows calm least { w with last := some .resume } →
      Leads calm least ready { w with last := some .resume }) :
    Leads calm least (if running then do
      call .resumeObservations
      ready
    else h.auditWithoutCore) w := by
  have awake := not_not.1 awake
  refine leads_ite (fun _ => leads_call fun _ _ => whenReady ?_) fun down => ?_
  · exact follows_awake awake (fun _ stranded => stranded.2.2.2 rfl) onward
  · refine leads_call fun _ _ => leads_call fun _ _ => leads_idle audit_idles ?_
    exact follows_awake awake (fun _ stranded => down (is ▸ stranded.2.1)) onward

theorem handleRuntimeReplacement_leads (is : w.running = running) :
    Leads calm least (h.handleRuntimeReplacement running) w := by
  refine leads_call fun _ _ => leads_read ?_
  refine leads_past (invalidateNetworkDns_keeps idles_plain) fun _ => leads_ite (fun asleep => ?_)
    fun awake => told_leads onward is awake fun follows => ?_
  · exact leads_call fun _ _ => leads_call fun _ _ => follows_asleep asleep rfl onward
  · refine leads_past (publishing_keeps idles_plain (idles_plain _ trivial)) fun _ => ?_
    exact leads_past (refreshNetworkDns_keeps idles_plain) fun _ => follows

theorem handleCoreAvailability_leads (is : w.running = running)
    (paused : w.authority.state ≠ .awake → w.last = some .pause) :
    Leads calm least (h.handleCoreAvailability running) w := by
  refine leads_call fun _ _ => leads_read ?_
  refine leads_past (invalidateNetworkDns_keeps idles_plain) fun _ => leads_ite (fun asleep => ?_)
    fun awake => told_leads onward is awake fun follows =>
      refreshes (leads_idle restoreAndContinue_idles follows)
  refine leads_ite (fun _ => leads_call fun _ _ => leads_call fun _ _ => ?_) fun _ => ?_
  · exact follows_asleep asleep rfl onward
  · exact follows_asleep asleep (paused asleep) onward

end

theorem program_leads (follows : Follows calm least w) (configured : Bool) (c : Call)
    (first : c = .initializePlatformAuthority → w.authority = .initial) :
    Leads calm least (c.program h) (w.called configured c) := by
  have dropped {α : Type} {p : Action α} {v : Watch} (leads : Leads calm least p v) :
      Leads calm least (do let _ ← p) v := leads.bind fun _ _ ended => ended
  cases c with
  | initializePlatformAuthority =>
    have initial := first rfl
    have onward := follows.onward
    rw [initial] at onward
    obtain rfl : least = 0 := Nat.le_zero.1 onward
    exact initializePlatformAuthority_leads follows (congrArg (·.state) initial)
  | restartAudit => exact leads_idle (restartAudit_keeps idles_plain) follows
  | platformEvent event => exact dropped (handlePlatformEvent_leads follows)
  | coreAvailability => exact dropped (handleCoreAvailability_leads follows.onward rfl follows.paused)
  | runtimeReplacement => exact dropped (handleRuntimeReplacement_leads follows.onward rfl)
  | periodicAudit => exact dropped (leads_idle (periodicAudit_keeps idles_plain) follows)
  | reconcileAfterEventGap =>
    exact dropped (leads_call fun _ _ => recoverAfterEventGapLocked_leads follows.onward)
  | eventStreamClosed => exact leads_call fun _ _ => gap_leads follows.onward

theorem stale_ignored {event} (stale : event.sequence ≤ w.authority.sequence) :
    Safe (watching (Unhindered calm)) (fun _ _ => True) (fun _ t => t = w)
    (h.handlePlatformEvent event) w := by
  refine ⟨trivial, ?_⟩
  rintro _ _ ⟨-, rfl⟩
  refine ⟨trivial, ?_⟩
  rintro _ _ ⟨rfl, rfl⟩
  exact safe_ite.2 ⟨fun _ => rfl, fun newer => absurd stale newer⟩

theorem reached_follows (reached : w.Reached h calm) : Follows calm 0 w := by
  induction reached with
  | start initial free =>
    exact follows_awake (by rw [initial]; rfl) (fun _ => free) (Nat.zero_le _)
  | call c _ calls ih =>
    obtain ⟨first, configured, exec⟩ := calls
    exact (program_leads ih configured c first).result exec

/-- While the desktop is not awake the last command to the observations is a pause. While it is
awake over a running, configured core it is a resumption, if no coordinator that found it missing
was kept from giving it by a capture operation. Sequence numbers only grow, and an event that is not
newer than the last one changes nothing. -/
theorem observation_follows_authority {t : Watch} {c : Call} (reached : w.Reached h calm)
    (calls : w.Calls h (Unhindered calm) c t) :
    (t.authority.state ≠ .awake → t.last = some .pause) ∧
      (calm → t.authority.state = .awake → t.running = true → t.configured = true →
        t.last = some .resume) ∧
      w.authority.sequence ≤ t.authority.sequence ∧
      ∀ event, c = .platformEvent event → event.sequence ≤ w.authority.sequence → t = w := by
  have found := reached_follows reached
  obtain ⟨first, configured, exec⟩ := calls
  have follows := (program_leads ⟨found.paused, found.resumed, Nat.le_refl _⟩ configured c first).result exec
  refine ⟨follows.paused, fun quiet awake running configured => ?_, follows.onward, ?_⟩
  · by_contra missing
    exact follows.resumed quiet ⟨awake, running, configured, missing⟩
  · rintro event rfl stale
    have ignored : Safe (watching (Unhindered calm)) (fun _ _ => True) (fun _ t => t = w)
        (Call.program h (.platformEvent event)) w := (stale_ignored stale).bind fun _ _ same => same
    exact ignored.result exec

end

/-! ## A wake-up during a capture operation -/

namespace Watch

/-- The answers of a desktop that has an operation pending if `busy`. -/
def reply (busy : Bool) (w : Watch) : (r : Request) → Reply r
  | .captureStatus =>
    { CaptureRuntimeStatus.off with
      captureOperation.phase := if busy then .pending else .idle }
  | .readAuthority => w.authority
  | .coreStatus => if w.running then .running else .stopped
  | .coreConfigured => w.configured
  | .observeSleepState => .timedOut
  | .runtimeTransitionPending => false
  | .reconcile _ _ | .audit _ _ => .ok .off
  | .recentTrafficRevision => 0
  | .recentTrafficProfile => none
  | .lockTransition | .writeAuthority _ | .pauseObservations _ | .resumeObservations
  | .captureApplied _ | .stopRecentTraffic | .suspendRecentTraffic | .discontinueRecentTraffic
  | .resumeRecentTraffic _ | .publishStatus | .publishCoordinatorObservation
  | .invalidateNetworkDns | .refreshNetworkDns | .recordCaptureFailure _
  | .recordApplicationEvent _ | .resolveCaptureFailureNotifications => ()

/-- Where an event or an audit ends. -/
def onward (h : Host) (busy : Bool) (w : Watch) (c : Call) : Watch :=
  ((c.program h).run (fun w r => (w.reply busy r, w.after r)) (w.called true c)).2

theorem calls_onward {h admits busy c} (admitted : ∀ w, admits w busy) (w : Watch)
    (later : c ≠ .initializePlatformAuthority) : w.Calls h admits c (w.onward h busy c) := by
  refine ⟨fun first => absurd first later, true, exec_run (fun w r => ⟨?_, rfl⟩) _ _⟩
  cases r with
  | captureStatus => cases busy <;> exact admitted w
  | coreStatus => cases runs : w.running <;> simp [Answers, reply, runs]
  | readAuthority | coreConfigured => rfl
  | _ => trivial

def observed : Watch := ⟨.initial, true, true, some .resume⟩

end Watch

/-- A host with a Capture reconciler only. -/
def captureHost : Host := ⟨true, false, false⟩

def asleep : Watch := observed.onward captureHost false (.platformEvent ⟨.sleep, 1⟩)

theorem asleep_reached (calm : Prop) : asleep.Reached captureHost calm := by
  have began : observed.Reached captureHost calm := .start rfl (by simp [Stranded, observed])
  exact .call _ began (calls_onward (fun _ _ _ => rfl) _ (by nofun))

def woken (busy : Bool) : Watch := asleep.onward captureHost busy (.platformEvent ⟨.wake, 2⟩)

theorem observation_follows_wake : (woken false).last = some .resume := by
  have calls : asleep.Calls captureHost (Unhindered True) _ (woken false) :=
    calls_onward (fun _ _ _ => rfl) _ (by nofun)
  exact (observation_follows_authority (asleep_reached True) calls).2.1 trivial rfl rfl rfl

/-- A wake-up that is handled while a capture operation is pending resumes nothing, and neither does
an audit after the operation. -/
theorem observation_stays_paused : ∃ w t : Watch, w.Reached captureHost False ∧
      w.Calls captureHost (fun _ busy => busy = false) .periodicAudit t ∧ t.Stranded := by
  have calls : asleep.Calls captureHost (Unhindered False) _ (woken true) :=
    calls_onward (fun _ => nofun) _ (by nofun)
  refine ⟨_, (woken true).onward captureHost false .periodicAudit, .call _ (asleep_reached False) calls,
    calls_onward (fun _ => by rfl) _ (by nofun), rfl, rfl, rfl, nofun⟩

end Mish.Lifecycle
