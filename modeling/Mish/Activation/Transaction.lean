import Mish.Activation.Course

/-!
# Activation is a transaction

An activation leaves memory and record in agreement exactly when they were so before.
-/

namespace Mish.Activation
open Interaction
open Capture (CaptureRequest)
open ProfileActivation (MihomoActivationError ActivationCommit)

theorem found_begin {T G : Prop} {setup state w}
    (settled : T → Settled state w) (off : G → setup.capture = false → w.captured = none) :
    Found T G setup state (w.begin state) where
  known generation active := by simp [World.begin, active]
  captured id is := by
    have is : w.captured = some id := is
    simp [World.begin, is]
  suspended := rfl
  unharmed _ _ := ⟨rfl, rfl⟩
  settled := settled
  attached _ := rfl
  off := off

/-- Any answer. -/
def anyAnswer (_ : World) (r : Request) (_ : Reply r) : Prop := True

/-- The generation in memory and the record agree. After a success they are the new generation's,
and the record has been written; after a failure there is none, or the previous one is unharmed. -/
structure Transactional (record : ProfileRecord) (before : ActivationState)
    (out : Outcome ActivationCommit) (w : World) : Prop where
  agrees : out.2.Agrees
  ok : ∀ commit, out.1 = .ok commit → ∃ policy,
    out.2.active = some (candidateOf record policy commit.runtimeId) ∧
    commit = commitOf record (candidateOf record policy commit.runtimeId) ∧
    w.persisted = some out.2.managed
  error : ∀ error, out.1 = .error error → out.2.active = none ∨
    ∃ generation, before.active = some generation ∧ out.2.active = some generation ∧
      w.Unharmed generation

theorem Contract.transactional {T G : Prop} {setup record before out w}
    (contract : Contract T G setup record before out w)
    (agrees : before.Agrees) : Transactional record before out w where
  agrees := contract.agrees agrees
  ok commit is := by
    obtain ⟨policy, _, rest⟩ := contract.ok commit is
    exact ⟨policy, rest⟩
  error := contract.error

/-- Whatever a call finds and however its steps turn out, it is a transaction exactly when the
record it finds is that of the active generation. -/
theorem activation_transactional_iff (setup : Setup) (record : ProfileRecord)
    (finalCapture : Option CaptureRequest) (policy : ManagedRuntimePolicy)
    (state : ActivationState) (w : World) :
    (∀ out w', Exec (answers anyAnswer) (activate setup record finalCapture policy state)
      (w.begin state) (.done out) w' → Transactional record state out w') ↔ state.Agrees := by
  constructor
  · intro transactional
    -- the call may end before it has done anything
    have refused : Exec (answers anyAnswer) (activate setup record finalCapture policy state)
        (w.begin state) (.done (.error .ownershipFailed, state)) (w.begin state) :=
      Exec.step (a := false) ⟨trivial, trivial, rfl⟩ (.stop _ _)
    exact (transactional _ _ refused).agrees
  · intro agrees out w' exec
    have found : Found False False setup state (w.begin state) := found_begin nofun nofun
    have contract : Contract False False setup record state out w' :=
      Safe.result (activate_spec nofun nofun found) exec
    exact contract.transactional agrees

/-! ## Runs that answer a request in one way -/

abbrev Script := (r : Request) → Reply r

namespace Script

def respond (script : Script) (w : World) (r : Request) : Reply r × World :=
  (script r, w.after r (script r))

/-- The script would give a runtime id again. -/
def repeats (script : Script) (w : World) : Request → Bool
  | .prepareGeneration =>
    match script .prepareGeneration with
    | .ok runtimeId => w.ids.contains runtimeId
    | .error _ => false
  | _ => false

def run {α : Type} (script : Script) (p : Action α) (w : World) : Action α × World :=
  p.runUntil script.respond script.repeats w

variable {meets : World → (r : Request) → Reply r → Prop}

theorem exec_run {α : Type} {script : Script} (met : ∀ w r, meets w r (script r)) (p : Action α)
    (w : World) : Exec (answers meets) p w (script.run p w).1 (script.run p w).2 := by
  have answered : ∀ w r, True → script.repeats w r = false →
      answers meets w r (script.respond w r).1 (script.respond w r).2 ∧ True := by
    intro w r _ new
    refine ⟨⟨met w r, ?_, rfl⟩, trivial⟩
    cases r with
    | prepareGeneration =>
      cases given : script .prepareGeneration with
      | error => simp [respond, given, World.fresh]
      | ok runtimeId => simpa [repeats, respond, given, World.fresh] using new
    | _ => exact trivial
  exact (exec_runUntil_within answered p trivial).1

/-- The result of a run that has ended. -/
theorem exec_done {α : Type} {script : Script} {p} {w : World} {a : α}
    (met : ∀ w r, meets w r (script r)) (done : (script.run p w).1.result = some a) :
    Exec (answers meets) p w (.done a) (script.run p w).2 := by
  have exec := exec_run met p w
  rwa [Program.eq_done_of_result done] at exec

/-- Every step succeeds, with a capture that is on. -/
def smooth : Script
  | .recoverStartup | .beginRuntimeTransition | .start _ _ | .stop _ _ | .coreConfigured _
  | .persistManagedState _ => true
  | .isCancelled => false
  | .resolve => .ok ()
  | .beginListenerPreparation | .finishListenerPreparation | .seedBundledGeodata
  | .waitForCandidate _ _ => .ok ()
  | .earlyListenerConflict _ _ | .commitListenerConflict _ _ => .ok none
  | .prepareGeneration => .ok "runtime"
  | .confirmedStatus => ⟨⟨true, false⟩, true, false⟩
  | .reconcile _ _ _ _ => .ok ()
  | .coreStatus _ => .running
  | .listenerRelease _ _ | .listenerConflict _ _ => none
  | .privilegedStartFailure _ => none
  | .processError _ => none
  | .nowUnixMilliseconds => 0
  | .pauseObservations _ | .resumeObservations _ | .startSource _ | .closeSource _
  | .removeGenerationConfig _ => ()

/-- As `smooth`, with another program on the proxy's port. -/
def conflicting : Script
  | .earlyListenerConflict _ policy => .ok (some policy.proxyEndpoint)
  | r => smooth r

end Script

namespace Sample

def setup : Setup := ⟨true, true, true⟩
def record : ProfileRecord := ⟨"fingerprint", "profile", "revision", true⟩
def policy : ManagedRuntimePolicy := ⟨⟨"127.0.0.1", 9090⟩, ⟨"127.0.0.1", 7890⟩⟩

/-- Nothing is known of any core. -/
def world : World :=
  ⟨[], none, fun _ => ⟨false, false, false, false, false⟩, none, none, false⟩

/-- The record that an earlier process has left. -/
def leftRecord : ManagedActivationState :=
  ⟨⟨some "old fingerprint", some "old profile", some "old revision", some "old runtime"⟩,
    some "old profile", none, 2⟩

/-- A manager as it is built from that record. -/
def restarted : ActivationState := ⟨none, false, leftRecord⟩

end Sample

/-- After a restart the first activation finds the port taken: nothing is active, and the record
still names the generation of the process before. -/
theorem activation_keeps_stale_record : ∃ out w', Exec (answers anyAnswer)
      (activate Sample.setup Sample.record none Sample.policy Sample.restarted)
      (Sample.world.begin Sample.restarted) (.done out) w' ∧
    out.1 = .error (.managedListenerConflict "127.0.0.1:7890") ∧ out.2.active = none ∧
    out.2.managed.activeProfileId = some "old profile" := by
  refine ⟨_, _, Script.conflicting.exec_done (fun _ _ => trivial) rfl, rfl, rfl, rfl⟩

end Mish.Activation
