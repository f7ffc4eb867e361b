import Mish.Activation.Transaction

/-!
# Sequences of calls

What a sequence of calls leaves: the record of what is active against the cores that run, and the
core the capture is on.
-/

namespace Mish.Activation
open Interaction
open Capture (CaptureFailureKind CaptureRequest)
open ProfileActivation (MihomoActivationError)

/-- What holds of a manager between two calls. -/
structure Lawful (T G : Prop) (setup : Setup) (state : ActivationState) (w : World) : Prop where
  recorded : state.active ≠ none → state.Agrees
  settled : T → Settled state w
  attached : G → w.stranded = false
  off : G → setup.capture = false → w.captured = none

section
variable {meets : World → (r : Request) → Reply r → Prop} {T G : Prop} {setup : Setup}
  {state : ActivationState} {w : World} (guarded : G → ∀ w r a, meets w r a → Guarded w r a)

theorem Lawful.paused (lawful : Lawful T G setup state w) (generation : Generation)
    (paused : Bool) :
    Lawful T G setup state (w.update generation { w.core generation with paused }) :=
  ⟨lawful.recorded, fun t => (lawful.settled t).paused generation paused, lawful.attached,
    lawful.off⟩

theorem Lawful.begin (lawful : Lawful T G setup state w) : Lawful T G setup state (w.begin state) :=
  ⟨lawful.recorded, lawful.settled, fun _ => rfl, lawful.off⟩

theorem Contract.lawful {record before out} (contract : Contract T G setup record before out w)
    (recorded : before.active ≠ none → before.Agrees) : Lawful T G setup out.2 w := by
  refine ⟨fun present => ?_, contract.settled, contract.attached, contract.off⟩
  cases result : out.1 with
  | ok commit =>
    obtain ⟨_, agrees, _⟩ := contract.ok commit result
    exact agrees
  | error error =>
    obtain none | ⟨generation, found, _⟩ := contract.error error result
    · exact absurd none present
    · exact contract.agrees (recorded (by simp [found]))

/-! ## Shutdown -/

/-- The result leaves the manager lawful. -/
abbrev Leaves (T G : Prop) (setup : Setup) {α : Type} (out : Outcome α) (w : World) : Prop :=
  Lawful T G setup out.2 w

theorem retireActive_spec (stopped : T → ∀ id, (w.cores id).loose = false)
    (attached : G → w.stranded = false) (off : G → setup.capture = false → w.captured = none) :
    Ensures meets (Leaves T G setup) (retireActive state) w := by
  refine Safe.bind (dropActive_spec state) ?_
  rintro _ _ ⟨rfl, rfl⟩
  refine Ensures.ask fun written _ _ => ?_
  have settled (t : T) (id : String) (left : (w.cores id).loose = true) :
      (none : Option Generation).map (·.runtimeId) = some id := by
    cases (stopped t id).symm.trans left
  cases written <;> exact ⟨fun no => absurd rfl no, settled, attached, off⟩

/-- With the capture taken off the core. -/
theorem stopReleased_spec {active} (is : state.active = some active)
    (lawful : Lawful T G setup state w) (taken : G → w.captured = none) :
    Ensures meets (Leaves T G setup) (do
        match ← ask (.stop active .shutdown) with
        | false =>
          ask (.resumeObservations active)
          return (.error .shutdownFailed, state)
        | true => retireActive state : Action (Outcome Unit)) w := by
  refine .ask fun ok _ _ => ?_
  have attached (g : G) : (w.stopAnswered active ok).stranded = false := by
    simp [World.stopAnswered, lawful.attached g, taken g]
  have others (t : T) (id : String) (other : id ≠ active.runtimeId) :
      ((w.stopAnswered active ok).cores id).loose = false := by
    simp only [World.stopAnswered, World.cores_update, if_neg other]
    by_contra left
    have owner := lawful.settled t id (eq_true_of_ne_false left)
    rw [is] at owner
    exact other (Option.some.inj owner).symm
  cases ok with
  | false =>
    have left : Lawful T G setup state (w.stopAnswered active false) := by
      refine ⟨lawful.recorded, fun t id left => ?_, attached, fun g _ => taken g⟩
      by_cases own : id = active.runtimeId
      · rw [is, own]
        rfl
      · cases (others t id own).symm.trans left
    exact .ask fun _ _ _ => left.paused active false
  | true =>
    refine retireActive_spec (fun t id => ?_) attached fun g _ => taken g
    by_cases own : id = active.runtimeId
    · simp [World.after, World.stopAnswered, own]
    · exact others t id own

include guarded

theorem stopActive_spec {active transition} (held : setup.capture = true → transition = true)
    (is : state.active = some active) (lawful : Lawful T G setup state w) :
    Ensures meets (Leaves T G setup) (stopActive setup active transition state) w := by
  refine .ask fun _ _ _ => ?_
  have paused : Lawful T G setup state (w.after (.pauseObservations active) ()) :=
    lawful.paused active true
  refine Safe.bind (suspendCapture_spec guarded held paused.off) fun result w' h => ?_
  cases h with
  | failed kind selection _ => exact Ensures.ask fun _ _ _ => paused.paused active false
  | unneeded taken => exact stopReleased_spec is paused taken
  | suspended selection _ _ =>
    refine stopReleased_spec is ⟨paused.recorded, paused.settled, fun g => ?_, ?_⟩ ?_
    · have attached := paused.attached g
      simp [World.reconciled, attached]
    · simp [World.reconciled]
    · simp [World.reconciled]

theorem shutdown_spec (lawful : Lawful T G setup state w) :
    Ensures meets (Leaves T G setup) (shutdown setup state) w := by
  have within (transition : Bool) (state : ActivationState)
      (held : setup.capture = true → transition = true) (lawful : Lawful T G setup state w) :
      Ensures meets (Leaves T G setup) (shutdownWithin setup transition state) w := by
    unfold shutdownWithin
    split
    · rename_i active is
      exact stopActive_spec guarded held is lawful
    · rename_i none
      refine retireActive_spec (fun t id => ?_) lawful.attached lawful.off
      by_contra left
      have owner := lawful.settled t id (eq_true_of_ne_false left)
      rw [none] at owner
      cases owner
  refine .ask fun recovered _ _ => ?_
  cases recovered with
  | false => exact lawful
  | true =>
    dsimp only
    split
    · exact within true _ (fun _ => rfl)
        ⟨lawful.recorded, lawful.settled, lawful.attached, lawful.off⟩
    · split
      · refine .ask fun begun _ _ => ?_
        cases begun with
        | false => exact lawful
        | true => exact within true state (fun _ => rfl) lawful
      · rename_i absent
        exact within false state (fun present => absurd present absent) lawful

end

/-! ## Histories -/

/-- Before a manager has started any core. -/
def World.initial (persisted : Option ManagedActivationState) (captured : Option String) : World :=
  ⟨[], persisted, fun _ => ⟨false, false, false, false, false⟩, captured, none, false⟩

/-- A manager after any sequence of calls whose answers meet a condition. It is built with any
record, and between the calls the capture may be put on any core, if there is a capture. -/
inductive History (meets : World → (r : Request) → Reply r → Prop) (setup : Setup) :
    ActivationState → World → Prop where
  | created (managed : ManagedActivationState) (persisted : Option ManagedActivationState) :
      History meets setup ⟨none, false, managed⟩ (.initial persisted none)
  | captured {state w} (captured : Option String) :
      History meets setup state w → setup.capture = true →
      History meets setup state { w with captured }
  | activate {state w w'} (record : ProfileRecord) (finalCapture : Option CaptureRequest)
      (policy : ManagedRuntimePolicy) {out} : History meets setup state w →
      Exec (answers meets) (Activation.activate setup record finalCapture policy state)
        (w.begin state) (.done out) w' →
      History meets setup out.2 w'
  | completeRuntimeHandoff {state w} :
      History meets setup state w → History meets setup (completeRuntimeHandoff state) w
  | shutdown {state w w' out} : History meets setup state w →
      Exec (answers meets) (Activation.shutdown setup state) (w.begin state) (.done out) w' →
      History meets setup out.2 w'

variable {meets : World → (r : Request) → Reply r → Prop}

theorem History.lawful {T G : Prop} {setup state w} (tidy : T → ∀ w r a, meets w r a → Tidy w r a)
    (guarded : G → ∀ w r a, meets w r a → Guarded w r a) (history : History meets setup state w) :
    Lawful T G setup state w := by
  induction history with
  | created managed persisted => exact ⟨fun no => absurd rfl no, nofun, fun _ => rfl, fun _ _ => rfl⟩
  | captured _ _ present ih =>
    exact ⟨ih.recorded, ih.settled, ih.attached, fun _ absent => by cases present.symm.trans absent⟩
  | activate _ _ _ _ exec ih =>
    have found := found_begin ih.settled ih.off
    exact (Safe.result (activate_spec guarded tidy found) exec).lawful ih.recorded
  | completeRuntimeHandoff _ ih => exact ⟨ih.recorded, ih.settled, ih.attached, ih.off⟩
  | shutdown _ exec ih =>
    have left := Safe.result (shutdown_spec guarded ih.begin) exec
    exact left

/-! ## A record that says that nothing is active -/

/-- While every started core is stopped by its rollback, and the restoring of a generation fails
only with its core stopped, no core is left running behind a record that says none is. -/
theorem safeStopped_truthful {setup : Setup} {state : ActivationState} {w : World}
    (history : History Tidy setup state w) (safe : state.managed.isSafeStopped = true)
    (id : String) : (w.cores id).loose = false := by
  have lawful : Lawful True False setup state w :=
    history.lawful (fun _ _ _ _ met => met) nofun
  by_contra left
  have owner := lawful.settled trivial id (eq_true_of_ne_false left)
  cases active : state.active with
  | none =>
    rw [active] at owner
    cases owner
  | some generation =>
    have named := (lawful.recorded (by simp [active])).2.1
    rw [ProfileActivation.ManagedActivationState.isSafeStopped, named, active] at safe
    cases safe

namespace Sample

/-- The record of a manager that has never activated anything. -/
def emptyRecord : ManagedActivationState := ⟨⟨none, none, none, none⟩, none, none, 2⟩

/-- The capture that is to be on after the activation. -/
def systemProxy : CaptureRequest := ⟨true, ⟨true, false⟩⟩

/-- The first activation of a new manager. -/
def first : Action (Outcome ProfileActivation.ActivationCommit) :=
  activate setup record (some systemProxy) policy ⟨none, false, emptyRecord⟩

def before : World := (World.initial none none).begin ⟨none, false, emptyRecord⟩

theorem history_first {meets} (script : Script) {out} (met : ∀ w r, meets w r (script r))
    (done : (script.run first before).1.result = some out) :
    History meets setup out.2 (script.run first before).2 :=
  .activate record (some systemProxy) policy (.created emptyRecord none) (script.exec_done met done)

end Sample

namespace Script

theorem smooth_tidy (w : World) (r : Request) : Tidy w r (smooth r) := by
  intro failed
  cases r <;> cases failed

theorem smooth_guarded (w : World) (r : Request) : Guarded w r (smooth r) := by
  constructor
  · cases r with
    | confirmedStatus => exact ⟨fun _ => rfl, fun _ => rfl⟩
    | _ => exact trivial
  · intro failed
    cases r <;> cases failed

/-- As `smooth`, with a candidate that does not get ready and that the rollback cannot stop. -/
def stuck : Script
  | .waitForCandidate _ .candidate => .error .readinessTimeout
  | .stop _ .rollback => false
  | r => smooth r

/-- As `smooth`, with a record that cannot be written and a capture that cannot be taken off. -/
def unwritten : Script
  | .persistManagedState _ => false
  | .reconcile _ _ .abort _ => .error .applyFailed
  | r => smooth r

end Script

/-- An activation and a shutdown in which every step succeeds. -/
theorem Sample.history_stopped (met : ∀ w r, meets w r (Script.smooth r)) :
    ∃ state w, History meets setup state w ∧ state.managed.isSafeStopped = true ∧
    (w.cores "runtime").started = true :=
  ⟨_, _, .shutdown (history_first Script.smooth met rfl) (Script.smooth.exec_done met rfl), rfl, rfl⟩

theorem safeStopped_after_shutdown : ∃ state w, History Tidy Sample.setup state w ∧
    (w.cores "runtime").started = true ∧ (w.cores "runtime").loose = false := by
  obtain ⟨state, w, history, safe, started⟩ := Sample.history_stopped Script.smooth_tidy
  exact ⟨state, w, history, started, safeStopped_truthful history safe "runtime"⟩

/-- The candidate does not get ready and is not stopped: the record says that nothing is active, and
its core is running. -/
theorem candidate_left_running :
    ∃ state w, History anyAnswer Sample.setup state w ∧ state.managed.isSafeStopped = true ∧
      (w.cores "runtime").loose = true :=
  ⟨_, _, Sample.history_first Script.stuck (fun _ _ => trivial) rfl, rfl, rfl⟩

/-! ## The capture -/

/-- While the capture of a candidate is taken off it or can be given back, no call leaves the
capture on a core that it has stopped. -/
theorem capture_leaves_stopped_core {setup : Setup} {state : ActivationState} {w : World}
    (history : History Guarded setup state w) : w.stranded = false := by
  have lawful : Lawful False True setup state w := history.lawful nofun fun _ _ _ _ met => met
  exact lawful.attached trivial

theorem capture_leaves_after_shutdown : ∃ state w, History Guarded Sample.setup state w ∧
    (w.cores "runtime").started = true ∧ w.stranded = false := by
  obtain ⟨state, w, history, _, started⟩ := Sample.history_stopped Script.smooth_guarded
  exact ⟨state, w, history, started, capture_leaves_stopped_core history⟩

/-- The record cannot be written once the capture has been handed over, and the capture cannot be
taken off again: the candidate is stopped with the capture on it. -/
theorem capture_left_on_candidate :
    ∃ state w, History anyAnswer Sample.setup state w ∧ w.captured = some "runtime" ∧
      (w.cores "runtime").running = false ∧ w.stranded = true :=
  ⟨_, _, Sample.history_first Script.unwritten (fun _ _ => trivial) rfl, rfl, rfl, rfl⟩

end Mish.Activation
