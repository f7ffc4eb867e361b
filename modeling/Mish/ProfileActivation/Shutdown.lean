import Mish.ProfileActivation.Termination

/-!
# Shutting the coordinator down

`shutdown_inner`, with the flag that refuses every other operation, the token that cancels the
background tasks and the slots they are kept in. What each step of a call meets is arbitrary.
-/

namespace Mish.ProfileActivation
open StateMachine Interaction

inductive ShutdownFailure where
  | backgroundTask | mutationBusy | captureRestoration | coreStop | stateCommit

def shutdownFailure : State → Option ShutdownFailure
  | .failed _ (.capture _) _ | .recoveryRequired _ (.capture _) _ => some .captureRestoration
  | .failed _ .coreStop _ | .recoveryRequired _ .coreStop _ => some .coreStop
  | _ => none

/-! ## The stop -/

def Runtime.revision : Runtime → Option String
  | .safeStopped => none
  | .active _ _ revision _ => revision

/-- What a stop meets: the state found with the permit, the host with its capture, whether the
admission gets through and the end is heard of, what the tasks do, and what the manager and its
runtimes then answer. A task that returns nothing has failed. -/
structure StopOutcome where
  availability : Availability
  found : State
  commandId : String
  attemptedAt : Nat
  (host safeRuntime : MishRuntime)
  before : CaptureStatus
  (admits heard finalizes recovers : Bool)
  task : Option (Except MihomoActivationError Unit)
  manager : Manager

/-- What the actor makes of an input. -/
def State.after (s : State) (input : Input) : State :=
  ((reduce s input).map (·.next s)).getD s

namespace StopOutcome
variable (o : StopOutcome)

def resources : OperationResources where
  finalCapture := none
  ownsFinalCapture := false
  previousCapture :=
    { active := o.before.systemProxyEnabled || o.before.tunEnabled
      adapterKind := .rpc
      pendingOperationId :=
        if o.before.captureOperation.isBusy then o.before.captureOperation.operationId else none
      selection := o.before.captureSelection }
  previousHost := o.host
  previousRuntime := o.found.runtime
  suppressCaptureFailureNotification := false

/-- `try_admit` of the stop. -/
def begin (activeProfileId : String) : Option (State × Command) :=
  match o.found.begin o.commandId .stop activeProfileId o.found.runtime.revision
      o.found.runtime.fingerprint o.attemptedAt with
  | some (.ok begun) => if o.admits then some begun else none
  | some (.error ()) | none => none

/-- What the finalizer of the stage returns. -/
def finalized (command : Command) (stage : Stage) (outcome : TaskOutcome) : Input :=
  o.manager.result o.safeRuntime
    (.finalize command (command.correlation stage.effectId) outcome) command.commandId o.resources

/-- How the task of the stage fails. -/
def failed (command : Command) (stage : Stage) : Input :=
  .taskFailed (command.correlation stage.effectId)

/-- How the task of the stop ends. -/
def taskEnd (command : Command) : Input :=
  o.task.elim (failed command .effect) fun result =>
    .taskFinished (command.correlation activationEffectId) (.stop result)

/-- How the finalizers end after that. -/
def finalizerEnds (command : Command) : List Input :=
  if o.finalizes then [o.finalized command .finalizing (o.task.elim .failed .stop)]
  else [failed command .finalizing,
    if o.recovers then o.finalized command .recovering .failed else failed command .recovering]

/-- `stop_with_permit` and the wait for the end, with the state that is there afterwards. -/
def stopped : Option State :=
  match o.found.runtime.activeProfileId with
  -- the wait is for a command that was never begun
  | none => if (o.found.toSnapshot o.availability).phase = .pending then none else some o.found
  | some activeProfileId =>
    (o.begin activeProfileId).bind fun (begun, command) =>
      if o.heard then
        some ((o.finalizerEnds command).foldl State.after (begun.after (o.taskEnd command)))
      else none

/-- The manager's record and the capture are what a stop is to leave. -/
def Quiet : Prop :=
  o.manager.managed.isSafeStopped = true ∧ o.manager.status.systemProxyEnabled = false ∧
    o.manager.status.tunEnabled = false

/-- The finalizer finds nothing at work, and the capture as it is without a runtime. -/
def Confirmed : Prop :=
  o.manager.managed.isSafeStopped = true ∧ o.manager.active = none ∧
    o.resources.previousCapture.stopped.confirmedBy o.manager.status = true

end StopOutcome

/-! ## What the finalizers return -/

section
variable {m : Manager} {safeRuntime : MishRuntime} {command : Command} {outcome : TaskOutcome}
  {resources : OperationResources} {managed : ManagedActivationState}
  {activeRuntime : Option MishRuntime} {s : Operations × Answered}

/-- What the program returns with the manager's answers. -/
abbrev Manager.returns {α : Type} (m : Manager) (p : Asking α) (s : Operations × Answered) : α :=
  (p.run m.record s).1

theorem finalizeStop_returns : m.returns
    (finalizeStop safeRuntime command resources managed activeRuntime) s =
    if managed.isSafeStopped && activeRuntime.isNone &&
        resources.previousCapture.stopped.confirmedBy m.status then
      .completed (.succeeded .safeStopped)
    else .recoveryRequired .stateCommit (activationRuntimeFromManaged managed) := by
  unfold finalizeStop safeStoppedConfirmed
  rw [Manager.returns, Program.run_bind]
  cases managed.isSafeStopped && activeRuntime.isNone with
  | false =>
    rw [if_neg nofun, if_neg nofun, if_neg nofun, Program.run_bind]
    rfl
  | true =>
    rw [if_pos rfl, Bool.true_and, captureContractMatches, Program.run_bind]
    change ((if resources.previousCapture.stopped.confirmedBy m.status = true then _ else _ :
      Asking Finalization).run _ _).1 = _
    split
    · rfl
    · rw [Program.run_bind]; rfl

/-- The runtime that was to be stopped is not reported stopped. -/
def Unstopped : Finalization → Prop
  | .recoveryRequired .. => True
  | .completed (.failed _ runtime) => runtime.isSafeStopped = false
  | _ => False

theorem active_of_matches {runtime : Runtime} (active : runtime.isSafeStopped = false)
    (matched : managedMatchesRuntime managed runtime = true) :
    (activationRuntimeFromManaged managed).isSafeStopped = false := by
  cases runtime with
  | safeStopped => cases active
  | active fingerprint profileId revision runtimeId =>
    simp only [managedMatchesRuntime, Bool.and_eq_true, beq_iff_eq] at matched
    obtain ⟨⟨⟨profile, print⟩, _⟩, _⟩ := matched
    simp [activationRuntimeFromManaged, ManagedActivationState.isSafeStopped, profile, print,
      Runtime.isSafeStopped]

variable {S : Type} {env : Environment Request Reply S} {t : S}

theorem finalizeFailedStop_unstopped (active : resources.previousRuntime.isSafeStopped = false)
    (error : MihomoActivationError) : Returns env Unstopped
    (finalizeFailedStop safeRuntime command resources managed activeRuntime error) t := by
  have kept : Returns env (fun restored => restored = true →
      (activationRuntimeFromManaged managed).isSafeStopped = false)
      (priorRuntimeKept managed activeRuntime resources) t := by
    cases activeRuntime with
    | none => exact .pure nofun
    | some runtime =>
      refine .ite (fun found => .after fun _ _ => .pure fun _ => ?_) fun _ => .pure nofun
      exact active_of_matches active (Bool.and_eq_true_iff.1 found).2
  refine kept.bind fun restored u runs => .ite (fun is => ?_) fun _ => ?_
  · exact .after fun _ _ => .pure (runs is)
  · exact .after fun _ _ => .after fun _ _ => .pure trivial

theorem finalizeFailed_unstopped (active : resources.previousRuntime.isSafeStopped = false) :
    Returns env Unstopped
    (finalizeFailed safeRuntime command resources managed activeRuntime) t := by
  have restores : Returns env (fun restored => restored = true →
      (activationRuntimeFromManaged managed).isSafeStopped = false)
      (priorRuntimeAndCaptureRestored managed activeRuntime safeRuntime resources) t := by
    unfold priorRuntimeAndCaptureRestored
    split
    · refine .ite (fun found => .after fun _ _ => .pure fun _ => ?_) fun _ => .pure nofun
      exact active_of_matches active (Bool.and_eq_true_iff.1 found).1
    · rename_i previous
      rw [previous] at active
      cases active
    · exact .pure nofun
  refine restores.bind fun restored u runs => .ite (fun is => ?_) fun _ => ?_
  · exact .after fun _ _ => .after fun _ _ => .pure (runs is)
  · exact .after fun _ _ => .pure trivial

theorem takeOperation_returns {recovering} (known : s.1 command.commandId = some resources) :
    ((takeOperation recovering command.commandId).run m.record s).1 = some resources := by
  cases recovering <;> exact known

/-- The finalizer has the operation from the table. -/
theorem result_finalize (m : Manager) (safeRuntime : MishRuntime) (command : Command)
    (outcome : TaskOutcome) (resources : OperationResources) (correlation : Correlation) :
    ∃ t, m.result safeRuntime (.finalize command correlation outcome) command.commandId resources =
    .finalized correlation
    (m.returns (finalizeProfileActivation safeRuntime command outcome resources) t) := by
  have known : (Function.update (fun _ => none) command.commandId (some resources) : Operations)
    command.commandId = some resources := Function.update_self ..
  rw [Manager.result, execute, Program.run_bind, executeFinalize, Program.run_bind,
    takeOperation_returns known, Program.run_bind, Program.run_bind, Program.run_bind,
    Program.run_bind]
  exact ⟨_, rfl⟩

theorem returns_of {post : Finalization → Prop} {p : Asking Finalization}
    (h : ∀ t, Returns recorded post p t) : post (m.returns p s) :=
  (h s).result (exec_run m.record_recorded p s)

end

/-! ## What a stop leaves -/

namespace State
variable {s : State} {held : Pending}

section
variable (holds : s.pending? = some held)
include holds

theorem after_taskFinished (stage : held.stage = .effect) (outcome : TaskOutcome) :
    s.after (.taskFinished (held.command.correlation activationEffectId) outcome) =
    s.setStage .finalizing := by
  change (reduceTaskFinished s _ outcome).next s = _
  unfold reduceTaskFinished
  rw [matchingPending_of_pending holds]
  simp only [stage, Command.correlation]
  rfl

theorem after_taskFailed (stage : held.stage ≠ .recovering) :
    s.after (.taskFailed (held.command.correlation held.stage.effectId)) =
    s.setStage (if held.stage = .effect then .finalizing else .recovering) := by
  change (reduceTaskFailed s _).next s = _
  rw [taskFailed_pending holds]
  unfold pendingTaskFailed
  cases is : held.stage with
  | effect | finalizing => rfl
  | recovering => exact absurd is stage

theorem after_recoveryFailed (stage : held.stage = .recovering) :
    s.after (.taskFailed (held.command.correlation recoveryEffectId)) =
    .recoveryRequired held.command .stateCommit held.runtime := by
  change (reduceTaskFailed s _).next s = _
  rw [taskFailed_pending holds]
  unfold pendingTaskFailed
  rw [stage]
  simp only [completeRecoveryRequired_pending holds]
  rfl

theorem after_finalized (stage : held.stage ≠ .effect) {finalization : Finalization}
    (fits : finalization.fits held.command = true) : Concludes held.command finalization
    (s.after (.finalized (held.command.correlation held.stage.effectId) finalization)) := by
  obtain ⟨t, concludes, next, _⟩ := applyFinalization_fits holds fits
  rw [← next, ← finalized_applies holds stage] at concludes
  exact concludes

end
end State

namespace StopOutcome

/-- What the runtime of a stop is stopped by. -/
inductive Stops (o : StopOutcome) : State → Prop where
  | found : o.found.runtime.isSafeStopped = true →
      (o.found.toSnapshot o.availability).phase ≠ .pending → o.found.kind ≠ .recoveryRequired →
      o.Quiet → Stops o o.found
  | stops {activeProfileId begun command} : o.found.runtime.activeProfileId = some activeProfileId →
      o.begin activeProfileId = some (begun, command) → o.heard = true →
      o.task = some (.ok ()) → o.finalizes = true → o.Confirmed →
      Stops o (.succeeded none command .safeStopped)

variable {o : StopOutcome} {s t begun : State} {command : Command} {activeProfileId : String}
  {held : Pending} {outcome : TaskOutcome}

theorem Confirmed.quiet (confirmed : o.Confirmed) : o.Quiet := by
  obtain ⟨record, _, capture⟩ := confirmed
  simp only [CaptureContract.confirmedBy, CaptureContract.stopped, Bool.and_eq_true, beq_iff_eq,
    Bool.false_and] at capture
  exact ⟨record, capture.1.1.1.2, capture.1.1.2⟩

theorem begin_holds (begins : o.begin activeProfileId = some (begun, command)) :
    begun.pending? = some ⟨command, none, o.found.runtime, .effect⟩ ∧
    command.operation = .stop := by
  unfold begin at begins
  split at begins
  · rename_i result is
    split_ifs at begins
    cases begins
    obtain ⟨begun, _, rfl⟩ := begin_begun is
    exact ⟨begun.held, rfl⟩
  · cases begins
  · cases begins

theorem finalized_unstopped (active : o.found.runtime.isSafeStopped = false) {stage : Stage}
    (failed : outcome = .failed ∨ ∃ error, outcome = .stop (.error error)) :
    ∃ finalization, o.finalized command stage outcome =
    .finalized (command.correlation stage.effectId) finalization ∧ Unstopped finalization := by
  obtain ⟨t, is⟩ := result_finalize o.manager o.safeRuntime command outcome o.resources
    (command.correlation stage.effectId)
  refine ⟨_, is, returns_of fun u => .after fun _ _ => .after fun _ _ => ?_⟩
  rcases failed with rfl | ⟨error, rfl⟩
  · exact finalizeFailed_unstopped active
  · exact finalizeFailedStop_unstopped active error

theorem finalized_stop {stage : Stage} : o.finalized command stage (.stop (.ok ())) =
    .finalized (command.correlation stage.effectId)
    (if o.manager.managed.isSafeStopped && o.manager.active.isNone &&
        o.resources.previousCapture.stopped.confirmedBy o.manager.status then
      .completed (.succeeded .safeStopped)
    else .recoveryRequired .stateCommit (activationRuntimeFromManaged o.manager.managed)) := by
  obtain ⟨t, is⟩ := result_finalize o.manager o.safeRuntime command (.stop (.ok ())) o.resources
    (command.correlation stage.effectId)
  exact is.trans (congrArg _ finalizeStop_returns)

/-- The state says that the runtime is not stopped. -/
def Keeps (s : State) : Prop := s.kind = .recoveryRequired ∨ s.runtime.isSafeStopped = false

theorem unstopped_keeps (active : o.found.runtime.isSafeStopped = false)
    (holds : s.pending? = some held) (stage : held.stage ≠ .effect)
    (failed : outcome = .failed ∨ ∃ error, outcome = .stop (.error error)) :
    Keeps (s.after (o.finalized held.command held.stage outcome)) := by
  obtain ⟨finalization, is, unstopped⟩ := finalized_unstopped active failed
  have fits : finalization.fits held.command = true := by
    unfold Unstopped at unstopped
    split at unstopped
    · rfl
    · rfl
    · cases unstopped
  rw [is]
  have concludes := State.after_finalized holds stage fits
  generalize s.after _ = t at concludes
  cases concludes with
  | recoveryRequired => exact .inl rfl
  | failed => exact .inr unstopped
  | _ => cases unstopped

/-- A stop that its finalizer returns from. -/
theorem stop_leaves (holds : s.pending? = some held)
    (stage : held.stage = .finalizing) (stops : held.command.operation = .stop) :
    s.after (o.finalized held.command .finalizing (.stop (.ok ()))) =
      .succeeded none held.command .safeStopped ∧ o.Confirmed ∨
    Keeps (s.after (o.finalized held.command .finalizing (.stop (.ok ())))) ∧ ¬o.Confirmed := by
  have later : held.stage ≠ .effect := by simp [stage]
  have confirmed_iff : (o.manager.managed.isSafeStopped && o.manager.active.isNone &&
      o.resources.previousCapture.stopped.confirmedBy o.manager.status) = true ↔ o.Confirmed := by
    simp [Confirmed, and_assoc]
  rw [finalized_stop, ← stage]
  split
  · rename_i confirmed
    have fits : Finalization.fits held.command (.completed (.succeeded .safeStopped)) = true := by
      simp [Finalization.fits, successMatchesCommand, stops]
    have concludes := State.after_finalized holds later fits
    generalize s.after _ = t at concludes
    cases concludes
    exact .inl ⟨rfl, confirmed_iff.1 confirmed⟩
  · rename_i other
    refine .inr ⟨.inl ?_, fun confirmed => other (confirmed_iff.2 confirmed)⟩
    have fits : Finalization.fits held.command (.recoveryRequired .stateCommit
      (activationRuntimeFromManaged o.manager.managed)) = true := rfl
    have concludes := State.after_finalized holds later fits
    generalize s.after _ = t at concludes ⊢
    cases concludes
    rfl

theorem taskEnd_finalizes (holds : begun.pending? = some held) (stage : held.stage = .effect) :
    begun.after (o.taskEnd held.command) = begun.setStage .finalizing := by
  unfold taskEnd
  cases o.task with
  | none =>
    have failed := State.after_taskFailed holds (by simp [stage])
    rw [stage] at failed
    exact failed
  | some result => exact State.after_taskFinished holds stage (.stop result)

/-- A finalizer that fails leaves the runtime. -/
theorem unfinalized_keeps (holds : t.pending? = some held) (stage : held.stage = .finalizing)
    (active : o.found.runtime.isSafeStopped = false) (fails : o.finalizes = false) :
    Keeps ((o.finalizerEnds held.command).foldl State.after t) := by
  have recovering := pending_setStage holds .recovering
  have second := State.after_taskFailed holds (by simp [stage])
  rw [stage, if_neg nofun] at second
  have third : Keeps ((t.setStage .recovering).after
      (if o.recovers then o.finalized held.command .recovering .failed
      else failed held.command .recovering)) := by
    split
    · have keeps := unstopped_keeps active recovering nofun (.inl rfl)
      exact keeps
    · exact .inl (congrArg State.kind (State.after_recoveryFailed recovering rfl))
  unfold finalizerEnds
  rw [fails, if_neg nofun, List.foldl, failed, second]
  exact third

/-- What the finalizers leave of a stop. -/
theorem finalizerEnds_leave (holds : t.pending? = some held) (stage : held.stage = .finalizing)
    (active : o.found.runtime.isSafeStopped = false) (stops : held.command.operation = .stop) :
    (o.finalizerEnds held.command).foldl State.after t =
        .succeeded none held.command .safeStopped ∧
      o.task = some (.ok ()) ∧ o.finalizes = true ∧ o.Confirmed ∨
    Keeps ((o.finalizerEnds held.command).foldl State.after t) := by
  cases finalizes : o.finalizes with
  | false => exact .inr (unfinalized_keeps holds stage active finalizes)
  | true =>
    unfold finalizerEnds
    rw [finalizes, if_pos rfl, List.foldl, List.foldl, ← stage]
    cases task : o.task with
    | none => exact .inr (unstopped_keeps active holds (by simp [stage]) (.inl rfl))
    | some result =>
      cases result with
      | error error =>
        exact .inr (unstopped_keeps active holds (by simp [stage]) (.inr ⟨error, rfl⟩))
      | ok =>
        rw [stage]
        exact (stop_leaves holds stage stops).imp (fun h => ⟨h.1, rfl, rfl, h.2⟩) (·.1)

/-- The runtime is reported stopped, and it is, just when the stop gets through. -/
theorem stopped_iff : (o.stopped = some t ∧ t.runtime.isSafeStopped = true ∧
    t.kind ≠ .recoveryRequired) ∧ o.Quiet ↔ o.Stops t := by
  constructor
  · rintro ⟨⟨is, stopped, other⟩, quiet⟩
    unfold StopOutcome.stopped at is
    split at is
    · rename_i none
      split_ifs at is with pending
      cases is
      exact .found stopped pending other quiet
    · rename_i activeProfileId active
      obtain ⟨⟨begun, command⟩, begins, is⟩ := Option.bind_eq_some_iff.1 is
      dsimp only at is
      split_ifs at is with heard
      cases is
      have runs : o.found.runtime.isSafeStopped = false := by
        cases runtime : o.found.runtime with
        | safeStopped => rw [runtime] at active; cases active
        | active => rfl
      obtain ⟨holds, stops⟩ := begin_holds begins
      have finalizing := pending_setStage holds .finalizing
      have ends := finalizerEnds_leave finalizing rfl runs stops
      dsimp only at ends
      rw [taskEnd_finalizes holds rfl] at stopped other ⊢
      rcases ends with ⟨is, task, finalizes, confirmed⟩ | keeps | keeps
      · rw [is]
        exact .stops active begins heard task finalizes confirmed
      · exact absurd keeps other
      · cases stopped.symm.trans keeps
  · intro stops
    cases stops with
    | found stopped pending other quiet =>
      refine ⟨⟨?_, stopped, other⟩, quiet⟩
      unfold StopOutcome.stopped
      cases runtime : o.found.runtime with
      | safeStopped => exact if_neg pending
      | active => rw [runtime] at stopped; cases stopped
    | stops active begins heard task finalizes confirmed =>
      refine ⟨⟨?_, rfl, nofun⟩, confirmed.quiet⟩
      unfold StopOutcome.stopped
      obtain ⟨holds, stops⟩ := begin_holds begins
      have finalizing := pending_setStage holds .finalizing
      simp only [active, begins, Option.bind_some, heard, if_true]
      rw [taskEnd_finalizes holds rfl, finalizerEnds, finalizes, if_pos rfl, task]
      exact congrArg some ((stop_leaves finalizing rfl stops).resolve_right
        fun h => h.2 confirmed).1

end StopOutcome
/-! ## The coordinator -/

inductive Slot where
  | scheduler | directory
  deriving DecidableEq

/-- A spawned loop. Its handle stays in the slot after it has returned. -/
inductive BackgroundTask where
  | running | returned

/-- One round of the loop: `select!` takes any arm that is ready, and a tick is in time. -/
inductive Round (cancelled : Bool) : BackgroundTask → BackgroundTask → Prop where
  | tick : Round cancelled .running .running
  | cancelled : cancelled = true → Round cancelled .running .returned

structure Coordinator where
  (shuttingDown schedulerCancelled : Bool)
  tasks : Slot → Option BackgroundTask
  activation : State

namespace Coordinator

def start (slot : Slot) (c : Coordinator) : Coordinator :=
  if (c.tasks slot).isSome then c
  else { c with tasks := Function.update c.tasks slot (some .running) }

def startScheduler : Coordinator → Coordinator := start .scheduler

def startDirectoryReconciler : Coordinator → Coordinator := start .directory

/-- Once both are started again, each slot holds a loop that no round ends. -/
def Restartable (c : Coordinator) : Prop :=
  let started := c.startScheduler.startDirectoryReconciler
  ∀ slot, started.tasks slot = some .running ∧
    ∀ task, Round started.schedulerCancelled .running task → task = .running

theorem start_schedulerCancelled (slot : Slot) (c : Coordinator) :
    (c.start slot).schedulerCancelled = c.schedulerCancelled := by
  unfold start
  split <;> rfl

theorem not_restartable {c : Coordinator} (cancelled : c.schedulerCancelled = true) :
    ¬c.Restartable := by
  intro restarts
  have still : c.startScheduler.startDirectoryReconciler.schedulerCancelled = true := by
    rw [startDirectoryReconciler, start_schedulerCancelled, startScheduler,
      start_schedulerCancelled, cancelled]
  cases (restarts .scheduler).2 .returned (.cancelled still)

theorem start_tasks (slot other : Slot) (c : Coordinator) : (c.start slot).tasks other =
    if other = slot then (c.tasks slot).or (some .running) else c.tasks other := by
  unfold start
  cases found : c.tasks slot with
  | none => by_cases is : other = slot <;> simp [is]
  | some task => by_cases is : other = slot <;> simp [is, found]

theorem restartable_iff (c : Coordinator) : c.Restartable ↔
    c.schedulerCancelled = false ∧ ∀ slot, c.tasks slot ≠ some .returned := by
  have started (slot : Slot) : c.startScheduler.startDirectoryReconciler.tasks slot =
      (c.tasks slot).or (some .running) := by
    cases slot <;> simp [startScheduler, startDirectoryReconciler, start_tasks]
  have token : c.startScheduler.startDirectoryReconciler.schedulerCancelled =
      c.schedulerCancelled := by
    rw [startDirectoryReconciler, start_schedulerCancelled, startScheduler,
      start_schedulerCancelled]
  constructor
  · intro restarts
    refine ⟨?_, fun slot is => ?_⟩
    · exact Bool.eq_false_iff.2 fun cancelled => not_restartable cancelled restarts
    · have running := (restarts slot).1
      rw [started, is] at running
      cases running
  · rintro ⟨live, none⟩ slot
    refine ⟨?_, fun task round => ?_⟩
    · rw [started]
      cases is : c.tasks slot with
      | none => rfl
      | some task =>
        cases task with
        | running => rfl
        | returned => exact absurd is (none slot)
    · rw [token, live] at round
      cases round with
      | tick => rfl
      | cancelled is => cases is

def take (slot : Slot) (c : Coordinator) : Coordinator :=
  { c with tasks := Function.update c.tasks slot none }

end Coordinator

/-- What the steps of a call meet. -/
structure ShutdownOutcome extends StopOutcome where
  joins : Slot → Bool
  pending : Snapshot
  (pendingEnds permitted : Bool)
  /-- The state of the machine after a stop of which nothing is heard. -/
  unheard : State
  retiredAt : Nat
  delivers : Bool

namespace Coordinator

def joinFails (c : Coordinator) (o : ShutdownOutcome) (slot : Slot) : Bool :=
  (c.tasks slot).isSome && !o.joins slot

def abort (c : Coordinator) (failure : ShutdownFailure) :
    Except ShutdownFailure Unit × Coordinator :=
  (.error failure, { c with shuttingDown := false })

def retire (c : Coordinator) (o : ShutdownOutcome) (terminal : Bool) :
    Except ShutdownFailure Unit × Coordinator :=
  match o.delivers, reduceRetire c.activation o.retiredAt terminal with
  | true, some (.committed next) =>
    (.ok (), { c with activation := next, shuttingDown := terminal })
  -- the flag stays set
  | _, _ => (.error .stateCommit, c)

def stopAndRetire (c : Coordinator) (o : ShutdownOutcome) (terminal : Bool) :
    Except ShutdownFailure Unit × Coordinator :=
  if o.pending.phase = .pending && o.pending.commandId.isSome && !o.pendingEnds then
    c.abort .stateCommit
  else if !o.permitted then c.abort .mutationBusy
  else
    let stopped := o.stopped.map (·.toSnapshot o.availability)
    let state := o.stopped.getD o.unheard
    if !stopped.any (·.safeStopped) || state.kind == .recoveryRequired then
      { c with activation := state }.abort ((shutdownFailure state).getD .stateCommit)
    else { c with activation := state }.retire o terminal

/-- Everything after the token was cancelled. -/
def finish (c : Coordinator) (o : ShutdownOutcome) (terminal : Bool) :
    Except ShutdownFailure Unit × Coordinator :=
  if c.joinFails o .scheduler then (c.take .scheduler).abort .backgroundTask
  else
    let joined := (c.take .scheduler).take .directory
    if c.joinFails o .directory then joined.abort .backgroundTask
    else joined.stopAndRetire o terminal

def shutdownInner (c : Coordinator) (o : ShutdownOutcome) (terminal : Bool) :
    Except ShutdownFailure Unit × Coordinator :=
  if c.shuttingDown then (.error .mutationBusy, c)
  else finish { c with shuttingDown := true, schedulerCancelled := true } o terminal

/-- What a call of `shutdown` or `shutdown_for_exit` promises. -/
structure Contract (c : Coordinator) (o : ShutdownOutcome) (terminal : Bool)
    (result : Except ShutdownFailure Unit) (after : Coordinator) : Prop where
  truthful : result = .ok () → (∀ availability,
    (after.activation.toSnapshot availability).phase ≠ .pending) ∧ o.Quiet
  usable : result ≠ .ok () → after.shuttingDown = true → c.shuttingDown = true
  restartable : result ≠ .ok () ∨ terminal = false → after.Restartable

/-- Every step of a call gets through. -/
structure Completes (c : Coordinator) (o : ShutdownOutcome) : Prop where
  joined : ∀ slot, c.tasks slot ≠ none → o.joins slot = true
  ended : o.pending.phase = .pending → o.pending.commandId ≠ none → o.pendingEnds = true
  permitted : o.permitted = true
  stops : ∃ t, o.Stops t ∧ o.delivers = true ∧ t.allows .shutdown = true ∧
    t.scope.revision < maxU64

variable {c : Coordinator} {o : ShutdownOutcome} {terminal : Bool}

theorem phase_of_completeShutdown {s next : State} (completed : s.completeShutdown = some next)
    (availability : Availability) : (next.toSnapshot availability).phase = .idle := by
  cases s with
  | shuttingDown _ _ terminal | shuttingDownIdle _ terminal =>
    cases completed
    cases terminal <;> rfl
  | _ => cases completed

theorem phase_of_retired {s next : State} {attemptedAt}
    (retired : reduceRetire s attemptedAt terminal = some (.committed next))
    (availability : Availability) : (next.toSnapshot availability).phase = .idle := by
  obtain ⟨_ | begun, _, completed⟩ := Option.map_eq_some_iff.1 retired
  · cases completed
  · dsimp only at completed
    split at completed
    · cases completed
    · rename_i done
      cases completed
      exact phase_of_completeShutdown done availability

theorem safeStopped_toSnapshot (s : State) (availability : Availability) :
    (s.toSnapshot availability).safeStopped = s.runtime.isSafeStopped := by
  cases s <;> rfl

theorem reduceRetire_iff {s : State} {attemptedAt} :
    (∃ next, reduceRetire s attemptedAt terminal = some (.committed next)) ↔
    s.allows .shutdown = true ∧ s.scope.revision < maxU64 := by
  unfold reduceRetire State.beginShutdown Scope.next
  by_cases allowed : s.allows .shutdown = true
  · by_cases left : s.scope.revision < maxU64
    · rw [if_pos allowed, if_pos left]
      refine iff_of_true ?_ ⟨allowed, left⟩
      cases s.runtime <;> exact ⟨_, rfl⟩
    · rw [if_pos allowed, if_neg left]
      exact iff_of_false (by simp) fun h => left h.2
  · rw [if_neg allowed]
    exact iff_of_false (by simp) fun h => allowed h.1

theorem retire_ok_iff : (c.retire o terminal).1 = .ok () ↔ o.delivers = true ∧
    c.activation.allows .shutdown = true ∧ c.activation.scope.revision < maxU64 := by
  rw [← reduceRetire_iff]
  unfold retire
  split
  · rename_i next delivers retired
    exact ⟨fun _ => ⟨delivers, next, retired⟩, fun _ => rfl⟩
  · rename_i other
    refine ⟨nofun, ?_⟩
    rintro ⟨delivers, next, retired⟩
    exact (other next delivers retired).elim

/-- The token stays as it is, and a success is what it says. -/
structure Leaves (c : Coordinator) (ended : Except ShutdownFailure Unit × Coordinator) : Prop where
  token : ended.2.schedulerCancelled = c.schedulerCancelled
  settled : ended.1 = .ok () → ∀ availability,
    (ended.2.activation.toSnapshot availability).phase ≠ .pending

theorem retire_leaves : Leaves c (c.retire o terminal) := by
  unfold retire
  split
  · rename_i next _ retired
    refine ⟨rfl, fun _ availability => ?_⟩
    rw [phase_of_retired retired]
    exact nofun
  · exact ⟨rfl, nofun⟩

theorem finish_leaves : Leaves c (c.finish o terminal) := by
  unfold finish
  split
  · exact ⟨rfl, nofun⟩
  · split
    · exact ⟨rfl, nofun⟩
    · unfold stopAndRetire
      split
      · exact ⟨rfl, nofun⟩
      · split
        · exact ⟨rfl, nofun⟩
        · dsimp only
          split
          · exact ⟨rfl, nofun⟩
          · exact ⟨retire_leaves.token, retire_leaves.settled⟩

theorem stopAndRetire_ok_iff : (c.stopAndRetire o terminal).1 = .ok () ∧ o.Quiet ↔
    (o.pending.phase = .pending → o.pending.commandId ≠ none → o.pendingEnds = true) ∧
    o.permitted = true ∧ ∃ t, o.Stops t ∧ o.delivers = true ∧ t.allows .shutdown = true ∧
    t.scope.revision < maxU64 := by
  simp only [← StopOutcome.stopped_iff]
  unfold stopAndRetire
  split
  · rename_i unended
    simp only [Bool.and_eq_true, decide_eq_true_eq, Bool.not_eq_true', Option.isSome_iff_ne_none]
      at unended
    refine iff_of_false nofun fun h => ?_
    cases (h.1 unended.1.1 unended.1.2).symm.trans unended.2
  · rename_i ended
    have ended : o.pending.phase = .pending → o.pending.commandId ≠ none →
        o.pendingEnds = true := by
      simpa [Option.isSome_iff_ne_none] using ended
    cases permitted : o.permitted with
    | false => exact iff_of_false nofun nofun
    | true =>
      cases stopped : o.stopped with
      | none => exact iff_of_false nofun (by simp)
      | some t =>
        have passes : (!((some t).map (·.toSnapshot o.availability)).any (·.safeStopped) ||
            t.kind == .recoveryRequired) = true ↔
            ¬(t.runtime.isSafeStopped = true ∧ t.kind ≠ .recoveryRequired) := by
          simp [safeStopped_toSnapshot, imp_iff_not_or]
        simp only [Bool.not_true, Bool.false_eq_true, if_false, Option.getD_some, passes, ite_not,
          true_and, Option.some.injEq]
        split
        · rename_i settled
          rw [retire_ok_iff]
          constructor
          · rintro ⟨retires, quiet⟩
            exact ⟨ended, t, ⟨⟨rfl, settled⟩, quiet⟩, retires⟩
          · rintro ⟨_, _, ⟨⟨rfl, _⟩, quiet⟩, retires⟩
            exact ⟨retires, quiet⟩
        · rename_i unsettled
          refine iff_of_false nofun ?_
          rintro ⟨_, _, ⟨⟨rfl, settled⟩, _⟩, _⟩
          exact unsettled settled

theorem finish_ok_iff : (c.finish o terminal).1 = .ok () ∧ o.Quiet ↔ c.Completes o := by
  have joined_iff : c.joinFails o .scheduler = false ∧ c.joinFails o .directory = false ↔
      ∀ slot, c.tasks slot ≠ none → o.joins slot = true := by
    refine ⟨fun h slot => ?_, fun h => ⟨?_, ?_⟩⟩
    · cases slot
      · simpa [joinFails, Option.isSome_iff_ne_none] using h.1
      · simpa [joinFails, Option.isSome_iff_ne_none] using h.2
    · simpa [joinFails, Option.isSome_iff_ne_none] using h .scheduler
    · simpa [joinFails, Option.isSome_iff_ne_none] using h .directory
  unfold finish
  cases scheduler : c.joinFails o .scheduler with
  | true =>
    refine iff_of_false nofun fun completes => ?_
    cases scheduler.symm.trans (joined_iff.2 completes.joined).1
  | false =>
    cases directory : c.joinFails o .directory with
    | true =>
      refine iff_of_false nofun fun completes => ?_
      cases directory.symm.trans (joined_iff.2 completes.joined).2
    | false =>
      rw [if_neg nofun, if_neg nofun, stopAndRetire_ok_iff]
      constructor
      · rintro ⟨ended, permitted, stops⟩
        exact ⟨joined_iff.1 ⟨scheduler, directory⟩, ended, permitted, stops⟩
      · exact fun completes => ⟨completes.ended, completes.permitted, completes.stops⟩

end Coordinator

/-- A call keeps its contract just when it is refused because of another one and the tasks can be
restarted, or it is for exit and every step of it gets through. -/
theorem shutdown_contract_iff (c : Coordinator) (o : ShutdownOutcome) (terminal : Bool) :
    c.Contract o terminal (c.shutdownInner o terminal).1 (c.shutdownInner o terminal).2 ↔
      (c.shuttingDown = true ∧ c.schedulerCancelled = false ∧
        ∀ slot, c.tasks slot ≠ some .returned) ∨
      (c.shuttingDown = false ∧ terminal = true ∧ c.Completes o) := by
  rw [← c.restartable_iff]
  unfold Coordinator.shutdownInner
  cases busy : c.shuttingDown with
  | true =>
    rw [if_pos rfl]
    constructor
    · exact fun contract => .inl ⟨rfl, contract.restartable (.inl nofun)⟩
    · rintro (⟨_, restarts⟩ | ⟨⟨⟩, _⟩)
      exact ⟨nofun, fun _ _ => busy, fun _ => restarts⟩
  | false =>
    rw [if_neg nofun]
    have ended : Coordinator.Leaves _ (Coordinator.finish
      { c with shuttingDown := true, schedulerCancelled := true } o terminal) :=
      Coordinator.finish_leaves
    have completes : (Coordinator.finish { c with
        shuttingDown := true, schedulerCancelled := true } o terminal).1 = .ok () ∧ o.Quiet ↔
        Coordinator.Completes { c with shuttingDown := true, schedulerCancelled := true } o :=
      Coordinator.finish_ok_iff
    constructor
    · intro contract
      have restarts := fun h => Coordinator.not_restartable ended.token (contract.restartable h)
      obtain ⟨succeeded, final⟩ := not_or.1 restarts
      have succeeded := not_not.1 succeeded
      have kept := completes.1 ⟨succeeded, (contract.truthful succeeded).2⟩
      exact .inr ⟨rfl, Bool.of_not_eq_false final, kept.1, kept.2, kept.3, kept.4⟩
    · rintro (⟨⟨⟩, _⟩ | ⟨_, rfl, kept⟩)
      obtain ⟨succeeded, quiet⟩ := completes.2 ⟨kept.1, kept.2, kept.3, kept.4⟩
      refine ⟨fun _ => ⟨ended.settled succeeded, quiet⟩, fun failed => absurd succeeded failed, ?_⟩
      rintro (failed | ⟨⟨⟩⟩)
      exact absurd succeeded failed

/-- Nothing was ever activated, and both tasks run. -/
def Coordinator.fresh : Coordinator :=
  ⟨false, false, fun _ => some .running, .idle ⟨"authority", 0, 0⟩⟩

/-- Every step gets through. -/
def ShutdownOutcome.smooth : ShutdownOutcome where
  availability := .available
  found := .idle ⟨"authority", 0, 0⟩
  commandId := "stop"
  attemptedAt := 0
  host := ⟨0⟩
  safeRuntime := ⟨0⟩
  before := quietStatus
  admits := true
  heard := true
  finalizes := true
  recovers := true
  task := some (.ok ())
  manager := { firstManager with managed := ⟨none, none, none, none⟩, active := none }
  joins := fun _ => true
  pending := State.toSnapshot (.idle ⟨"authority", 0, 0⟩) .available
  pendingEnds := true
  permitted := true
  unheard := .idle ⟨"authority", 0, 0⟩
  retiredAt := 0
  delivers := true

/-- A shutdown that succeeds leaves tasks that cannot be started again. -/
theorem shutdown_not_restartable : (Coordinator.fresh.shutdownInner .smooth false).1 = .ok () ∧
    ¬(Coordinator.fresh.shutdownInner .smooth false).2.Restartable :=
  ⟨rfl, Coordinator.not_restartable rfl⟩

end Mish.ProfileActivation
