import Mish.ProfileActivation.Finalizer
import Mish.StateMachine.Turn

/-!
# Activations end

While a command is at work exactly one effect of it is in flight (`attended_run`). However the task
of that effect ends, the machine goes on, unless the manager fails to hand over the capture that an
activation brought and is back at another runtime.
-/

namespace Mish.ProfileActivation
open StateMachine Interaction
open Capture (CaptureFailureKind)

/-! ## The effect of a busy state -/

def Work.operation : Work → Operation
  | .activate _ => .activate
  | .stop => .stop

/-- What the coordinator sends to the machine. -/
def callers (_ : Runner machine) : Input → Prop
  | .begin _ _ operation _ _ _ _ work => work.operation = operation
  | .reject .. | .compensate .. | .retire .. | .cancel _ => True
  | .compensationFinished .. | .taskFinished .. | .finalized .. | .taskFailed _ | .shutdown => False

/-- The tasks, as long as their answers do not stray. -/
abbrev executesStraight : MishRuntime → Executor machine :=
  executesWhere fun effect answered => ¬Strays effect answered

/-- The command that is at work and the effect it waits for. -/
def State.awaited : State → Option (Command × Nat)
  | .pending held | .retrying held _ => some (held.command, held.stage.effectId)
  | .compensating command _ => some (command, compensationEffectId)
  | _ => none

/-- The effect is the one that the state waits for. -/
inductive Serves : State → Effect → Prop where
  | works {s : State} {held : Pending} {resources} {work : Work} :
      s.pending? = some held → held.stage = .effect → work.operation = held.command.operation →
      Serves s (work.effect held.command resources)
  | finalizes {s held outcome} : s.pending? = some held →
      held.stage ≠ .effect → outcome.of held.command →
      Serves s (.finalize held.command (held.command.correlation held.stage.effectId) outcome)
  | compensates {command runtime resources} : command.operation = .activate →
      Serves (.compensating command runtime)
        (.compensate (command.correlation compensationEffectId) resources)

/-- A busy state has the one effect it waits for, and no other state has any. -/
def Attended (s : State) (effects : List Effect) : Prop :=
  (s.isBusy = true → ∃ effect, effects = [effect] ∧ Serves s effect) ∧
    (s.isBusy = false → effects = [])

variable {s : State} {effect : Effect} {held : Pending} {command : Command}
  {finalization : Finalization} {outcome : TaskOutcome} {reaction : Reaction}

theorem attended_idle (idle : s.isBusy = false) : Attended s [] :=
  ⟨fun busy => absurd busy (Bool.eq_false_iff.1 idle), fun _ => rfl⟩

theorem attended_busy (busy : s.isBusy = true) (serves : Serves s effect) : Attended s [effect] :=
  ⟨fun _ => ⟨effect, rfl, serves⟩, fun idle => absurd busy (Bool.eq_false_iff.1 idle)⟩

theorem busy_of_pending (holds : s.pending? = some held) : s.isBusy = true := by
  cases s with
  | pending | retrying => rfl
  | _ => cases holds

theorem awaited_of_pending (holds : s.pending? = some held) :
    s.awaited = some (held.command, held.stage.effectId) := by
  cases s with
  | pending | retrying => cases holds; rfl
  | _ => cases holds

theorem awaited_of_idle (idle : s.isBusy = false) : s.awaited = none := by
  cases s with
  | pending | retrying | compensating => cases idle
  | _ => rfl

theorem Concludes.idle {t} (concludes : Concludes command finalization t) : t.isBusy = false := by
  cases concludes <;> rfl

@[simp] theorem sameOperation_correlation (command : Command) (effectId effectId' : Nat) :
    (command.correlation effectId).sameOperation (command.correlation effectId') = true := by
  simp [Correlation.sameOperation, Command.correlation]

theorem Work.effect_correlation (command : Command) (resources : OperationResources) (work : Work) :
    (work.effect command resources).correlation = command.correlation activationEffectId := by
  cases work <;> rfl

theorem effectIsCurrent_pending (holds : s.pending? = some held) :
    effectIsCurrent s (held.command.correlation held.stage.effectId) = true := by
  cases s with
  | pending | retrying =>
    cases holds
    simp only [effectIsCurrent, sameOperation_correlation, Bool.and_true]
    exact beq_self_eq_true _
  | _ => cases holds

theorem Serves.current (serves : Serves s effect) :
    effectIsCurrent s effect.correlation = true := by
  cases serves with
  | works holds stage =>
    have current := effectIsCurrent_pending holds
    rw [stage] at current
    rw [Work.effect_correlation]
    exact current
  | finalizes holds => exact effectIsCurrent_pending holds
  | compensates =>
    simp only [effectIsCurrent, Effect.correlation, sameOperation_correlation, Bool.and_true]
    exact beq_self_eq_true _

/-! ## What settles the effect -/

/-- What the machine does with the end of the task it waits for. -/
structure GoesOn (s : State) (reaction : Reaction) : Prop where
  taken : reaction.disposition ≠ .retired
  attended : Attended (reaction.next s) (machine.spawned reaction)
  moves : (reaction.next s).awaited ≠ s.awaited

theorem matchingPending_of_pending (holds : s.pending? = some held)
    (effectId : Nat) : matchingPending s (held.command.correlation effectId) = some held := by
  simp [matchingPending, holds, Command.correlation, Correlation.sameOperation]

/-- A further stage of the command, with its finalizer. -/
theorem goesOn_stage (holds : s.pending? = some held) (stage : Stage)
    (later : stage ≠ .effect) (other : stage.effectId ≠ held.stage.effectId)
    (of : outcome.of held.command) : GoesOn s (.effectEmitting (s.setStage stage)
    (.one (.finalize held.command (held.command.correlation stage.effectId) outcome))) := by
  have now := pending_setStage holds stage
  refine ⟨nofun, attended_busy (busy_of_pending now) (.finalizes now later of), ?_⟩
  change (s.setStage stage).awaited ≠ s.awaited
  rw [awaited_of_pending now, awaited_of_pending holds]
  intro same
  exact other (Prod.mk.inj (Option.some.inj same)).2

theorem spawned_of_none (none : reaction.effects = []) : machine.spawned reaction = [] := by
  change reaction.effects.filter _ = []
  rw [none]
  rfl

theorem goesOn_over (busy : s.awaited ≠ none)
    (taken : reaction.disposition ≠ .retired) (effects : reaction.effects = [])
    (idle : (reaction.next s).isBusy = false) : GoesOn s reaction := by
  refine ⟨taken, ?_, ?_⟩
  · rw [spawned_of_none effects]
    exact attended_idle idle
  · rw [awaited_of_idle idle]
    exact busy.symm

section
variable (holds : s.pending? = some held)
include holds

theorem taskFinished_goesOn
    (stage : held.stage = .effect) {outcome} (of : outcome.of held.command) :
    GoesOn s (reduceTaskFinished s (held.command.correlation activationEffectId) outcome) := by
  unfold reduceTaskFinished
  rw [matchingPending_of_pending holds]
  dsimp only
  rw [if_neg (by simp [stage, Command.correlation])]
  exact goesOn_stage holds .finalizing (by simp) (by rw [stage]; decide) of

theorem pending_awaits : s.awaited ≠ none := by
  rw [awaited_of_pending holds]
  exact nofun

theorem finalized_applies (later : held.stage ≠ .effect) (finalization : Finalization) :
    reduceFinalized s (held.command.correlation held.stage.effectId) finalization =
    applyFinalization s held.command finalization := by
  unfold reduceFinalized
  rw [matchingPending_of_pending holds]
  dsimp only
  cases stage : held.stage with
  | effect => exact absurd stage later
  | finalizing | recovering => rfl

theorem finalized_goesOn (later : held.stage ≠ .effect) {finalization}
    (fits : finalization.fits held.command = true) :
    GoesOn s (reduceFinalized s (held.command.correlation held.stage.effectId) finalization) := by
  rw [finalized_applies holds later]
  obtain ⟨t, concludes, next, effects, taken⟩ := applyFinalization_fits holds fits
  exact goesOn_over (pending_awaits holds) taken effects (next ▸ concludes.idle)

theorem pendingTaskFailed_goesOn :
    GoesOn s (pendingTaskFailed s (held.command.correlation held.stage.effectId) held) := by
  unfold pendingTaskFailed
  cases stage : held.stage with
  | effect =>
    exact goesOn_stage holds .finalizing nofun (by rw [stage]; decide) trivial
  | finalizing =>
    exact goesOn_stage holds .recovering nofun (by rw [stage]; decide) trivial
  | recovering =>
    rw [if_neg (by simp), if_neg (by simp), if_pos ⟨rfl, rfl⟩,
      completeRecoveryRequired_pending holds]
    exact goesOn_over (pending_awaits holds) nofun rfl rfl

theorem taskFailed_pending (effectId : Nat) :
    reduceTaskFailed s (held.command.correlation effectId) =
    pendingTaskFailed s (held.command.correlation effectId) held := by
  have found := matchingPending_of_pending holds effectId
  cases s with
  | pending | retrying =>
    unfold reduceTaskFailed
    rw [found]
  | _ => cases holds

end

theorem compensating_awaits {runtime} : (State.compensating command runtime).awaited ≠ none := nofun

theorem compensationFinished_goesOn {runtime}
    (activates : command.operation = .activate) (finalization : Compensation) :
    GoesOn (.compensating command runtime) (reduceCompensationFinished (.compensating command runtime)
    (command.correlation compensationEffectId) finalization) := by
  unfold reduceCompensationFinished
  dsimp only
  rw [if_neg (by simp [Command.correlation, Correlation.sameOperation])]
  cases finalization with
  | restoredSafe =>
    rw [completeRollback_compensating activates]
    exact goesOn_over compensating_awaits (by rintro ⟨⟩) rfl rfl
  | recoveryRequired => exact goesOn_over compensating_awaits (by rintro ⟨⟩) rfl rfl

theorem taskFailed_compensating {runtime} :
    GoesOn (.compensating command runtime) (reduceTaskFailed (.compensating command runtime)
    (command.correlation compensationEffectId)) := by
  unfold reduceTaskFailed
  dsimp only
  rw [if_pos ⟨rfl, sameOperation_correlation _ _ _⟩]
  exact goesOn_over compensating_awaits nofun rfl rfl

/-- A task that fails is not the end of the command. -/
theorem Serves.fails (serves : Serves s effect) :
    GoesOn s (reduceTaskFailed s effect.correlation) := by
  cases serves with
  | works holds stage =>
    have goes := pendingTaskFailed_goesOn holds
    rw [stage, ← taskFailed_pending holds] at goes
    rw [Work.effect_correlation]
    exact goes
  | finalizes holds =>
    have goes := pendingTaskFailed_goesOn holds
    rw [← taskFailed_pending holds] at goes
    exact goes
  | compensates => exact taskFailed_compensating

variable {input : Input}

/-- What the task returns takes the machine on. -/
theorem Serves.returns (serves : Serves s effect)
    (returned : Returned effect input) : ∃ reaction, reduce s input = some reaction ∧ GoesOn s reaction := by
  cases serves with
  | @works _ held resources work holds stage does =>
    cases work with
    | activate =>
      cases returned with
      | activate result => exact ⟨_, rfl, taskFinished_goesOn holds stage does.symm⟩
    | stop =>
      cases returned with
      | stop result => exact ⟨_, rfl, taskFinished_goesOn holds stage does.symm⟩
  | finalizes holds later of =>
    cases returned with
    | finalize fits => exact ⟨_, rfl, finalized_goesOn holds later (fits of)⟩
  | compensates activates =>
    cases returned with
    | compensate finalization => exact ⟨_, rfl, compensationFinished_goesOn activates finalization⟩

/-! ## Runs -/

section
variable {safeRuntime : MishRuntime}

theorem Serves.settles (serves : Serves s effect)
    (settles : Settles (executesStraight safeRuntime) s effect input) :
    ∃ reaction, reduce s input = some reaction ∧ GoesOn s reaction := by
  rcases settles with ⟨_, returns, _⟩ | ⟨_, rfl⟩
  · exact serves.returns (returned_of_executes returns)
  · exact ⟨_, rfl, serves.fails⟩

theorem Begun.attended {s t} (begun : Begun s command t) {resources} {work : Work}
    (does : work.operation = command.operation) : Attended t [work.effect command resources] := by
  have serves : Serves t (work.effect command resources) := .works begun.held rfl does
  exact attended_busy (busy_of_pending begun.held) serves

/-- What the callers send leaves the state attended. -/
theorem Moves.attended {s t effects inFlight} {r : Runner machine}
    (moves : Moves s input t effects) (sends : callers r input) (now : Attended s inFlight) :
    Attended t (inFlight ++ effects.filter (Effect.mode · = .spawn)) := by
  cases moves with
  | @begins _ _ command resources work begun =>
    rw [now.2 begun.idle]
    cases work <;> exact begun.attended sends
  | rejects begun =>
    rw [now.2 begun.idle]
    exact attended_idle rfl
  | cancels =>
    have none : ∀ c : Correlation, [Effect.cancel c].filter (Effect.mode · = .spawn) = [] :=
      fun _ => rfl
    rw [none, List.append_nil]
    exact now
  | compensates activates =>
    rw [now.2 rfl]
    exact attended_busy rfl (.compensates activates)
  | @retires _ _ _ terminal idle =>
    rw [now.2 idle]
    cases terminal <;> exact attended_idle rfl
  | _ => cases sends

theorem reduceShutdown_attended {inFlight : List machine.Effect} (now : Attended s inFlight) :
    Attended ((reduceShutdown s).next s) (inFlight ++ machine.spawned (reduceShutdown s)) := by
  have same : (reduceShutdown s).next s = s ∧ machine.spawned (reduceShutdown s) = [] := by
    unfold reduceShutdown
    cases s.pending? <;> exact ⟨rfl, rfl⟩
  rw [same.1, same.2, List.append_nil]
  exact now

theorem attended_upheld (scope : Scope) :
    Upheld (executesStraight safeRuntime) callers (.idle scope) Attended where
  initially := attended_idle rfl
  reorder := by
    intro s effects effects' perm now
    refine ⟨fun busy => ?_, fun idle => ?_⟩
    · obtain ⟨effect, rfl, serves⟩ := now.1 busy
      exact ⟨effect, List.perm_singleton.1 perm.symm, serves⟩
    · rw [now.2 idle] at perm
      exact List.perm_nil.1 perm.symm
  admitted := by
    intro r input reaction sends now reduces
    rcases reduce_reacts reduces with moves | ⟨same, none⟩
    · exact moves.attended sends now
    · rw [spawned_of_none none, List.append_nil]
      exact same.symm ▸ now
  settled := by
    intro s effect rest input reaction now settles reduces
    have busy : State.isBusy s = true := by
      by_contra idle
      cases now.2 (Bool.eq_false_iff.2 idle)
    obtain ⟨_, is, serves⟩ := now.1 busy
    cases is
    obtain ⟨reaction', reduces', goes⟩ := serves.settles settles
    cases reduces'.symm.trans reduces
    exact goes.attended
  shutdown := by
    intro s effects reaction now reduces
    cases reduces
    exact reduceShutdown_attended now

/-- In every run in which the answers to the tasks do not stray, a busy state owns exactly one
effect. However the task of that effect ends, it is not retired and moves the machine on. -/
theorem activation_always_ends {scope : Scope} {r : Runner machine}
    (run : Run (executesStraight safeRuntime) callers (.start (.idle scope)) r)
    (live : r.phase.live = true) (busy : State.isBusy r.state = true) :
    ∃ task owned, r.tasks = [task] ∧ r.owned = [owned] ∧ owned.task = task.id ∧
      effectIsCurrent r.state owned.correlation = true ∧
      ∀ joined force, (executesStraight safeRuntime).Ends task joined →
        (∃ disposition, (r.finishEffect task.id joined force).2 = some disposition ∧
          disposition ≠ .retired) ∧
        State.awaited (r.finishEffect task.id joined force).1.state ≠ State.awaited r.state := by
  have kept := (conserved_start (M := machine) (.idle scope)).run run
  obtain ⟨effect, flies, serves⟩ := ((attended_upheld scope).run run live).1 busy
  obtain ⟨task, tasks, rfl⟩ := List.map_eq_singleton_iff.1 flies
  have member : task ∈ r.tasks := tasks ▸ List.mem_singleton_self task
  have aligned := kept.aligned
  rw [tasks] at aligned
  obtain ⟨owned, owns, same⟩ := List.map_eq_singleton_iff.1 aligned.symm
  obtain ⟨named, correlation⟩ := Prod.mk.inj same
  refine ⟨task, owned, tasks, owns, named, correlation ▸ serves.current, fun joined force ends => ?_⟩
  obtain ⟨input, settles, moved⟩ := finishEffect_moved kept member ends force
  obtain ⟨reaction, reduces, goes⟩ := serves.settles settles
  obtain ⟨moved, returns⟩ := moved reaction reduces
  exact ⟨⟨_, returns, goes.taken⟩, moved.state ▸ goes.moves⟩

end

/-! ## An activation that never ends -/

/-- What the manager and its runtimes answer. -/
structure Manager where
  activation : Except MihomoActivationError ActivationCommit
  managed : ManagedActivationState
  active : Option MishRuntime
  status : CaptureStatus

def Manager.respond (m : Manager) (before : Operations) : (r : Request) → Reply r × Operations
  | .activateCancellable .. => (m.activation, before)
  | .shutdown _ => (.ok (), before)
  | .managedState => (m.managed, before)
  | .activeRuntime => (m.active, before)
  | .insertOperation commandId resources =>
    ((), Function.update before commandId (some resources))
  | .getOperation commandId => (before commandId, before)
  | .removeOperation commandId => (before commandId, Function.update before commandId none)
  | .statusSnapshot .. => (m.status, before)
  | .activeProfileIdentity _ => (m.managed.activeProfileId, before)
  | .completeRuntimeHandoff | .replaceHost _ | .resolveGeodataNotifications _
  | .recordCaptureFailure .. | .recordApplicationEvent _ | .publishFailureNotification .. =>
    ((), before)

/-- The answers are written down. -/
def Manager.record (m : Manager) (before : Operations × Answered) (r : Request) :
    Reply r × Operations × Answered :=
  ((m.respond before.1 r).1, (m.respond before.1 r).2, ⟨r, (m.respond before.1 r).1⟩ :: before.2)

theorem Manager.record_recorded (m : Manager) (before : Operations × Answered) (r : Request) :
    recorded before r (m.record before r).1 (m.record before r).2 := by
  refine ⟨?_, rfl⟩
  cases r with
  | getOperation | removeOperation => exact ⟨rfl, rfl⟩
  | _ => rfl

/-- What the task of the effect returns with these answers, given the operation it belongs to. -/
def Manager.result (m : Manager) (safeRuntime : MishRuntime) (effect : Effect) (commandId : String)
    (resources : OperationResources) : Input :=
  ((execute safeRuntime effect).run m.record
    (Function.update (fun _ => none) commandId (some resources), [])).1

/-- Nothing is captured. -/
def quietStatus : CaptureStatus where
  captureOperation := .idle "runtime"
  captureSelection := ⟨false, false⟩
  systemProxyEnabled := false
  tunEnabled := false
  systemProxyPhase := .off
  tunPhase := .off

def quietContract : CaptureContract := ⟨false, .rpc, none, ⟨false, false⟩⟩

def firstRuntime : Runtime := .active "fingerprint-a" "profile-a" (some "1") (some "runtime-a")

/-- The first profile is active. -/
def firstManager : Manager where
  activation := .ok ⟨"fingerprint-a", "profile-a", "1", "runtime-a"⟩
  managed := ⟨some "fingerprint-a", some "profile-a", some "1", some "runtime-a"⟩
  active := some ⟨1⟩
  status := quietStatus

/-- The capture of the second profile fails, and the manager restores the first one. -/
def secondManager : Manager :=
  { firstManager with activation := .error (.captureFailed .runtimeTransition) }

def firstResources : OperationResources :=
  ⟨none, false, quietContract, ⟨0⟩, .safeStopped, false⟩

/-- The second activation brings its own capture. -/
def secondResources : OperationResources :=
  ⟨some ⟨true, .native, none, ⟨true, false⟩⟩, true, quietContract, ⟨1⟩, firstRuntime, false⟩

def beginFirst : Input :=
  .begin 1 "first" .activate firstResources (some "fingerprint-a") "profile-a" (some "1")
    (.activate none)

def beginSecond : Input :=
  .begin 2 "second" .activate secondResources (some "fingerprint-b") "profile-b" (some "1")
    (.activate (some (⟨true, ⟨true, false⟩⟩, .native)))

def firstCommand : Command :=
  ⟨1, "first", .activate, ⟨"authority", 1, 1⟩, some "fingerprint-a", "profile-a", some "1"⟩

def secondCommand : Command :=
  ⟨2, "second", .activate, ⟨"authority", 1, 2⟩, some "fingerprint-b", "profile-b", some "1"⟩

theorem run_result {initial : State} {r} {admits : Effect → Answered → Prop} (m : Manager)
    (effect : Effect) (admitted : ∀ answered, admits effect answered) {id} (commandId : String)
    (resources : OperationResources) (run : Run (executesWhere admits ⟨0⟩) callers (.start initial) r)
    (running : r.phase = .running) (owns : r.owned.isEmpty = false)
    (tasks : r.tasks = [⟨id, effect, false⟩]) : Run (executesWhere admits ⟨0⟩) callers
    (.start initial) (r.join id (.completed (m.result ⟨0⟩ effect commandId resources))) := by
  have owned : r.owned ≠ [] := by
    intro none
    rw [none] at owns
    cases owns
  have member : (⟨id, effect, false⟩) ∈ r.tasks := by
    rw [tasks]
    exact List.mem_singleton_self _
  have returns : executesWhere admits ⟨0⟩ effect false (m.result ⟨0⟩ effect commandId resources) :=
    ⟨_, _, _, exec_run m.record_recorded _ _, admitted _⟩
  exact run.tail (.join _ _ running owned member returns)

def authority : Scope := ⟨"authority", 1, 0⟩

/-- The first activation has begun. -/
def firstBegun : Runner machine :=
  (Runner.start (M := machine) (.idle authority)).admitInput beginFirst

def firstWork : Effect :=
  .activate firstCommand (firstCommand.correlation activationEffectId) none firstResources

def firstFinalizer : Effect :=
  .finalize firstCommand (firstCommand.correlation finalizerEffectId)
    (.activate firstManager.activation)

/-- The first activation has succeeded, and the second one has begun. -/
def secondBegun : Runner machine :=
  ((firstBegun.join 0 (.completed (firstManager.result ⟨0⟩ firstWork "first" firstResources))).join 1
    (.completed (firstManager.result ⟨0⟩ firstFinalizer "first" firstResources))).admitInput beginSecond

def secondWork : Effect :=
  .activate secondCommand (secondCommand.correlation activationEffectId)
    (some (⟨true, ⟨true, false⟩⟩, .native)) secondResources

def secondFinalizer : Effect :=
  .finalize secondCommand (secondCommand.correlation finalizerEffectId)
    (.activate secondManager.activation)

/-- The finalizer of the second activation has reported. -/
def stranded : Runner machine :=
  (secondBegun.join 2 (.completed (secondManager.result ⟨0⟩ secondWork "second" secondResources))).join
    3 (.completed (secondManager.result ⟨0⟩ secondFinalizer "second" secondResources))

theorem run_secondBegun {admits : Effect → Answered → Prop}
    (works : ∀ answered, admits firstWork answered)
    (finalizes : ∀ answered, admits firstFinalizer answered) :
    Run (executesWhere admits ⟨0⟩) callers (.start (.idle authority)) secondBegun := by
  have begun : Run (executesWhere admits ⟨0⟩) callers (.start (.idle authority)) firstBegun :=
    .single (.admitInput _ rfl rfl)
  have worked := run_result firstManager firstWork works "first" firstResources begun rfl rfl rfl
  have succeeded :=
    run_result firstManager firstFinalizer finalizes "first" firstResources worked rfl rfl rfl
  exact succeeded.tail (.admitInput _ rfl rfl)

/-- One activation has succeeded, and another one has begun. -/
theorem activation_always_ends_second :
    State.isBusy secondBegun.state = true ∧ ∃ task owned, secondBegun.tasks = [task] ∧
      secondBegun.owned = [owned] ∧ owned.task = task.id ∧
      effectIsCurrent secondBegun.state owned.correlation = true ∧
      ∀ joined force, (executesStraight ⟨0⟩).Ends task joined →
        (∃ disposition, (secondBegun.finishEffect task.id joined force).2 = some disposition ∧
          disposition ≠ .retired) ∧
        State.awaited (secondBegun.finishEffect task.id joined force).1.state ≠
          State.awaited secondBegun.state :=
  ⟨rfl, activation_always_ends (run_secondBegun (fun _ => nofun) fun _ => nofun) rfl rfl⟩

theorem run_stranded : Run (executes ⟨0⟩) callers (.start (.idle authority)) stranded := by
  have begun : Run (executes ⟨0⟩) callers (.start (.idle authority)) secondBegun :=
    run_secondBegun (fun _ => trivial) fun _ => trivial
  have failed := run_result secondManager secondWork (fun _ => trivial) "second" secondResources
    begun rfl rfl rfl
  exact run_result secondManager secondFinalizer (fun _ => trivial) "second" secondResources
    failed rfl rfl rfl

/-- The capture of an activation fails, and the profile that was active before is restored. The
finalizer reports the failed capture with that profile, which is retired. The command stays
pending, and nothing is in flight. -/
theorem activation_never_ends : Run (executes ⟨0⟩) callers (.start (.idle authority)) stranded ∧
      stranded.phase = .running ∧
      stranded.state = State.pending ⟨secondCommand, none, firstRuntime, .finalizing⟩ ∧
      stranded.tasks = [] ∧ stranded.owned = [] ∧
      secondManager.result ⟨0⟩ secondFinalizer "second" secondResources =
        .finalized (secondCommand.correlation finalizerEffectId)
          (.captureFailure .runtimeTransition firstRuntime) ∧
      stranded.reductions.head?.map (·.transition) = some (some .retired) :=
  ⟨run_stranded, rfl, rfl, rfl, rfl, rfl, rfl⟩

end Mish.ProfileActivation
