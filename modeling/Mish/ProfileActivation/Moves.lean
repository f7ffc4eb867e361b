import Mish.ProfileActivation.Machine

/-!
# What the activation machine does

`Moves` lists the steps that are applied, and `reduce_reacts` says that there are no others.
-/

namespace Mish.ProfileActivation
open StateMachine State
open Capture (CaptureFailureKind)

/-- The states in which an effect of the machine is at work. -/
def State.isBusy : State → Bool
  | .pending _ | .retrying .. | .compensating .. => true
  | _ => false

/-- The command has begun in `s`, which leaves `t`. -/
structure Begun (s : State) (command : Command) (t : State) : Prop where
  idle : s.isBusy = false
  held : t.pending? = some ⟨command, none, s.runtime, .effect⟩
  scope : s.scope.next = some command.scope

def Work.effect (command : Command) (resources : OperationResources) : Work → Effect
  | .activate finalCapture =>
    .activate command (command.correlation activationEffectId) finalCapture resources
  | .stop => .stop command (command.correlation activationEffectId) resources

/-- The finalization of the command leaves the state. -/
inductive Concludes (command : Command) : Finalization → State → Prop where
  | succeeded {runtime} : successMatchesCommand command runtime = true →
      Concludes command (.completed (.succeeded runtime)) (.succeeded none command runtime)
  | failed {evidence runtime} :
      Concludes command (.completed (.failed evidence runtime)) (.failed command evidence runtime)
  | cancelled {runtime} :
      Concludes command (.completed (.cancelled runtime)) (.cancelled command runtime)
  | captureFailed {kind runtime} : successMatchesCommand command runtime = true →
      Concludes command (.captureFailure kind runtime) (.succeeded (some kind) command runtime)
  | recoveryRequired {evidence runtime} : Concludes command (.recoveryRequired evidence runtime)
        (.recoveryRequired command evidence runtime)

/-- `Moves s input t effects`: in the state `s` the input is applied, which leaves `t` and emits
`effects`. -/
inductive Moves : State → Input → State → List Effect → Prop where
  | begins {s t command resources work} : Begun s command t →
      Moves s (.begin command.attemptedAt command.commandId command.operation resources
        command.targetFingerprint command.targetProfileId command.targetRevision work) t
        [work.effect command resources]
  | rejects {s t command evidence} : Begun s command t → command.operation = .activate →
      Moves s (.reject command.attemptedAt command.commandId evidence command.targetFingerprint
        command.targetProfileId command.targetRevision) (.failed command evidence s.runtime) []
  | cancels {s held} : s.pending? = some held → held.stage = .effect →
      Moves s (.cancel held.command.commandId) s
        [.cancel (held.command.correlation activationEffectId)]
  | compensates {kind command runtime resources} : command.operation = .activate →
      Moves (.succeeded kind command runtime) (.compensate command.commandId resources)
        (.compensating command runtime)
        [.compensate (command.correlation compensationEffectId) resources]
  | compensated {command runtime} : command.operation = .activate →
      Moves (.compensating command runtime)
        (.compensationFinished (command.correlation compensationEffectId) .restoredSafe)
        (.rollbackSucceeded command) []
  | uncompensated {command runtime observed evidence} : Moves (.compensating command runtime)
        (.compensationFinished (command.correlation compensationEffectId)
          (.recoveryRequired evidence observed))
        (.recoveryRequired command evidence observed) []
  | compensationFails {command runtime} :
      Moves (.compensating command runtime) (.taskFailed (command.correlation compensationEffectId))
        (.recoveryRequired command .stateCommit runtime) []
  | retires {s scope attemptedAt terminal} : s.isBusy = false → s.scope.next = some scope →
      Moves s (.retire attemptedAt terminal) (if terminal then .shutdown scope else .idle scope) []
  | finishes {s held outcome} : s.pending? = some held →
      held.stage = .effect →
      Moves s (.taskFinished (held.command.correlation activationEffectId) outcome)
        (s.setStage .finalizing)
        [.finalize held.command (held.command.correlation finalizerEffectId) outcome]
  | concludes {s t held finalization} :
      s.pending? = some held → held.stage ≠ .effect → Concludes held.command finalization t →
      Moves s (.finalized (held.command.correlation held.stage.effectId) finalization) t []
  | fails {s held} : s.pending? = some held → held.stage = .effect →
      Moves s (.taskFailed (held.command.correlation activationEffectId)) (s.setStage .finalizing)
        [.finalize held.command (held.command.correlation finalizerEffectId) .failed]
  | finalizerFails {s held} : s.pending? = some held →
      held.stage = .finalizing →
      Moves s (.taskFailed (held.command.correlation finalizerEffectId)) (s.setStage .recovering)
        [.finalize held.command (held.command.correlation recoveryEffectId) .failed]
  | recoveryFails {s held} : s.pending? = some held →
      held.stage = .recovering →
      Moves s (.taskFailed (held.command.correlation recoveryEffectId))
        (.recoveryRequired held.command .stateCommit held.runtime) []
  | shutsDown {s held} : s.pending? = some held →
      Moves s .shutdown s [.cancel (held.command.correlation activationEffectId)]

variable {correlation : Correlation} {command : Command} {s : State} {held : Pending}
  {attemptedAt : Nat} {targetFingerprint targetRevision : Option String}
  {commandId targetProfileId : String} {operation : Operation} {reaction : Reaction}

theorem correlation_of_same {effectId}
    (same : (command.correlation correlation.effectId).sameOperation correlation = true)
    (effect : correlation.effectId = effectId) : correlation = command.correlation effectId := by
  simp only [Correlation.sameOperation, Command.correlation, Bool.and_eq_true, beq_iff_eq] at same
  obtain ⟨⟨⟨authority, epoch⟩, id⟩, revision⟩ := same
  cases correlation
  simp only at authority epoch id revision effect
  rw [Command.correlation, authority, epoch, id, revision, effect]

theorem matchingPending_some (found : matchingPending s correlation = some held) :
    s.pending? = some held ∧
    (held.command.correlation correlation.effectId).sameOperation correlation = true := by
  exact Option.filter_eq_some_iff.1 found

theorem pending_setStage (holds : s.pending? = some held)
    (stage : Stage) : (s.setStage stage).pending? = some { held with stage } := by
  cases s with
  | pending | retrying => cases holds; rfl
  | _ => cases holds

theorem pending_allows (holds : s.pending? = some held) (completion : Completion) :
    s.allows completion.transition = true ∧ s.allows .recoveryRequire = true := by
  cases s with
  | pending | retrying => cases completion <;> exact ⟨rfl, rfl⟩
  | _ => cases holds

theorem idle_of_allows {transition} (starts : transition = .begin ∨ transition = .retry ∨
    transition = .shutdown) (allowed : s.allows transition = true) : s.isBusy = false := by
  cases s with
  | pending | retrying | compensating => rcases starts with rfl | rfl | rfl <;> cases allowed
  | _ => rfl

theorem begin_begun {s t}
    (begins : s.begin commandId operation targetProfileId targetRevision targetFingerprint
    attemptedAt = some (.ok (t, command))) :
    Begun s command t ∧ ∃ scope, command = ⟨attemptedAt, commandId, operation, scope,
    targetFingerprint, targetProfileId, targetRevision⟩ := by
  unfold begin at begins
  generalize s.retryEvidence operation targetProfileId = retry at begins
  by_cases allowed : s.allows (if retry.isSome then .retry else .begin) = true
  · rw [if_pos allowed] at begins
    obtain ⟨scope, next, is⟩ := Option.map_eq_some_iff.1 begins
    have idle : s.isBusy = false := by
      refine idle_of_allows ?_ allowed
      cases retry
      · exact .inl rfl
      · exact .inr (.inl rfl)
    cases retry <;> cases is <;> exact ⟨⟨idle, rfl, next⟩, scope, rfl⟩
  · rw [if_neg allowed] at begins
    cases begins

/-- What a call of the reducer does: the input is applied, or the state is left alone. -/
def Reacts (s : State) (input : Input) (reaction : Reaction) : Prop :=
  Moves s input (reaction.next s) reaction.effects ∨ (reaction.next s = s ∧ reaction.effects = [])

theorem reacts_quiet {input} (is : reaction = .unchanged ∨ reaction = .retired ∨
    ∃ error, reaction = .rejected error) : Reacts s input reaction := by
  rcases is with rfl | rfl | ⟨error, rfl⟩ <;> exact .inr ⟨rfl, rfl⟩

theorem reacts_retired : Reacts s input .retired := reacts_quiet (.inr (.inl rfl))

theorem reacts_begin {resources work}
    (reduces : reduceBegin s attemptedAt commandId operation resources targetFingerprint
    targetProfileId targetRevision work = some reaction) :
    Reacts s (.begin attemptedAt commandId operation resources targetFingerprint targetProfileId
    targetRevision work) reaction := by
  obtain ⟨result, begins, is⟩ := Option.map_eq_some_iff.1 reduces
  cases result with
  | error => exact reacts_quiet (.inr (.inr ⟨_, is.symm⟩))
  | ok begun =>
    obtain ⟨t, command⟩ := begun
    obtain ⟨begun, scope, rfl⟩ := begin_begun begins
    rw [← is]
    cases work <;> exact .inl (.begins begun)

/-- A command that is pending can be completed. -/
theorem complete_pending (holds : s.pending? = some held) (completion : Completion) :
    s.complete held.command completion =
      match completion with
      | .succeeded runtime =>
        if successMatchesCommand held.command runtime then
          some (.succeeded none held.command runtime)
        else none
      | .failed evidence runtime => some (.failed held.command evidence runtime)
      | .cancelled runtime => some (.cancelled held.command runtime) := by
  unfold complete
  rw [holds]
  refine (if_neg (not_not.2 rfl)).trans ((if_pos (pending_allows holds completion).1).trans ?_)
  cases completion <;> rfl

theorem completeCaptureFailure_pending
    (holds : s.pending? = some held) (kind : CaptureFailureKind) (runtime : Runtime) :
    s.completeCaptureFailure held.command kind runtime =
    if successMatchesCommand held.command runtime then
    some (.succeeded (some kind) held.command runtime)
    else none := by
  unfold completeCaptureFailure
  rw [holds]
  cases successMatchesCommand held.command runtime <;> simp

theorem completeRecoveryRequired_pending
    (holds : s.pending? = some held) (evidence : FailureEvidence) (runtime : Runtime) :
    s.completeRecoveryRequired held.command evidence runtime =
    some (.recoveryRequired held.command evidence runtime) := by
  unfold completeRecoveryRequired
  rw [holds]
  simp [(pending_allows holds (.cancelled runtime)).2]

theorem reacts_reject {evidence}
    (reduces : reduceReject s attemptedAt commandId evidence targetFingerprint targetProfileId
    targetRevision = some reaction) :
    Reacts s (.reject attemptedAt commandId evidence targetFingerprint targetProfileId
    targetRevision) reaction := by
  obtain ⟨result, begins, is⟩ := Option.map_eq_some_iff.1 reduces
  cases result with
  | error => exact reacts_quiet (.inr (.inr ⟨_, is.symm⟩))
  | ok begun =>
    obtain ⟨t, command⟩ := begun
    obtain ⟨begun, scope, rfl⟩ := begin_begun begins
    have ends := complete_pending begun.held (.failed evidence s.runtime)
    rw [← is]
    dsimp only at ends ⊢
    rw [ends]
    exact .inl (.rejects begun rfl)

/-- The result is one the command can end with. -/
def Finalization.fits (command : Command) : Finalization → Bool
  | .completed (.succeeded runtime) | .captureFailure _ runtime =>
    successMatchesCommand command runtime
  | _ => true

variable {finalization : Finalization} {terminal : Bool}

theorem applyFinalization_fits (holds : s.pending? = some held)
    (fits : finalization.fits held.command = true) : ∃ t, Concludes held.command finalization t ∧
    (applyFinalization s held.command finalization).next s = t ∧
    (applyFinalization s held.command finalization).effects = [] ∧
    (applyFinalization s held.command finalization).disposition ≠ .retired := by
  cases finalization with
  | completed completion =>
    simp only [applyFinalization, complete_pending holds]
    cases completion with
    | succeeded runtime =>
      change successMatchesCommand held.command runtime = true at fits
      simp only [if_pos fits]
      exact ⟨_, .succeeded fits, rfl, rfl, nofun⟩
    | failed => exact ⟨_, .failed, rfl, rfl, nofun⟩
    | cancelled => exact ⟨_, .cancelled, rfl, rfl, nofun⟩
  | captureFailure kind runtime =>
    change successMatchesCommand held.command runtime = true at fits
    simp only [applyFinalization, completeCaptureFailure_pending holds]
    rw [if_pos fits]
    exact ⟨_, .captureFailed fits, rfl, rfl, nofun⟩
  | recoveryRequired evidence runtime =>
    simp only [applyFinalization, completeRecoveryRequired_pending holds]
    exact ⟨_, .recoveryRequired, rfl, rfl, nofun⟩

theorem applyFinalization_unfit (holds : s.pending? = some held)
    (unfit : finalization.fits held.command = false) :
    applyFinalization s held.command finalization = .retired := by
  cases finalization with
  | completed completion =>
    cases completion with
    | succeeded runtime =>
      change successMatchesCommand held.command runtime = false at unfit
      simp only [applyFinalization, complete_pending holds]
      rw [if_neg (Bool.eq_false_iff.1 unfit)]
    | _ => cases unfit
  | captureFailure kind runtime =>
    change successMatchesCommand held.command runtime = false at unfit
    simp only [applyFinalization, completeCaptureFailure_pending holds]
    rw [if_neg (Bool.eq_false_iff.1 unfit)]
  | recoveryRequired => cases unfit

theorem reacts_cancel (s : State) : Reacts s (.cancel commandId) (reduceCancel s commandId) := by
  unfold reduceCancel
  cases holds : s.pending? with
  | none => exact reacts_quiet (.inl rfl)
  | some held =>
    dsimp only
    split
    · exact reacts_quiet (.inl rfl)
    · rename_i accepted
      simp only [ne_eq, Bool.or_eq_true, decide_eq_true_eq, not_or, not_not] at accepted
      obtain ⟨rfl, stage⟩ := accepted
      exact .inl (.cancels holds stage)

theorem reacts_compensate (s : State) {resources} :
    Reacts s (.compensate commandId resources) (reduceCompensate s commandId resources) := by
  unfold reduceCompensate
  cases s with
  | succeeded kind command runtime =>
    unfold beginCompensation
    by_cases other : (decide (command.commandId ≠ commandId) ||
        decide (command.operation ≠ .activate)) = true
    · simp only [if_pos other]
      exact reacts_quiet (.inr (.inr ⟨_, rfl⟩))
    · simp only [if_neg other]
      simp only [ne_eq, Bool.or_eq_true, decide_eq_true_eq, not_or, not_not] at other
      obtain ⟨rfl, activates⟩ := other
      exact .inl (.compensates activates)
  | _ => exact reacts_quiet (.inr (.inr ⟨_, rfl⟩))

theorem completeRollback_compensating {runtime} (activates : command.operation = .activate) :
    (compensating command runtime).completeRollback command.commandId none =
    some (.rollbackSucceeded command) := by
  simp [completeRollback, activates, allows, kind]

theorem reacts_compensationFinished (s : State) {finalization} :
    Reacts s (.compensationFinished correlation finalization)
    (reduceCompensationFinished s correlation finalization) := by
  cases s with
  | compensating command runtime =>
    unfold reduceCompensationFinished
    dsimp only
    split
    · exact reacts_retired
    · rename_i accepted
      simp only [ne_eq, Bool.or_eq_true, decide_eq_true_eq, Bool.not_eq_true', not_or, not_not,
        Bool.not_eq_false] at accepted
      cases correlation_of_same accepted.2 accepted.1
      cases finalization with
      | recoveryRequired evidence observed => exact .inl .uncompensated
      | restoredSafe =>
        by_cases activates : command.operation = .activate
        · rw [completeRollback_compensating activates]
          exact .inl (.compensated activates)
        · simp only [completeRollback]
          rw [if_pos (by simp [activates])]
          exact reacts_retired
  | _ => exact reacts_retired

theorem completeShutdown_begun {s t : State}
    (begins : s.beginShutdown terminal attemptedAt commandId = some (.ok t)) :
    s.isBusy = false ∧ ∃ scope, s.scope.next = some scope ∧
    t.completeShutdown = some (if terminal then .shutdown scope else .idle scope) := by
  unfold beginShutdown at begins
  by_cases allowed : s.allows .shutdown = true
  · rw [if_pos allowed] at begins
    obtain ⟨scope, next, is⟩ := Option.map_eq_some_iff.1 begins
    refine ⟨idle_of_allows (.inr (.inr rfl)) allowed, scope, next, ?_⟩
    cases running : s.runtime with
    | safeStopped | active =>
      rw [running] at is
      cases is
      rfl
  · rw [if_neg allowed] at begins
    cases begins

theorem reacts_retire (reduces : reduceRetire s attemptedAt terminal = some reaction) :
    Reacts s (.retire attemptedAt terminal) reaction := by
  obtain ⟨result, begins, is⟩ := Option.map_eq_some_iff.1 reduces
  cases result with
  | error => exact reacts_quiet (.inr (.inr ⟨_, is.symm⟩))
  | ok t =>
    obtain ⟨idle, scope, next, ends⟩ := completeShutdown_begun begins
    rw [← is]
    dsimp only
    rw [ends]
    exact .inl (.retires idle next)

theorem reacts_taskFinished (s : State) {outcome} :
    Reacts s (.taskFinished correlation outcome) (reduceTaskFinished s correlation outcome) := by
  unfold reduceTaskFinished
  cases found : matchingPending s correlation with
  | none => exact reacts_retired
  | some held =>
    obtain ⟨holds, same⟩ := matchingPending_some found
    dsimp only
    split
    · exact reacts_retired
    · rename_i accepted
      simp only [ne_eq, Bool.or_eq_true, decide_eq_true_eq, not_or, not_not] at accepted
      cases correlation_of_same same accepted.1
      exact .inl (.finishes holds accepted.2)

theorem reacts_finalized (s : State) : Reacts s (.finalized correlation finalization)
    (reduceFinalized s correlation finalization) := by
  unfold reduceFinalized
  cases found : matchingPending s correlation with
  | none => exact reacts_retired
  | some held =>
    obtain ⟨holds, same⟩ := matchingPending_some found
    dsimp only
    split
    · rename_i stage
      have fits : held.stage ≠ .effect ∧ correlation.effectId = held.stage.effectId := by
        simp only [Bool.or_eq_true, Bool.and_eq_true, beq_iff_eq] at stage
        rcases stage with ⟨effect, stage⟩ | ⟨effect, stage⟩ <;> rw [stage] <;>
          exact ⟨nofun, effect⟩
      cases fitting : finalization.fits held.command with
      | false =>
        rw [applyFinalization_unfit holds fitting]
        exact reacts_retired
      | true =>
        obtain ⟨t, concludes, next, effects, _⟩ := applyFinalization_fits holds fitting
        cases correlation_of_same same fits.2
        left
        rw [next, effects]
        exact .concludes holds fits.1 concludes
    · exact reacts_retired

theorem reacts_pendingTaskFailed (holds : s.pending? = some held)
    (same : (held.command.correlation correlation.effectId).sameOperation correlation = true) :
    Reacts s (.taskFailed correlation) (pendingTaskFailed s correlation held) := by
  unfold pendingTaskFailed
  split
  · rename_i now
    cases correlation_of_same same now.1
    exact .inl (.fails holds now.2)
  · split
    · rename_i now
      cases correlation_of_same same now.1
      exact .inl (.finalizerFails holds now.2)
    · split
      · rename_i now
        cases correlation_of_same same now.1
        rw [completeRecoveryRequired_pending holds]
        exact .inl (.recoveryFails holds now.2)
      · exact reacts_retired

theorem reacts_matchingFailed (s : State) (correlation : Correlation) :
    Reacts s (.taskFailed correlation) (match matchingPending s correlation with
      | none => .retired
      | some held => pendingTaskFailed s correlation held) := by
  cases found : matchingPending s correlation with
  | none => exact reacts_retired
  | some held =>
    obtain ⟨holds, same⟩ := matchingPending_some found
    exact reacts_pendingTaskFailed holds same

theorem reacts_taskFailed (s : State) :
    Reacts s (.taskFailed correlation) (reduceTaskFailed s correlation) := by
  have rest := reacts_matchingFailed s correlation
  cases s with
  | compensating command runtime =>
    unfold reduceTaskFailed
    dsimp only
    split
    · rename_i now
      cases correlation_of_same now.2 now.1
      exact .inl .compensationFails
    · exact rest
  | _ => exact rest

theorem reacts_shutdown (s : State) : Reacts s .shutdown (reduceShutdown s) := by
  unfold reduceShutdown
  cases holds : s.pending? with
  | none => exact reacts_retired
  | some held => exact .inl (.shutsDown holds)

/-- Every call of the reducer is one of `Moves` or leaves the machine alone. -/
theorem reduce_reacts {input}
    (reduces : reduce s input = some reaction) : Reacts s input reaction := by
  cases input with
  | begin => exact reacts_begin reduces
  | reject => exact reacts_reject reduces
  | retire => exact reacts_retire reduces
  | cancel =>
    cases reduces
    exact reacts_cancel s
  | compensate =>
    cases reduces
    exact reacts_compensate s
  | compensationFinished =>
    cases reduces
    exact reacts_compensationFinished s
  | taskFinished =>
    cases reduces
    exact reacts_taskFinished s
  | finalized =>
    cases reduces
    exact reacts_finalized s
  | taskFailed =>
    cases reduces
    exact reacts_taskFailed s
  | shutdown =>
    cases reduces
    exact reacts_shutdown s

end Mish.ProfileActivation
