import Mathlib.Order.Basic
import Mish.Updater.Continuation

/-!
# What a step of the continuation machine does

`Advances` lists the steps that are applied, each with its guard; every other step leaves the
state alone and emits nothing.
-/

namespace Mish.Updater
open StateMachine

variable {digest : String → String}

/-- `Advances digest s input t effects`: in the state `s` the input is applied, which leaves `t`
and emits `effects`. -/
inductive Advances (digest : String → String) : ContinuationState → ContinuationInput →
    ContinuationState → List ContinuationEffect → Prop where
  | requested {s operation outer resumedBytes} : s.isBusy = false →
      outer.operationId = some operation.operationId →
      outer.candidate = some (operation.candidate.identity digest) →
      (outer.phase = .available ∨ outer.phase = .cancelled ∨ outer.phase = .failed) →
      Advances digest s (.downloadRequested operation outer resumedBytes)
        (.downloading operation ⟨min resumedBytes operation.candidate.metadata.artifactSize,
          operation.candidate.metadata.artifactSize, 0⟩ false false)
        [.download (operation.correlation downloadEffectId 0) operation.candidate]
  | reported {operation progress cancelRequested shutdownRequested correlation bytes} :
      operation.accepts correlation.machine downloadEffectId = true →
      correlation.progressSequence = saturatingSucc progress.sequence →
      progress.downloadedBytes ≤ bytes → bytes ≤ progress.totalBytes →
      Advances digest (.downloading operation progress cancelRequested shutdownRequested)
        (.partialCommitted correlation bytes)
        (.downloading operation ⟨bytes, progress.totalBytes, correlation.progressSequence⟩
          cancelRequested shutdownRequested) []
  | cancelsDownload {operation progress shutdownRequested} :
      Advances digest (.downloading operation progress false shutdownRequested)
        (.cancelRequested operation.operationId)
        (.downloading operation progress true shutdownRequested)
        [.cancel (operation.correlation downloadEffectId progress.sequence)]
  | cancelsVerify {operation progress shutdownRequested} :
      Advances digest (.verifying operation progress false shutdownRequested)
        (.cancelRequested operation.operationId)
        (.verifying operation progress true shutdownRequested)
        [.cancel (operation.correlation verifyEffectId progress.sequence)]
  | recovers {operation progress kind reason} :
      Advances digest (.recoveryRequired operation progress kind reason) .recoverRequested
        (.recovering operation { progress with sequence := saturatingSucc progress.sequence } kind)
        [.reverifyCandidate
          (operation.correlation reverifyEffectId (saturatingSucc progress.sequence))
          operation.candidate]
  | downloaded {operation progress shutdownRequested completion} :
      correlates operation progress downloadEffectId completion = true →
      completion.outcome = .download (.ok ()) →
      Advances digest (.downloading operation progress false shutdownRequested)
        (.effectCompleted completion)
        (.verifying operation ⟨progress.totalBytes, progress.totalBytes,
          saturatingSucc completion.correlation.progressSequence⟩ false shutdownRequested)
        [.verify (operation.correlation verifyEffectId
          (saturatingSucc completion.correlation.progressSequence)) operation.candidate]
  | downloadEnded
      {operation progress cancelRequested shutdownRequested discard completion terminal} :
      correlates operation progress downloadEffectId completion = true →
      Advances digest (.downloading operation progress cancelRequested shutdownRequested)
        (.effectCompleted completion)
        (.finalizing operation { progress with sequence := saturatingSucc progress.sequence }
          .downloading terminal discard shutdownRequested)
        [.finalizeFailure (operation.correlation finalizeEffectId
          (saturatingSucc progress.sequence)) operation.candidate discard]
  | verified {operation progress shutdownRequested completion} :
      correlates operation progress verifyEffectId completion = true →
      completion.outcome = .verify (.ok ()) →
      Advances digest (.verifying operation progress false shutdownRequested)
        (.effectCompleted completion)
        (.committingCandidate operation { progress with
          sequence := saturatingSucc completion.correlation.progressSequence } shutdownRequested)
        [.commitCandidate (operation.correlation commitCandidateEffectId
          (saturatingSucc completion.correlation.progressSequence)) operation.candidate]
  | verifyEnded {operation progress cancelRequested shutdownRequested discard completion terminal} :
      correlates operation progress verifyEffectId completion = true →
      Advances digest (.verifying operation progress cancelRequested shutdownRequested)
        (.effectCompleted completion)
        (.finalizing operation { progress with sequence := saturatingSucc progress.sequence }
          .verifying terminal discard shutdownRequested)
        [.finalizeFailure (operation.correlation finalizeEffectId
          (saturatingSucc progress.sequence)) operation.candidate discard]
  | committed {operation progress shutdownRequested completion} :
      correlates operation progress commitCandidateEffectId completion = true →
      completion.outcome = .commit (.ok ()) →
      Advances digest (.committingCandidate operation progress shutdownRequested)
        (.effectCompleted completion)
        (if shutdownRequested then
          .retired (some operation) (some { progress with
            sequence := completion.correlation.progressSequence }) .ready
        else .ready operation { progress with
          sequence := completion.correlation.progressSequence }) []
  | commitUnknown {operation progress shutdownRequested completion reason} :
      correlates operation progress commitCandidateEffectId completion = true →
      Advances digest (.committingCandidate operation progress shutdownRequested)
        (.effectCompleted completion)
        (if shutdownRequested then
          .retired (some operation) (some progress) (.recoveryRequired reason)
        else .recoveryRequired operation progress .candidateCommit reason) []
  | finalized {operation} {progress : MachineProgress} {stage} {terminal : FinalizingTerminal}
      {discard shutdownRequested resumable} {completion : ContinuationCompletion}
      {info : PartialInfo} : correlates operation progress finalizeEffectId completion = true →
      Advances digest (.finalizing operation progress stage terminal discard shutdownRequested)
        (.effectCompleted completion)
        (terminal.ended shutdownRequested operation { progress with
          downloadedBytes := min info.size progress.totalBytes
          sequence := completion.correlation.progressSequence } resumable) []
  | finalizeUnknown
      {operation progress stage terminal discard shutdownRequested completion reason} :
      correlates operation progress finalizeEffectId completion = true →
      Advances digest (.finalizing operation progress stage terminal discard shutdownRequested)
        (.effectCompleted completion)
        (if shutdownRequested then
          .retired (some operation) (some progress) (.recoveryRequired reason)
        else .recoveryRequired operation progress .candidateCommit reason) []
  | recovered {operation progress kind completion} :
      correlates operation progress reverifyEffectId completion = true →
      completion.outcome = .recovery (.ok ()) →
      Advances digest (.recovering operation progress kind) (.effectCompleted completion)
        (.ready operation { progress with
          downloadedBytes := progress.totalBytes
          sequence := completion.correlation.progressSequence }) []
  | recoveryFailed {operation progress kind completion sequence reason} :
      correlates operation progress reverifyEffectId completion = true →
      Advances digest (.recovering operation progress kind) (.effectCompleted completion)
        (.recoveryRequired operation { progress with sequence } kind reason) []
  | shutsDown {s} :
      Advances digest s .shutdownRequested (reduceShutdown s).next (reduceShutdown s).effects

/-- The input leaves the state alone. -/
def Idle (digest : String → String) (s : ContinuationState) (input : ContinuationInput) : Prop :=
  (continuationReduce digest s input).next s = s ∧ (continuationReduce digest s input).effects = []

variable (s : ContinuationState)

/-- A decision that is applied moves to its state and emits its effects. -/
theorem transition_of_applied (s next : ContinuationState) (effects : List ContinuationEffect) :
    (Decision.applied next effects).transition.next s = next ∧
    (Decision.applied next effects).transition.effects = effects := by
  cases effects with
  | cons first rest => exact ⟨rfl, rfl⟩
  | nil => cases next <;> exact ⟨rfl, rfl⟩

theorem transition_of_unchanged {disposition} (idle : disposition ≠ .applied) :
    (Decision.unchanged s disposition).transition.next s = s ∧
    (Decision.unchanged s disposition).transition.effects = [] := by
  cases disposition with
  | applied => exact absurd rfl idle
  | cancelTooLate | duplicate | retiredCompletion => exact ⟨rfl, rfl⟩

/-- The step the decision stands for, if it is applied. -/
def Decision.Steps (digest : String → String) (s : ContinuationState) (input : ContinuationInput)
    (decision : Decision) : Prop :=
  decision = .applied decision.next decision.effects ∧
      Advances digest s input decision.next decision.effects ∨
    ∃ disposition, decision = .unchanged s disposition ∧ disposition ≠ .applied

theorem steps_retired {input} : (Decision.unchanged s .retiredCompletion).Steps digest s input :=
  .inr ⟨_, rfl, nofun⟩

theorem steps_completion (completion : ContinuationCompletion) :
    (reduceCompletion s completion).Steps digest s (.effectCompleted completion) := by
  have guarded (operation : ContinuationOperation) (progress : MachineProgress) (effectId : Nat)
      (decision : Decision)
      (h : correlates operation progress effectId completion = true →
        decision.Steps digest s (.effectCompleted completion)) :
      (if correlates operation progress effectId completion then decision
        else .unchanged s .retiredCompletion).Steps digest s (.effectCompleted completion) := by
    split
    · exact h ‹_›
    · exact steps_retired _
  cases s with
  | downloading operation progress cancelRequested shutdownRequested =>
    refine guarded _ _ _ _ fun fits => ?_
    unfold completeDownload
    split
    · exact .inl ⟨rfl, .downloadEnded fits⟩
    · exact .inl ⟨rfl, .downloadEnded fits⟩
    · exact .inl ⟨rfl, .downloadEnded fits⟩
    · exact .inl ⟨rfl, .downloaded fits ‹_›⟩
    · exact .inl ⟨rfl, .downloadEnded fits⟩
    · exact steps_retired _
  | verifying operation progress cancelRequested shutdownRequested =>
    refine guarded _ _ _ _ fun fits => ?_
    unfold completeVerify
    split
    · exact .inl ⟨rfl, .verifyEnded fits⟩
    · exact .inl ⟨rfl, .verifyEnded fits⟩
    · exact .inl ⟨rfl, .verifyEnded fits⟩
    · exact .inl ⟨rfl, .verified fits ‹_›⟩
    · exact .inl ⟨rfl, .verifyEnded fits⟩
    · exact steps_retired _
  | committingCandidate operation progress shutdownRequested =>
    refine guarded _ _ _ _ fun fits => ?_
    unfold completeCommit
    split
    · exact .inl ⟨rfl, .committed fits ‹_›⟩
    · exact .inl ⟨rfl, .commitUnknown fits⟩
    · exact .inl ⟨rfl, .commitUnknown fits⟩
    · exact steps_retired _
  | finalizing operation progress stage terminal discard shutdownRequested =>
    refine guarded _ _ _ _ fun fits => ?_
    unfold completeFinalize
    split
    · exact .inl ⟨rfl, .finalized fits⟩
    · exact .inl ⟨rfl, .finalizeUnknown fits⟩
    · exact .inl ⟨rfl, .finalizeUnknown fits⟩
    · exact steps_retired _
  | recovering operation progress kind =>
    refine guarded _ _ _ _ fun fits => ?_
    unfold completeRecovery
    split
    · exact .inl ⟨rfl, .recovered fits ‹_›⟩
    · exact .inl ⟨rfl, .recoveryFailed fits⟩
    · exact .inl ⟨rfl, .recoveryFailed fits⟩
    · exact steps_retired _
  | _ => exact steps_retired _

theorem steps_partialCommitted (correlation : EffectCorrelation) (bytes : Nat) :
    (reducePartialCommitted s correlation bytes).Steps digest s
    (.partialCommitted correlation bytes) := by
  cases s with
  | downloading operation progress cancelRequested shutdownRequested =>
    unfold reducePartialCommitted
    dsimp only
    split
    · exact steps_retired _
    · rename_i fits
      simp only [Bool.or_eq_true, Bool.not_eq_true', bne_iff_ne, decide_eq_true_eq, not_or,
        Bool.not_eq_false, not_not] at fits
      obtain ⟨⟨⟨accepts, sequence⟩, low⟩, high⟩ := fits
      exact .inl ⟨rfl, .reported accepts sequence (Nat.le_of_not_lt low) (Nat.le_of_not_lt high)⟩
  | _ => exact steps_retired _

theorem steps_cancel {s operationId decision}
    (decided : reduceCancel s operationId = .ok decision) :
    decision.Steps digest s (.cancelRequested operationId) := by
  unfold reduceCancel at decided
  split at decided
  · cases decided
  · rename_i operation holds
    split at decided
    · cases decided
    · rename_i named
      have named := not_not.1 named
      subst named
      split at decided <;> cases decided
      · cases holds
        exact .inl ⟨rfl, .cancelsDownload⟩
      · cases holds
        exact .inl ⟨rfl, .cancelsVerify⟩
      · exact .inr ⟨_, rfl, nofun⟩
      · exact .inr ⟨_, rfl, nofun⟩

theorem steps_requested {s operation outer resumedBytes decision}
    (decided : reduceDownloadRequested digest s operation outer resumedBytes = .ok decision) :
    decision.Steps digest s (.downloadRequested operation outer resumedBytes) := by
  unfold reduceDownloadRequested at decided
  split at decided
  · cases decided
  · rename_i same
    obtain ⟨named, offered⟩ := not_or.1 same
    split at decided
    · cases decided
      exact .inr ⟨_, rfl, nofun⟩
    · split at decided
      · cases decided
      · rename_i free
        obtain ⟨phase, busy⟩ := not_or.1 free
        cases decided
        exact .inl ⟨rfl, .requested (Bool.eq_false_iff.2 busy) (not_not.1 named)
          (not_not.1 offered) (not_not.1 phase)⟩

/-- Every step is an advance or leaves the machine alone. -/
theorem advances_or_idle (digest : String → String) (s : ContinuationState)
    (input : ContinuationInput) :
    Advances digest s input ((continuationReduce digest s input).next s)
    (continuationReduce digest s input).effects ∨ Idle digest s input := by
  have decided (decision : Decision) (is : reduceContinuation digest s input = .ok decision)
      (steps : decision.Steps digest s input) :
      Advances digest s input ((continuationReduce digest s input).next s)
        (continuationReduce digest s input).effects ∨ Idle digest s input := by
    unfold Idle continuationReduce
    rw [is]
    rcases steps with ⟨applied, advances⟩ | ⟨disposition, rfl, idle⟩
    · left
      rw [applied, (transition_of_applied s _ _).1, (transition_of_applied s _ _).2]
      exact advances
    · exact .inr (transition_of_unchanged s idle)
  cases is : reduceContinuation digest s input with
  | error error =>
    right
    unfold Idle continuationReduce
    rw [is]
    exact ⟨rfl, rfl⟩
  | ok decision =>
    refine decided decision is ?_
    cases input with
    | downloadRequested operation outer resumedBytes => exact steps_requested is
    | partialCommitted correlation bytes =>
      cases is
      exact steps_partialCommitted s correlation bytes
    | cancelRequested operationId => exact steps_cancel is
    | recoverRequested =>
      cases is
      cases s with
      | recoveryRequired => exact .inl ⟨rfl, .recovers⟩
      | _ => exact .inr ⟨_, rfl, nofun⟩
    | effectCompleted completion =>
      cases is
      exact steps_completion s completion
    | shutdownRequested =>
      cases is
      cases s with
      | retired => exact .inr ⟨_, rfl, nofun⟩
      | _ => exact .inl ⟨rfl, .shutsDown⟩

end Mish.Updater
