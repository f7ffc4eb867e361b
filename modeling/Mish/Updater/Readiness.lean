import Mish.Updater.Advances

/-!
# How a candidate becomes ready

The continuation machine by itself, fed any inputs: requests, cancels and completions, its own
or foreign ones, in any order.
-/

namespace Mish.Updater
open StateMachine

/-- Steps, the latest first: the state and the input each was made with. -/
abbrev Steps := List (ContinuationState × ContinuationInput)

variable {digest : String → String}

/-- The machine has taken these steps from `initial`. -/
inductive Fed (digest : String → String) (initial : ContinuationState) :
    Steps → ContinuationState → Prop where
  | start : Fed digest initial [] initial
  | step {log s} (input : ContinuationInput) : Fed digest initial log s →
      Fed digest initial ((s, input) :: log) ((continuationReduce digest s input).next s)

/-! ## The way of an operation -/

def Holds (operation : ContinuationOperation) (step : ContinuationState × ContinuationInput) :
    Prop :=
  step.1.operation = some operation

/-- A cancel is asked for, and the machine goes along with it. -/
def CancelAccepted (digest : String → String) (step : ContinuationState × ContinuationInput) :
    Prop :=
  (∃ operationId, step.2 = .cancelRequested operationId) ∧ ¬ Idle digest step.1 step.2

/-- The operation has been requested since and no cancel has been accepted. -/
def Uncancelled (digest : String → String) (operation : ContinuationOperation) (log : Steps) :
    Prop :=
  ∃ since s outer resumedBytes earlier,
    log = since ++ (s, .downloadRequested operation outer resumedBytes) :: earlier ∧
      ∀ step ∈ since, Holds operation step ∧ ¬ CancelAccepted digest step

/-- The step is the completion, with this outcome, of the effect that the operation waits for. -/
def Completes (operation : ContinuationOperation) (effectId : Nat)
    (outcome : ContinuationEffectOutcome) (step : ContinuationState × ContinuationInput) : Prop :=
  step.1.awaited = some (operation, effectId) ∧
    ∃ completion, step.2 = .effectCompleted completion ∧ completion.outcome = outcome ∧
      operation.accepts completion.correlation.machine effectId = true

/-- The operation has been verified since, before any cancel of it was accepted. -/
def Verified (digest : String → String) (operation : ContinuationOperation) (log : Steps) : Prop :=
  ∃ since step earlier, log = since ++ step :: earlier ∧
    Completes operation verifyEffectId (.verify (.ok ())) step ∧
    Uncancelled digest operation earlier ∧ ∀ step ∈ since, Holds operation step

/-- The operation was verified and then committed. -/
def Committed (digest : String → String) (operation : ContinuationOperation) (log : Steps) : Prop :=
  ∃ since step earlier, log = since ++ step :: earlier ∧
    Completes operation commitCandidateEffectId (.commit (.ok ())) step ∧
    Verified digest operation earlier

/-- The operation was recovered. -/
def Reverified (operation : ContinuationOperation) (log : Steps) : Prop :=
  ∃ step ∈ log, Completes operation reverifyEffectId (.recovery (.ok ())) step

/-- The operation whose candidate is ready. -/
def ContinuationState.readyFor : ContinuationState → Option ContinuationOperation
  | .ready operation _ => some operation
  | .retired operation _ .ready => operation
  | _ => none

/-- What the steps so far say about a state. -/
def Backed (digest : String → String) (log : Steps) : ContinuationState → Prop
  | .downloading operation _ false _ | .verifying operation _ false _ =>
    Uncancelled digest operation log
  | .committingCandidate operation _ _ => Verified digest operation log
  | .ready operation _ | .retired (some operation) _ .ready =>
    Committed digest operation log ∨ Reverified operation log
  | _ => True

section Steps

variable {log : Steps} {operation : ContinuationOperation}
  {step : ContinuationState × ContinuationInput}

theorem Uncancelled.cons (h : Uncancelled digest operation log) (holds : Holds operation step)
    (on : ¬ CancelAccepted digest step) : Uncancelled digest operation (step :: log) := by
  obtain ⟨since, s, outer, resumedBytes, earlier, rfl, kept⟩ := h
  refine ⟨step :: since, s, outer, resumedBytes, earlier, rfl, fun other mem => ?_⟩
  rcases List.mem_cons.1 mem with rfl | mem
  · exact ⟨holds, on⟩
  · exact kept other mem

theorem Uncancelled.verified (h : Uncancelled digest operation log)
    (completes : Completes operation verifyEffectId (.verify (.ok ())) step) :
    Verified digest operation (step :: log) :=
  ⟨[], step, log, rfl, completes, h, fun _ mem => absurd mem List.not_mem_nil⟩

theorem Verified.cons (h : Verified digest operation log) (holds : Holds operation step) :
    Verified digest operation (step :: log) := by
  obtain ⟨since, verify, earlier, rfl, completes, uncancelled, kept⟩ := h
  refine ⟨step :: since, verify, earlier, rfl, completes, uncancelled, fun other mem => ?_⟩
  rcases List.mem_cons.1 mem with rfl | mem
  · exact holds
  · exact kept other mem

theorem Committed.cons (h : Committed digest operation log) :
    Committed digest operation (step :: log) := by
  obtain ⟨since, commit, earlier, rfl, rest⟩ := h
  exact ⟨step :: since, commit, earlier, rfl, rest⟩

theorem Verified.committed (h : Verified digest operation log)
    (completes : Completes operation commitCandidateEffectId (.commit (.ok ())) step) :
    Committed digest operation (step :: log) :=
  ⟨[], step, log, rfl, completes, h⟩

theorem Reverified.cons (h : Reverified operation log) : Reverified operation (step :: log) := by
  obtain ⟨recovery, mem, completes⟩ := h
  exact ⟨recovery, List.mem_cons_of_mem _ mem, completes⟩

theorem Backed.retired {recorded progress terminal}
    (h : Backed digest log (.retired recorded progress terminal)) :
    Backed digest (step :: log) (.retired recorded progress terminal) := by
  cases recorded with
  | none => cases terminal <;> trivial
  | some operation =>
    cases terminal with
    | ready => exact h.imp Committed.cons Reverified.cons
    | _ => trivial

theorem accepts_of_correlates {progress effectId completion}
    (h : correlates operation progress effectId completion = true) :
    operation.accepts completion.correlation.machine effectId = true :=
  (Bool.and_eq_true_iff.1 h).1

end Steps

variable {input : ContinuationInput} {s : ContinuationState} {log : Steps}
  {effects : List ContinuationEffect} {t initial : ContinuationState}

theorem not_cancelAccepted (other : ∀ operationId, input ≠ .cancelRequested operationId) :
    ¬ CancelAccepted digest (s, input) := by
  rintro ⟨⟨operationId, is⟩, -⟩
  exact other operationId is

/-- A step that leaves the state alone leaves what is known about it. -/
theorem Backed.idle (h : Backed digest log s) (idle : Idle digest s input) :
    Backed digest ((s, input) :: log) s := by
  have on : ¬ CancelAccepted digest (s, input) := fun accepted => accepted.2 idle
  cases s with
  | downloading _ _ cancelRequested | verifying _ _ cancelRequested =>
    cases cancelRequested with
    | false => exact Uncancelled.cons h rfl on
    | true => trivial
  | committingCandidate operation progress shutdownRequested => exact Verified.cons h rfl
  | ready operation progress => exact h.imp Committed.cons Reverified.cons
  | retired operation progress terminal => exact h.retired
  | _ => trivial

theorem Backed.advance (h : Backed digest log s)
    (advances : Advances digest s input t effects) : Backed digest ((s, input) :: log) t := by
  cases advances with
  | requested => exact ⟨[], s, _, _, log, rfl, fun _ mem => absurd mem List.not_mem_nil⟩
  | @reported operation progress cancelRequested shutdownRequested =>
    cases cancelRequested with
    | false => exact Uncancelled.cons h rfl (not_cancelAccepted nofun)
    | true => trivial
  | cancelsDownload | cancelsVerify | recovers | downloadEnded | verifyEnded | recoveryFailed =>
    trivial
  | downloaded => exact Uncancelled.cons h rfl (not_cancelAccepted nofun)
  | @verified operation progress shutdownRequested completion fits outcome =>
    exact Uncancelled.verified h ⟨rfl, completion, rfl, outcome, accepts_of_correlates fits⟩
  | @committed operation progress shutdownRequested completion fits outcome =>
    have completes : Completes operation commitCandidateEffectId (.commit (.ok ()))
        (.committingCandidate operation progress shutdownRequested, .effectCompleted completion) :=
      ⟨rfl, completion, rfl, outcome, accepts_of_correlates fits⟩
    cases shutdownRequested <;> exact .inl (Verified.committed h completes)
  | @commitUnknown _ _ shutdownRequested => cases shutdownRequested <;> trivial
  | @finalizeUnknown _ _ _ _ _ shutdownRequested => cases shutdownRequested <;> trivial
  | @finalized _ _ _ terminal _ shutdownRequested =>
    cases terminal <;> cases shutdownRequested <;> trivial
  | @recovered operation progress kind completion fits outcome =>
    exact .inr ⟨_, List.mem_cons_self .., rfl, completion, rfl, outcome, accepts_of_correlates fits⟩
  | shutsDown =>
    -- a shutdown drops a download or a verification as a cancel does
    cases s with
    | committingCandidate => exact Verified.cons h rfl
    | ready => exact h.imp Committed.cons Reverified.cons
    | retired operation progress terminal => exact h.retired
    | _ => trivial

theorem Fed.backed (unready : Backed digest [] initial)
    (fed : Fed digest initial log s) : Backed digest log s := by
  induction fed with
  | start => exact unready
  | @step log s input _ ih =>
    rcases advances_or_idle digest s input with advances | idle
    · exact ih.advance advances
    · rw [idle.1]
      exact ih.idle idle

/-! ## Progress -/

/-- The bytes never exceed the total, and are all there once the download is over. -/
def Measured : ContinuationState → Prop
  | .stable => True
  | .verifying _ progress _ _ | .committingCandidate _ progress _ | .ready _ progress =>
    progress.downloadedBytes = progress.totalBytes
  | .downloading _ progress _ _ | .finalizing _ progress _ _ _ _ | .interrupted _ progress _
  | .failed _ progress _ _ | .cancelled _ progress _ | .recoveryRequired _ progress _ _
  | .recovering _ progress _ => progress.downloadedBytes ≤ progress.totalBytes
  | .retired _ progress terminal => ∀ p, progress = some p →
    p.downloadedBytes ≤ p.totalBytes ∧ (terminal = .ready → p.downloadedBytes = p.totalBytes)

theorem Measured.advance (h : Measured s)
    (advances : Advances digest s input t effects) : Measured t := by
  cases advances with
  | requested => exact Nat.min_le_right _ _
  | reported _ _ _ high => exact high
  | cancelsDownload | cancelsVerify | recovers | downloadEnded | verified | recoveryFailed =>
    exact h
  | verifyEnded => exact Nat.le_of_eq h
  | downloaded | recovered => rfl
  | @committed _ _ shutdownRequested =>
    cases shutdownRequested with
    | false => exact h
    | true =>
      rintro _ ⟨⟩
      exact ⟨Nat.le_of_eq h, fun _ => h⟩
  | @commitUnknown _ _ shutdownRequested =>
    cases shutdownRequested with
    | false => exact Nat.le_of_eq h
    | true =>
      rintro _ ⟨⟩
      exact ⟨Nat.le_of_eq h, nofun⟩
  | @finalizeUnknown _ _ _ _ _ shutdownRequested =>
    cases shutdownRequested with
    | false => exact h
    | true =>
      rintro _ ⟨⟩
      exact ⟨h, nofun⟩
  | @finalized _ progress _ terminal _ shutdownRequested _ _ info =>
    have bound := Nat.min_le_right info.size progress.totalBytes
    cases terminal <;> cases shutdownRequested
    · exact bound
    · rintro _ ⟨⟩
      exact ⟨bound, nofun⟩
    · exact bound
    · rintro _ ⟨⟩
      exact ⟨bound, nofun⟩
  | shutsDown =>
    cases s with
    | stable => rintro _ ⟨⟩
    | downloading | verifying | committingCandidate | finalizing => exact h
    | ready =>
      rintro _ ⟨⟩
      exact ⟨Nat.le_of_eq h, fun _ => h⟩
    | interrupted | failed | cancelled | recoveryRequired | recovering =>
      rintro _ ⟨⟩
      exact ⟨h, nofun⟩
    | retired => exact h

theorem Fed.measured (begins : Measured initial) (fed : Fed digest initial log s) : Measured s := by
  induction fed with
  | start => exact begins
  | @step log s input _ ih =>
    rcases advances_or_idle digest s input with advances | idle
    · exact ih.advance advances
    · rw [idle.1]
      exact ih

/-- What is published about a state's progress. -/
theorem Measured.projection (h : Measured s) {projection progress}
    (published : s.projection digest = some projection)
    (shows : projection.progress = some progress) : progress.downloadedBytes ≤ progress.totalBytes ∧
    (projection.phase = .ready → progress.downloadedBytes = progress.totalBytes) := by
  cases s with
  | stable => cases published
  | downloading | interrupted | failed | cancelled | recoveryRequired | recovering =>
    cases published
    cases shows
    exact ⟨h, nofun⟩
  | verifying | committingCandidate =>
    cases published
    cases shows
    exact ⟨Nat.le_of_eq h, nofun⟩
  | ready =>
    cases published
    cases shows
    exact ⟨Nat.le_of_eq h, fun _ => h⟩
  | finalizing operation progress stage =>
    cases stage <;> cases published <;> cases shows <;> exact ⟨h, nofun⟩
  | retired operation recorded terminal =>
    cases operation with
    | none => cases published
    | some operation =>
      cases recorded with
      | none => cases terminal <;> cases published <;> cases shows
      | some recorded =>
        obtain ⟨bound, full⟩ := h recorded rfl
        cases terminal with
        | ready =>
          cases published
          cases shows
          exact ⟨bound, fun _ => full rfl⟩
        | stable => cases published
        | _ =>
          cases published
          cases shows
          exact ⟨bound, nofun⟩

end Mish.Updater
