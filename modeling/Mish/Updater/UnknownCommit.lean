import Mish.Updater.Readiness

/-!
# Commits with an unknown outcome

A commit that fails, or whose task fails, may have taken place. The machine then stands at
`recoveryRequired`, but a download request is applied there as well.
-/

namespace Mish.Updater
open StateMachine

variable {digest : String → String} {candidate : AvailableCandidate}

/-- The steps of a run with the effects they emit. -/
def emits (digest : String → String) (step : ContinuationState × ContinuationInput) :
    List ContinuationEffect :=
  (continuationReduce digest step.1 step.2).effects

/-- The step ends a commit of the candidate without telling whether it took place. -/
def LeavesUnknown (candidate : AvailableCandidate)
    (step : ContinuationState × ContinuationInput) : Prop :=
  ∃ operation progress shutdownRequested completion,
    step = (.committingCandidate operation progress shutdownRequested,
      .effectCompleted completion) ∧
    operation.candidate = candidate ∧
    correlates operation progress commitCandidateEffectId completion = true ∧
    ((∃ error, completion.outcome = .commit (.error error)) ∨
      ∃ failure, completion.outcome = .taskFailed failure)

/-- The step ends a reverification of the candidate, well or not. -/
def EndsReverification (candidate : AvailableCandidate)
    (step : ContinuationState × ContinuationInput) : Prop :=
  ∃ operation progress kind completion,
    step = (.recovering operation progress kind, .effectCompleted completion) ∧
    operation.candidate = candidate ∧
    correlates operation progress reverifyEffectId completion = true

/-- The effect would download, verify or commit the candidate. -/
def Replays (candidate : AvailableCandidate) : ContinuationEffect → Prop
  | .download _ c | .verify _ c | .commitCandidate _ c => c = candidate
  | _ => False

/-- Between a commit with an unknown outcome and the end of a reverification, nothing is done
with the candidate but to reverify it. -/
def NeverReplayed (digest : String → String) (log : Steps) : Prop :=
  ∀ candidate later step between unknown earlier,
    log = later ++ step :: (between ++ unknown :: earlier) → LeavesUnknown candidate unknown →
    (∀ other ∈ between, ¬ EndsReverification candidate other) →
    ∀ effect ∈ emits digest step, ¬ Replays candidate effect

/-- The state of a commit whose outcome is unknown, until it is reverified. -/
def ContinuationState.isUnknown : ContinuationState → Bool
  | .recoveryRequired .. | .retired _ _ (.recoveryRequired _) => true
  | _ => false

/-- A download is requested where the outcome of a commit is unknown. -/
def RequestsUnknown (step : ContinuationState × ContinuationInput) : Prop :=
  step.1.isUnknown = true ∧
    ∃ operation outer resumedBytes, step.2 = .downloadRequested operation outer resumedBytes

/-- The candidate has still to be reverified. -/
def Pending (candidate : AvailableCandidate) : ContinuationState → Prop
  | .recoveryRequired operation .. | .recovering operation .. => operation.candidate = candidate
  | .retired (some operation) _ (.recoveryRequired _) => operation.candidate = candidate
  | _ => False

theorem not_replays_nil : ∀ effect ∈ ([] : List ContinuationEffect), ¬ Replays candidate effect :=
  fun _ mem => absurd mem List.not_mem_nil

variable {input : ContinuationInput} {s initial : ContinuationState}

theorem not_replays_advance {t effects} (pending : Pending candidate s)
    (fit : ¬ RequestsUnknown (s, input)) (advances : Advances digest s input t effects) :
    (EndsReverification candidate (s, input) ∨ Pending candidate t) ∧
    ∀ effect ∈ effects, ¬ Replays candidate effect := by
  cases advances with
  | requested idle =>
    refine absurd ⟨?_, _, _, _, rfl⟩ fit
    cases s with
    | recoveryRequired => rfl
    | recovering => cases idle
    | retired operation progress terminal =>
      cases terminal with
      | recoveryRequired => rfl
      | _ => cases operation <;> exact pending.elim
    | _ => exact pending.elim
  | reported | cancelsDownload | cancelsVerify | downloaded | downloadEnded | verified
  | verifyEnded | committed | commitUnknown | finalized | finalizeUnknown => exact pending.elim
  | recovers =>
    refine ⟨.inr pending, fun effect mem => ?_⟩
    rw [List.mem_singleton.1 mem]
    exact id
  | recovered fits => exact ⟨.inl ⟨_, _, _, _, rfl, pending, fits⟩, not_replays_nil⟩
  | recoveryFailed => exact ⟨.inr pending, not_replays_nil⟩
  | shutsDown =>
    cases s with
    | recoveryRequired | recovering => exact ⟨.inr pending, not_replays_nil⟩
    | retired => exact ⟨.inr pending, not_replays_nil⟩
    | _ => exact pending.elim

theorem not_replays_step (pending : Pending candidate s) (fit : ¬ RequestsUnknown (s, input)) :
    (EndsReverification candidate (s, input) ∨
    Pending candidate ((continuationReduce digest s input).next s)) ∧
    ∀ effect ∈ emits digest (s, input), ¬ Replays candidate effect := by
  rcases advances_or_idle digest s input with advances | idle
  · exact not_replays_advance pending fit advances
  · refine ⟨.inr ?_, ?_⟩
    · rw [idle.1]
      exact pending
    · intro effect mem
      rw [emits, idle.2] at mem
      cases mem

theorem LeavesUnknown.pending (h : LeavesUnknown candidate (s, input)) :
    Pending candidate ((continuationReduce digest s input).next s) := by
  obtain ⟨operation, progress, shutdownRequested, completion, is, same, fits, outcome⟩ := h
  cases is
  have decided : ∃ reason, reduceCompletion
      (.committingCandidate operation progress shutdownRequested) completion =
      recoveryRequired operation progress reason shutdownRequested := by
    unfold reduceCompletion
    simp only [fits, if_true]
    unfold completeCommit
    rcases outcome with ⟨error, is⟩ | ⟨failure, is⟩ <;> rw [is] <;> exact ⟨_, rfl⟩
  obtain ⟨reason, decided⟩ := decided
  change Pending _ ((reduceCompletion _ completion).transition.next _)
  rw [decided]
  cases shutdownRequested <;> exact same

/-- The log of a run, as far as its first steps. -/
theorem Fed.prefix {later earlier : Steps} {step}
    (fed : Fed digest initial (later ++ step :: earlier) s) :
    Fed digest initial earlier step.1 := by
  induction later generalizing s with
  | nil =>
    cases fed with
    | step input fed => exact fed
  | cons first later ih =>
    cases fed with
    | step input fed => exact ih fed

theorem Fed.pending {between earlier : Steps} {unknown}
    (fed : Fed digest initial (between ++ unknown :: earlier) s)
    (leaves : LeavesUnknown candidate unknown)
    (open_ : ∀ other ∈ between, ¬ EndsReverification candidate other)
    (fit : ∀ other ∈ between, ¬ RequestsUnknown other) : Pending candidate s := by
  induction between generalizing s with
  | nil =>
    cases fed with
    | step input _ => exact leaves.pending
  | cons first between ih =>
    cases fed with
    | @step _ s input fed =>
      have pending := ih fed (fun other mem => open_ other (List.mem_cons_of_mem _ mem))
        fun other mem => fit other (List.mem_cons_of_mem _ mem)
      have here := List.mem_cons_self (a := (s, input)) (l := between)
      exact (not_replays_step pending (fit _ here)).1.resolve_left (open_ _ here)

/-- Where no download is requested while the outcome of a commit is unknown, no such commit is
replayed. -/
theorem unknown_commit_never_replayed {initial s : ContinuationState} {log : Steps}
    (fed : Fed digest initial log s) (fit : ∀ step ∈ log, ¬ RequestsUnknown step) :
    NeverReplayed digest log := by
  rintro candidate later step between unknown earlier rfl leaves open_
  have pending := fed.prefix.pending leaves open_ fun other mem => fit other (by simp [mem])
  exact (not_replays_step pending (fit step (by simp))).2

/-! ## A commit that is replayed -/

def sampleCandidate : AvailableCandidate where
  metadata := ⟨"Mish.app.tar.gz", "", "", 8, "", .alpha, false, "", false, "", "1.0.1-alpha.1"⟩
  metadataBytes := []
  metadataSignature := ""
  release := ⟨[], .alpha, 7, "2026-07-27T00:00:00Z", "v1.0.1-alpha.1", "1.0.1-alpha.1"⟩

def sampleOperation (scopeEpoch : Nat) : ContinuationOperation :=
  ⟨"authority", scopeEpoch, "operation", scopeEpoch, sampleCandidate⟩

/-- What is published when the download is requested. -/
def sampleOuter (phase : UpdatePhase) : UpdaterSnapshot :=
  ⟨"authority", 0, true, phase, some "operation", some .alpha, some (sampleCandidate.identity id),
    none, false, none⟩

def sampleCompletion (effectId sequence : Nat) (outcome : ContinuationEffectOutcome) :
    ContinuationInput :=
  .effectCompleted ⟨(sampleOperation 1).correlation effectId sequence, outcome⟩

theorem Fed.to {t log}
    (fed : Fed digest initial log s) (leaves : (continuationReduce digest s input).next s = t) :
    Fed digest initial ((s, input) :: log) t := by
  rw [← leaves]
  exact .step input fed

/-- The steps up to a commit that fails. -/
def untilUnknown : Steps :=
  [(.committingCandidate (sampleOperation 1) ⟨8, 8, 4⟩ false,
      sampleCompletion commitCandidateEffectId 5 (.commit (.error .storeIo))),
    (.verifying (sampleOperation 1) ⟨8, 8, 2⟩ false false,
      sampleCompletion verifyEffectId 3 (.verify (.ok ()))),
    (.downloading (sampleOperation 1) ⟨0, 8, 0⟩ false false,
      sampleCompletion downloadEffectId 1 (.download (.ok ()))),
    (.stable, .downloadRequested (sampleOperation 1) (sampleOuter .available) 0)]

theorem fed_untilUnknown : Fed id .stable untilUnknown
    (.recoveryRequired (sampleOperation 1) ⟨8, 8, 4⟩ .candidateCommit "store-io") :=
  (((Fed.start.to (by decide +kernel)).to (by decide +kernel)).to (by decide +kernel)).to
    (by decide +kernel)

/-- The download is requested again, as the published phase allows, and begins again. -/
theorem unknown_commit_replayed : ∃ log s, Fed id .stable log s ∧ ¬ NeverReplayed id log := by
  refine ⟨_, _, fed_untilUnknown.step
    (.downloadRequested (sampleOperation 2) (sampleOuter .failed) 8), fun never => ?_⟩
  have emitted : emits id (.recoveryRequired (sampleOperation 1) ⟨8, 8, 4⟩ .candidateCommit
      "store-io", .downloadRequested (sampleOperation 2) (sampleOuter .failed) 8) =
      [.download ((sampleOperation 2).correlation downloadEffectId 0) sampleCandidate] := by
    decide +kernel
  have silent := never sampleCandidate [] _ [] _ _ rfl
    ⟨_, _, _, _, rfl, rfl, by decide +kernel, .inl ⟨_, rfl⟩⟩
    (fun _ mem => absurd mem List.not_mem_nil)
  exact silent _ (List.mem_singleton_self _) rfl

/-- The recovery is requested instead, and the candidate is found in place. -/
def throughRecovery : Steps :=
  (.recovering (sampleOperation 1) ⟨8, 8, 5⟩ .candidateCommit,
      sampleCompletion reverifyEffectId 6 (.recovery (.ok ()))) ::
    (.recoveryRequired (sampleOperation 1) ⟨8, 8, 4⟩ .candidateCommit "store-io",
      .recoverRequested) :: untilUnknown

theorem fed_throughRecovery :
    Fed id .stable throughRecovery (.ready (sampleOperation 1) ⟨8, 8, 6⟩) :=
  (fed_untilUnknown.to (by decide +kernel)).to (by decide +kernel)

/-- Nothing is replayed on the way from the unknown commit to the end of the recovery. -/
theorem unknown_commit_never_replayed_sample :
    (∃ unknown ∈ throughRecovery, LeavesUnknown sampleCandidate unknown) ∧
    (∃ step ∈ throughRecovery, EndsReverification sampleCandidate step) ∧
    NeverReplayed id throughRecovery := by
  refine ⟨⟨_, .tail _ (.tail _ (.head _)), _, _, _, _, rfl, rfl, by decide +kernel, .inl ⟨_, rfl⟩⟩,
    ⟨_, .head _, _, _, _, _, rfl, rfl, by decide +kernel⟩, ?_⟩
  refine unknown_commit_never_replayed fed_throughRecovery fun step mem => ?_
  simp only [throughRecovery, untilUnknown, List.mem_cons, List.not_mem_nil, or_false] at mem
  rintro ⟨unknown, operation, outer, resumedBytes, is⟩
  rcases mem with rfl | rfl | rfl | rfl | rfl | rfl
  · cases unknown
  · cases is
  all_goals cases unknown

end Mish.Updater
