import Mish.StateMachine.Flight
import Mish.Updater.Download
import Mish.Updater.UnknownCommit

/-!
# Downloads that can be ended

The continuation machine under the kernel, with the download effect at work beside the actor: it
asks its own requests one at a time, its progress reports are admissions of the same actor, and
its deadline may drop it wherever it waits.
-/

namespace Mish.Updater
open StateMachine Interaction Download ContinuationOperation List

variable {digest : String → String} {maxArtifactBytes : Nat}

/-! ## The updater -/

/-- A download at work: its own progress sequence, and what is left of it. -/
structure DownloadTask where
  sequence : Nat
  program : Program Request Reply (Except UpdateOperationError (Option Nat))

namespace DownloadTask

def start : ContinuationEffect → Option DownloadTask
  | .download correlation candidate =>
    some ⟨correlation.progressSequence, (prologue candidate.metadata.artifactSize).run⟩
  | _ => none

/-- What the effect returns, once it is through. -/
def finished (d : DownloadTask) : Option (Except UpdateOperationError Unit) :=
  match d.program with
  | .done (.ok none) => some (.ok ())
  | .done (.error error) => some (.error error)
  | _ => none

/-- The sequence after a request. -/
def sequenceAfter (sequence : Nat) : Request → Nat
  | .count => saturatingSucc sequence
  | _ => sequence

end DownloadTask

/-- The actor, the downloads at work by the id of their task, and the reports that a download
dropped by its deadline has left in the actor's inbox. -/
structure Updating (digest : String → String) where
  runner : Runner (continuation digest)
  downloads : Nat → Option DownloadTask
  queued : List ContinuationInput

namespace Updating

def start (initial : ContinuationState) : Updating digest :=
  ⟨.start initial, fun _ => none, []⟩

/-- The download of a task, which starts with the task. -/
def download (u : Updating digest) (effect : ContinuationEffect) (id : Nat) :
    Option DownloadTask :=
  match u.downloads id with
  | some d => some d
  | none => DownloadTask.start effect

def setDownload (u : Updating digest) (id : Nat) (d : DownloadTask) : Updating digest :=
  { u with downloads := fun other => if other = id then some d else u.downloads other }

/-- What the effects return. Each adds one to the sequence of its correlation. -/
def executes (u : Updating digest) : Executor (continuation digest)
  | .download correlation candidate, _, input => ∃ id d result,
    (.download correlation candidate, id) ∈ u.runner.roster ∧
    u.download (.download correlation candidate) id = some d ∧ d.finished = some result ∧
    input = .effectCompleted ⟨⟨correlation.machine, saturatingSucc d.sequence⟩, .download result⟩
  | .verify correlation _, cancelled, input => ∃ result,
    (result = .error .cancelled → cancelled = true) ∧
    input = .effectCompleted
      ⟨⟨correlation.machine, saturatingSucc correlation.progressSequence⟩, .verify result⟩
  | .commitCandidate correlation _, _, input => ∃ result, input = .effectCompleted
    ⟨⟨correlation.machine, saturatingSucc correlation.progressSequence⟩, .commit result⟩
  | .finalizeFailure correlation _ _, _, input => ∃ result, input = .effectCompleted
    ⟨⟨correlation.machine, saturatingSucc correlation.progressSequence⟩, .finalize result⟩
  | .reverifyCandidate correlation _, _, input => ∃ result, input = .effectCompleted
    ⟨⟨correlation.machine, saturatingSucc correlation.progressSequence⟩, .recovery result⟩
  | .cancel correlation, _, input =>
    input = .effectCompleted ⟨correlation, .taskFailed .completionConflict⟩

end Updating

/-- What the callers of the service admit. -/
def callers (_ : Runner (continuation digest)) : ContinuationInput → Prop
  | .downloadRequested .. | .cancelRequested _ | .recoverRequested => True
  | .partialCommitted .. | .effectCompleted _ | .shutdownRequested => False

/-- The replies a download may get. It sees a cancellation only when its token is cancelled, and
an admission that is not handled is refused. -/
def Answers (cancelled : Bool) : (r : Request) → Reply r → Prop
  | .send _, reply => reply = .cancelled → cancelled = true
  | .nextPiece, reply => reply = .cancelled → cancelled = true
  | .admitPartial _, reply => ∃ error, reply = .error error
  | _, _ => True

/-- What happens to a download. -/
inductive Deed where
  | answered (request : Request) (reply : Reply request)
  -- the actor reduces the report
  | handled (offset : Nat)
  -- the deadline of the effect passes while the request waits
  | dropped (request : Request)

/-- A turn of the actor, or one of a download. `admits` restricts what happens to downloads. -/
inductive Updating.Step (maxArtifactBytes : Nat) (admits : Updating digest → Deed → Prop) :
    Updating digest → Updating digest → Prop where
  | kernel {u r} : StateMachine.Step u.executes callers u.runner r →
      Step maxArtifactBytes admits u { u with runner := r }
  | answers {u} {task : StateMachine.Task ContinuationEffect} {sequence request next reply} :
      task ∈ u.runner.tasks →
      u.download task.effect task.id = some ⟨sequence, .call request next⟩ →
      Answers task.cancelled request reply → admits u (.answered request reply) →
      Step maxArtifactBytes admits u
        (u.setDownload task.id ⟨DownloadTask.sequenceAfter sequence request, next reply⟩)
  | handles {u} {task : StateMachine.Task ContinuationEffect} {sequence offset next} :
      task ∈ u.runner.tasks → u.runner.phase = .running →
      u.download task.effect task.id = some ⟨sequence, .call (.admitPartial offset) next⟩ →
      admits u (.handled offset) →
      Step maxArtifactBytes admits u
        (setDownload { u with
            runner := u.runner.admitInput
              (.partialCommitted ⟨task.effect.correlation.machine, sequence⟩ offset) }
          task.id ⟨sequence, next (.ok ())⟩)
  | again {u} {task : StateMachine.Task ContinuationEffect}
      {correlation candidate sequence offset} :
      task ∈ u.runner.tasks → task.effect = .download correlation candidate →
      u.download task.effect task.id = some ⟨sequence, .done (.ok (some offset))⟩ →
      Step maxArtifactBytes admits u (u.setDownload task.id ⟨sequence,
        (round candidate.metadata.artifactSize maxArtifactBytes offset).run⟩)
  | drops {u} {task : StateMachine.Task ContinuationEffect} {sequence request next} :
      task ∈ u.runner.tasks → request.awaits = true →
      u.download task.effect task.id = some ⟨sequence, .call request next⟩ →
      admits u (.dropped request) →
      Step maxArtifactBytes admits u (u.setDownload task.id ⟨sequence, .done (.error .timeout)⟩)
  -- the report was sent before the deadline passed
  | dropsSent {u} {task : StateMachine.Task ContinuationEffect} {sequence offset next} :
      task ∈ u.runner.tasks →
      u.download task.effect task.id = some ⟨sequence, .call (.admitPartial offset) next⟩ →
      admits u (.dropped (.admitPartial offset)) →
      Step maxArtifactBytes admits u
        (setDownload { u with
            queued := .partialCommitted ⟨task.effect.correlation.machine, sequence⟩ offset ::
              u.queued } task.id ⟨sequence, .done (.error .timeout)⟩)
  | handlesLate {u} {before after : List ContinuationInput} {input} : u.runner.phase = .running →
      u.queued = before ++ input :: after →
      Step maxArtifactBytes admits u { u with
        runner := u.runner.admitInput input
        queued := before ++ after }

abbrev Updating.Run (maxArtifactBytes : Nat) (admits : Updating digest → Deed → Prop) :
    Updating digest → Updating digest → Prop :=
  Relation.ReflTransGen (Updating.Step maxArtifactBytes admits)

/-- Every counted report is recorded, and the machine handles it at an offset that is not behind
what it has. -/
def Reports (u : Updating digest) : Deed → Prop
  | .answered (.recordPartialCommit _) reply => reply = .ok ()
  | .answered (.admitPartial _) _ => False
  | .answered _ _ => True
  | .handled offset =>
    ∀ progress, u.runner.state.progress = some progress → progress.downloadedBytes ≤ offset
  | .dropped (.admitPartial _) => False
  | .dropped _ => True

/-- The states the service starts the machine in. -/
inductive Initial : ContinuationState → Prop where
  | stable : Initial .stable
  | interrupted (operation : ContinuationOperation) (progress : MachineProgress)
      (resumable : Bool) : Initial (.interrupted operation progress resumable)
  | recoveryRequired (operation : ContinuationOperation) (progress : MachineProgress)
      (reason : String) : Initial (.recoveryRequired operation progress .candidateCommit reason)

/-! ## The effect a busy state waits for -/

/-- The effect a busy state waits for. -/
def Serves : ContinuationState → ContinuationEffect → Prop
  | .downloading operation progress _ _, effect =>
    effect = .download (operation.correlation downloadEffectId 0) operation.candidate ∧
      progress.totalBytes = operation.candidate.metadata.artifactSize
  | .verifying operation progress _ _, effect => effect =
    .verify (operation.correlation verifyEffectId progress.sequence) operation.candidate
  | .committingCandidate operation progress _, effect => effect =
    .commitCandidate (operation.correlation commitCandidateEffectId progress.sequence)
      operation.candidate
  | .finalizing operation progress _ _ discard _, effect => effect =
    .finalizeFailure (operation.correlation finalizeEffectId progress.sequence)
      operation.candidate discard
  | .recovering operation progress _, effect => effect =
    .reverifyCandidate (operation.correlation reverifyEffectId progress.sequence)
      operation.candidate
  | _, _ => False

/-- The candidate that is being downloaded, and the last report that was handled. -/
def ContinuationState.reporting : ContinuationState → Option (AvailableCandidate × Nat)
  | .downloading operation progress _ _ => some (operation.candidate, progress.sequence)
  | _ => none

/-- From `s` to `t` the machine goes on waiting for the same effect. -/
structure Continues (s t : ContinuationState) : Prop where
  serves : ∀ effect, Serves s effect → Serves t effect
  reporting : t.reporting = s.reporting
  busy : t.isBusy = s.isBusy

theorem Continues.refl (s : ContinuationState) : Continues s s := ⟨fun _ => id, rfl, rfl⟩

def spawning (effects : List ContinuationEffect) : List ContinuationEffect :=
  effects.filter (·.mode = .spawn)

/-- The effect is spawned for the state it is emitted with. -/
structure Begins (t : ContinuationState) (effect : ContinuationEffect) : Prop where
  serves : Serves t effect
  fresh : ∀ candidate n, t.reporting = some (candidate, n) → n = 0

variable {s : ContinuationState} {effect : ContinuationEffect} {candidate : AvailableCandidate}
  {n : Nat} {progress : MachineProgress} {effects : List ContinuationEffect} {t : ContinuationState}
  {completion : ContinuationCompletion} {r : Runner (continuation digest)}
  {input : ContinuationInput}

theorem Serves.busy (serves : Serves s effect) : s.isBusy = true := by
  cases s with
  | downloading | verifying | committingCandidate | finalizing | recovering => rfl
  | _ => exact serves.elim

theorem Serves.reporting (serves : Serves s effect)
    (reporting : s.reporting = some (candidate, n)) :
    ∃ correlation, effect = .download correlation candidate ∧ correlation.progressSequence = 0 := by
  cases s with
  | downloading operation progress =>
    cases reporting
    exact ⟨_, serves.1, rfl⟩
  | _ => cases reporting

theorem busy_of_reporting {reported}
    (reporting : s.reporting = some reported) : s.isBusy = true := by
  cases s with
  | downloading => rfl
  | _ => cases reporting

theorem Serves.reporting_of_download {correlation}
    (serves : Serves s (.download correlation candidate)) (made : s.progress = some progress) :
    s.reporting = some (candidate, progress.sequence) := by
  cases s with
  | downloading =>
    cases made
    cases serves.1
    rfl
  | verifying | committingCandidate | finalizing | recovering => cases serves
  | _ => exact serves.elim

/-- Every other effect carries the sequence of the state that waits for it. -/
theorem Serves.sequence (serves : Serves s effect) (made : s.progress = some progress)
    (other : ∀ correlation candidate, effect ≠ .download correlation candidate) :
    effect.correlation.progressSequence = progress.sequence := by
  cases s with
  | downloading => exact absurd serves.1 (other _ _)
  | verifying | committingCandidate | finalizing | recovering =>
    cases made
    rw [show effect = _ from serves]
    rfl
  | _ => exact serves.elim

theorem accepts_machineCorrelation (operation : ContinuationOperation) (effectId : Nat) :
    operation.accepts (operation.machineCorrelation effectId) effectId = true := by
  simp [accepts, machineCorrelation]

theorem Serves.current (serves : Serves s effect) :
    s.effectIsCurrent effect.correlation.machine = true := by
  cases s with
  | downloading =>
    rw [serves.1]
    exact accepts_machineCorrelation _ _
  | verifying | committingCandidate | finalizing | recovering =>
    rw [show effect = _ from serves]
    exact accepts_machineCorrelation _ _
  | _ => exact serves.elim

theorem begins_unreported (serves : Serves t effect) (silent : t.reporting = none) :
    Begins t effect := by
  refine ⟨serves, fun candidate n reporting => ?_⟩
  rw [silent] at reporting
  cases reporting

/-- A completion that is applied moves on, and hands over to at most one effect. -/
theorem Advances.settled {s}
    (advances : Advances digest s (.effectCompleted completion) t effects) : t.awaited ≠ s.awaited ∧
    ((∃ effect, spawning effects = [effect] ∧ Begins t effect) ∨
    spawning effects = [] ∧ t.isBusy = false) := by
  cases advances with
  | downloaded | downloadEnded | verified | verifyEnded =>
    exact ⟨by simp [ContinuationState.awaited, downloadEffectId, verifyEffectId,
      commitCandidateEffectId, finalizeEffectId], .inl ⟨_, rfl, begins_unreported rfl rfl⟩⟩
  | @committed operation progress shutdownRequested | @commitUnknown operation progress shutdownRequested
  | @finalizeUnknown operation progress _ _ _ shutdownRequested =>
    cases shutdownRequested <;> exact ⟨(Option.some_ne_none _).symm, .inr ⟨rfl, rfl⟩⟩
  | @finalized operation progress stage terminal discard shutdownRequested =>
    cases terminal <;> cases shutdownRequested <;>
      exact ⟨(Option.some_ne_none _).symm, .inr ⟨rfl, rfl⟩⟩
  | recovered | recoveryFailed => exact ⟨(Option.some_ne_none _).symm, .inr ⟨rfl, rfl⟩⟩

/-- What a caller asks for starts an effect when none is at work, or leaves it at work. -/
theorem Advances.called {s} (called : callers r input)
    (advances : Advances digest s input t effects) :
    (s.isBusy = false ∧ ∃ effect, spawning effects = [effect] ∧ Begins t effect) ∨
    spawning effects = [] ∧ Continues s t := by
  cases advances with
  | requested idle =>
    refine .inl ⟨idle, _, rfl, ⟨rfl, rfl⟩, ?_⟩
    rintro candidate n reporting
    cases reporting
    rfl
  | recovers => exact .inl ⟨rfl, _, rfl, begins_unreported rfl rfl⟩
  | cancelsDownload | cancelsVerify => exact .inr ⟨rfl, fun _ => id, rfl, rfl⟩
  | _ => exact called.elim

theorem reduceShutdown_continues (s : ContinuationState) : spawning (reduceShutdown s).effects =
    [] ∧ (Continues s (reduceShutdown s).next ∨ (reduceShutdown s).next.isBusy = false) := by
  cases s with
  | downloading operation progress cancelRequested | verifying operation progress cancelRequested =>
    cases cancelRequested <;> exact ⟨rfl, .inl ⟨fun _ => id, rfl, rfl⟩⟩
  | committingCandidate | finalizing => exact ⟨rfl, .inl ⟨fun _ => id, rfl, rfl⟩⟩
  | _ => exact ⟨rfl, .inr rfl⟩

theorem Advances.shutdown {s} (advances : Advances digest s .shutdownRequested t effects) :
    spawning effects = [] ∧ (Continues s t ∨ t.isBusy = false) := by
  cases advances
  exact reduceShutdown_continues s

/-! ## Completions that are applied -/

/-- The outcome is one the effect returns. -/
def ContinuationEffectOutcome.answers : ContinuationEffectOutcome → ContinuationEffect → Prop
  | .download _, .download .. | .verify _, .verify .. | .commit _, .commitCandidate ..
  | .finalize _, .finalizeFailure .. | .recovery _, .reverifyCandidate ..
  | .taskFailed _, _ => True
  | _, _ => False

/-- In the state that waits for an effect, what the effect returns is applied. -/
theorem reduceCompletion_applied (serves : Serves s effect)
    (outcome : completion.outcome.answers effect)
    (fits : ∀ operation progress effectId, s.awaited = some (operation, effectId) →
    s.progress = some progress → correlates operation progress effectId completion = true) :
    (reduceCompletion s completion).disposition = .applied := by
  obtain ⟨correlation, answer⟩ := completion
  cases s with
  | downloading operation progress cancelRequested =>
    rw [serves.1] at outcome
    simp only [reduceCompletion, fits _ _ _ rfl rfl, if_true]
    cases cancelRequested <;> cases answer with
    | download result => rcases result with ⟨⟨⟩⟩ | _ <;> rfl
    | taskFailed => rfl
    | _ => exact outcome.elim
  | verifying operation progress cancelRequested =>
    rw [show effect = _ from serves] at outcome
    simp only [reduceCompletion, fits _ _ _ rfl rfl, if_true]
    cases cancelRequested <;> cases answer with
    | verify result => rcases result with ⟨⟨⟩⟩ | _ <;> rfl
    | taskFailed => rfl
    | _ => exact outcome.elim
  | committingCandidate | finalizing | recovering =>
    rw [show effect = _ from serves] at outcome
    simp only [reduceCompletion, fits _ _ _ rfl rfl, if_true]
    cases answer with
    | commit result | finalize result | recovery result =>
      first | exact outcome.elim | (cases result <;> rfl)
    | taskFailed => rfl
    | _ => exact outcome.elim
  | _ => exact serves.elim

/-! ## Reports -/

/-- The next report of the download is applied, unless it falls behind what the machine has. -/
theorem report_applied {sequence offset} (serves : Serves s effect)
    (reporting : s.reporting = some (candidate, n)) (due : sequence = saturatingSucc n)
    (within : offset ≤ candidate.metadata.artifactSize)
    (ahead : ∀ progress, s.progress = some progress → progress.downloadedBytes ≤ offset) :
    ∃ t, continuationReduce digest s
    (.partialCommitted ⟨effect.correlation.machine, sequence⟩ offset) = .accepted t ∧
    Serves t effect ∧ t.reporting = some (candidate, sequence) := by
  cases s with
  | downloading operation progress cancelRequested shutdownRequested =>
    cases reporting
    obtain ⟨rfl, total⟩ := serves
    have behind := ahead progress rfl
    refine ⟨.downloading operation ⟨offset, progress.totalBytes, sequence⟩ cancelRequested
      shutdownRequested, ?_, ⟨rfl, total⟩, rfl⟩
    have accepts := accepts_machineCorrelation operation downloadEffectId
    have low : ¬ offset < progress.downloadedBytes := by omega
    have high : ¬ progress.totalBytes < offset := by omega
    simp [continuationReduce, reduceContinuation, reducePartialCommitted, accepts, due, low, high,
      ContinuationEffect.correlation, correlation, Decision.applied,
      Decision.transition]
  | _ => cases reporting

theorem report_retired (reporting : s.reporting = none)
    (correlation : EffectCorrelation) (offset : Nat) :
    continuationReduce digest s (.partialCommitted correlation offset) = .retired := by
  cases s with
  | downloading => cases reporting
  | _ => rfl

/-! ## What is kept -/

section
variable {u : Updating digest} {effect : ContinuationEffect} {id : Nat} {d : DownloadTask}
  {task : StateMachine.Task ContinuationEffect} {joined : Joined ContinuationInput}

/-- The download of the task counts on from the last report that was handled. -/
def Updating.Level (u : Updating digest) (effect : ContinuationEffect) (id : Nat) : Prop :=
  ∀ candidate n, u.runner.state.reporting = some (candidate, n) →
    ∃ d, u.download effect id = some d ∧
      Counts candidate.metadata.artifactSize d.program ⟨d.sequence, n⟩

/-- One effect is in flight, the one the state waits for. -/
def Updating.Attended (u : Updating digest) : Prop :=
  ∃ effect id, u.runner.roster = [(effect, id)] ∧ Serves u.runner.state effect ∧ u.Level effect id

structure Kept (u : Updating digest) : Prop where
  conserved : Conserved [] u.runner
  fresh : ∀ n, u.runner.nextId ≤ n → u.downloads n = none
  handled : u.queued = []
  attended : u.runner.phase.live = true → u.runner.state.isBusy = true → u.Attended
  idle : u.runner.phase = .running → u.runner.state.isBusy = false → u.runner.roster = []

theorem kept_start {initial} (h : Initial initial) :
    Kept (Updating.start initial : Updating digest) where
  conserved := conserved_start (M := continuation digest) initial
  fresh := fun _ _ => rfl
  handled := rfl
  attended := by
    intro _ busy
    cases h <;> cases busy
  idle := fun _ _ => rfl

/-- A task that was just spawned has its download before it. -/
theorem level_spawned (begins : Begins r.state effect) (new : u.downloads id = none) :
    ({ u with runner := r } : Updating digest).Level effect id := by
  intro candidate n reporting
  obtain rfl := begins.fresh candidate n reporting
  obtain ⟨correlation, rfl, zero⟩ := begins.serves.reporting reporting
  refine ⟨_, by simp only [Updating.download, new]; rfl, ?_⟩
  exact counts_prologue zero

/-- The actor hands over to one new effect. -/
theorem Kept.begins (h : Kept u) (conserved : Conserved [] r)
    (roster : r.roster = [(effect, u.runner.nextId)]) (nextId : r.nextId = u.runner.nextId + 1)
    (begins : Begins r.state effect) : Kept { u with runner := r } where
  conserved := conserved
  fresh := fun n later => h.fresh n (by
    have : u.runner.nextId + 1 ≤ n := nextId ▸ later
    omega)
  handled := h.handled
  attended := fun _ _ => ⟨effect, _, roster, begins.serves,
    level_spawned begins (h.fresh _ (Nat.le_refl _))⟩
  idle := fun _ still => absurd (begins.serves.busy.symm.trans still) nofun

theorem Kept.rests (h : Kept u) (conserved : Conserved [] r) (nextId : u.runner.nextId ≤ r.nextId)
    (rests : r.state.isBusy = false) (roster : r.phase = .running → r.roster = []) :
    Kept { u with runner := r } where
  conserved := conserved
  fresh := fun n later => h.fresh n (Nat.le_trans nextId later)
  handled := h.handled
  attended := fun _ busy => absurd (rests.symm.trans busy) nofun
  idle := fun running _ => roster running

/-- The machine goes on waiting for the effect it has. -/
theorem Kept.continues (h : Kept u) (conserved : Conserved [] r)
    (nextId : u.runner.nextId ≤ r.nextId) (continues : Continues u.runner.state r.state)
    (roster : r.roster = u.runner.roster) (live : r.phase.live = true → u.runner.phase.live = true)
    (running : r.phase = .running → u.runner.phase = .running) : Kept { u with runner := r } where
  conserved := conserved
  fresh := fun n later => h.fresh n (Nat.le_trans nextId later)
  handled := h.handled
  attended := by
    intro lives busy
    obtain ⟨effect, id, one, serves, level⟩ := h.attended (live lives) (continues.busy ▸ busy)
    refine ⟨effect, id, roster.trans one, continues.serves effect serves, ?_⟩
    intro candidate n reporting
    exact level candidate n (continues.reporting ▸ reporting)
  idle := fun runs still => roster.trans (h.idle (running runs) (continues.busy ▸ still))

theorem Kept.over (h : Kept u) (conserved : Conserved [] r)
    (nextId : u.runner.nextId ≤ r.nextId) (gone : r.phase.live = false) :
    Kept { u with runner := r } where
  conserved := conserved
  fresh := fun n later => h.fresh n (Nat.le_trans nextId later)
  handled := h.handled
  attended := fun live _ => absurd (gone.symm.trans live) nofun
  idle := by
    intro running _
    have runs : r.phase = .running := running
    rw [runs] at gone
    cases gone

/-! ## One step -/

/-- A finished download has counted what was handled, and no more. -/
theorem DownloadTask.finished_level {result size n} (finished : d.finished = some result)
    (counts : Counts size d.program ⟨d.sequence, n⟩) : d.sequence = n := by
  obtain ⟨sequence, program⟩ := d
  cases program with
  | done result => exact counts
  | call request next => cases finished

/-- What settles the effect of a busy state is a completion the machine applies. -/
theorem settles_applied (roster : u.runner.roster = [(effect, id)])
    (serves : Serves u.runner.state effect) (level : u.Level effect id)
    (settles : Settles u.executes u.runner.state effect input) :
    ∃ completion, input = .effectCompleted completion ∧
    (reduceCompletion u.runner.state completion).disposition = .applied := by
  -- the machine's own correlation, with a fitting sequence or a failure
  have fits {answer : ContinuationEffectOutcome} {sequence : Nat}
      (next : answer.isTaskFailed = true ∨ ∀ progress, u.runner.state.progress = some progress →
        sequence = saturatingSucc progress.sequence) (operation : ContinuationOperation)
      (progress : MachineProgress) (effectId : Nat)
      (awaited : u.runner.state.awaited = some (operation, effectId))
      (made : u.runner.state.progress = some progress) :
      correlates operation progress effectId ⟨⟨effect.correlation.machine, sequence⟩, answer⟩ =
        true := by
    have current := serves.current
    unfold ContinuationState.effectIsCurrent at current
    rw [awaited] at current
    unfold correlates
    rw [show operation.accepts effect.correlation.machine effectId = true from current,
      Bool.true_and]
    rcases next with failed | next
    · rw [failed, Bool.true_or]
    · rw [next progress made, beq_self_eq_true, Bool.or_true]
  have own (other : ∀ correlation candidate, effect ≠ .download correlation candidate)
      (progress : MachineProgress) (made : u.runner.state.progress = some progress) :
      saturatingSucc effect.correlation.progressSequence = saturatingSucc progress.sequence := by
    rw [serves.sequence made other]
  rcases settles with ⟨cancelled, executes, _⟩ | ⟨failure, rfl⟩
  · cases effect with
    | download correlation candidate =>
      obtain ⟨other, d, result, listed, is, finished, rfl⟩ := executes
      refine ⟨_, rfl, reduceCompletion_applied serves trivial (fits (.inr fun progress made => ?_))⟩
      have here : (ContinuationEffect.download correlation candidate, other) ∈
          [(ContinuationEffect.download correlation candidate, id)] := roster ▸ listed
      cases mem_singleton.1 here
      obtain ⟨d', is', counts⟩ := level _ _ (serves.reporting_of_download made)
      cases is.symm.trans is'
      rw [d.finished_level finished counts]
    | verify correlation candidate =>
      obtain ⟨result, _, rfl⟩ := executes
      exact ⟨_, rfl, reduceCompletion_applied serves trivial (fits (.inr (own nofun)))⟩
    | commitCandidate | finalizeFailure | reverifyCandidate =>
      obtain ⟨result, rfl⟩ := executes
      exact ⟨_, rfl, reduceCompletion_applied serves trivial (fits (.inr (own nofun)))⟩
    | cancel correlation =>
      obtain rfl := executes
      exact ⟨_, rfl, reduceCompletion_applied serves trivial (fits (.inl rfl))⟩
  · exact ⟨_, rfl, reduceCompletion_applied serves (by cases effect <;> exact trivial)
      (fits (.inl rfl))⟩

theorem settles_completion (settles : Settles u.executes s effect input) :
    ∃ completion, input = .effectCompleted completion := by
  rcases settles with ⟨cancelled, executes, _⟩ | ⟨failure, rfl⟩
  · cases effect with
    | download =>
      obtain ⟨_, _, _, _, _, _, is⟩ := executes
      exact ⟨_, is⟩
    | verify =>
      obtain ⟨_, _, is⟩ := executes
      exact ⟨_, is⟩
    | commitCandidate | finalizeFailure | reverifyCandidate =>
      obtain ⟨_, is⟩ := executes
      exact ⟨_, is⟩
    | cancel => exact ⟨_, executes⟩
  · exact ⟨_, rfl⟩

theorem completion_advances {completion}
    (applied : (reduceCompletion s completion).disposition = .applied) :
    ∃ t effects, continuationReduce digest s (.effectCompleted completion) =
    (Decision.applied t effects).transition ∧
    Advances digest s (.effectCompleted completion) t effects := by
  have steps : (reduceCompletion s completion).Steps digest s (.effectCompleted completion) :=
    steps_completion s completion
  rcases steps with ⟨is, advances⟩ | ⟨_, is, idle⟩
  · exact ⟨_, _, congrArg Decision.transition is, advances⟩
  · rw [is] at applied
    exact absurd applied idle

theorem spawned_applied (t : ContinuationState) (effects : List ContinuationEffect) :
    (continuation digest).spawned (Decision.applied t effects).transition = spawning effects :=
  congrArg (List.filter fun effect : ContinuationEffect => effect.mode = .spawn)
    (transition_of_applied t t effects).2

theorem reduceCompletion_rests (rests : s.isBusy = false) (completion : ContinuationCompletion) :
    reduceCompletion s completion = .unchanged s .retiredCompletion := by
  cases s with
  | downloading | verifying | committingCandidate | finalizing | recovering => cases rests
  | _ => rfl

/-- How the one effect of a busy state is settled. -/
theorem Updating.Attended.settled (h : u.Attended) (conserved : Conserved [] u.runner)
    (member : task ∈ u.runner.tasks) (ends : u.executes.Ends task joined) (force : Bool) :
    ∃ t effects completion, Advances digest u.runner.state (.effectCompleted completion) t effects ∧
    (u.runner.finishEffect task.id joined force).2 =
    some (Decision.applied t effects).transition.disposition ∧
    (u.runner.finishEffect task.id joined force).1.state = t ∧
    (u.runner.finishEffect task.id joined force).1.roster =
    (spawning effects).zipIdx u.runner.nextId ∧
    (u.runner.finishEffect task.id joined force).1.nextId =
    u.runner.nextId + (spawning effects).length := by
  obtain ⟨effect, id, roster, serves, level⟩ := h
  have here : (task.effect, task.id) ∈ u.runner.roster := mem_map.2 ⟨task, member, rfl⟩
  have same : (task.effect, task.id) = (effect, id) := mem_singleton.1 (roster ▸ here)
  cases same
  obtain ⟨input, settles, moved⟩ := finishEffect_moved conserved member ends force
  obtain ⟨completion, rfl, applied⟩ := settles_applied roster serves level settles
  obtain ⟨t, effects, decided, advances⟩ := completion_advances applied
  obtain ⟨⟨state, roster', nextId⟩, returns⟩ := moved _ (congrArg some decided)
  have emptied : (u.runner.without task.id).roster = [] := by
    have length := (inFlight_without conserved member).length_eq
    have one := congrArg List.length roster
    simp only [Runner.inFlight, Runner.roster, length_map, length_cons,
      length_nil] at length one
    refine eq_nil_of_length_eq_zero ?_
    simp only [Runner.roster, length_map]
    omega
  rw [spawned_applied] at roster' nextId
  rw [emptied, nil_append] at roster'
  exact ⟨t, effects, completion, advances, returns,
    state.trans (transition_of_applied _ t effects).1, roster', nextId⟩

theorem Kept.joins (h : Kept u) (member : task ∈ u.runner.tasks)
    (ends : u.executes.Ends task joined) {force} (live : u.runner.phase.live = true)
    {next : Disposition → Phase UpdateOperationError}
    (running : ∀ disposition, next disposition = .running → u.runner.phase = .running)
    (conserved : Conserved [] (Runner.continueWith
      (u.runner.finishEffect task.id joined force) next)) : Kept { u with
      runner := Runner.continueWith (u.runner.finishEffect task.id joined force) next } := by
  cases busy : u.runner.state.isBusy with
  | true =>
    obtain ⟨t, effects, completion, advances, returns, state, roster, nextId⟩ :=
      (h.attended live busy).settled h.conserved member ends force
    simp only [Runner.continueWith, returns] at conserved ⊢
    rcases advances.settled.2 with ⟨effect, one, begins⟩ | ⟨none, rests⟩
    · rw [one] at roster nextId
      exact h.begins conserved roster nextId (state ▸ begins)
    · rw [none] at roster nextId
      exact h.rests conserved (Nat.le_of_eq nextId.symm) (state ▸ rests) fun _ => roster
  | false =>
    obtain ⟨input, settles, moved⟩ := finishEffect_moved h.conserved member ends force
    obtain ⟨completion, rfl⟩ := settles_completion settles
    have decided : continuationReduce digest u.runner.state (.effectCompleted completion) =
        .retired := congrArg Decision.transition (reduceCompletion_rests busy completion)
    obtain ⟨⟨state, roster, nextId⟩, returns⟩ := moved _ (congrArg some decided)
    simp only [Runner.continueWith, returns] at conserved ⊢
    refine h.rests conserved (Nat.le_of_eq nextId.symm) (state ▸ busy) fun runs => ?_
    have none := h.idle (running _ runs) busy
    rw [Runner.roster, map_eq_nil_iff] at none
    rw [none] at member
    cases member

/-- What the actor is after it has reduced an input that is no completion. -/
theorem admitInput_moved (r : Runner (continuation digest)) (input : ContinuationInput) :
    r.Moved (continuationReduce digest r.state input) (r.admitInput input) ∧
    (r.admitInput input).phase = .running := by
  have reduces : (continuation digest).reduce r.state input =
      some (continuationReduce digest r.state input) := rfl
  obtain ⟨⟨state, roster, nextId⟩, returns⟩ :=
    applyInputWithRole_moved reduces .admission .operation
  simp only [Runner.admitInput, Runner.continueWith, Runner.applyInput, returns]
  exact ⟨⟨state, roster, nextId⟩, trivial⟩

theorem applyShutdown_moved (r : Runner (continuation digest)) :
    r.Moved (continuationReduce digest r.state .shutdownRequested) r.applyShutdown ∧
    ∃ result outcome, r.applyShutdown.phase = .draining result outcome := by
  have reduces : (continuation digest).reduce r.state .shutdownRequested =
      some (continuationReduce digest r.state .shutdownRequested) := rfl
  obtain ⟨⟨state, roster, nextId⟩, _⟩ := applyInputWithRole_moved reduces .shutdown .operation
  exact ⟨⟨state, roster, nextId⟩, _, _, rfl⟩

theorem Kept.admits (h : Kept u) (running : u.runner.phase = .running)
    (called : callers u.runner input) (conserved : Conserved [] (u.runner.admitInput input)) :
    Kept { u with runner := u.runner.admitInput input } := by
  obtain ⟨⟨state, roster, nextId⟩, phase⟩ := admitInput_moved u.runner input
  have goesOn (none : (continuation digest).spawned
        (continuationReduce digest u.runner.state input) = [])
      (continues : Continues u.runner.state
        ((continuationReduce digest u.runner.state input).next u.runner.state)) :
      Kept { u with runner := u.runner.admitInput input } := by
    rw [none] at roster nextId
    refine h.continues conserved (Nat.le_of_eq nextId.symm) (state ▸ continues) ?_
      (fun _ => by rw [running]; rfl) fun _ => running
    rw [roster, zipIdx_nil, append_nil]
  rcases advances_or_idle digest u.runner.state input with advances | idle
  · rcases advances.called called with ⟨free, effect, one, begins⟩ | ⟨none, continues⟩
    · have one : (continuation digest).spawned
          (continuationReduce digest u.runner.state input) = [effect] := one
      rw [one] at roster nextId
      rw [h.idle running free] at roster
      exact h.begins conserved roster nextId (state ▸ begins)
    · exact goesOn none continues
  · refine goesOn ?_ ?_
    · exact congrArg spawning idle.2
    · exact idle.1.symm ▸ .refl _

theorem Kept.kernel (h : Kept u) (step : StateMachine.Step u.executes callers u.runner r) :
    Kept { u with runner := r } := by
  have conserved := h.conserved.step step
  cases step with
  | admitInput input running called => exact h.admits running called conserved
  | join task joined running _ member ends =>
    exact h.joins member ends (by rw [running]; rfl) (fun _ _ => running) conserved
  | shutdown running =>
    obtain ⟨⟨state, roster, nextId⟩, _, _, phase⟩ := applyShutdown_moved u.runner
    have reduced : (continuation digest).spawned
        (continuationReduce digest u.runner.state .shutdownRequested) = [] ∧
        (Continues u.runner.state u.runner.applyShutdown.state ∨
          ContinuationState.isBusy u.runner.applyShutdown.state = false) := by
      rw [state]
      rcases advances_or_idle digest u.runner.state .shutdownRequested with advances | idle
      · exact advances.shutdown
      · exact ⟨congrArg spawning idle.2, .inl (idle.1.symm ▸ .refl _)⟩
    rw [reduced.1] at roster nextId
    rcases reduced.2 with continues | rests
    · refine h.continues conserved (Nat.le_of_eq nextId.symm) continues ?_
        (fun _ => by rw [running]; rfl) fun _ => running
      rw [roster, zipIdx_nil, append_nil]
    · refine h.rests conserved (Nat.le_of_eq nextId.symm) rests fun runs => ?_
      cases runs
  | drainJoin task joined draining member ends =>
    exact h.joins member ends (by rw [draining]; rfl) nofun conserved
  | finalizerJoin task joined finalizing member ends =>
    exact h.joins member ends (by rw [finalizing]; rfl) nofun conserved
  | drained | finalized | finalizerDeadline | abort =>
    exact h.over conserved (Nat.le_refl _) rfl
  | shutdownDeadline draining =>
    refine h.continues conserved (Nat.le_refl _) (.refl _) ?_ (by rw [draining]; exact id) nofun
    exact map_cancelled u.runner.tasks _ fun id effect => (effect, id)

/-! ## The steps of a download -/

theorem roster_of_attended (h : u.Attended) (listed : (effect, id) ∈ u.runner.roster) :
    u.runner.roster = [(effect, id)] ∧ Serves u.runner.state effect ∧ u.Level effect id := by
  obtain ⟨effect', id', roster, serves, level⟩ := h
  have same : (effect, id) = (effect', id') := mem_singleton.1 (roster ▸ listed)
  cases same
  exact ⟨roster, serves, level⟩

theorem download_setDownload : (u.setDownload id d).download effect id = some d := by
  simp [Updating.download, Updating.setDownload]

theorem Kept.fresh_setDownload (h : Kept u) (listed : (effect, id) ∈ u.runner.roster)
    (d : DownloadTask) (n : Nat) (later : u.runner.nextId ≤ n) :
    (u.setDownload id d).downloads n = none := by
  obtain ⟨task, member, same⟩ := mem_map.1 listed
  cases same
  have below := h.conserved.task_lt member
  have other : n ≠ task.id := by omega
  simp only [Updating.setDownload, other, if_false]
  exact h.fresh n later

/-- A download goes on, its count level with the machine. -/
theorem Kept.downloads (h : Kept u) (listed : (effect, id) ∈ u.runner.roster)
    {d'} (is : u.download effect id = some d)
    (keeps : ∀ correlation candidate n, u.runner.state.reporting = some (candidate, n) →
    effect = .download correlation candidate →
    Counts candidate.metadata.artifactSize d.program ⟨d.sequence, n⟩ →
    Counts candidate.metadata.artifactSize d'.program ⟨d'.sequence, n⟩) :
    Kept (u.setDownload id d') :=
  { h with
    fresh := h.fresh_setDownload listed d'
    attended := by
      intro live busy
      obtain ⟨roster, serves, level⟩ := roster_of_attended (h.attended live busy) listed
      refine ⟨_, _, roster, serves, fun candidate n reporting => ?_⟩
      obtain ⟨correlation, made, _⟩ := serves.reporting reporting
      obtain ⟨same, is', counts⟩ := level candidate n reporting
      cases is.symm.trans is'
      exact ⟨d', download_setDownload, keeps correlation candidate n reporting made counts⟩ }

/-- The replies under which every counted report is recorded. -/
theorem faithful_of_reports {request reply sequence n}
    (reports : Reports u (.answered request reply)) :
    faithful ⟨sequence, n⟩ request reply ⟨DownloadTask.sequenceAfter sequence request, n⟩ := by
  cases request with
  | recordPartialCommit => exact ⟨reports, rfl⟩
  | admitPartial => exact reports.elim
  | _ => rfl

/-- A report that carries the next number is applied, and the count is level again. -/
theorem Kept.handles (h : Kept u) (listed : (effect, id) ∈ u.runner.roster)
    (running : u.runner.phase = .running) {sequence offset next}
    (is : u.download effect id = some ⟨sequence, .call (.admitPartial offset) next⟩)
    (reports : Reports u (.handled offset)) : Kept (Updating.setDownload { u with
      runner := u.runner.admitInput
        (.partialCommitted ⟨effect.correlation.machine, sequence⟩ offset) }
      id ⟨sequence, next (.ok ())⟩) := by
  have step : StateMachine.Step u.executes (fun _ _ => True) u.runner
      (u.runner.admitInput (.partialCommitted ⟨effect.correlation.machine, sequence⟩ offset)) :=
    .admitInput _ running trivial
  have conserved := h.conserved.step step
  obtain ⟨moved, phase⟩ := admitInput_moved u.runner
    (.partialCommitted ⟨effect.correlation.machine, sequence⟩ offset)
  cases reporting : u.runner.state.reporting with
  | none =>
    rw [report_retired reporting] at moved
    have same := moved.roster.trans (append_nil _)
    have kept := h.continues conserved (Nat.le_of_eq moved.nextId.symm)
      (moved.state ▸ .refl u.runner.state) same (fun _ => by rw [running]; rfl) fun _ => running
    refine kept.downloads (same ▸ listed) is fun _ candidate n reports => ?_
    have before : u.runner.state.reporting = some (candidate, n) :=
      (congrArg ContinuationState.reporting moved.state).symm.trans reports
    cases reporting.symm.trans before
  | some reported =>
    obtain ⟨candidate, n⟩ := reported
    have busy : u.runner.state.isBusy = true := busy_of_reporting reporting
    obtain ⟨roster, serves, level⟩ :=
      roster_of_attended (h.attended (by rw [running]; rfl) busy) listed
    obtain ⟨d, is', counts⟩ := level candidate n reporting
    cases is.symm.trans is'
    obtain ⟨⟨due, within⟩, later⟩ := counts
    obtain ⟨t, decided, serves', reporting'⟩ :=
      report_applied serves reporting due within reports
    rw [decided] at moved
    have same := moved.roster.trans (append_nil _)
    refine ⟨conserved, fun n later => ?_, h.handled, fun _ _ => ?_, fun _ rests => ?_⟩
    · have later : u.runner.nextId ≤ n := Nat.le_trans (Nat.le_of_eq moved.nextId.symm) later
      exact h.fresh_setDownload listed _ n later
    · refine ⟨effect, id, same.trans roster, moved.state.symm ▸ serves', ?_⟩
      intro candidate' n' reports
      have after : t.reporting = some (candidate', n') :=
        (congrArg ContinuationState.reporting moved.state).symm.trans reports
      cases reporting'.symm.trans after
      refine ⟨_, download_setDownload, ?_⟩
      have handled := later (.ok ()) _ ⟨rfl, rfl⟩
      exact due ▸ handled
    · have rests : t.isBusy = false :=
        (congrArg ContinuationState.isBusy moved.state).symm.trans rests
      exact absurd (serves'.busy.symm.trans rests) nofun

variable {v : Updating digest}

theorem Kept.step (h : Kept u) (step : Updating.Step maxArtifactBytes Reports u v) : Kept v := by
  have listed {task : StateMachine.Task ContinuationEffect} (member : task ∈ u.runner.tasks) :
      (task.effect, task.id) ∈ u.runner.roster := mem_map.2 ⟨task, member, rfl⟩
  cases step with
  | kernel step => exact h.kernel step
  | answers member is _ reports =>
    refine h.downloads (listed member) is fun _ _ n _ _ counts => ?_
    exact counts.2 _ _ (faithful_of_reports reports)
  | handles member running is reports => exact h.handles (listed member) running is reports
  | again member effect is =>
    refine h.downloads (listed member) is fun _ _ n _ same counts => ?_
    cases effect.symm.trans same
    exact counts_round counts
  | @drops task sequence request _ member awaits is reports =>
    refine h.downloads (listed member) is fun _ _ n _ _ counts => ?_
    cases request with
    | admitPartial => exact reports.elim
    | recordPartialCommit => cases awaits
    | _ => exact counts.1
  | dropsSent _ _ reports => exact reports.elim
  | handlesLate _ queued =>
    rw [h.handled] at queued
    simp at queued

theorem Kept.run (h : Kept u) (run : Updating.Run maxArtifactBytes Reports u v) : Kept v := by
  induction run with
  | refl => exact h
  | tail _ step ih => exact ih.step step

end

theorem disposition_applied (t : ContinuationState) (effects : List ContinuationEffect) :
    (Decision.applied t effects).transition.disposition ≠ .retired := by
  cases effects with
  | cons => exact nofun
  | nil => cases t <;> exact nofun

/-- In every run in which each counted report is recorded and handled, at an offset that is not
behind what the machine has, a busy state owns exactly one effect. However the task of that effect
ends, it is not retired and moves the machine out of the state. -/
theorem download_always_ends {initial : ContinuationState} {u : Updating digest}
    (h : Initial initial) (run : Updating.Run maxArtifactBytes Reports (.start initial) u)
    (live : u.runner.phase.live = true) (busy : u.runner.state.isBusy = true) :
    ∃ task owned, u.runner.tasks = [task] ∧ u.runner.owned = [owned] ∧ owned.task = task.id ∧
      u.runner.state.effectIsCurrent owned.correlation = true ∧
      ∀ joined force, u.executes.Ends task joined →
        (∃ disposition, (u.runner.finishEffect task.id joined force).2 = some disposition ∧
          disposition ≠ .retired) ∧
        ContinuationState.awaited (u.runner.finishEffect task.id joined force).1.state ≠
          u.runner.state.awaited := by
  have kept := (kept_start h).run run
  obtain ⟨effect, id, roster, serves, _⟩ := kept.attended live busy
  obtain ⟨task, tasks, same⟩ := map_eq_singleton_iff.1 roster
  cases same
  have aligned := kept.conserved.aligned
  rw [tasks] at aligned
  obtain ⟨owned, owns, same⟩ := map_eq_singleton_iff.1 aligned.symm
  obtain ⟨named, correlation⟩ := Prod.mk.inj same
  refine ⟨task, owned, tasks, owns, named, ?_, fun joined force ends => ?_⟩
  · rw [correlation]
    exact serves.current
  · have member : task ∈ u.runner.tasks := tasks ▸ mem_singleton_self task
    obtain ⟨t, effects, completion, advances, returns, state, _⟩ :=
      (kept.attended live busy).settled kept.conserved member ends force
    refine ⟨⟨_, returns, disposition_applied t effects⟩, ?_⟩
    rw [state]
    exact advances.settled.1

/-! ## A download that never ends -/

/-- A download has been requested. -/
def requested : Updating id where
  runner := (Runner.start (M := continuation id) .stable).admitInput (M := continuation id)
    (.downloadRequested (sampleOperation 1) (sampleOuter .available) 0)
  downloads := fun _ => none
  queued := []

theorem run_requested (admits : Updating id → Deed → Prop) :
    Updating.Run 8 admits (.start .stable) requested :=
  .single (.kernel (.admitInput _ rfl trivial))

theorem download_always_ends_sample :
    ContinuationState.isBusy requested.runner.state = true ∧ ∃ task owned,
      requested.runner.tasks = [task] ∧ requested.runner.owned = [owned] ∧
      owned.task = task.id ∧
      ContinuationState.effectIsCurrent requested.runner.state owned.correlation = true ∧
      ∀ joined force, requested.executes.Ends task joined →
        (∃ disposition, (requested.runner.finishEffect task.id joined force).2 =
          some disposition ∧ disposition ≠ .retired) ∧
        ContinuationState.awaited (requested.runner.finishEffect task.id joined force).1.state ≠
          ContinuationState.awaited requested.runner.state :=
  ⟨by decide +kernel,
    download_always_ends .stable (run_requested Reports) (by decide +kernel) (by decide +kernel)⟩

/-- The replies of a request, and the sequence after it. -/
def answering (cancelled : Bool) : Environment Request Reply Nat :=
  fun n r reply m => Answers cancelled r reply ∧ m = DownloadTask.sequenceAfter n r

/-- The requests of a download are answered one after another. -/
theorem run_answering {u : Updating digest} {task : StateMachine.Task ContinuationEffect}
    (member : task ∈ u.runner.tasks) {p q} {m : Nat}
    (exec : Exec (answering task.cancelled) p n q m)
    (is : u.download task.effect task.id = some ⟨n, p⟩) :
    ∃ v, Updating.Run maxArtifactBytes (fun _ _ => True) u v ∧ v.runner = u.runner ∧
    v.download task.effect task.id = some ⟨m, q⟩ := by
  induction exec generalizing u with
  | stop => exact ⟨u, .refl, rfl, is⟩
  | step answered _ ih =>
    obtain ⟨answers, rfl⟩ := answered
    have step : Updating.Step maxArtifactBytes (fun _ _ => True) u _ :=
      .answers member is answers trivial
    obtain ⟨v, run, same, after⟩ := ih (u := u.setDownload task.id _) member
      download_setDownload
    exact ⟨v, .head step run, same, after⟩

/-- One chunk arrives, and its partial commit cannot be recorded. -/
def unrecorded (n : Nat) (r : Request) : Reply r × Nat :=
  (match r with
    | .preparePartial => .ok .default
    | .requestUrl | .resetPartial | .setPartialEtag _ => .ok ()
    | .send _ => .response ⟨200, none, none, none, none⟩
    | .openPayload _ | .writeAll _ | .syncPayload => true
    | .nextPiece => .chunk 8
    | .count => ()
    | .recordPartialCommit _ | .admitPartial _ => .error .storeIo,
  DownloadTask.sequenceAfter n r)

theorem unrecorded_answers (n : Nat) (r : Request) :
    answering false n r (unrecorded n r).1 (unrecorded n r).2 := by
  refine ⟨?_, rfl⟩
  cases r with
  | send | nextPiece => exact nofun
  | admitPartial => exact ⟨_, rfl⟩
  | _ => trivial

/-- The task of the download. -/
def requestedTask : StateMachine.Task ContinuationEffect :=
  ⟨0, .download ((sampleOperation 1).correlation downloadEffectId 0) sampleCandidate, false⟩

/-- What the download returns. -/
def unrecordedCompletion : ContinuationInput :=
  sampleCompletion downloadEffectId 2 (.download (.error .storeIo))

/-- What a runner of the machine holds, under the machine's own types. -/
def held {digest : String → String} (r : Runner (continuation digest)) :
    ContinuationState × List (StateMachine.Task ContinuationEffect) × List OwnedEffect ×
      Option (Option (Transition ContinuationState ContinuationEffect UpdateOperationError)) :=
  (r.state, r.tasks, r.owned, r.reductions.head?.map (·.transition))

theorem tasks_requested : requested.runner.tasks = [requestedTask] := by
  have tasks : (held requested.runner).2.1 = [requestedTask] := by decide +kernel
  exact tasks

/-- The actor has taken the completion. -/
def stuckRunner : Runner (continuation id) :=
  requested.runner.join requestedTask.id (.completed unrecordedCompletion)

theorem held_stuckRunner : held stuckRunner =
    (.downloading (sampleOperation 1) ⟨0, 8, 0⟩ false false, [], [], some (some .retired)) := by
  decide +kernel

/-- A partial commit that is counted and not recorded puts the count one ahead. The completion is
retired, and the machine is left downloading with no effect in flight. -/
theorem download_never_ends :
    ∃ u : Updating id, Updating.Run 8 (fun _ _ => True) (.start .stable) u ∧
      u.runner.phase = .running ∧
      held u.runner = (.downloading (sampleOperation 1) ⟨0, 8, 0⟩ false false, [], [],
        some (some .retired)) := by
  have listed : requestedTask ∈ requested.runner.tasks :=
    tasks_requested ▸ mem_singleton_self _
  obtain ⟨v, opens, same, opened⟩ := run_answering listed
    (exec_run unrecorded_answers (prologue 8).run 0) rfl
  have enters : Updating.Step 8 (fun _ _ => True) v _ :=
    .again (same.symm ▸ listed) rfl opened
  obtain ⟨w, reads, same', read⟩ := run_answering
    (same.symm ▸ listed) (exec_run unrecorded_answers (round 8 8 0).run 0)
    download_setDownload
  have runner : w.runner = requested.runner := same'.trans same
  have returns : w.executes.Ends requestedTask (.completed unrecordedCompletion) :=
    ⟨0, _, .error .storeIo, mem_map.2 ⟨_, runner.symm ▸ listed, rfl⟩, read, rfl, rfl⟩
  have owned : requested.runner.owned ≠ [] := by decide +kernel
  have joins : StateMachine.Step w.executes callers w.runner stuckRunner := by
    rw [runner]
    exact .join requestedTask _ rfl owned listed returns
  exact ⟨_, (((run_requested _).trans opens).tail enters).trans reads |>.tail (.kernel joins),
    rfl, held_stuckRunner⟩

end Mish.Updater
