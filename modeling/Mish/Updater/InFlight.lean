import Mish.Updater.Ending
import Mish.Updater.Runtime

/-!
# What the updater's actors have in flight

Each of the two actors has at most one effect in flight, and its state says which kind.
-/

namespace Mish.Updater
open StateMachine ContinuationState

variable {digest : String → String}

/-! ## The two machines -/

/-- The operation a continuation is working on. A recovery is not one. -/
def ContinuationState.working : ContinuationState → Option ContinuationOperation
  | .downloading operation .. | .verifying operation .. | .committingCandidate operation ..
  | .finalizing operation .. => some operation
  | _ => none

def ContinuationInput.isRequest : ContinuationInput → Bool
  | .downloadRequested .. => true
  | _ => false

def CheckInput.isRequest : CheckInput → Bool
  | .checkRequested .. => true
  | _ => false

/-- The effects of a download. -/
def ContinuationEffect.isWork : ContinuationEffect → Bool
  | .download .. | .verify .. | .commitCandidate .. | .finalizeFailure .. => true
  | .reverifyCandidate .. | .cancel _ => false

variable {effects : List ContinuationEffect} {s t : ContinuationState} {input : ContinuationInput}
  {effect : ContinuationEffect}
  {transition : Transition CheckState CheckEffect UpdateOperationError}

/-- Only a request starts to work on an operation. -/
theorem Advances.working {operation}
    (advances : Advances digest s input t effects) (other : input.isRequest = false)
    (works : t.working = some operation) : s.working = some operation := by
  cases advances with
  | requested => cases other
  | reported | cancelsDownload | cancelsVerify | downloaded | downloadEnded | verified
  | verifyEnded => exact works
  | recovers | recovered | recoveryFailed => cases works
  | @committed operation progress shutdownRequested | @commitUnknown operation progress shutdownRequested
  | @finalizeUnknown operation progress _ _ _ shutdownRequested =>
    cases shutdownRequested <;> cases works
  | @finalized operation progress stage terminal discard shutdownRequested =>
    cases terminal <;> cases shutdownRequested <;> cases works
  | shutsDown => cases s <;> exact works

/-- Only a request starts a check, and only a completion ends one. -/
theorem Proceeds.busy {s t input effects} (proceeds : Proceeds s input t effects)
    (other : input.isRequest = false) : (t.isBusy = true → s.isBusy = true) ∧ ∀ completion, input =
    .effectCompleted completion → s.isBusy = true := by
  cases proceeds with
  | requested => cases other
  | cancels => exact ⟨fun _ => rfl, nofun⟩
  | cancelled | found | unchanged | noUpdate | failed | committed | commitFailed =>
    exact ⟨fun _ => rfl, fun _ _ => rfl⟩
  | shutsDown =>
    refine ⟨fun busy => ?_, nofun⟩
    cases s with
    | checking | committingAvailable => rfl
    | stable available => cases available <;> cases busy
    | _ => cases busy

theorem settles_check {state : CheckState} {effect : CheckEffect} {input : CheckInput}
    (settles : Settles checkExecutes state effect input) :
    ∃ completion, input = .effectCompleted completion := by
  rcases settles with ⟨_, executes, _⟩ | ⟨failure, rfl⟩
  · cases effect with
    | discover | commitAvailable =>
      obtain ⟨_, is⟩ := executes
      exact ⟨_, is⟩
    | cancel => exact ⟨_, executes⟩
  · exact ⟨_, rfl⟩

theorem settles_continuation {state : ContinuationState}
    (settles : Settles (M := continuation digest) continuationExecutes state effect input) :
    ∃ completion, input = .effectCompleted completion := by
  rcases settles with ⟨_, executes, _⟩ | ⟨failure, rfl⟩
  · cases effect with
    | cancel => exact ⟨_, executes⟩
    | _ =>
      obtain ⟨_, _, is⟩ := executes
      exact ⟨_, is⟩
  · exact ⟨_, rfl⟩

/-! ## Effects in flight -/

/-- What callers admit to the check actor. -/
def checkCalls (_ : Runner check) : CheckInput → Prop
  | .checkRequested .. | .cancelRequested _ => True
  | _ => False

/-- What is admitted to the continuation actor. -/
def continuationCalls (_ : Runner (continuation digest)) : ContinuationInput → Prop
  | .downloadRequested .. | .cancelRequested _ | .partialCommitted .. | .recoverRequested => True
  | _ => False

/-- At most one effect, and only in a busy state. -/
def CheckAttended (s : CheckState) (effects : List CheckEffect) : Prop :=
  effects = [] ∨ ∃ effect, effects = [effect] ∧ s.isBusy = true

def checkSpawning (effects : List CheckEffect) : List CheckEffect :=
  effects.filter (·.mode = .spawn)

theorem spawned_check {s input} (does : CheckStep s input transition) :
    (∃ effects, Proceeds s input (transition.next s) effects ∧
    check.spawned transition = checkSpawning effects) ∨
    (transition.next s = s ∧ check.spawned transition = []) := by
  cases does with
  | @proceeds t effects proceeds =>
    left
    rw [(checkTransition_of_applied s t effects).1]
    exact ⟨effects, proceeds, congrArg (List.filter fun effect : CheckEffect =>
      effect.mode = .spawn) (checkTransition_of_applied s t effects).2⟩
  | rejected | unchanged | retired => exact .inr ⟨rfl, rfl⟩

/-- What a completion starts, the state it leads to waits for. -/
theorem Proceeds.completes {s t completion effects}
    (proceeds : Proceeds s (.effectCompleted completion) t effects) :
    CheckAttended t (checkSpawning effects) := by
  cases proceeds with
  | found => exact .inr ⟨_, rfl, rfl⟩
  | cancelled | unchanged | noUpdate | failed | committed | commitFailed => exact .inl rfl

theorem Proceeds.calls {r s t input effects} (called : checkCalls r input)
    (proceeds : Proceeds s input t effects) :
    (s.isBusy = false ∧ CheckAttended t (checkSpawning effects)) ∨
    (checkSpawning effects = [] ∧ t.isBusy = s.isBusy) := by
  cases proceeds with
  | requested _ idle => exact .inl ⟨idle, .inr ⟨_, rfl, rfl⟩⟩
  | cancels => exact .inr ⟨rfl, rfl⟩
  | _ => exact called.elim

theorem Proceeds.shuts {s t effects} (proceeds : Proceeds s .shutdownRequested t effects) :
    checkSpawning effects = [] ∧ t.isBusy = s.isBusy := by
  cases proceeds
  cases s with
  | checking operation cancelRequested => cases cancelRequested <;> exact ⟨rfl, rfl⟩
  | stable available => cases available <;> exact ⟨rfl, rfl⟩
  | _ => exact ⟨rfl, rfl⟩

theorem CheckAttended.keeps {s t effects added} (h : CheckAttended s effects) (none : added = [])
    (busy : t.isBusy = s.isBusy) : CheckAttended t (effects ++ added) := by
  rw [none, List.append_nil]
  rcases h with rfl | ⟨effect, one, runs⟩
  · exact .inl rfl
  · exact .inr ⟨effect, one, busy.trans runs⟩

theorem CheckAttended.settles {s} {effect : CheckEffect} {rest : List check.Effect}
    {input : CheckInput} (h : CheckAttended s (effect :: rest))
    (settles : Settles checkExecutes s effect input)
    (reduces : check.reduce s input = some transition) :
    CheckAttended (transition.next s) (rest ++ check.spawned transition) := by
  cases reduces
  obtain ⟨completion, rfl⟩ := settles_check settles
  rcases h with none | ⟨_, one, _⟩
  · cases none
  · cases one
    rcases spawned_check (checkStep s (.effectCompleted completion)) with
      ⟨effects, proceeds, spawned⟩ | ⟨_, none⟩
    · rw [spawned]
      exact proceeds.completes
    · exact .inl none

theorem course_check : Course checkExecutes checkCalls CheckState.idle CheckAttended
    CheckAttended where
  initially := .inl rfl
  reorder := by
    intro s effects effects' perm
    have keeps : CheckAttended s effects → CheckAttended s effects' := by
      rintro (rfl | ⟨effect, rfl, busy⟩)
      · exact .inl perm.symm.eq_nil
      · exact .inr ⟨effect, List.perm_singleton.1 perm.symm, busy⟩
    exact ⟨keeps, keeps⟩
  admitted := by
    intro r input transition called attended reduces
    cases reduces
    rcases spawned_check (checkStep r.state input) with ⟨effects, proceeds, spawned⟩ | ⟨same, none⟩
    · rw [spawned]
      rcases proceeds.calls called with ⟨idle, begins⟩ | ⟨none, busy⟩
      · rcases attended with rest | ⟨_, _, busy⟩
        · rw [rest]
          exact begins
        · cases idle.symm.trans busy
      · exact attended.keeps none busy
    · exact attended.keeps none (congrArg CheckState.isBusy same)
  settled := fun attended settles reduces => attended.settles settles reduces
  shutdown := by
    intro s effects transition attended reduces
    cases reduces
    rcases spawned_check (checkStep s .shutdownRequested) with
      ⟨emitted, proceeds, spawned⟩ | ⟨same, none⟩
    · obtain ⟨none, busy⟩ := proceeds.shuts
      exact attended.keeps (spawned.trans none) busy
    · exact attended.keeps none (congrArg CheckState.isBusy same)
  drained := fun attended settles reduces => attended.settles settles reduces
  gone := fun _ => .inl rfl

/-- At most one effect, and one of a download only while it is worked on. -/
def ContinuationAttended (s : ContinuationState) (effects : List ContinuationEffect) : Prop :=
  effects = [] ∨ ∃ effect, effects = [effect] ∧ s.isBusy = true ∧
    (effect.isWork = true → s.working.isSome = true)

/-- The same once the actor drains, when the state may have been left. -/
def ContinuationDrained (s : ContinuationState) (effects : List ContinuationEffect) : Prop :=
  effects = [] ∨ ∃ effect, effects = [effect] ∧ (effect.isWork = true → s.working.isSome = true)

theorem Serves.works {s}
    (serves : Serves s effect) (work : effect.isWork = true) : s.working.isSome = true := by
  cases s with
  | downloading | verifying | committingCandidate | finalizing => rfl
  | recovering =>
    rw [show effect = _ from serves] at work
    cases work
  | _ => exact serves.elim

theorem ContinuationAttended.keeps {effects added} (h : ContinuationAttended s effects)
    (none : added = []) (busy : t.isBusy = s.isBusy) (works : s.working.isSome = true →
    t.working.isSome = true) : ContinuationAttended t (effects ++ added) := by
  rw [none, List.append_nil]
  rcases h with rfl | ⟨effect, one, runs, work⟩
  · exact .inl rfl
  · exact .inr ⟨effect, one, busy.trans runs, fun is => works (work is)⟩

theorem ContinuationAttended.drained {s}
    (h : ContinuationAttended s effects) : ContinuationDrained s effects := by
  rcases h with none | ⟨effect, one, _, works⟩
  · exact .inl none
  · exact .inr ⟨effect, one, works⟩

theorem ContinuationDrained.keeps {effects added}
    (h : ContinuationDrained s effects) (none : added = []) (same : t.working = s.working) :
    ContinuationDrained t (effects ++ added) := by
  rw [none, List.append_nil]
  rcases h with rfl | ⟨effect, one, works⟩
  · exact .inl rfl
  · exact .inr ⟨effect, one, fun is => (congrArg Option.isSome same).trans (works is)⟩

/-- What settles the one effect hands over to at most one other. -/
theorem settles_attended {s : ContinuationState}
    {transition : Transition ContinuationState ContinuationEffect UpdateOperationError}
    (settles : Settles (M := continuation digest) continuationExecutes s effect input)
    (reduces : (continuation digest).reduce s input = some transition) :
    ContinuationAttended (transition.next s) ((continuation digest).spawned transition) := by
  cases reduces
  obtain ⟨completion, rfl⟩ := settles_continuation settles
  rcases advances_or_idle digest s (.effectCompleted completion) with advances | idle
  · rcases advances.settled.2 with ⟨next, one, begins⟩ | ⟨none, _⟩
    · exact .inr ⟨next, one, begins.serves.busy, begins.serves.works⟩
    · exact .inl none
  · exact .inl (congrArg spawning idle.2)

/-- What is admitted starts an effect when none is at work, or leaves it at work. -/
theorem Advances.calls {r : Runner (continuation digest)}
    (called : continuationCalls r input) (advances : Advances digest s input t effects) :
    (s.isBusy = false ∧ ∃ effect, spawning effects = [effect] ∧ Serves t effect) ∨
    (spawning effects = [] ∧ t.isBusy = s.isBusy ∧ t.working = s.working) := by
  cases advances with
  | requested idle => exact .inl ⟨idle, _, rfl, rfl, rfl⟩
  | recovers => exact .inl ⟨rfl, _, rfl, rfl⟩
  | reported | cancelsDownload | cancelsVerify => exact .inr ⟨rfl, rfl, rfl⟩
  | _ => exact called.elim

theorem Advances.shuts
    (advances : Advances digest s .shutdownRequested t effects) : t.working = s.working := by
  cases advances
  cases s <;> rfl

theorem course_continuation {initial : ContinuationState} :
    Course (@continuationExecutes digest) continuationCalls initial ContinuationAttended
    ContinuationDrained where
  initially := .inl rfl
  reorder := by
    intro s effects effects' perm
    refine ⟨?_, ?_⟩
    · rintro (rfl | ⟨effect, rfl, busy⟩)
      · exact .inl perm.symm.eq_nil
      · exact .inr ⟨effect, List.perm_singleton.1 perm.symm, busy⟩
    · rintro (rfl | ⟨effect, rfl, works⟩)
      · exact .inl perm.symm.eq_nil
      · exact .inr ⟨effect, List.perm_singleton.1 perm.symm, works⟩
  admitted := by
    intro r input transition called attended reduces
    cases reduces
    rcases advances_or_idle digest r.state input with advances | idle
    · rcases advances.calls called with ⟨idle, effect, one, serves⟩ | ⟨none, busy, works⟩
      · rcases attended with rest | ⟨_, _, busy, _⟩
        · rw [rest]
          exact .inr ⟨effect, one, serves.busy, serves.works⟩
        · cases idle.symm.trans busy
      · exact attended.keeps none busy fun is => (congrArg Option.isSome works).trans is
    · exact attended.keeps (congrArg spawning idle.2) (congrArg isBusy idle.1)
        fun is => (congrArg (fun s => (working s).isSome) idle.1).trans is
  settled := by
    intro s effect rest input transition attended settles reduces
    rcases attended with none | ⟨_, one, _⟩
    · cases none
    · cases one
      exact settles_attended settles reduces
  shutdown := by
    intro s effects transition attended reduces
    cases reduces
    have kept : spawning (continuationReduce digest s .shutdownRequested).effects = [] ∧
        ((continuationReduce digest s .shutdownRequested).next s).working = working s := by
      rcases advances_or_idle digest s .shutdownRequested with advances | idle
      · exact ⟨advances.shutdown.1, advances.shuts⟩
      · exact ⟨congrArg spawning idle.2, congrArg working idle.1⟩
    exact attended.drained.keeps kept.1 kept.2
  drained := by
    intro s effect rest input transition drained settles reduces
    rcases drained with none | ⟨_, one, _⟩
    · cases none
    · cases one
      exact (settles_attended settles reduces).drained
  gone := fun _ => .inl rfl

/-- The machine waits for every effect of a check that is in flight. -/
theorem busy_of_inFlight {r} (run : Run checkExecutes checkCalls (.start CheckState.idle) r)
    {effect : CheckEffect} (flies : effect ∈ r.inFlight) : CheckState.isBusy r.state = true := by
  have attended : CheckAttended r.state r.inFlight := by
    by_cases running : r.phase = .running
    · exact (course_check.run run).1 running
    · exact (course_check.run run).2 running
  rcases attended with none | ⟨_, _, busy⟩
  · rw [none] at flies
    cases flies
  · exact busy

/-- The machine works on the operation of every effect of a download that is in flight. -/
theorem working_of_inFlight {initial : ContinuationState} {r : Runner (continuation digest)}
    (run : Run continuationExecutes continuationCalls (.start initial) r)
    (flies : effect ∈ r.inFlight) (work : effect.isWork = true) :
    (working r.state).isSome = true := by
  have drained : ContinuationDrained r.state r.inFlight := by
    by_cases running : r.phase = .running
    · exact ((course_continuation.run run).1 running).drained
    · exact (course_continuation.run run).2 running
  rcases drained with none | ⟨_, one, works⟩
  · rw [none] at flies
    cases flies
  · cases List.mem_singleton.1 (one ▸ flies)
    exact works work

end Mish.Updater
