import Mish.ProfileActivation.Moves

/-!
# Activation results are attributed

Whatever inputs the machine is given, in whatever order. Every command that begins takes a revision
of its own, and the completions of all others are told apart by it.
-/

namespace Mish.ProfileActivation
open StateMachine
open Capture (CaptureFailureKind)

/-! ## Histories -/

/-- One call of the reducer that returned. -/
structure Entry where
  before : State
  input : Input
  after : State

/-- The states the machine has gone through, the last one first, whatever it was given. -/
inductive History (initial : State) : List Entry → State → Prop where
  | start : History initial [] initial
  | step {log s input reaction} : History initial log s → reduce s input = some reaction →
      History initial (⟨s, input, reaction.next s⟩ :: log) (reaction.next s)

def commandOf : Option (Except Unit (State × Command)) → Option Command
  | some (.ok (_, command)) => some command
  | _ => none

/-- The command that begins in the step. -/
def Entry.begun (e : Entry) : Option Command :=
  match e.input with
  | .begin attemptedAt commandId operation _ targetFingerprint targetProfileId targetRevision _ =>
    commandOf (e.before.begin commandId operation targetProfileId targetRevision targetFingerprint
      attemptedAt)
  | .reject attemptedAt commandId _ targetFingerprint targetProfileId targetRevision =>
    commandOf (e.before.begin commandId .activate targetProfileId targetRevision targetFingerprint
      attemptedAt)
  | _ => none

/-- The runtime is the one the command asks for. -/
def Command.Matches (command : Command) (runtime : Runtime) : Prop :=
  match command.operation with
  | .activate => ∃ fingerprint revision runtimeId,
    runtime = .active fingerprint command.targetProfileId revision runtimeId ∧
      (∀ expected, command.targetFingerprint = some expected → fingerprint = expected) ∧
      ∀ expected, command.targetRevision = some expected → revision = some expected
  | .stop => runtime = .safeStopped

variable {command : Command} {held : Pending} {s t : State} {input : Input} {effects : List Effect}
  {reaction : Reaction}

theorem matches_of_success {runtime}
    (succeeds : successMatchesCommand command runtime = true) : command.Matches runtime := by
  unfold successMatchesCommand at succeeds
  unfold Command.Matches
  cases operation : command.operation with
  | stop =>
    rw [operation] at succeeds
    cases runtime with
    | safeStopped => rfl
    | active => cases succeeds
  | activate =>
    rw [operation] at succeeds
    cases runtime with
    | safeStopped => cases succeeds
    | active fingerprint profileId revision runtimeId =>
      simp only [Bool.and_eq_true, beq_iff_eq] at succeeds
      obtain ⟨⟨rfl, fingerprints⟩, revisions⟩ := succeeds
      refine ⟨fingerprint, revision, runtimeId, rfl, fun expected is => ?_, fun expected is => ?_⟩
      · rw [is] at fingerprints
        exact (beq_iff_eq.1 fingerprints).symm
      · rw [is] at revisions
        exact beq_iff_eq.1 revisions

/-! ## Revisions -/

theorem Scope.next_revision {scope next : Scope} (is : scope.next = some next) :
    next.revision = scope.revision + 1 := by
  unfold Scope.next at is
  split at is
  · cases is
    rfl
  · cases is

theorem scope_of_pending (holds : s.pending? = some held) : s.scope = held.command.scope := by
  cases s with
  | pending | retrying =>
    cases holds
    rfl
  | _ => cases holds

theorem Concludes.scope {finalization}
    (concludes : Concludes command finalization t) : t.scope = command.scope := by
  cases concludes <;> rfl

theorem scope_setStage (s : State) (stage : Stage) : (s.setStage stage).scope = s.scope := by
  cases s <;> rfl

theorem Moves.revision {s : State}
    (moves : Moves s input t effects) : s.scope.revision ≤ t.scope.revision := by
  cases moves with
  | begins begun =>
    rw [scope_of_pending begun.held, Scope.next_revision begun.scope]
    exact Nat.le_succ _
  | rejects begun =>
    change _ ≤ (Command.scope _).revision
    rw [Scope.next_revision begun.scope]
    exact Nat.le_succ _
  | @retires _ scope _ terminal _ next =>
    have after : s.scope.revision ≤ scope.revision := by
      rw [Scope.next_revision next]
      exact Nat.le_succ _
    cases terminal <;> exact after
  | cancels | shutsDown | compensates | compensated | uncompensated | compensationFails =>
    exact Nat.le_refl _
  | finishes | fails | finalizerFails =>
    exact Nat.le_of_eq (by rw [scope_setStage])
  | concludes holds _ concludes =>
    exact Nat.le_of_eq (by rw [concludes.scope, scope_of_pending holds])
  | recoveryFails holds =>
    exact Nat.le_of_eq (congrArg (·.revision) (scope_of_pending holds))

theorem reduce_revision (reduces : reduce s input = some reaction) :
    s.scope.revision ≤ (reaction.next s).scope.revision := by
  rcases reduce_reacts reduces with moves | ⟨same, _⟩
  · exact moves.revision
  · exact Nat.le_of_eq (by rw [same])

theorem commandOf_some {result}
    (is : commandOf result = some command) : ∃ t, result = some (.ok (t, command)) := by
  match result, is with
  | some (.ok (t, _)), rfl => exact ⟨t, rfl⟩

/-- A command that begins takes the next revision, and the machine is left with it. -/
theorem begun_scope (reduces : reduce s input = some reaction)
    (begun : Entry.begun ⟨s, input, reaction.next s⟩ = some command) :
    s.scope.next = some command.scope ∧ (reaction.next s).scope = command.scope := by
  cases input with
  | begin =>
    obtain ⟨t, begins⟩ := commandOf_some begun
    have started := (begin_begun begins).1
    obtain ⟨result, begins', is⟩ := Option.map_eq_some_iff.1 reduces
    cases begins.symm.trans begins'
    cases is
    exact ⟨started.scope, scope_of_pending started.held⟩
  | reject _ _ evidence =>
    obtain ⟨t, begins⟩ := commandOf_some begun
    have started := (begin_begun begins).1
    obtain ⟨result, begins', is⟩ := Option.map_eq_some_iff.1 reduces
    cases begins.symm.trans begins'
    have ends := complete_pending started.held (.failed evidence s.runtime)
    dsimp only at ends is
    rw [ends] at is
    cases is
    exact ⟨started.scope, rfl⟩
  | _ => cases begun

/-! ## Pending commands -/

def Input.isBegin : Input → Bool
  | .begin .. => true
  | _ => false

/-- A step that begins nothing keeps the pending command and the runtime it began with. -/
theorem Moves.pending {s} (moves : Moves s input t effects) (holds : t.pending? = some held)
    (other : input.isBegin = false) : ∃ before, s.pending? = some before ∧ before.command =
    held.command ∧ before.runtime = held.runtime := by
  cases moves with
  | begins => cases other
  | cancels | shutsDown => exact ⟨held, holds, rfl, rfl⟩
  | finishes before | fails before | finalizerFails before =>
    cases (pending_setStage before _).symm.trans holds
    exact ⟨_, before, rfl, rfl⟩
  | @retires _ _ _ terminal => cases terminal <;> cases holds
  | concludes _ _ concludes => cases concludes <;> cases holds
  | _ => cases holds

theorem pending_since (reduces : reduce s input = some reaction)
    (holds : (reaction.next s).pending? = some held) : (∃ before, s.pending? = some before ∧
    before.command = held.command ∧ before.runtime = held.runtime) ∨
    (Entry.begun ⟨s, input, reaction.next s⟩ = some held.command ∧ held.runtime = s.runtime) := by
  cases input with
  | begin =>
    obtain ⟨result, begins, is⟩ := Option.map_eq_some_iff.1 reduces
    cases result with
    | error =>
      cases is
      exact .inl ⟨held, holds, rfl, rfl⟩
    | ok begun =>
      cases is
      cases (begin_begun begins).1.held.symm.trans holds
      exact .inr ⟨congrArg commandOf begins, rfl⟩
  | _ =>
    left
    rcases reduce_reacts reduces with moves | ⟨same, _⟩
    · exact moves.pending holds rfl
    · exact ⟨held, same ▸ holds, rfl, rfl⟩

/-! ## How a command succeeds -/

theorem Moves.succeeds {s kind runtime} (moves : Moves s input t effects)
    (succeeded : t = .succeeded kind command runtime) (entered : s ≠ t) :
    ∃ held finalization, s.pending? = some held ∧ held.command = command ∧
    held.stage ≠ .effect ∧ input = .finalized (command.correlation held.stage.effectId)
    finalization ∧ command.Matches runtime := by
  cases moves with
  | @concludes _ _ held finalization holds stage concludes =>
    cases concludes with
    | succeeded fits | captureFailed fits =>
      cases succeeded
      exact ⟨held, _, holds, rfl, stage, rfl, matches_of_success fits⟩
    | _ => cases succeeded
  | begins begun =>
    rw [succeeded] at begun
    cases begun.held
  | cancels | shutsDown => exact absurd rfl entered
  | finishes holds | fails holds | finalizerFails holds =>
    cases s with
    | pending | retrying => cases succeeded
    | _ => cases holds
  | @retires _ _ _ terminal => cases terminal <;> cases succeeded
  | _ => cases succeeded

/-! ## Completions of earlier commands -/

theorem stale_retired {correlation} (correlates : inputCorrelation input = some correlation)
    (stale : correlation.admittedRevision ≠ s.scope.revision) : reduce s input = some .retired := by
  have differs {command : Command} (scope : command.scope = s.scope) (effectId : Nat) :
      (command.correlation effectId).sameOperation correlation = false := by
    simp [Correlation.sameOperation, Command.correlation, scope, Ne.symm stale]
  have unmatched : matchingPending s correlation = none := by
    cases found : matchingPending s correlation with
    | none => rfl
    | some held =>
      obtain ⟨holds, same⟩ := matchingPending_some found
      rw [differs (scope_of_pending holds).symm] at same
      cases same
  cases input with
  | taskFinished =>
    cases correlates
    simp [reduce, reduceTaskFinished, unmatched]
  | finalized =>
    cases correlates
    simp [reduce, reduceFinalized, unmatched]
  | taskFailed =>
    cases correlates
    cases s with
    | compensating command runtime =>
      simp [reduce, reduceTaskFailed, unmatched, differs (show command.scope = _ from rfl)]
    | _ => simp [reduce, reduceTaskFailed, unmatched]
  | compensationFinished =>
    cases correlates
    cases s with
    | compensating command runtime =>
      simp [reduce, reduceCompensationFinished, differs (show command.scope = _ from rfl)]
    | _ => rfl
  | _ => cases correlates

/-! ## What every history keeps -/

section
variable {initial s : State} {log : List Entry}

theorem History.revision (history : History initial log s) :
    ∀ e ∈ log, ∀ command, e.begun = some command → command.scope.revision ≤ s.scope.revision := by
  induction history with
  | start => exact fun _ listed => absurd listed List.not_mem_nil
  | step _ reduces ih =>
    intro e listed command begun
    rcases List.mem_cons.1 listed with rfl | earlier
    · exact Nat.le_of_eq (congrArg (·.revision) (begun_scope reduces begun).2.symm)
    · exact Nat.le_trans (ih e earlier command begun) (reduce_revision reduces)

theorem History.ordered (history : History initial log s) :
    log.Pairwise fun later earlier => ∀ command command', later.begun = some command →
    earlier.begun = some command' → command'.scope.revision < command.scope.revision := by
  induction history with
  | start => exact .nil
  | @step log s input reaction before reduces ih =>
    refine .cons (fun earlier listed command command' begun begun' => ?_) ih
    have bound := before.revision earlier listed command' begun'
    rw [Scope.next_revision (begun_scope reduces begun).1]
    exact Nat.lt_succ_of_le bound

/-- A pending command goes back to the step it began in. -/
theorem History.pending {scope} (history : History (.idle scope) log s)
    (holds : s.pending? = some held) :
    ∃ e ∈ log, e.begun = some held.command ∧ held.runtime = e.before.runtime := by
  induction history generalizing held with
  | start => cases holds
  | step _ reduces ih =>
    rcases pending_since reduces holds with ⟨before, held', command, runtime⟩ | ⟨begun, runtime⟩
    · obtain ⟨e, listed, begun, since⟩ := ih held'
      exact ⟨e, List.mem_cons_of_mem _ listed, command ▸ begun, runtime ▸ since⟩
    · exact ⟨_, List.mem_cons_self, begun, runtime⟩

theorem History.entries (history : History initial log s) {e} (listed : e ∈ log) :
    ∃ reaction, reduce e.before e.input = some reaction ∧ e.after = reaction.next e.before := by
  induction history with
  | start => exact absurd listed List.not_mem_nil
  | step _ reduces ih =>
    rcases List.mem_cons.1 listed with rfl | earlier
    · exact ⟨_, reduces, rfl⟩
    · exact ih earlier

end

theorem activeProfileId_toSnapshot (s : State) (availability : Availability) :
    (s.toSnapshot availability).activeProfileId = s.runtime.activeProfileId := by
  cases s <;> rfl

theorem runtime_of_pending (holds : s.pending? = some held) : s.runtime = held.runtime := by
  cases s with
  | pending | retrying =>
    cases holds
    rfl
  | _ => cases holds

/-- Whatever the machine is given: a command succeeds only through its own finalizer, while the
machine finalizes or recovers it, with the runtime it asks for; while it is pending the published
profile is the one from before it began; and it has a greater revision than every earlier command,
whose completions are retired. -/
theorem activation_attributed {scope : Scope} {log : List Entry} {s : State}
    (history : History (.idle scope) log s) :
    (∀ e ∈ log, ∀ kind command runtime, e.after = .succeeded kind command runtime →
      e.before ≠ e.after → ∃ held finalization, e.before.pending? = some held ∧
        held.command = command ∧ (held.stage = .finalizing ∨ held.stage = .recovering) ∧
        e.input = .finalized (command.correlation held.stage.effectId) finalization ∧
        command.Matches runtime) ∧
    (∀ held, s.pending? = some held → ∃ e ∈ log, e.begun = some held.command ∧
      ∀ availability, (s.toSnapshot availability).activeProfileId =
        (e.before.toSnapshot availability).activeProfileId) ∧
    (log.Pairwise fun later earlier => ∀ command command', later.begun = some command →
      earlier.begun = some command' → command'.scope.revision < command.scope.revision) ∧
    (∀ later earlier e, log = later ++ e :: earlier → ∀ command, e.begun = some command →
      (∃ e' ∈ later, e'.begun.isSome = true) → ∀ input correlation,
        inputCorrelation input = some correlation →
        (command.correlation correlation.effectId).sameOperation correlation = true →
        reduce s input = some .retired) := by
  refine ⟨?_, ?_, history.ordered, ?_⟩
  · intro e listed kind command runtime succeeded entered
    obtain ⟨reaction, reduces, after⟩ := history.entries listed
    rcases reduce_reacts reduces with moves | ⟨same, _⟩
    · rw [← after] at moves
      obtain ⟨held, finalization, holds, is, stage, input, fits⟩ :=
        moves.succeeds succeeded entered
      refine ⟨held, finalization, holds, is, ?_, input, fits⟩
      cases now : held.stage with
      | effect => exact absurd now stage
      | finalizing => exact .inl rfl
      | recovering => exact .inr rfl
    · exact absurd (same.symm.trans after.symm) entered
  · intro held holds
    obtain ⟨e, listed, begun, since⟩ := history.pending holds
    refine ⟨e, listed, begun, fun availability => ?_⟩
    rw [activeProfileId_toSnapshot, activeProfileId_toSnapshot, runtime_of_pending holds, since]
  · rintro later earlier e rfl command begun ⟨e', listed, some⟩ input correlation correlates same
    obtain ⟨command', begun'⟩ := Option.isSome_iff_exists.1 some
    have greater := (List.pairwise_append.1 history.ordered).2.2 e' listed e List.mem_cons_self
      command' command begun' begun
    have bound := history.revision e' (List.mem_append_left _ listed) command' begun'
    refine stale_retired correlates ?_
    have revision : command.scope.revision = correlation.admittedRevision := by
      simp only [Correlation.sameOperation, Command.correlation, Bool.and_eq_true,
        beq_iff_eq] at same
      exact same.2
    omega

/-! ## A command that succeeds -/

def sampleCommand : Command :=
  ⟨1, "command", .activate, ⟨"authority", 1, 1⟩, some "fingerprint", "profile", some "revision"⟩

def sampleRuntime : Runtime := .active "fingerprint" "profile" (some "revision") (some "runtime")

def sampleContract : CaptureContract := ⟨false, .rpc, none, ⟨false, false⟩⟩

def sampleResources : OperationResources :=
  ⟨none, false, sampleContract, ⟨0⟩, .safeStopped, false⟩

/-- The state in which the command is at a stage. -/
def sampleAt (stage : Stage) : State := .pending ⟨sampleCommand, none, .safeStopped, stage⟩

def sampleLog : List Entry :=
  [⟨sampleAt .finalizing, .finalized (sampleCommand.correlation finalizerEffectId)
      (.completed (.succeeded sampleRuntime)), .succeeded none sampleCommand sampleRuntime⟩,
    ⟨sampleAt .effect, .taskFinished (sampleCommand.correlation activationEffectId)
      (.activate (.ok ⟨"fingerprint", "profile", "revision", "runtime"⟩)), sampleAt .finalizing⟩,
    ⟨.idle ⟨"authority", 1, 0⟩, .begin 1 "command" .activate sampleResources (some "fingerprint")
      "profile" (some "revision") (.activate none), sampleAt .effect⟩]

theorem History.to {initial s log}
    (history : History initial log s) (leaves : (reduce s input).map (·.next s) = some t) :
    History initial (⟨s, input, t⟩ :: log) t := by
  obtain ⟨reaction, reduces, rfl⟩ := Option.map_eq_some_iff.1 leaves
  exact .step history reduces

theorem history_sample : History (.idle ⟨"authority", 1, 0⟩) sampleLog
    (.succeeded none sampleCommand sampleRuntime) :=
  .to (.to (.to .start rfl) rfl) rfl

theorem activation_attributed_sample :
    History (.idle ⟨"authority", 1, 0⟩) sampleLog (.succeeded none sampleCommand sampleRuntime) ∧
    ∃ held finalization, (sampleAt .finalizing).pending? = some held ∧
      held.command = sampleCommand ∧ (held.stage = .finalizing ∨ held.stage = .recovering) ∧
      Input.finalized (sampleCommand.correlation finalizerEffectId)
        (.completed (.succeeded sampleRuntime)) =
          .finalized (sampleCommand.correlation held.stage.effectId) finalization ∧
      sampleCommand.Matches sampleRuntime :=
  ⟨history_sample, (activation_attributed history_sample).1 _ List.mem_cons_self none sampleCommand
    sampleRuntime rfl nofun⟩

end Mish.ProfileActivation
