import Mish.Traffic.Machine

/-!
# Traffic commands settle once

In every run of the traffic machine, whatever order its inputs and the ends of its tasks come in.
-/

namespace Mish.Traffic
open StateMachine List Input

/-! ## What a call executes and records -/

def Effect.executed? : Effect → Option CommandEffect
  | .execute effect => some effect
  | .cancel _ => none

/-- The commands whose execution a call starts. -/
def executedBy (call : Call machine) : List CommandEffect :=
  filterMap Effect.executed? call.transition.effects

def executed (log : List (Call machine)) : List CommandEffect := log.flatMap executedBy

/-- The record a call adds to the ledger. -/
def recordedBy (call : Call machine) : Option CommandRecord :=
  if (State.pending call.before).isSome && (State.pending call.after).isNone then
    (State.completed call.after).getLast?
  else none

/-- The records of the calls, newest first. -/
def recorded (log : List (Call machine)) : List CommandRecord := log.filterMap recordedBy

/-- The command is pending, and the session it was admitted on is live. -/
def OnSession (command : PendingCommand) (s : State) : Prop :=
  s.pending = some command ∧
    ∃ current, s.authority = .live current ∧ command.source.sameSession current = true

/-- The call leaves the command pending and records nothing. -/
structure Keeps (command : PendingCommand) (call : Call machine) : Prop where
  before : OnSession command call.before
  after : OnSession command call.after
  recordsNothing : State.completed call.after = State.completed call.before

/-- The call ends the command with a record: what its own task returned, with the session still
live, or a failure. -/
structure Concludes (executes : Executor machine) (command : PendingCommand)
    (call : Call machine) (record : CommandRecord) : Prop where
  before : OnSession command call.before
  after : State.pending call.after = none
  records : State.completed call.after = retained (State.completed call.before ++ [record])
  request : record.request = command.request
  execution : (State.authority call.after = State.authority call.before ∧
      ∃ cancelled source, call.input = completed command.correlation record.execution source ∧
        executes (Effect.execute command.effect) cancelled call.input) ∨
    ∃ failure, record.execution = command.request.failed failure

/-! ## What one call does to the pending command -/

variable {effect : CommandEffect}

section
variable {s t : State} {input : Input} {effects : List Effect}

section
variable (moves : Moves s input t effects)
include moves

theorem Moves.revision : s.revision ≤ t.revision := by
  cases moves with
  | stays => exact Nat.le_refl _
  | _ => exact Nat.le_succ _

variable {held : PendingCommand}

/-- A command that is pending afterwards was pending before, or is executed now under a new
revision. -/
theorem Moves.pending (holds : t.pending = some held) : (s.pending = some held ∧
    effects.filterMap Effect.executed? = []) ∨ (s.pending = none ∧
    effects = [.execute held.effect] ∧ t.completed = s.completed ∧ s.authority = .live held.source ∧
    t.authority = .live held.source ∧ s.record? held.request.operationId = none ∧
    held.correlation.admittedRevision = s.revision + 1 ∧ t.revision = s.revision + 1) := by
  cases moves with
  | stays | advances => exact .inl ⟨holds, rfl⟩
  | leaves idle => exact absurd (idle.symm.trans holds) nofun
  | interrupts | completes | breaks => cases holds
  | begins idle live unrecorded =>
    cases holds
    exact .inr ⟨idle, rfl, rfl, live, live, unrecorded, rfl, rfl⟩

theorem Moves.executes (member : .execute effect ∈ effects) :
    ∃ held, held.effect = effect ∧ s.pending = none ∧ t.pending = some held := by
  cases moves with
  | begins idle =>
    cases mem_singleton.1 member
    exact ⟨_, rfl, idle, rfl⟩
  | interrupts => cases mem_singleton.1 member
  | _ => cases member

/-- The authority of a pending command stays on its session. -/
theorem Moves.stays_live
    (session : OnSession held s) (holds : t.pending = some held) : OnSession held t := by
  obtain ⟨pending, current, live, same⟩ := session
  refine ⟨holds, ?_⟩
  cases moves with
  | stays => exact ⟨current, live, same⟩
  | advances _ onward =>
    exact ⟨_, rfl, Stamp.sameSession_trans same (onward current live).1⟩
  | leaves idle => exact absurd (idle.symm.trans pending) nofun
  | begins idle => exact absurd (idle.symm.trans pending) nofun
  | _ => cases holds

/-- A pending command stays pending and nothing is recorded, or it ends with one record. -/
theorem Moves.settles (pending : s.pending = some held) :
    (t.pending = some held ∧ t.completed = s.completed) ∨
    ∃ record, t.pending = none ∧ t.completed = retained (s.completed ++ [record]) ∧
    record.request = held.request ∧
    ((t.authority = s.authority ∧
    ∃ source, input = .completed held.correlation record.execution source) ∨
    ∃ failure, record.execution = held.request.failed failure) := by
  cases moves with
  | stays | advances => exact .inl ⟨pending, rfl⟩
  | leaves idle => exact absurd (idle.symm.trans pending) nofun
  | begins idle => exact absurd (idle.symm.trans pending) nofun
  | interrupts holds | breaks holds =>
    cases pending.symm.trans holds
    exact .inr ⟨_, rfl, rfl, rfl, .inr ⟨_, rfl⟩⟩
  | completes holds =>
    cases pending.symm.trans holds
    exact .inr ⟨_, rfl, rfl, rfl, .inl ⟨rfl, _, rfl⟩⟩

end

/-- Without a pending command nothing is recorded. -/
theorem Moves.idle (moves : Moves s input t effects) (idle : s.pending = none) :
    t.completed = s.completed := by
  cases moves with
  | stays | advances | leaves | begins => rfl
  | interrupts pending | completes pending | breaks pending => cases idle.symm.trans pending

end

/-! ## What every run keeps -/

/-- What holds of the state, the effects in flight and the commands executed so far. -/
structure Sound (s : State) (effects : List Effect) (log : List (Call machine)) : Prop where
  live : ∀ command, s.pending = some command → OnSession command s
  bounded : ∀ effect ∈ effects, effect.correlation.admittedRevision ≤ s.revision
  own : ∀ command, s.pending = some command →
    ∀ effect ∈ effects, effect.correlation = command.correlation → effect = .execute command.effect
  older : ∀ effect ∈ executed log, effect.correlation.admittedRevision ≤ s.revision
  held : ∀ command, s.pending = some command → command.correlation.admittedRevision ≤ s.revision
  distinct : ((executed log).map (·.correlation)).Nodup

section
variable {executes : Executor machine} {initial : State}

theorem mem_executedBy {call} :
    effect ∈ executedBy call ↔ Effect.execute effect ∈ call.transition.effects := by
  refine mem_filterMap.trans ⟨?_, fun member => ⟨_, member, rfl⟩⟩
  rintro ⟨other, member, is⟩
  cases other with
  | execute _ =>
    cases is
    exact member
  | cancel _ => cases is

/-- The effects of a reaction that become tasks. -/
def spawned (reaction : Reaction) : List Effect := machine.spawned reaction

variable {reaction : Reaction}

theorem spawned_subset {effect} (member : effect ∈ spawned reaction) : effect ∈ reaction.effects :=
  (mem_filter.1 member).1

theorem spawned_execute {effect}
    (member : effect ∈ spawned reaction) : ∃ command, effect = .execute command := by
  have mode := (mem_filter.1 member).2
  cases effect with
  | execute command => exact ⟨command, rfl⟩
  | cancel => simp [machine, Effect.mode] at mode

variable {s : State} {input : Input}

/-- What a call executes has a new revision, and is all that it emits. -/
theorem executes_fresh (reduces : reduce s input = some reaction)
    (member : Effect.execute effect ∈ reaction.effects) : effect.correlation.admittedRevision =
    s.revision + 1 ∧ State.revision (reaction.next s) = s.revision + 1 ∧ reaction.effects =
    [Effect.execute effect] := by
  have moves := reduce_moves reduces
  obtain ⟨command, rfl, idle, holds⟩ := moves.executes member
  rcases moves.pending holds with ⟨before, _⟩ | ⟨_, emits, _, _, _, _, revision, next⟩
  · cases idle.symm.trans before
  · exact ⟨revision, next, emits⟩

/-- A call executes at most one command. -/
theorem executedBy_singleton (reduces : reduce s input = some reaction)
    (member : effect ∈ executedBy ⟨s, input, reaction⟩) :
    executedBy ⟨s, input, reaction⟩ = [effect] := by
  obtain ⟨_, _, emits⟩ := executes_fresh reduces (mem_executedBy.1 member)
  change filterMap Effect.executed? reaction.effects = _
  rw [emits]
  rfl

variable {log : List (Call machine)}

/-- One call keeps it, whatever part of the effects is still in flight. -/
theorem Sound.call {effects rest} (h : Sound s effects log)
    (within : ∀ effect ∈ rest, effect ∈ effects) (reduces : reduce s input = some reaction) :
    Sound (reaction.next s) (rest ++ spawned reaction) (⟨s, input, reaction⟩ :: log) := by
  have moves := reduce_moves reduces
  have grows := moves.revision
  refine ⟨?_, ?_, ?_, ?_, ?_, ?_⟩
  · intro command holds
    rcases moves.pending holds with ⟨before, _⟩ | ⟨_, _, _, _, live, _⟩
    · exact moves.stays_live (h.live command before) holds
    · exact ⟨holds, _, live, Stamp.sameSession_refl _⟩
  · intro effect member
    rcases mem_append.1 member with old | new
    · exact Nat.le_trans (h.bounded effect (within effect old)) grows
    · obtain ⟨command, rfl⟩ := spawned_execute new
      obtain ⟨revision, next, _⟩ := executes_fresh reduces (spawned_subset new)
      exact Nat.le_of_eq (revision.trans next.symm)
  · intro command holds effect member same
    rcases moves.pending holds with ⟨before, none⟩ | ⟨_, emits, _, _, _, _, revision, _⟩
    · rcases mem_append.1 member with old | new
      · exact h.own command before effect (within effect old) same
      · obtain ⟨other, rfl⟩ := spawned_execute new
        have listed : other ∈ reaction.effects.filterMap Effect.executed? :=
          mem_filterMap.2 ⟨_, spawned_subset new, rfl⟩
        rw [none] at listed
        cases listed
    · rcases mem_append.1 member with old | new
      · have bound := h.bounded effect (within effect old)
        rw [same, revision] at bound
        exact absurd bound (Nat.not_succ_le_self _)
      · have listed := spawned_subset new
        rw [emits] at listed
        exact mem_singleton.1 listed
  · intro effect member
    rcases mem_append.1 member with new | old
    · obtain ⟨revision, next, _⟩ := executes_fresh reduces (mem_executedBy.1 new)
      exact Nat.le_of_eq (revision.trans next.symm)
    · exact Nat.le_trans (h.older effect old) grows
  · intro command holds
    rcases moves.pending holds with ⟨before, _⟩ | ⟨_, _, _, _, _, _, revision, next⟩
    · exact Nat.le_trans (h.held command before) grows
    · exact Nat.le_of_eq (revision.trans next.symm)
  · have unfolds : executed (⟨s, input, reaction⟩ :: log) =
        executedBy ⟨s, input, reaction⟩ ++ executed log := flatMap_cons
    rw [unfolds, map_append, nodup_append]
    refine ⟨?_, h.distinct, ?_⟩
    · cases emitted : executedBy ⟨s, input, reaction⟩ with
      | nil => exact nodup_nil
      | cons effect more =>
        have member : effect ∈ executedBy ⟨s, input, reaction⟩ := by
          rw [emitted]
          exact mem_cons_self
        rw [← emitted, executedBy_singleton reduces member]
        exact nodup_singleton _
    · rintro correlation new _ old rfl
      obtain ⟨effect, newly, rfl⟩ := mem_map.1 new
      obtain ⟨other, before, same⟩ := mem_map.1 old
      obtain ⟨revision, _⟩ := executes_fresh reduces (mem_executedBy.1 newly)
      have bound := h.older other before
      rw [same, revision] at bound
      exact absurd bound (Nat.not_succ_le_self _)

theorem Sound.mono {effects rest}
    (h : Sound s effects log) (within : ∀ effect ∈ rest, effect ∈ effects) : Sound s rest log :=
  { h with
    bounded effect member := h.bounded effect (within effect member)
    own command holds effect member := h.own command holds effect (within effect member) }

variable {effects : List Effect}

theorem sound_of_chronicle (idle : initial.pending = none)
    (h : Chronicle executes isExternal initial log s effects) : Sound s effects log := by
  induction h with
  | start =>
    refine ⟨?_, ?_, ?_, ?_, ?_, nodup_nil⟩
    · exact fun command holds => absurd (idle.symm.trans holds) nofun
    · exact fun _ member => absurd member not_mem_nil
    · exact fun command holds => absurd (idle.symm.trans holds) nofun
    · exact fun _ member => absurd member not_mem_nil
    · exact fun command holds => absurd (idle.symm.trans holds) nofun
  | told _ _ reduces ih => exact ih.call (fun _ member => member) reduces
  | settled _ perm _ reduces ih =>
    exact ih.call (fun _ member => perm.mem_iff.2 (mem_cons_of_mem _ member)) reduces
  | dropped _ ih => exact ih.mono fun _ member => absurd member not_mem_nil

/-- A completion that reaches the pending command is what its own task returned. -/
def Genuine (executes : Executor machine) (call : Call machine) : Prop :=
  ∀ command execution source, State.pending call.before = some command →
    call.input = completed command.correlation execution source →
    ∃ cancelled, executes (Effect.execute command.effect) cancelled call.input

theorem genuine_of_chronicle (idle : initial.pending = none)
    (h : Chronicle executes isExternal initial log s effects) :
    ∀ call ∈ log, Genuine executes call := by
  induction h with
  | start => exact fun _ member => absurd member not_mem_nil
  | @told log s effects input reaction _ external reduces ih =>
    intro call member
    rcases mem_cons.1 member with rfl | earlier
    · intro command execution source _ completed
      dsimp only at completed
      rcases external with external | shutdown
      · rw [completed] at external
        cases external
      · rw [completed] at shutdown
        cases shutdown
    · exact ih call earlier
  | @settled log s effects rest effect input reaction before perm settles reduces ih =>
    intro call member
    rcases mem_cons.1 member with rfl | earlier
    · intro command execution source holds completed
      rcases settles with ⟨cancelled, returned, correlation, _⟩ | ⟨failure, failed⟩
      · refine ⟨cancelled, ?_⟩
        have listed : effect ∈ effects := perm.mem_iff.2 mem_cons_self
        have same : Effect.correlation effect = command.correlation := by
          have is := congrArg inputCorrelation completed
          exact Option.some.inj (correlation.symm.trans is)
        have own := (sound_of_chronicle idle before).own command holds effect listed same
        rwa [own] at returned
      · cases failed.symm.trans completed
    · exact ih call earlier
  | dropped _ ih => exact ih

variable {command : PendingCommand}

/-- A call that finds a command pending keeps it or ends it with one record. -/
theorem keeps_or_concludes {call : Call machine}
    (answered : reduce call.before call.input = some call.transition)
    (genuine : Genuine executes call) (session : OnSession command call.before) :
    Keeps command call ∨ ∃ record, Concludes executes command call record := by
  have moves := reduce_moves answered
  rcases moves.settles session.1 with ⟨holds, same⟩ | ⟨record, none, records, request, how⟩
  · exact .inl ⟨session, moves.stays_live session holds, same⟩
  · refine .inr ⟨record, session, none, records, request, ?_⟩
    rcases how with ⟨authority, source, completed⟩ | failed
    · obtain ⟨cancelled, returned⟩ := genuine command record.execution source session.1 completed
      exact .inl ⟨authority, cancelled, source, completed, returned⟩
    · exact .inr failed

/-! ## The life of a command -/

/-- The correlation of the pending command is another one. -/
def Elsewhere (command : PendingCommand) (s : State) : Prop :=
  ∀ other, s.pending = some other → other.correlation ≠ command.correlation

/-- What the calls after its admission, newest first, make of a command. -/
inductive Lifecycle (executes : Executor machine) (command : PendingCommand) (s : State) :
    List (Call machine) → Prop where
  | waits {later} : (∀ call ∈ later, Keeps command call) →
      OnSession command s → Lifecycle executes command s later
  | concluded {after waited call record} :
      (∀ call ∈ waited, Keeps command call) → Concludes executes command call record →
      (∀ call ∈ after, Elsewhere command call.before) → Elsewhere command s →
      Lifecycle executes command s (after ++ call :: waited)

variable {later : List (Call machine)}

theorem Lifecycle.call {log} (sound : Sound s effects log)
    (older : command.effect ∈ executed log) (h : Lifecycle executes command s later)
    (reduces : reduce s input = some reaction) (genuine : Genuine executes ⟨s, input, reaction⟩) :
    Lifecycle executes command (reaction.next s) (⟨s, input, reaction⟩ :: later) := by
  cases h with
  | waits keeps session =>
    have either : Keeps command ⟨s, input, reaction⟩ ∨
        ∃ record, Concludes executes command ⟨s, input, reaction⟩ record :=
      keeps_or_concludes reduces genuine session
    rcases either with keeps' | ⟨record, concludes⟩
    · refine .waits (fun call member => ?_) keeps'.after
      rcases mem_cons.1 member with rfl | earlier
      · exact keeps'
      · exact keeps call earlier
    · refine @Lifecycle.concluded _ _ _ [] _ _ _ keeps concludes ?_ ?_
      · exact fun _ member => absurd member not_mem_nil
      · exact fun other holds => absurd (concludes.after.symm.trans holds) nofun
  | @concluded after waited call record keeps concludes elsewhere now =>
    refine @Lifecycle.concluded _ _ _ (_ :: after) _ _ _ keeps concludes (fun call member => ?_) ?_
    · rcases mem_cons.1 member with rfl | earlier
      · exact now
      · exact elsewhere call earlier
    · intro other holds same
      rcases (reduce_moves reduces).pending holds with ⟨before, _⟩ | ⟨_, _, _, _, _, _, revision, _⟩
      · exact now other before same
      -- a newer command has a greater revision
      · have bound := sound.older _ older
        have equal : command.effect.correlation = other.correlation := same.symm
        rw [equal, revision] at bound
        exact absurd bound (Nat.not_succ_le_self _)

theorem lifecycle_of_chronicle {log earlier call}
    (idle : initial.pending = none) (h : Chronicle executes isExternal initial log s effects)
    (split : log = later ++ call :: earlier) (executes_ : effect ∈ executedBy call) :
    ∃ command : PendingCommand, command.effect = effect ∧ OnSession command call.after ∧
    Lifecycle executes command s later := by
  have onward {log later : List (Call machine)} {s : State} {effects : List Effect}
      {input : Input} {reaction : Reaction}
      (before : Chronicle executes isExternal initial log s effects)
      (reduces : reduce s input = some reaction) (genuine : Genuine executes ⟨s, input, reaction⟩)
      (split : (⟨s, input, reaction⟩) :: log = later ++ call :: earlier)
      (ih : ∀ {later}, log = later ++ call :: earlier → ∃ command : PendingCommand,
        command.effect = effect ∧ OnSession command call.after ∧
          Lifecycle executes command s later) :
      ∃ command : PendingCommand, command.effect = effect ∧ OnSession command call.after ∧
        Lifecycle executes command (reaction.next s) later := by
    have sound := sound_of_chronicle idle before
    cases later with
    | nil =>
      obtain ⟨rfl, rfl⟩ := cons.inj split
      obtain ⟨command, is, _, holds⟩ := (reduce_moves reduces).executes (mem_executedBy.1 executes_)
      have session : OnSession command (reaction.next s) :=
        (sound.call (fun _ member => member) reduces).live command holds
      exact ⟨command, is, session, .waits (fun _ member => absurd member not_mem_nil) session⟩
    | cons _ later =>
      obtain ⟨rfl, rest⟩ := cons.inj split
      obtain ⟨command, is, session, life⟩ := ih rest
      have older : command.effect ∈ executed log := by
        rw [is, rest]
        exact mem_flatMap.2 ⟨call, mem_append_right _ mem_cons_self, executes_⟩
      exact ⟨command, is, session, life.call sound older reduces genuine⟩
  induction h generalizing later with
  | start => exact absurd split.symm (append_ne_nil_of_right_ne_nil _ nofun)
  | told before external reduces ih =>
    have genuine := genuine_of_chronicle idle (.told before external reduces) _ mem_cons_self
    exact onward before reduces genuine split ih
  | settled before perm settles reduces ih =>
    have genuine :=
      genuine_of_chronicle idle (.settled before perm settles reduces) _ mem_cons_self
    exact onward before reduces genuine split ih
  | dropped _ ih => exact ih split

/-! ## The ledger -/

theorem reverse_retained (records : List CommandRecord) :
    (retained records).reverse = records.reverse.take ledgerLimit := by
  rw [retained, reverse_drop]
  by_cases fits : records.length ≤ ledgerLimit
  · rw [Nat.sub_eq_zero_of_le fits, Nat.sub_zero, take_of_length_le, take_of_length_le]
    · rwa [length_reverse]
    · exact Nat.le_of_eq length_reverse
  · rw [Nat.sub_sub_self (Nat.le_of_not_le fits)]

/-- A ledger of the newest records stays one when a record is pushed. -/
theorem retained_newest {completed records} (record : CommandRecord)
    (newest : completed.reverse = records.take ledgerLimit) :
    (retained (completed ++ [record])).reverse = (record :: records).take ledgerLimit := by
  rw [reverse_retained, reverse_append, newest]
  simp [ledgerLimit, take_take]

theorem getLast?_retained (records : List CommandRecord) (record : CommandRecord) :
    (retained (records ++ [record])).getLast? = some record := by
  rw [← head?_reverse, reverse_retained, reverse_append]
  rfl

variable {record : CommandRecord}

theorem Concludes.recorded {call} (h : Concludes executes command call record) :
    recordedBy call = some record := by
  unfold recordedBy
  rw [h.before.1, h.after, h.records, getLast?_retained]
  rfl

theorem recordedBy_of_kept {call} (same : State.pending call.before = none ∨
    (State.pending call.after).isSome = true) : recordedBy call = none := by
  unfold recordedBy
  rcases same with none | some
  · rw [none]
    rfl
  · rw [← Option.not_isSome, some]
    simp

theorem ledger_of_chronicle (empty : initial.completed = [])
    (h : Chronicle executes isExternal initial log s effects) :
    s.completed.reverse = (recorded log).take ledgerLimit := by
  have onward {log : List (Call machine)} {s : State} {input : Input} {reaction : Reaction}
      (newest : s.completed.reverse = (recorded log).take ledgerLimit)
      (reduces : reduce s input = some reaction) :
      (State.completed (reaction.next s)).reverse =
        (recorded (⟨s, input, reaction⟩ :: log)).take ledgerLimit := by
    have moves := reduce_moves reduces
    have unchanged (kept : State.completed (reaction.next s) = s.completed)
        (none : recordedBy ⟨s, input, reaction⟩ = none) :
        (State.completed (reaction.next s)).reverse =
          (recorded (⟨s, input, reaction⟩ :: log)).take ledgerLimit := by
      rw [kept, newest, recorded, recorded, filterMap_cons_none none]
    cases pending : s.pending with
    | none => exact unchanged (moves.idle pending) (recordedBy_of_kept (.inl pending))
    | some command =>
      rcases moves.settles pending with ⟨holds, same⟩ | ⟨record, none, records, _⟩
      · refine unchanged same (recordedBy_of_kept (.inr ?_))
        change (State.pending (reaction.next s)).isSome = true
        rw [holds]
        rfl
      · have adds : recordedBy ⟨s, input, reaction⟩ = some record := by
          change (if s.pending.isSome && (State.pending (reaction.next s)).isNone then
            (State.completed (reaction.next s)).getLast? else Option.none) = _
          rw [pending, none, records, getLast?_retained]
          rfl
        rw [records, recorded, filterMap_cons_some adds]
        exact retained_newest record newest
  induction h with
  | start => simp [empty, recorded]
  | told _ _ reduces ih | settled _ _ _ reduces ih => exact onward ih reduces
  | dropped _ ih => exact ih

/-- The number of records that push one out of the ledger. -/
theorem pushed_out {mid earlier : List CommandRecord} (listed : record ∈ mid)
    (gone : ∀ other ∈ (mid ++ earlier).take ledgerLimit,
    other.request.operationId ≠ record.request.operationId) :
    ledgerLimit ≤ (mid.filter (·.request.operationId ≠ record.request.operationId)).length := by
  have long : ledgerLimit ≤ mid.length := by
    apply Nat.le_of_not_lt
    intro short
    have kept : record ∈ (mid ++ earlier).take ledgerLimit := by
      rw [take_append, take_of_length_le (Nat.le_of_lt short)]
      exact mem_append_left _ listed
    exact gone record kept rfl
  rw [take_append_of_le_length long] at gone
  calc ledgerLimit = (mid.take ledgerLimit).length := (length_take_of_le long).symm
    _ = ((mid.take ledgerLimit).filter
          (·.request.operationId ≠ record.request.operationId)).length := by
        rw [filter_eq_self.2 fun other kept => decide_eq_true (gone other kept)]
    _ ≤ _ := ((take_sublist _ _).filter _).length_le

/-- A command is executed only when nothing is pending and its id is not in the ledger. -/
theorem unrecorded_of_executes {call : Call machine}
    (answered : reduce call.before call.input = some call.transition)
    (executes_ : effect ∈ executedBy call) : State.pending call.before = none ∧ ∀ record ∈
    State.completed call.before, record.request.operationId ≠ effect.request.operationId := by
  have moves := reduce_moves answered
  obtain ⟨command, rfl, none, holds⟩ := moves.executes (mem_executedBy.1 executes_)
  refine ⟨none, fun record listed same => ?_⟩
  rcases moves.pending holds with ⟨before, _⟩ | ⟨_, _, _, _, _, unrecorded, _⟩
  · cases none.symm.trans before
  · have other := find?_eq_none.1 unrecorded record listed
    exact other (beq_iff_eq.2 same)

/-- An operation id is executed again only after its record has been pushed out. -/
theorem executed_again {log mid earlier : List (Call machine)} {first second effect effect'}
    (idle : initial.pending = none) (empty : initial.completed = [])
    (h : Chronicle executes isExternal initial log s effects)
    (split : log = later ++ second :: (mid ++ first :: earlier))
    (earlier_ : effect ∈ executedBy first) (again : effect' ∈ executedBy second)
    (same : effect'.request.operationId = effect.request.operationId) : ledgerLimit ≤
    ((recorded mid).filter (·.request.operationId ≠ effect.request.operationId)).length := by
  obtain ⟨effects, before⟩ := h.before split
  have answered : reduce second.before second.input = some second.transition :=
    h.answered second (split ▸ mem_append_right _ mem_cons_self)
  have none := (unrecorded_of_executes answered again).1
  -- the first command is no longer pending, so it has been recorded
  obtain ⟨command, is, _, life⟩ := lifecycle_of_chronicle idle before rfl earlier_
  cases life with
  | waits _ session => exact absurd (none.symm.trans session.1) nofun
  | @concluded after waited call record _ concludes =>
    have listed : record ∈ recorded (after ++ call :: waited) :=
      mem_filterMap.2 ⟨call, mem_append_right _ mem_cons_self, concludes.recorded⟩
    have id : record.request.operationId = effect.request.operationId := by
      rw [concludes.request, ← is]
      rfl
    have gone : ∀ other ∈ (recorded (after ++ call :: waited) ++
        recorded (first :: earlier)).take ledgerLimit,
        other.request.operationId ≠ record.request.operationId := by
      intro other kept equal
      rw [recorded, recorded, ← filterMap_append, ← recorded, ← ledger_of_chronicle empty before, mem_reverse] at kept
      have missing := (unrecorded_of_executes answered again).2 other kept
      exact missing (equal.trans (id.trans same.symm))
    rw [← id]
    exact pushed_out listed gone

end

/-- In every run of the traffic machine, whatever its callers send and whatever its tasks return: a
command is pending only while the session it was admitted on is live; no two executions have the
same correlation; after its admission a command stays pending, without a record, until one call
records what its own task returned or a failure, and is not pending again; nothing else is
recorded; and an operation id is executed again only after as many other commands have been
recorded as the ledger holds. -/
theorem commands_settle_once {executes : Executor machine}
    {admits : Runner machine → Input → Prop} {machineAuthority : String} {context : SourceContext}
    {r : Runner machine} (external : ∀ r input, admits r input → input.isExternal)
    (run : Run executes admits (.start (State.binding machineAuthority context)) r) :
    (∀ command, State.pending r.state = some command → OnSession command r.state) ∧
    ((executed r.calls).map (·.correlation)).Nodup ∧
    (∀ later call earlier, r.calls = later ++ call :: earlier → ∀ effect ∈ executedBy call,
      ∃ command : PendingCommand, command.effect = effect ∧ OnSession command call.after ∧
        Lifecycle executes command r.state later) ∧
    (∀ call ∈ r.calls, State.completed call.after = State.completed call.before ∨
      ∃ command record, Concludes executes command call record) ∧
    (∀ later second mid first earlier, r.calls = later ++ second :: (mid ++ first :: earlier) →
      ∀ effect ∈ executedBy first, ∀ effect' ∈ executedBy second,
        effect'.request.operationId = effect.request.operationId →
        32 ≤ ((recorded mid).filter
          (·.request.operationId ≠ effect.request.operationId)).length) := by
  have chronicle := Run.chronicle run external
  have sound := sound_of_chronicle rfl chronicle
  refine ⟨sound.live, sound.distinct, ?_, ?_, ?_⟩
  · intro later call earlier split effect executes_
    exact lifecycle_of_chronicle rfl chronicle split executes_
  · intro call member
    have answered : reduce call.before call.input = some call.transition :=
      chronicle.answered call member
    cases pending : State.pending call.before with
    | none => exact .inl ((reduce_moves answered).idle pending)
    | some command =>
      obtain ⟨later, earlier, split⟩ := append_of_mem member
      obtain ⟨_, before⟩ := chronicle.before split
      have session := (sound_of_chronicle rfl before).live command pending
      rcases keeps_or_concludes answered (genuine_of_chronicle rfl chronicle call member) session with
        keeps | ⟨record, concludes⟩
      · exact .inl keeps.recordsNothing
      · exact .inr ⟨command, record, concludes⟩
  · intro later second mid first earlier split effect executes_ effect' again same
    exact executed_again rfl rfl chronicle split executes_ again same

/-! ## A command that completes -/

def sampleContext : SourceContext := ⟨none, 1, "profile", "runtime"⟩

def sampleStamp (sequence : Nat) : Stamp := ⟨sampleContext, sequence, "session"⟩

def sampleRequest : CommandRequest := ⟨1, ⟨"profile", 1, "session"⟩, .closeAllActive, "close", none⟩

def sampleCommand : PendingCommand :=
  ⟨⟨"authority", 1, "close", 2, 1⟩, sampleRequest, sampleStamp 1⟩

/-- A task returns an execution under its own correlation. -/
def returning : Executor machine := fun effect _ input =>
  ∃ execution source, input = completed (Effect.correlation effect) execution source

def sampleStart : Runner machine := .start (State.binding "authority" sampleContext)

/-- The source is live and the command is executed. -/
def sampleAdmitted : Runner machine :=
  (sampleStart.admitInput (baseline (sampleStamp 1))).admitInput (request sampleRequest)

def sampleCompletion : Input :=
  .completed sampleCommand.correlation ⟨none, .closeAllActive, [], 1⟩ (sampleStamp 1)

def sampleSettled : Runner machine := sampleAdmitted.join 0 (.completed sampleCompletion)

theorem run_sampleSettled :
    Run returning (fun _ input => isExternal input) sampleStart sampleSettled := by
  have bound : Step returning (fun _ input => isExternal input) sampleStart
      (sampleStart.admitInput (baseline (sampleStamp 1))) := .admitInput _ rfl rfl
  have requested : Step returning (fun _ input => isExternal input)
      (sampleStart.admitInput (baseline (sampleStamp 1))) sampleAdmitted :=
    .admitInput _ rfl rfl
  have joined : Step returning (fun _ input => isExternal input) sampleAdmitted sampleSettled :=
    .join ⟨0, Effect.execute sampleCommand.effect, false⟩ _ rfl nofun mem_cons_self ⟨_, _, rfl⟩
  exact .tail (.tail (.single bound) requested) joined

theorem sample_settles_once :
    recorded sampleSettled.calls = [⟨⟨none, .closeAllActive, [], 1⟩, sampleRequest⟩] ∧
      ((executed sampleSettled.calls).map (·.correlation)).Nodup :=
  ⟨by decide, (commands_settle_once (fun _ _ h => h) run_sampleSettled).2.1⟩

end Mish.Traffic
