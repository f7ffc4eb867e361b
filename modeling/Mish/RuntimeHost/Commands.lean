import Mathlib.Data.List.Pairwise
import Mathlib.Logic.Function.Basic
import Mathlib.Logic.Relation

/-!
# Commands that straddle a replacement

The commands of `DesktopRuntimeHost` and `replace`. A command only reads the watch channel, and a
replacement adds a version to it, whose runtime may be the same instance as an earlier one. However
commands and replacements interleave, a command never finds an older version (`found_ordered`).
-/

namespace Mish.RuntimeHost

inductive Answer where
  | executed | runtimeReplaced
  deriving DecidableEq

/-- The answer, the version of the runtime that gave the snapshot, and the version found by the last
check. -/
structure CommandResult where
  answer : Answer
  (snapshot checked : Nat)
  deriving DecidableEq

variable {Instance : Type} [DecidableEq Instance] {channel : Nat → Instance} {runtime : Instance}
  {start : Nat} {result : CommandResult} {changed : Nat} {reads : List Nat}

section
variable (channel : Nat → Instance)

/-- The runtime is borrowed, the result is made, and the channel is checked again. -/
def settle (runtime : Instance) (replaced : Bool) : List Nat → Option CommandResult
  | borrowed :: checked :: reads =>
    let replaced := replaced || runtime ≠ channel borrowed
    if checked = borrowed then
      some ⟨if replaced then .runtimeReplaced else .executed, borrowed, checked⟩
    else settle runtime true reads
  | _ => none

def finishTrafficCommand (start changed : Nat) : List Nat → Option CommandResult :=
  settle channel (channel start) (changed ≠ start)

def finishProviderCommand (start changed : Nat) : List Nat → Option CommandResult :=
  settle channel (channel start) (changed ≠ start)

def finishStatusCommand (start changed : Nat) : List Nat → Option CommandResult
  | borrowed :: reads =>
    if changed ≠ start ∨ channel start ≠ channel borrowed then
      settle channel (channel start) true reads
    else some ⟨.executed, start, borrowed⟩
  | [] => none

inductive Command where
  | traffic | status | provider

/-- A command borrows the runtime it executes on, and checks the channel when it has finished. -/
def Command.run (command : Command) : List Nat → Option CommandResult
  | start :: changed :: reads =>
    match command with
    | .traffic => finishTrafficCommand channel start changed reads
    | .status => finishStatusCommand channel start changed reads
    | .provider => finishProviderCommand channel start changed reads
  | _ => none

/-- The command is executed just when nothing was replaced up to the last check, and the snapshot is
that of the runtime found there. -/
def Truthful (start : Nat) (result : CommandResult) : Prop :=
  (result.answer = .executed ↔ result.checked = start) ∧
    channel result.snapshot = channel result.checked

/-- Between the first check and the borrow the same instance came back under a new version. -/
def Overlooks (command : Command) : List Nat → Prop
  | start :: changed :: borrowed :: reads =>
    changed = start ∧ borrowed ≠ start ∧ channel start = channel borrowed ∧
      (command = .status ∨ reads.head? = some borrowed)
  | _ => False

end

/-- Once a replacement was noticed, the answer says so. -/
theorem settle_replaced : ∀ {reads : List Nat}, (∀ version ∈ reads, start < version) →
    settle channel runtime true reads = some result → Truthful channel start result
  | borrowed :: checked :: reads, later, returned => by
    simp only [settle, Bool.true_or, if_true] at returned
    split at returned
    · rename_i same
      cases returned
      have after : start < checked := later checked (by simp)
      exact ⟨⟨nofun, fun unreplaced => by simp only at unreplaced; omega⟩, by rw [same]⟩
    · exact settle_replaced (fun version mem => later version (.tail _ (.tail _ mem))) returned

theorem settle_truthful_iff {command} (looping : command ≠ .status)
    (ordered : (start :: changed :: reads).Pairwise (· ≤ ·))
    (returned : settle channel (channel start) (changed ≠ start) reads = some result) :
    Truthful channel start result ↔ ¬Overlooks channel command (start :: changed :: reads) := by
  match reads with
  | borrowed :: checked :: reads =>
    simp only [List.pairwise_cons, List.mem_cons, forall_eq_or_imp] at ordered
    obtain ⟨⟨_, after, _⟩, ⟨late, _⟩, ⟨onward, _⟩, rest, _⟩ := ordered
    simp only [settle] at returned
    split at returned
    · rename_i same
      by_cases unchanged : changed = start <;> by_cases again : channel start = channel checked <;>
        grind [Truthful, Overlooks]
    · rename_i moved
      have truthful : Truthful channel start result := by
        refine settle_replaced (fun version mem => ?_) returned
        have := rest version mem
        omega
      simp [truthful, Overlooks, looping, moved]

theorem finishStatusCommand_truthful_iff (ordered : (start :: changed :: reads).Pairwise (· ≤ ·))
    (returned : finishStatusCommand channel start changed reads = some result) :
    Truthful channel start result ↔ ¬Overlooks channel .status (start :: changed :: reads) := by
  match reads with
  | borrowed :: reads =>
    simp only [List.pairwise_cons, List.mem_cons, forall_eq_or_imp] at ordered
    obtain ⟨⟨_, after, _⟩, ⟨late, _⟩, rest, _⟩ := ordered
    simp only [finishStatusCommand] at returned
    split at returned
    · rename_i noticed
      have truthful : Truthful channel start result := by
        refine settle_replaced (fun version mem => ?_) returned
        have moved : borrowed ≠ start := by
          rintro rfl
          exact noticed.elim (fun other => other (by omega)) fun other => other rfl
        have := rest version mem
        omega
      grind [Overlooks]
    · grind [Truthful, Overlooks]

/-- A command tells the truth about replacements unless it overlooks one. -/
theorem replacement_reported_iff (channel : Nat → Instance) (command : Command)
    (ordered : (start :: changed :: reads).Pairwise (· ≤ ·))
    (returned : command.run channel (start :: changed :: reads) = some result) :
    Truthful channel start result ↔ ¬Overlooks channel command (start :: changed :: reads) := by
  cases command with
  | traffic => exact settle_truthful_iff nofun ordered returned
  | status => exact finishStatusCommand_truthful_iff ordered returned
  | provider => exact settle_truthful_iff nofun ordered returned

/-! ## Interleavings -/

/-- The watch channel with all runtimes it was sent, the newest first, and the versions that each
of the commands has found, the latest first. -/
structure Host (Instance : Type) where
  sent : List Instance
  found : Nat → List Nat

namespace Host

def version (host : Host Instance) : Nat := host.sent.length - 1

def sentAt (host : Host Instance) (version : Nat) : Option Instance := host.sent.reverse[version]?

/-- What the replacement does to the traffic and the snapshots, no command reads. -/
def replace (host : Host Instance) (runtime : Instance) : Host Instance :=
  { host with sent := runtime :: host.sent }

def find (host : Host Instance) (command : Nat) : Host Instance :=
  { host with
    found := Function.update host.found command (host.version :: host.found command) }

def opened (runtime : Instance) : Host Instance := ⟨[runtime], fun _ => []⟩

inductive Step : Host Instance → Host Instance → Prop where
  | replace (host : Host Instance) (runtime : Instance) : Step host (host.replace runtime)
  | find (host : Host Instance) (command : Nat) : Step host (host.find command)

abbrev Run : Host Instance → Host Instance → Prop := Relation.ReflTransGen Step

/-- What the command has found is in order, and nothing of it is newer than the channel. -/
def Ordered (host : Host Instance) (command : Nat) : Prop :=
  (host.found command).Pairwise (· ≥ ·) ∧ ∀ version ∈ host.found command, version ≤ host.version

omit [DecidableEq Instance] in
theorem Step.ordered {host after : Host Instance} {command} (step : Step host after)
    (h : host.Ordered command) : after.Ordered command := by
  cases step with
  | replace =>
    exact ⟨h.1, fun version mem =>
      Nat.le_trans (h.2 version mem) (Nat.sub_le_sub_right (Nat.le_succ _) 1)⟩
  | find reader =>
    by_cases same : command = reader
    · subst same
      simp only [Ordered, Host.find, Function.update_self]
      exact ⟨.cons h.2 h.1, List.forall_mem_cons.2 ⟨Nat.le_refl _, h.2⟩⟩
    · simp only [Ordered, Host.find, Function.update_of_ne same]
      exact h

omit [DecidableEq Instance] in
theorem found_ordered {host : Host Instance} {runtime : Instance} (run : Run (opened runtime) host)
    (command : Nat) : (host.found command).reverse.Pairwise (· ≤ ·) := by
  rw [List.pairwise_reverse]
  suffices host.Ordered command from this.1
  induction run with
  | refl => exact ⟨.nil, fun _ mem => absurd mem List.not_mem_nil⟩
  | tail _ step ih => exact step.ordered ih

/-- The replacements and the reads of the first command, in order. -/
def play (runtime : Instance) (events : List (Option Instance)) : Host Instance :=
  events.foldl (fun host event => event.elim (host.find 0) host.replace) (opened runtime)

omit [DecidableEq Instance] in
theorem run_play (runtime : Instance) (events : List (Option Instance)) :
    Run (opened runtime) (play runtime events) := by
  unfold play
  generalize opened runtime = start
  induction events generalizing start with
  | nil => exact .refl
  | cons event events ih =>
    refine .head ?_ (ih _)
    cases event with
    | none => exact .find start 0
    | some other => exact .replace start other

end Host

/-- The runtime is replaced twice, and both times the command notices. -/
theorem replacement_reported_twice : ∃ host : Host Nat, Host.Run (.opened 0) host ∧
    (host.found 0).reverse = [0, 1, 1, 2, 2, 2] ∧
    (Truthful host.sentAt 0 ⟨.runtimeReplaced, 2, 2⟩ ↔
      ¬Overlooks host.sentAt .traffic [0, 1, 1, 2, 2, 2]) := by
  have run := Host.run_play 0 [none, some 0, none, none, some 0, none, none, none]
  have found : (Host.found _ 0).reverse.Pairwise (· ≤ ·) := Host.found_ordered run 0
  exact ⟨_, run, by decide, replacement_reported_iff _ _ found (by decide)⟩

/-- The runtime is replaced by itself right after the first check. -/
theorem replacement_overlooked : ∃ (host : Host Nat) (result : CommandResult),
    Host.Run (.opened 0) host ∧
    Command.status.run host.sentAt (host.found 0).reverse = some result ∧
    ¬Truthful host.sentAt 0 result :=
  ⟨_, ⟨.executed, 0, 1⟩, Host.run_play 0 [none, none, some 0, none, none], by decide,
    fun truthful => absurd (truthful.1.1 rfl) (by decide)⟩

end Mish.RuntimeHost
