import Mish.Traffic.Commands

/-!
# The sequence numbers of a traffic session

While a session stays live its sequence numbers only grow, for a baseline and an observation are
both compared with the live one. A baseline that makes the source live again is compared with
nothing.
-/

namespace Mish.Traffic
open StateMachine Input

/-- The stamps the source has been live with after each call, newest first. -/
def lives (log : List (Call machine)) : List Stamp :=
  log.filterMap fun call => (State.authority call.after).live?

/-- No session is live with a smaller sequence number than before. -/
def Ordered (log : List (Call machine)) : Prop :=
  (lives log).Pairwise fun later earlier =>
    earlier.sameSession later = true → earlier.sequence ≤ later.sequence

instance (log : List (Call machine)) : Decidable (Ordered log) :=
  inferInstanceAs (Decidable (List.Pairwise _ _))

/-- The baseline makes a source live that is not. -/
structure Resumes (call : Call machine) (stamp : Stamp) : Prop where
  input : call.input = baseline stamp
  before : (State.authority call.before).live? = none
  after : State.authority call.after = .live stamp

/-- A baseline that makes the source live is not behind what its session was live with. -/
def ResumesOnward (log : List (Call machine)) : Prop :=
  ∀ later call earlier stamp, log = later ++ call :: earlier → Resumes call stamp →
    ∀ before ∈ lives earlier, before.sameSession stamp = true → before.sequence ≤ stamp.sequence

theorem lives_cons_some (call : Call machine) {stamp}
    (live : State.authority call.after = .live stamp) (log : List (Call machine)) :
    lives (call :: log) = stamp :: lives log :=
  List.filterMap_cons_some (by rw [live]; rfl)

variable {log : List (Call machine)} {effects : List Effect}

theorem ResumesOnward.tail {call} (h : ResumesOnward (call :: log)) : ResumesOnward log := by
  intro later call' earlier stamp split
  exact h (call :: later) call' earlier stamp (congrArg (call :: ·) split)

/-- A call that leaves the source live goes on in the live session, or is a baseline. -/
theorem Moves.live {s t input stamp} (moves : Moves s input t effects)
    (live : t.authority = .live stamp) : (∃ current, s.authority = .live current ∧
    current.sameSession stamp = true ∧ current.sequence ≤ stamp.sequence) ∨
    (input = .baseline stamp ∧ s.authority.live? = none) := by
  have same (stays : s.authority = .live stamp) : ∃ current, s.authority = .live current ∧
      current.sameSession stamp = true ∧ current.sequence ≤ stamp.sequence :=
    ⟨stamp, stays, Stamp.sameSession_refl _, Nat.le_refl _⟩
  cases moves with
  | stays | completes => exact .inl (same live)
  | begins => exact .inl (same live)
  | advances from_ onward =>
    cases live
    cases before : s.authority.live? with
    | some current =>
      have is := Authority.live?_eq_some.1 before
      exact .inl ⟨current, is, onward current is⟩
    | none =>
      rcases from_ with baseline | ⟨isLive, _⟩
      · exact .inr ⟨baseline, rfl⟩
      · rw [before] at isLive
        cases isLive
  | leaves _ other | interrupts _ other =>
    have is := Authority.live?_eq_some.2 live
    cases other.symm.trans is
  | breaks => cases live

section
variable {executes : Executor machine} {told : Input → Prop} {initial : State}
  {s : State}

/-- A live source has been left live by the newest call. -/
theorem lives_head {stamp} (unbound : initial.authority.live? = none)
    (h : Chronicle executes told initial log s effects) (live : s.authority = .live stamp) :
    ∃ rest, lives log = stamp :: rest := by
  induction h with
  | start =>
    rw [live] at unbound
    cases unbound
  | @told _ s _ input transition | @settled _ s _ _ _ input transition =>
    exact ⟨_, lives_cons_some ⟨s, input, transition⟩ live _⟩
  | dropped _ ih => exact ih live

/-- One call keeps the stamps ordered, if a baseline that resumes is not behind. -/
theorem ordered_call {input reaction} (unbound : initial.authority.live? = none)
    (before : Chronicle executes told initial log s effects)
    (reduces : reduce s input = some reaction) (ordered : Ordered log)
    (onward : ResumesOnward (⟨s, input, reaction⟩ :: log)) :
    Ordered (⟨s, input, reaction⟩ :: log) := by
  cases live : (State.authority (reaction.next s)).live? with
  | none =>
    have same : lives (⟨s, input, reaction⟩ :: log) = lives log := List.filterMap_cons_none live
    rw [Ordered, same]
    exact ordered
  | some stamp =>
    have is := Authority.live?_eq_some.1 live
    rw [Ordered, lives_cons_some ⟨s, input, reaction⟩ is]
    refine .cons (fun earlier listed session => ?_) ordered
    rcases (reduce_moves reduces).live is with ⟨current, current_, same, grows⟩ | ⟨baseline, idle⟩
    · obtain ⟨rest, all⟩ := lives_head unbound before current_
      have pairs := ordered
      rw [Ordered, all] at pairs
      rw [all] at listed
      rcases List.mem_cons.1 listed with rfl | older
      · exact grows
      · have within := Stamp.sameSession_trans session (Stamp.sameSession_symm same)
        exact Nat.le_trans ((List.pairwise_cons.1 pairs).1 earlier older within) grows
    · exact onward [] _ log stamp rfl ⟨baseline, idle, is⟩ earlier listed session

theorem ordered_of_resumes (unbound : initial.authority.live? = none)
    (h : Chronicle executes told initial log s effects) (onward : ResumesOnward log) :
    Ordered log := by
  induction h with
  | start => exact .nil
  | told before _ reduces ih | settled before _ _ reduces ih =>
    exact ordered_call unbound before reduces (ih onward.tail) onward
  | dropped _ ih => exact ih onward

end

/-- In every run of the traffic machine the sequence numbers of a session never run backwards
exactly when no baseline that makes the source live again is behind a number its session was live
with. -/
theorem sequences_ordered_iff {executes : Executor machine} {admits : Runner machine → Input → Prop}
    {machineAuthority : String} {context : SourceContext} {r : Runner machine}
    (run : Run executes admits (.start (State.binding machineAuthority context)) r) :
    Ordered r.calls ↔ ResumesOnward r.calls := by
  constructor
  · intro ordered later call earlier stamp split resumes before listed
    rw [Ordered, split, show lives (later ++ call :: earlier) = _ from List.filterMap_append,
      ← lives, ← lives, lives_cons_some call resumes.after] at ordered
    have pairs := (List.pairwise_append.1 ordered).2.1
    exact (List.pairwise_cons.1 pairs).1 before listed
  · exact ordered_of_resumes rfl (Run.chronicle run fun _ _ _ => trivial)

/-! ## Sessions that are resumed -/

/-- The source is live with the fifth observation, and an observation fails. -/
def gapped : Runner machine :=
  (sampleStart.admitInput (baseline (sampleStamp 5))).admitInput
    (gap sampleContext .observationFailed)

theorem run_gapped : Run returning (fun _ input => isExternal input) sampleStart gapped := by
  have live : Step returning (fun _ input => isExternal input) sampleStart
      (sampleStart.admitInput (baseline (sampleStamp 5))) := .admitInput _ rfl rfl
  exact .tail (.single live) (.admitInput _ rfl rfl)

/-- A baseline with the seventh makes it live again. -/
theorem sample_resumes_onward :
    lives (gapped.admitInput (baseline (sampleStamp 7))).calls = [sampleStamp 7, sampleStamp 5] ∧
    ResumesOnward (gapped.admitInput (baseline (sampleStamp 7))).calls := by
  have run : Run returning (fun _ input => isExternal input) sampleStart
    (gapped.admitInput (baseline (sampleStamp 7))) := run_gapped.tail (.admitInput _ rfl rfl)
  exact ⟨by decide, (sequences_ordered_iff run).1 (by decide)⟩

def staleRequest : CommandRequest := { sampleRequest with authority := ⟨"profile", 3, "session"⟩ }

/-- A baseline with the third makes it live instead, and a command for the third is admitted. -/
def regressed : Runner machine :=
  (gapped.admitInput (baseline (sampleStamp 3))).admitInput (request staleRequest)

theorem run_regressed : Run returning (fun _ input => isExternal input) sampleStart regressed := by
  have again : Step returning (fun _ input => isExternal input) gapped
      (gapped.admitInput (baseline (sampleStamp 3))) := .admitInput _ rfl rfl
  exact (run_gapped.tail again).tail (.admitInput _ rfl rfl)

/-- After a gap the session goes from the fifth observation back to the third, and a command that
was composed for the third is executed. -/
theorem sequence_runs_backwards :
    Run returning (fun _ input => Input.isExternal input) sampleStart regressed ∧
      lives regressed.calls = [sampleStamp 3, sampleStamp 3, sampleStamp 5] ∧
      ¬Ordered regressed.calls ∧
      (executed regressed.calls).map (·.request) = [staleRequest] :=
  ⟨run_regressed, by decide, by decide, by decide⟩

end Mish.Traffic
