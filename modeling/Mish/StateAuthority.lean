import Mathlib.Logic.Function.Basic
import Mathlib.Logic.Relation

/-!
# The mutation authority

The flag and the lock of `StateMutationAuthority`, and calls of `try_acquire` and `acquire` that
any number of callers make at once, each step of a call by itself.
-/

namespace Mish.StateAuthority

inductive StateMutationError where
  | busy | wrongAuthority | unavailable

/-- How far a call has come. -/
inductive Progress where
  | outside
  -- `try_acquire` has found the flag down
  | trying
  -- `acquire` has, and waits for the lock
  | queued
  -- it has the lock and has not looked at the flag again
  | locked
  | refused (error : StateMutationError)
  | permitted

def Progress.holds : Progress → Bool
  | .locked | .permitted => true
  | _ => false

section
variable {Caller : Type} [DecidableEq Caller]

structure Authority (Caller : Type) where
  unavailable : Bool
  holder : Option Caller
  progress : Caller → Progress

inductive Event (Caller : Type) where
  | tryAcquire (caller : Caller)
  | tryLock (caller : Caller)
  | acquire (caller : Caller)
  | lock (caller : Caller)
  | recheck (caller : Caller)
  -- the future of `acquire` is dropped while it waits
  | abandon (caller : Caller)
  | dropPermit (caller : Caller)
  | makeUnavailableUntilRestart

namespace Authority

def new : Authority Caller := ⟨false, none, fun _ => .outside⟩

def set (s : Authority Caller) (caller : Caller) (progress : Progress) : Authority Caller :=
  { s with progress := Function.update s.progress caller progress }

def Enabled (s : Authority Caller) : Event Caller → Prop
  | .tryAcquire caller | .acquire caller => s.progress caller = .outside
  | .tryLock caller => s.progress caller = .trying
  | .lock caller => s.progress caller = .queued ∧ s.holder = none
  | .recheck caller => s.progress caller = .locked
  | .abandon caller => s.progress caller = .queued
  | .dropPermit caller => s.progress caller = .permitted
  | .makeUnavailableUntilRestart => True

def next (s : Authority Caller) : Event Caller → Authority Caller
  | .tryAcquire caller =>
    s.set caller (if s.unavailable then .refused .unavailable else .trying)
  | .tryLock caller =>
    if s.holder.isSome then s.set caller (.refused .busy)
    else { s.set caller .permitted with holder := some caller }
  | .acquire caller => s.set caller (if s.unavailable then .refused .unavailable else .queued)
  | .lock caller => { s.set caller .locked with holder := some caller }
  | .recheck caller =>
    if s.unavailable then { s.set caller (.refused .unavailable) with holder := none }
    else s.set caller .permitted
  | .abandon caller => s.set caller .outside
  | .dropPermit caller => { s.set caller .outside with holder := none }
  | .makeUnavailableUntilRestart => { s with unavailable := true }

def Step (s t : Authority Caller) : Prop := ∃ event, s.Enabled event ∧ t = s.next event

abbrev Run : Authority Caller → Authority Caller → Prop := Relation.ReflTransGen Step

/-- The step gives a permit. -/
def Grants (s t : Authority Caller) : Prop :=
  ∃ caller, s.progress caller ≠ .permitted ∧ t.progress caller = .permitted

/-- No permit is given from here on. -/
def Final (s : Authority Caller) : Prop := ∀ t u, Run s t → Step t u → ¬Grants t u

variable {s t : Authority Caller} {caller : Caller} {progress : Progress}

@[simp] theorem set_progress (caller other : Caller) (progress : Progress) :
    (s.set caller progress).progress other =
    if other = caller then progress else s.progress other := by
  simp [set, Function.update_apply]

/-! ## One permit -/

/-- The lock belongs to the caller that is at work under it. -/
def Owned (s : Authority Caller) : Prop :=
  ∀ caller, (s.progress caller).holds = true ↔ s.holder = some caller

theorem Owned.keeps (h : Owned s)
    (same : progress.holds = (s.progress caller).holds) : Owned (s.set caller progress) := by
  intro other
  by_cases is : other = caller
  · simpa [is, same, set] using h caller
  · simpa [is, set] using h other

theorem Owned.takes (h : Owned s) (free : s.holder = none) (holds : progress.holds = true) :
    Owned { s.set caller progress with holder := some caller } := by
  intro other
  by_cases is : other = caller
  · simp [is, holds]
  · simpa [is, free, Ne.symm is] using h other

theorem Owned.releases (h : Owned s) (held : (s.progress caller).holds = true)
    (free : progress.holds = false) : Owned { s.set caller progress with holder := none } := by
  intro other
  have holder := (h caller).1 held
  by_cases is : other = caller
  · simp [is, free]
  · simpa [is, holder, Ne.symm is] using h other

theorem Owned.step (h : Owned s) (step : Step s t) : Owned t := by
  obtain ⟨event, enabled, rfl⟩ := step
  cases event with
  | tryAcquire caller | acquire caller =>
    refine h.keeps ?_
    rw [show s.progress caller = .outside from enabled]
    split <;> rfl
  | abandon caller =>
    refine h.keeps ?_
    rw [show s.progress caller = .queued from enabled]
    rfl
  | tryLock caller =>
    simp only [next]
    split
    · refine h.keeps ?_
      rw [show s.progress caller = .trying from enabled]
      rfl
    · rename_i free
      exact h.takes (by simpa using free) rfl
  | lock caller => exact h.takes enabled.2 rfl
  | recheck caller =>
    have held : (s.progress caller).holds = true := by
      rw [show s.progress caller = .locked from enabled]
      rfl
    simp only [next]
    split
    · exact h.releases held rfl
    · exact h.keeps held.symm
  | dropPermit caller =>
    refine h.releases ?_ rfl
    rw [show s.progress caller = .permitted from enabled]
    rfl
  | makeUnavailableUntilRestart => exact h

theorem Owned.run (h : Owned s) (run : Run s t) : Owned t := by
  induction run with
  | refl => exact h
  | tail _ step ih => exact ih.step step

omit [DecidableEq Caller] in
theorem owned_new : Owned (new : Authority Caller) := fun _ => by simp [new, Progress.holds]

/-! ## After the authority was closed -/

/-- The flag is up and no `try_acquire` has seen it down. -/
structure Shut (s : Authority Caller) : Prop where
  unavailable : s.unavailable = true
  none : ∀ caller, s.progress caller ≠ .trying

theorem Shut.moves (h : Shut s)
    (up : t.unavailable = true) (moved : t.progress = (s.set caller progress).progress)
    (tries : progress ≠ .trying) (gets : progress ≠ .permitted) : Shut t ∧ ¬Grants s t := by
  refine ⟨⟨up, fun other => ?_⟩, ?_⟩
  · rw [moved, set_progress]
    split
    · exact tries
    · exact h.none other
  · rintro ⟨other, before, after⟩
    rw [moved, set_progress] at after
    split at after
    · exact gets after
    · exact before after

theorem Shut.step (h : Shut s) (step : Step s t) : Shut t ∧ ¬Grants s t := by
  obtain ⟨event, enabled, rfl⟩ := step
  have up := h.unavailable
  cases event with
  | tryAcquire caller | acquire caller | recheck caller =>
    simp only [next, up, if_true]
    exact h.moves up rfl nofun nofun
  | tryLock caller => exact absurd enabled (h.none caller)
  | lock caller | abandon caller | dropPermit caller => exact h.moves up rfl nofun nofun
  | makeUnavailableUntilRestart => exact ⟨⟨rfl, h.none⟩, fun ⟨_, before, after⟩ => before after⟩

theorem Shut.run (h : Shut s) (run : Run s t) : Shut t := by
  induction run with
  | refl => exact h
  | tail _ step ih => exact (ih.step step).1

theorem grants_of_trying (tries : s.progress caller = .trying) (free : s.holder = none) :
    Step s (s.next (.tryLock caller)) ∧ Grants s (s.next (.tryLock caller)) := by
  refine ⟨⟨.tryLock caller, tries, rfl⟩, caller, tries ▸ nofun, ?_⟩
  simp [next, free]

/-- Whoever has the lock can let go of it. -/
theorem Owned.frees (h : Owned s) (up : s.unavailable = true)
    (tries : s.progress caller = .trying) :
    ∃ t, Run s t ∧ t.holder = none ∧ t.progress caller = .trying := by
  cases holder : s.holder with
  | none => exact ⟨s, .refl, holder, tries⟩
  | some other =>
    have held : (s.progress other).holds = true := (h other).2 holder
    have apart : caller ≠ other := by
      rintro rfl
      rw [tries] at held
      cases held
    cases at_ : s.progress other with
    | locked =>
      refine ⟨_, .single ⟨.recheck other, at_, rfl⟩, ?_⟩
      simp [next, up, apart, tries]
    | permitted =>
      refine ⟨_, .single ⟨.dropPermit other, at_, rfl⟩, rfl, ?_⟩
      simp [next, apart, tries]
    | _ =>
      rw [at_] at held
      cases held

theorem permits_exclusive (run : Run new s) {other} (one : s.progress caller = .permitted)
    (two : s.progress other = .permitted) : caller = other := by
  have owned := owned_new.run run
  have first := (owned caller).1 (by rw [one]; rfl)
  have second := (owned other).1 (by rw [two]; rfl)
  exact Option.some.inj (first.symm.trans second)

end Authority

/-- Two permits never exist at once. Once the authority is closed, no permit is given any more just
when no `try_acquire` has passed its check of the flag and not yet tried the lock. -/
theorem closed_is_final_iff {s : Authority Caller} (run : Authority.Run .new s) :
    (∀ caller other, s.progress caller = .permitted → s.progress other = .permitted →
      caller = other) ∧
    (s.unavailable = true → (s.Final ↔ ∀ caller, s.progress caller ≠ .trying)) := by
  refine ⟨fun _ _ => Authority.permits_exclusive run, fun up => ⟨fun final caller tries => ?_, ?_⟩⟩
  · obtain ⟨t, frees, free, still⟩ := (Authority.owned_new.run run).frees up tries
    obtain ⟨step, grants⟩ := Authority.grants_of_trying still free
    exact final t _ frees step grants
  · intro none t u later step
    have shut : Authority.Shut s := ⟨up, none⟩
    exact ((shut.run later).step step).2

end

/-! ## A permit after the authority was closed -/

/-- The first caller holds the permit, the second has seen the flag down, and the first closes the
authority. -/
def closing : Authority Bool :=
  ([.tryAcquire true, .tryLock true, .tryAcquire false, .makeUnavailableUntilRestart] :
    List (Event Bool)).foldl Authority.next .new

theorem run_closing : Authority.Run .new closing :=
  (((Relation.ReflTransGen.single ⟨.tryAcquire true, rfl, rfl⟩).tail
    ⟨.tryLock true, rfl, rfl⟩).tail ⟨.tryAcquire false, rfl, rfl⟩).tail
    ⟨.makeUnavailableUntilRestart, trivial, rfl⟩

theorem closing_is_not_final : closing.unavailable = true ∧ ¬closing.Final := by
  refine ⟨rfl, fun final => ?_⟩
  obtain ⟨_, iff⟩ := closed_is_final_iff run_closing
  exact (iff rfl).1 final false rfl

/-- The permit is dropped, and the second caller gets one. -/
theorem permit_after_closing : ∃ s t : Authority Bool, Authority.Run .new closing ∧
    closing.unavailable = true ∧ Authority.Run closing s ∧ Authority.Step s t ∧ s.Grants t := by
  have drops : Authority.Step closing (closing.next (.dropPermit true)) :=
    ⟨.dropPermit true, rfl, rfl⟩
  have tries : (closing.next (.dropPermit true)).progress false = .trying := rfl
  obtain ⟨step, grants⟩ := Authority.grants_of_trying tries rfl
  exact ⟨_, _, run_closing, rfl, .single drops, step, grants⟩

end Mish.StateAuthority
