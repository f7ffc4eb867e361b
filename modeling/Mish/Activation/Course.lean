import Mish.Activation.World

/-!
# One call of the manager

What a call of `activate_cancellable_observed_for_operation` or `shutdown` leaves, with any answers
to its requests. Each helper has one lemma, and `fallBack_spec` is the one for the arms that give
up.
-/

namespace Mish.Activation
open Interaction World
open Capture (CaptureFailureKind CaptureRequest CaptureSelection)
open ProfileActivation (MihomoActivationError ActivationCommit)

/-! ## Conditions on the answers -/

/-- The generation that a request is made to restore. -/
def restoring : Request → Option Generation
  | .listenerRelease _ generation => some generation
  | .start generation .restore => some generation
  | .waitForCandidate generation .restore => some generation
  | .reconcile _ _ .restore generation => generation
  | _ => none

def fails : (r : Request) → Reply r → Bool
  | .listenerRelease _ _, conflict => conflict.isSome
  | .start _ _, ok => !ok
  | .stop _ _, ok => !ok
  | .waitForCandidate _ _, .error _ => true
  | .reconcile _ _ _ _, .error _ => true
  | _, _ => false

/-- A core that has been started is stopped by the rollback, and the restoring of the previous
generation fails only once its core has been stopped. -/
def Tidy (w : World) (r : Request) (a : Reply r) : Prop :=
  fails r a = true →
    (∀ generation, restoring r = some generation → (w.core generation).loose = false) ∧
    ∀ generation, r = .stop generation .rollback → (w.core generation).started = false

/-- The confirmed status says that the capture is on while it is, and that something is selected
if it is. -/
def reportsCapture (w : World) : (r : Request) → Reply r → Prop
  | .confirmedStatus, status =>
    (w.captured ≠ none → (status.systemProxyDesired || status.tunDesired) = true) ∧
    ((status.systemProxyDesired || status.tunDesired) = true →
      selects status.captureSelection = true)
  | _, _ => True

/-- The capture that was applied for a candidate is taken off it before the candidate is stopped;
or else there is a suspended capture, and the previous generation is restored with it. -/
def Guarded (w : World) (r : Request) (a : Reply r) : Prop :=
  reportsCapture w r a ∧ (fails r a = true → ((restoring r).isSome = true → w.stranded = false) ∧
    ∀ request healthy core, r = .reconcile request healthy .abort core → w.suspended ≠ none)

/-! ## What a call leaves -/

/-- The generation in memory and the record are the same, or there is neither. -/
def ActivationState.Agrees (state : ActivationState) : Prop :=
  state.managed.activeFingerprint = state.active.map (·.fingerprint) ∧
  state.managed.activeProfileId = state.active.map (·.profileId) ∧
  state.managed.activeRevision = state.active.map (·.revision) ∧
  state.managed.activeRuntimeId = state.active.map (·.runtimeId)

/-- Its core, if the call has touched it, was found running since, its observations go on, and the
capture that was suspended is on again. -/
structure World.Unharmed (w : World) (generation : Generation) : Prop where
  core : (w.core generation).touched = true → (w.core generation).running = true
  observed : (w.core generation).paused = false
  capture : w.suspended = none

/-- No core but that of the active generation is left to be stopped. -/
def Settled (state : ActivationState) (w : World) : Prop :=
  ∀ id, (w.cores id).loose = true → state.active.map (·.runtimeId) = some id

theorem Settled.paused {state w} (settled : Settled state w) (generation : Generation)
    (paused : Bool) : Settled state (w.update generation { w.core generation with paused }) := by
  intro id left
  refine settled id ?_
  rw [cores_update] at left
  split at left
  · rename_i same
    rw [same]
    exact left
  · exact left

/-- What an activation leaves: in any case, if `T`, and if `G`. -/
structure Contract (T G : Prop) (setup : Setup) (record : ProfileRecord)
    (before : ActivationState) (out : Outcome ActivationCommit) (w : World) : Prop where
  agrees : before.Agrees → out.2.Agrees
  ok : ∀ commit, out.1 = .ok commit → ∃ policy, out.2.Agrees ∧
    out.2.active = some (candidateOf record policy commit.runtimeId) ∧
    commit = commitOf record (candidateOf record policy commit.runtimeId) ∧
    w.persisted = some out.2.managed
  error : ∀ error, out.1 = .error error → out.2.active = none ∨
    ∃ generation, before.active = some generation ∧ out.2.active = some generation ∧
      w.Unharmed generation
  settled : T → Settled out.2 w
  attached : G → w.stranded = false
  off : G → setup.capture = false → w.captured = none

/-! ## Rules -/

/-- Every result satisfies `post`. -/
abbrev Ensures {α : Type} (meets : World → (r : Request) → Reply r → Prop)
    (post : α → World → Prop) (p : Action α) (w : World) : Prop :=
  Safe (answers meets) (fun _ _ => True) post p w

section
variable {meets : World → (r : Request) → Reply r → Prop} {w : World} {α β : Type}
  {post : α → World → Prop} {r : Request} {T G : Prop} {setup : Setup} {transition : Bool}
  {record : ProfileRecord} {suspended : Option CaptureSelection}
  (guarded : G → ∀ w r a, meets w r a → Guarded w r a)

theorem Ensures.ask {k} (h : ∀ a, meets w r a → w.fresh r a →
    Ensures meets post (k a) (w.after r a)) : Ensures meets post (ask r >>= k) w := by
  refine ⟨trivial, fun a t answered => ?_⟩
  obtain ⟨met, fresh, rfl⟩ := answered
  exact h a met fresh

theorem Ensures.request {post} (h : ∀ a, meets w r a → w.fresh r a → post a (w.after r a)) :
    Ensures meets post (Activation.ask r) w := by
  refine ⟨trivial, fun a t answered => ?_⟩
  obtain ⟨met, fresh, rfl⟩ := answered
  exact h a met fresh

/-! ## Helpers -/

theorem rollbackCandidate_spec (candidate : Generation) :
    Ensures meets (fun _ w' => ∃ ok, meets w (.stop candidate .rollback) ok ∧
    w' = w.stopAnswered candidate ok) (rollbackCandidate candidate) w :=
  .ask fun _ _ _ => .ask fun ok met _ => .request fun _ _ _ => ⟨ok, met, rfl⟩

theorem dropActive_spec (state : ActivationState) : Ensures meets (fun dropped w' => w = w' ∧
    dropped = { state with active := none, managed := state.managed.withoutActive })
    (dropActive state) w := by
  unfold dropActive
  cases state.active with
  | none => exact ⟨rfl, rfl⟩
  | some previous => exact .ask fun _ _ _ => .ask fun _ _ _ => ⟨rfl, rfl⟩

/-- How `suspend_capture` ends. -/
inductive Suspension (meets : World → (r : Request) → Reply r → Prop) (G : Prop) (setup : Setup)
    (w : World) (stage : Stage) (core : Generation) :
    Except MihomoActivationError (Option CaptureSelection) → World → Prop where
  | unneeded : (G → w.captured = none) → Suspension meets G setup w stage core (.ok none) w
  | suspended (selection : CaptureSelection) : setup.capture = true →
      (G → selects selection = true) →
      Suspension meets G setup w stage core (.ok (some selection))
        (w.reconciled ⟨false, selection⟩ stage (some core))
  | failed (kind : CaptureFailureKind) (selection : CaptureSelection) :
      meets w (.reconcile ⟨false, selection⟩ false stage (some core)) (.error kind) →
      Suspension meets G setup w stage core (.error (.captureFailed kind)) w

include guarded

theorem suspendCapture_spec {stage core} (held : setup.capture = true → transition = true)
    (off : G → setup.capture = false → w.captured = none) :
    Ensures meets (Suspension meets G setup w stage core)
    (suspendCapture setup transition stage core) w := by
  unfold suspendCapture
  split
  · rename_i none
    exact .unneeded fun g => off g (by simpa using none)
  · rename_i present
    have present : setup.capture = true := by simpa using present
    refine .ask fun status met _ => ?_
    unfold suspendConfirmed
    rw [held present]
    split
    · rename_i undesired
      refine .unneeded fun g => ?_
      by_contra captured
      have desired := (guarded g _ _ _ met).1.1 captured
      simp_all
    · rename_i desired
      have desired : (status.systemProxyDesired || status.tunDesired) = true := by
        cases one : status.systemProxyDesired <;> cases two : status.tunDesired <;> simp_all
      refine .ask fun result met' _ => ?_
      cases result with
      | error kind => exact .failed kind _ met'
      | ok => exact .suspended _ present fun g => (guarded g _ _ _ met).1.2 desired

variable (tidy : T → ∀ w r a, meets w r a → Tidy w r a)

include tidy

variable {previous : Generation}

/-- An answer that ends the restoring of a generation. -/
theorem restoring_failed {a} (met : meets w r a)
    (failed : fails r a = true) (restores : restoring r = some previous) :
    (T → (w.core previous).loose = false) ∧ (G → w.stranded = false) :=
  ⟨fun t => (tidy t _ _ _ met failed).1 previous restores,
    fun g => ((guarded g _ _ _ met).2 failed).1 (by rw [restores]; rfl)⟩

/-- What restoring the core does, but for its own core nothing. -/
structure CoreRestored (T G : Prop) (previous : Generation) (w : World) (ok : Bool) (w' : World) :
    Prop where
  others : ∀ id, id ≠ previous.runtimeId → w'.cores id = w.cores id
  captured : w'.captured = w.captured
  suspended : w'.suspended = w.suspended
  stranded : w'.stranded = w.stranded
  running : ok = true → (w'.core previous).running = true
  lost : ok = false → (T → (w'.core previous).loose = false) ∧ (G → w'.stranded = false)

omit guarded tidy in
theorem cores_once {view} (id : String) (other : id ≠ previous.runtimeId) :
    (w.update previous view).cores id = w.cores id := by
  simp [other]

theorem restart_spec (previous : Generation) {phase} :
    Ensures meets (CoreRestored T G previous w) (do
        match ← ask (.listenerRelease (previous.endpoints setup) previous) with
        | some _ => return false
        | none => ask (.start previous .restore) : Action Bool)
      (w.after (.coreStatus previous) phase) := by
  refine .ask fun conflict met _ => ?_
  cases conflict with
  | some endpoint =>
    have lost := restoring_failed guarded tidy met rfl rfl
    exact ⟨cores_once, rfl, rfl, rfl, by simp, fun _ => lost⟩
  | none =>
    refine .request fun ok met _ => ⟨fun id other => ?_, rfl, rfl, rfl, ?_, ?_⟩
    · exact (cores_once id other).trans (cores_once id other)
    · rintro rfl
      simp [after, startAnswered, core]
    · rintro rfl
      obtain ⟨loose, stranded⟩ := restoring_failed guarded tidy met rfl rfl
      refine ⟨fun t => ?_, stranded⟩
      have before := loose t
      simpa [after, startAnswered, core] using before

theorem restoreCore_spec (previous : Generation) :
    Ensures meets (CoreRestored T G previous w) (restoreCore setup previous) w := by
  refine .ask fun phase _ _ => ?_
  cases phase with
  | running => exact ⟨cores_once, rfl, rfl, rfl, fun _ => by simp [after, core], by simp⟩
  | stopped | starting | stopping | failed => exact restart_spec guarded tidy previous

/-- What restoring the previous generation does. -/
structure Restored (T G : Prop) (previous : Generation) (suspended : Option CaptureSelection)
    (w : World) (ok : Bool) (w' : World) : Prop where
  others : ∀ id, id ≠ previous.runtimeId → w'.cores id = w.cores id
  back : ok = true → w'.Unharmed previous
  attached : ok = true → G → w'.stranded = true → w.stranded = true ∧ suspended = none
  off : suspended = none → w'.captured = w.captured
  lost : ok = false → (T → (w'.core previous).loose = false) ∧ (G → w'.stranded = false)

/-- What is known of the selection that a call has suspended. -/
structure Kept (G : Prop) (setup : Setup) (suspended : Option CaptureSelection) (w : World) :
    Prop where
  same : w.suspended = suspended
  enabled : suspended ≠ none → setup.capture = true
  selected : G → ∀ selection, suspended = some selection → selects selection = true

theorem restoreCapture_spec (held : transition = setup.capture) (kept : Kept G setup suspended w)
    (running : (w.core previous).running = true) (observed : (w.core previous).paused = false) :
    Ensures meets (Restored T G previous suspended w)
    (restoreCapture setup suspended transition (some previous)) w := by
  cases suspended with
  | none =>
    exact ⟨fun _ _ => rfl, fun _ => ⟨fun _ => running, observed, kept.same⟩,
      fun _ _ stranded => ⟨stranded, rfl⟩, fun _ => rfl, nofun⟩
  | some selection =>
    have enabled := kept.enabled nofun
    simp only [restoreCapture, resumeCapture, held, enabled, Bool.not_true, Bool.false_eq_true,
      if_false]
    refine .ask fun result met _ => ?_
    cases result with
    | ok =>
      refine ⟨fun _ _ => rfl, fun _ => ⟨fun _ => running, observed, ?_⟩, fun _ g stranded => ?_,
        nofun, nofun⟩
      · simp [after, World.reconciled, kept.same]
      · have selected := kept.selected g selection rfl
        simp [after, World.reconciled, selected, running] at stranded
    | error kind =>
      have lost := restoring_failed guarded tidy met rfl rfl
      exact ⟨fun _ _ => rfl, nofun, nofun, nofun, fun _ => lost⟩

theorem restoreGeneration_spec (held : transition = setup.capture)
    (kept : Kept G setup suspended w) : Ensures meets (Restored T G previous suspended w)
    (restoreGeneration setup previous suspended transition) w := by
  refine Safe.bind (restoreCore_spec guarded tidy previous) fun ok w' restored => ?_
  cases ok with
  | false =>
    exact ⟨restored.others, nofun, nofun, fun _ => restored.captured, fun _ => restored.lost rfl⟩
  | true =>
    have running := restored.running rfl
    refine Ensures.ask fun _ _ _ => .ask fun ready met _ => ?_
    let resumed := w'.after (.resumeObservations previous) ()
    have others (id : String) (other : id ≠ previous.runtimeId) :
        resumed.cores id = w.cores id := by
      have same := restored.others id other
      simpa [resumed, after, other] using same
    cases ready with
    | error =>
      have lost := restoring_failed guarded tidy met rfl rfl
      exact ⟨others, nofun, nofun, fun _ => restored.captured, fun _ => lost⟩
    | ok =>
      have kept' : Kept G setup suspended resumed :=
        ⟨restored.suspended.trans kept.same, kept.enabled, kept.selected⟩
      refine Safe.mono (restoreCapture_spec guarded tidy held kept' ?_ ?_) fun ok t after => ?_
      · simpa [resumed, after, core] using running
      · simp [after, core]
      · refine ⟨fun id other => (after.others id other).trans (others id other), after.back,
          fun yes g stranded => ?_, fun none => (after.off none).trans restored.captured,
          after.lost⟩
        obtain ⟨before, none⟩ := after.attached yes g stranded
        exact ⟨restored.stranded.symm.trans before, none⟩

/-! ## Giving up -/

omit guarded tidy

/-- How a failed call ends: with an error, the state as it is, and at most the record written. -/
def Ends (meets : World → (r : Request) → Reply r → Prop)
    (ending : ActivationState → MihomoActivationError → Action (Outcome α)) : Prop :=
  ∀ state error w (post : Outcome α → World → Prop),
    (∀ error persisted, post (.error error, state) { w with persisted }) →
    Ensures meets post (ending state error) w

theorem conclude_ends (finishes : Bool) : Ends (α := α) meets (conclude finishes) := by
  intro state error w post h
  refine .ask fun written _ _ => ?_
  cases written with
  | false => exact h _ w.persisted
  | true =>
    cases finishes with
    | false => exact h _ _
    | true =>
      refine .ask fun result _ _ => ?_
      cases result <;> exact h _ _

variable {error : MihomoActivationError} {persisted : Option ManagedActivationState}
  {managed : ManagedActivationState} {before : ActivationState}

/-- The record still says the same of the active generation. -/
theorem agrees_recordFailedAttempt {state : ActivationState} {now} (agrees : state.Agrees) :
    ({ state with managed := recordFailedAttempt state.managed record error now } :
    ActivationState).Agrees :=
  agrees

/-- A call that has left the previous generation alone. -/
theorem contract_unharmed
    (agrees : before.Agrees → ({ before with managed } : ActivationState).Agrees)
    (unharmed : ∀ generation, before.active = some generation → w.Unharmed generation)
    (settled : T → Settled before w) (attached : G → w.stranded = false)
    (off : G → setup.capture = false → w.captured = none) :
    Contract T G setup record before (.error error, { before with managed })
    { w with persisted } where
  agrees := agrees
  ok := nofun
  error _ _ := by
    cases active : before.active with
    | none => exact .inl rfl
    | some generation =>
      have h := unharmed generation active
      exact .inr ⟨generation, rfl, rfl, h.core, h.observed, h.capture⟩
  settled := settled
  attached := attached
  off := off

/-- A call that has given the previous generation up. -/
theorem contract_dropped (settled : T → ∀ id, (w.cores id).loose = false)
    (attached : G → w.stranded = false) (off : G → setup.capture = false → w.captured = none) :
    Contract T G setup record before
    (.error error, { before with active := none, managed := managed.withoutActive })
    { w with persisted } where
  agrees _ := ⟨rfl, rfl, rfl, rfl⟩
  ok := nofun
  error _ _ := .inl rfl
  settled t id loose := by
    have none := settled t id
    cases none.symm.trans loose
  attached := attached
  off := off

/-- While a call is under way with a candidate, which is not stopped yet. -/
structure Underway (T G : Prop) (setup : Setup) (state : ActivationState) (candidate : Generation)
    (suspended : Option CaptureSelection) (w : World) : Prop extends Kept G setup suspended w where
  apart : ∀ generation, state.active = some generation → generation.runtimeId ≠ candidate.runtimeId
  present : suspended ≠ none → state.active ≠ none
  loose : T → ∀ id, (w.cores id).loose = true →
    id = candidate.runtimeId ∨ state.active.map (·.runtimeId) = some id
  attached : G → w.stranded = false
  off : G → setup.capture = false → w.captured = none
  -- the capture is on the candidate only if there is one to go back to
  exposed : G → w.captured = some candidate.runtimeId → suspended ≠ none

include guarded tidy

omit guarded in
/-- A core that is loose after the rollback is another one, and was loose before. -/
theorem rollback_loose {candidate} {ok : Bool} {id} (met : meets w (.stop candidate .rollback) ok)
    (t : T) (left : ((w.stopAnswered candidate ok).cores id).loose = true) :
    id ≠ candidate.runtimeId ∧ (w.cores id).loose = true := by
  by_cases own : id = candidate.runtimeId
  · subst own
    cases ok with
    | true => simp [stopAnswered] at left
    | false =>
      have started := (tidy t _ _ _ met rfl).2 candidate rfl
      simp [stopAnswered, started] at left
  · simp only [stopAnswered, cores_update, if_neg own] at left
    exact ⟨own, left⟩

theorem fallBack_spec {ending} {state : ActivationState} {candidate : Generation}
    (ends : Ends meets ending) (held : transition = setup.capture)
    (underway : Underway T G setup state candidate suspended w) :
    Ensures meets (Contract T G setup record state)
    (fallBack setup record candidate suspended transition error ending state) w := by
  refine Safe.bind (rollbackCandidate_spec candidate) ?_
  rintro _ _ ⟨ok, met, rfl⟩
  -- only the previous core can be left
  have loose (t : T) (id : String) (loose : ((w.stopAnswered candidate ok).cores id).loose = true) :
      state.active.map (·.runtimeId) = some id := by
    obtain ⟨other, before⟩ := rollback_loose tidy met t loose
    exact (underway.loose t id before).resolve_left other
  have exposed (g : G) (stranded : (w.stopAnswered candidate ok).stranded = true) :
      suspended ≠ none := by
    refine underway.exposed g ?_
    simpa [stopAnswered, underway.attached g] using stranded
  cases active : state.active with
  | none =>
    have none : suspended = none := by
      by_contra some
      exact underway.present some active
    subst none
    refine Ensures.ask fun now _ _ => ends _ _ _ _ fun error persisted => ?_
    refine contract_unharmed agrees_recordFailedAttempt (fun _ found => ?_) loose (fun g => ?_)
      underway.off
    · cases active.symm.trans found
    · by_contra stranded
      exact exposed g (eq_true_of_ne_false stranded) rfl
  | some previous =>
    have kept : Kept G setup suspended (w.stopAnswered candidate ok) :=
      ⟨underway.same, underway.enabled, underway.selected⟩
    refine Safe.bind (restoreGeneration_spec guarded tidy held kept) fun restored w' h => ?_
    -- other cores are as the rollback left them
    have others (t : T) (id : String) (left : (w'.cores id).loose = true) :
        previous.runtimeId = id := by
      by_contra other
      rw [h.others id (Ne.symm other)] at left
      have owner := loose t id left
      rw [active] at owner
      exact other (Option.some.inj owner)
    have off (g : G) (absent : setup.capture = false) : w'.captured = none := by
      have none : suspended = none := by
        by_contra some
        cases absent.symm.trans (underway.enabled some)
      exact (h.off none).trans (underway.off g absent)
    cases restored with
    | true =>
      refine Ensures.ask fun now _ _ => ends _ _ _ _ fun error persisted => ?_
      refine contract_unharmed agrees_recordFailedAttempt (fun generation found => ?_) ?_
        (fun g => ?_) off
      · cases active.symm.trans found
        exact h.back rfl
      · intro t id left
        rw [active]
        exact congrArg some (others t id left)
      · by_contra stranded
        obtain ⟨before, none⟩ := h.attached rfl g (eq_true_of_ne_false stranded)
        exact exposed g before none
    | false =>
      obtain ⟨stopped, attached⟩ := h.lost rfl
      refine Ensures.ask fun now _ _ => Safe.bind (dropActive_spec _) ?_
      rintro _ _ ⟨rfl, rfl⟩
      refine ends _ _ _ _ fun error persisted => contract_dropped (fun t id => ?_) attached off
      by_contra left
      have left : (w'.cores id).loose = true := eq_true_of_ne_false left
      obtain rfl := others t id left
      cases (stopped t).symm.trans left

/-! ## With the previous core stopped -/

omit guarded tidy

/-- While a call is under way with the previous core, if there was one, stopped. -/
structure Ongoing (T G : Prop) (setup : Setup) (finalCapture : Option CaptureRequest)
    (state : ActivationState) (candidate : Generation) (suspended : Option CaptureSelection)
    (w : World) : Prop extends Kept G setup suspended w where
  apart : ∀ generation, state.active = some generation → generation.runtimeId ≠ candidate.runtimeId
  present : suspended ≠ none → state.active ≠ none
  loose : T → ∀ id, (w.cores id).loose = true → id = candidate.runtimeId
  attached : G → w.stranded = false
  off : G → setup.capture = false → w.captured = none
  -- the capture is on the candidate only if the call has put it there
  handed : w.captured = some candidate.runtimeId → suspended ≠ none ∨ finalCapture ≠ none

variable {finalCapture : Option CaptureRequest} {state : ActivationState} {candidate : Generation}

section
variable (ongoing : Ongoing T G setup finalCapture state candidate suspended w)
include ongoing

theorem Ongoing.underway (exposed : G → w.captured = some candidate.runtimeId → suspended ≠ none) :
    Underway T G setup state candidate suspended w :=
  ⟨ongoing.toKept, ongoing.apart, ongoing.present, fun t id left => .inl (ongoing.loose t id left),
    ongoing.attached, ongoing.off, exposed⟩

/-- An answer about the candidate's core. -/
theorem Ongoing.update (view : CoreView) :
    Ongoing T G setup finalCapture state candidate suspended (w.update candidate view) :=
  { ongoing with
    loose t id left := by
      by_contra other
      rw [cores_update, if_neg other] at left
      exact other (ongoing.loose t id left) }

/-- The reconciler has applied a request for the candidate, which the call has been given or has
suspended before. -/
theorem Ongoing.reconciled {request} (present : setup.capture = true)
    (given : suspended ≠ none ∨ finalCapture ≠ none) :
    Ongoing T G setup finalCapture state candidate suspended
    (w.reconciled request .handoff (some candidate)) :=
  { ongoing with
    same := by
      rw [← ongoing.same]
      simp [World.reconciled]
    attached g := by simp [World.reconciled, ongoing.attached g]
    off _ none := by cases present.symm.trans none
    handed _ := given }

end

theorem resumeCapture_spec {selection} (held : transition = setup.capture)
    (ongoing : Ongoing T G setup finalCapture state candidate (some selection) w)
    (clear : w.captured ≠ some candidate.runtimeId) : Ensures meets (fun result w' =>
    Ongoing T G setup finalCapture state candidate (some selection) w' ∧
    ∀ kind, result = .error kind → w'.captured ≠ some candidate.runtimeId)
    (resumeCapture setup selection transition .handoff (some candidate)) w := by
  have enabled := ongoing.enabled nofun
  simp only [resumeCapture, held, enabled, Bool.not_true, Bool.false_eq_true, if_false]
  refine .request fun result _ _ => ?_
  cases result with
  | ok => exact ⟨ongoing.reconciled enabled (.inl nofun), nofun⟩
  | error => exact ⟨ongoing, fun _ _ => clear⟩

theorem handOffCapture_spec (held : transition = setup.capture)
    (ongoing : Ongoing T G setup finalCapture state candidate suspended w)
    (clear : w.captured ≠ some candidate.runtimeId) : Ensures meets (fun result w' =>
    Ongoing T G setup finalCapture state candidate suspended w' ∧
    ∀ kind, result = .error kind → w'.captured ≠ some candidate.runtimeId)
    (handOffCapture setup candidate finalCapture suspended transition) w := by
  cases finalCapture with
  | some request =>
    simp only [handOffCapture]
    split
    · rename_i present
      have present : setup.capture = true := held.symm.trans present
      simp only [setCaptureRuntimeTransition, present, Bool.not_true, Bool.false_eq_true, if_false]
      refine .ask fun phase _ _ => .ask fun _ _ _ => .request fun result _ _ => ?_
      have observed := ongoing.update { w.core candidate with running := phase == .running }
      cases result with
      | ok => exact ⟨observed.reconciled present (.inr nofun), nofun⟩
      | error => exact ⟨observed, fun _ _ => clear⟩
    · exact ⟨ongoing, fun _ _ => clear⟩
  | none =>
    cases suspended with
    | none => exact ⟨ongoing, nofun⟩
    | some selection => exact resumeCapture_spec held ongoing clear

include guarded tidy

omit tidy in
theorem suspendAgain_spec (held : transition = setup.capture)
    (ongoing : Ongoing T G setup finalCapture state candidate suspended w) :
    Ensures meets (fun _ w' => Underway T G setup state candidate suspended w')
    (suspendAgain setup finalCapture candidate suspended transition) w := by
  unfold suspendAgain
  split
  · refine Safe.bind (suspendCapture_spec guarded held.trans ongoing.off) fun result w' h => ?_
    cases h with
    | unneeded none => exact ongoing.underway fun g is => by cases (none g).symm.trans is
    | suspended selection _ _ =>
      refine ⟨⟨?_, ongoing.enabled, ongoing.selected⟩, ongoing.apart, ongoing.present,
        fun t id left => .inl (ongoing.loose t id left), fun g => ?_,
        fun _ _ => by simp [World.reconciled], fun _ is => ?_⟩
      · rw [← ongoing.same]
        simp [World.reconciled]
      · simp [World.reconciled, ongoing.attached g]
      · simp [World.reconciled] at is
    | failed kind selection met =>
      refine ongoing.underway fun g _ => ?_
      rw [← ongoing.same]
      exact ((guarded g _ _ _ met).2 rfl).2 _ _ _ rfl
  · rename_i neither
    refine ongoing.underway fun _ is => absurd (ongoing.handed is) ?_
    cases suspended <;> cases finalCapture <;> simp_all

section
variable (held : transition = setup.capture)
  (own : ∃ policy, candidate = candidateOf record policy candidate.runtimeId)
include held own

theorem commitCandidate_spec
    (ongoing : Ongoing T G setup finalCapture state candidate suspended w) :
    Ensures meets (Contract T G setup record state)
    (commitCandidate setup record finalCapture candidate suspended transition state) w := by
  refine .ask fun now _ _ => .ask fun written _ _ => ?_
  cases written with
  | false =>
    refine Safe.bind (suspendAgain_spec guarded held ongoing) fun _ w' underway => ?_
    exact fallBack_spec guarded tidy (fun _ _ w _ h => h _ w.persisted) held underway
  | true =>
    have committed : Contract T G setup record state (.ok (commitOf record candidate),
        ⟨some candidate, transition, committedState candidate now⟩)
        { w with persisted := some (committedState candidate now) } := by
      obtain ⟨policy, is⟩ := own
      refine ⟨fun _ => ⟨rfl, rfl, rfl, rfl⟩, ?_, nofun, fun t id left => ?_, ongoing.attached,
        ongoing.off⟩
      · rintro _ ⟨⟩
        exact ⟨policy, ⟨rfl, rfl, rfl, rfl⟩, congrArg some is, congrArg (commitOf record) is, rfl⟩
      · exact congrArg some (ongoing.loose t id left).symm
    cases active : state.active with
    | none => exact committed
    | some previous => exact .ask fun _ _ _ => .ask fun _ _ _ => committed

theorem handOff_spec (ongoing : Ongoing T G setup finalCapture state candidate suspended w)
    (clear : w.captured ≠ some candidate.runtimeId) :
    Ensures meets (Contract T G setup record state)
    (handOff setup record finalCapture candidate suspended transition state) w := by
  refine Safe.bind (handOffCapture_spec held ongoing clear) fun result w' h => ?_
  obtain ⟨ongoing, clear⟩ := h
  cases result with
  | error kind =>
    have underway := ongoing.underway fun _ is => absurd is (clear kind rfl)
    exact fallBack_spec guarded tidy (conclude_ends false) held underway
  | ok =>
    refine Ensures.ask fun cancelled _ _ => ?_
    cases cancelled with
    | true =>
      refine Safe.bind (suspendAgain_spec guarded held ongoing) fun _ w'' underway => ?_
      exact fallBack_spec guarded tidy (conclude_ends false) held underway
    | false => exact commitCandidate_spec guarded tidy held own ongoing

omit guarded tidy held own in
/-- The reason of a failed start is only read. -/
theorem processFailure_spec {post} (h : ∀ error, post error w) : Ensures meets post (do
      let error ← (ask (.processError candidate))
      if error = some versionMismatchText then return .versionMismatch
      else
        match ← ask (.listenerConflict candidate setup.ownership) with
        | some endpoint => return .managedListenerConflict endpoint.text
        | none => return .startFailed : Action MihomoActivationError) w := by
  refine .ask fun error _ _ => ?_
  split
  · exact h _
  · refine .ask fun conflict _ _ => ?_
    cases conflict <;> exact h _

omit guarded tidy held own in
theorem startFailure_spec {post}
    (h : ∀ error, post error w) : Ensures meets post (startFailure setup candidate) w := by
  refine .ask fun failure _ _ => ?_
  cases failure with
  | none => exact processFailure_spec h
  | some failure =>
    cases failure with
    | unavailable | networkOwnershipConflict => exact h _
    | rejected | operationFailed => exact processFailure_spec h

section
variable (ongoing : Ongoing T G setup finalCapture state candidate suspended w)
  (clear : w.captured ≠ some candidate.runtimeId)
include ongoing clear

theorem launch_spec : Ensures meets (Contract T G setup record state)
    (launch setup record finalCapture candidate suspended transition state) w := by
  have starts : Ensures meets (fun _ w' =>
      Ongoing T G setup finalCapture state candidate suspended w' ∧
      w'.captured ≠ some candidate.runtimeId) (startCandidate setup candidate) w := by
    refine .ask fun ok _ _ => ?_
    have answered := ongoing.update (if ok then
        { w.core candidate with started := true, loose := true, running := true, touched := true }
      else { w.core candidate with running := false, touched := true })
    cases ok with
    | true => exact .ask fun _ _ _ => .request fun _ _ _ => ⟨answered, clear⟩
    | false =>
      exact Safe.bind (startFailure_spec fun _ => ⟨answered, clear⟩) fun _ _ h => h
  refine Safe.bind starts fun result w' h => ?_
  cases result with
  | error error =>
    exact fallBack_spec guarded tidy (conclude_ends false) held
      (h.1.underway fun _ is => absurd is h.2)
  | ok => exact handOff_spec guarded tidy held own h.1 h.2

theorem checkListeners_spec : Ensures meets (Contract T G setup record state)
    (checkListeners setup record finalCapture candidate suspended transition state) w := by
  have underway := ongoing.underway fun _ is => absurd is clear
  refine .ask fun seeded _ _ => ?_
  cases seeded with
  | error error => exact fallBack_spec guarded tidy (conclude_ends false) held underway
  | ok =>
    refine .ask fun conflict _ _ => ?_
    match conflict with
    | .error _ | .ok (some _) => exact fallBack_spec guarded tidy (conclude_ends true) held underway
    | .ok none => exact launch_spec guarded tidy held own ongoing clear

end

end

/-! ## With the previous core running -/

omit guarded tidy

/-- Before the previous generation is touched, and after it has been left alone again. -/
structure Untouched (T G : Prop) (setup : Setup) (state : ActivationState) (candidate : Generation)
    (w : World) : Prop where
  apart : ∀ generation, state.active = some generation → generation.runtimeId ≠ candidate.runtimeId
  clear : w.captured ≠ some candidate.runtimeId
  suspended : w.suspended = none
  unharmed : ∀ generation, state.active = some generation →
    (w.core generation).touched = false ∧ (w.core generation).paused = false
  settled : T → Settled state w
  attached : G → w.stranded = false
  off : G → setup.capture = false → w.captured = none

variable {finishes : Bool}

theorem failAttempt_spec (unharmed : ∀ generation, state.active = some generation →
    w.Unharmed generation) (settled : T → Settled state w) (attached : G → w.stranded = false)
    (off : G → setup.capture = false → w.captured = none) :
    Ensures meets (Contract T G setup record state) (failAttempt record finishes error state) w :=
  .ask fun _ _ _ => conclude_ends finishes _ _ _ _ fun _ _ =>
    contract_unharmed agrees_recordFailedAttempt unharmed settled attached off

include tidy

/-- The candidate is given up with the previous generation as it was. -/
theorem abandon_spec (untouched : Untouched T G setup state candidate w) :
    Ensures meets (Contract T G setup record state)
      (do rollbackCandidate candidate; failAttempt record finishes error state) w := by
  refine Safe.bind (rollbackCandidate_spec candidate) ?_
  rintro _ _ ⟨ok, met, rfl⟩
  refine failAttempt_spec (fun generation active => ?_) (fun t id left => ?_) (fun g => ?_)
    untouched.off
  · obtain ⟨touched, paused⟩ := untouched.unharmed generation active
    have same : (w.stopAnswered candidate ok).core generation = w.core generation := by
      simp [stopAnswered, core, untouched.apart generation active]
    refine ⟨fun is => ?_, same ▸ paused, untouched.suspended⟩
    rw [same, touched] at is
    cases is
  · exact untouched.settled t id (rollback_loose tidy met t left).2
  · simp [stopAnswered, untouched.attached g, untouched.clear]

include guarded

theorem retirePrior_spec (held : transition = setup.capture) (active : state.active = some previous)
    (kept : Kept G setup suspended w) (apart : previous.runtimeId ≠ candidate.runtimeId)
    (settled : T → Settled state w) (attached : G → w.stranded = false)
    (taken : G → w.captured = none) (clear : w.captured ≠ some candidate.runtimeId)
    (own : ∃ policy, candidate = candidateOf record policy candidate.runtimeId) :
    Ensures meets (Contract T G setup record state)
    (retirePrior setup record finalCapture candidate previous suspended transition state) w := by
  refine .ask fun ok _ _ => ?_
  have kept' : Kept G setup suspended (w.stopAnswered previous ok) :=
    ⟨kept.same, kept.enabled, kept.selected⟩
  have apart' (generation : Generation) (found : state.active = some generation) :
      generation.runtimeId ≠ candidate.runtimeId := by
    cases active.symm.trans found
    exact apart
  have present : suspended ≠ none → state.active ≠ none := fun _ => by simp [active]
  have attached' (g : G) : (w.stopAnswered previous ok).stranded = false := by
    simp [stopAnswered, attached g, taken g]
  have previously (t : T) (id : String) (other : id ≠ previous.runtimeId)
      (left : ((w.stopAnswered previous ok).cores id).loose = true) : False := by
    simp only [stopAnswered, cores_update, if_neg other] at left
    have owner := settled t id left
    rw [active] at owner
    exact other (Option.some.inj owner).symm
  cases ok with
  | false =>
    refine fallBack_spec guarded tidy (conclude_ends false) held
      ⟨kept', apart', present, fun t id left => ?_, attached', fun g _ => taken g,
        fun _ is => absurd is clear⟩
    by_cases own : id = previous.runtimeId
    · rw [active, own]
      exact .inr rfl
    · exact (previously t id own left).elim
  | true =>
    refine checkListeners_spec guarded tidy held own ⟨kept', apart', present, fun t id left => ?_,
      attached', fun g _ => taken g, fun is => absurd is clear⟩ clear
    by_cases own : id = previous.runtimeId
    · have left : ((w.stopAnswered previous true).cores id).loose = true := left
      simp [stopAnswered, own] at left
    · exact (previously t id own left).elim

theorem suspendPrior_spec (held : transition = setup.capture)
    (active : state.active = some previous) (untouched : Untouched T G setup state candidate w)
    (own : ∃ policy, candidate = candidateOf record policy candidate.runtimeId) :
    Ensures meets (Contract T G setup record state)
    (suspendPrior setup record finalCapture candidate previous transition state) w := by
  refine .ask fun _ _ _ => ?_
  have settled (t : T) : Settled state (w.after (.pauseObservations previous) ()) :=
    (untouched.settled t).paused previous true
  refine Safe.bind (suspendCapture_spec guarded held.trans untouched.off) fun result w' h => ?_
  cases h with
  | failed kind selection _ =>
    have resumed : Untouched T G setup state candidate
        ((w.update previous { w.core previous with paused := true }).after
          (.resumeObservations previous) ()) := by
      refine ⟨untouched.apart, untouched.clear, untouched.suspended, fun generation found => ?_,
        fun t => (settled t).paused previous false, untouched.attached, untouched.off⟩
      cases active.symm.trans found
      have touched := (untouched.unharmed previous active).1
      simpa [after, core] using touched
    exact Ensures.ask fun _ _ _ => abandon_spec tidy resumed
  | unneeded taken =>
    exact retirePrior_spec guarded tidy held active ⟨untouched.suspended, nofun, nofun⟩
      (untouched.apart previous active) settled untouched.attached taken untouched.clear own
  | suspended selection present selected =>
    refine retirePrior_spec guarded tidy held active ⟨?_, fun _ => present, ?_⟩
      (untouched.apart previous active) settled (fun g => ?_) (fun _ => ?_) ?_ own
    · simp [World.reconciled]
    · rintro g _ ⟨⟩
      exact selected g
    · have attached := untouched.attached g
      simpa [World.reconciled, after, update] using attached
    · simp [World.reconciled]
    · simp [World.reconciled]

theorem beginTransition_spec (untouched : Untouched T G setup state candidate w)
    (own : ∃ policy, candidate = candidateOf record policy candidate.runtimeId) :
    Ensures meets (Contract T G setup record state)
    (beginTransition setup record finalCapture candidate state) w := by
  have replaces (transition : Bool) (held : transition = setup.capture) :
      Ensures meets (Contract T G setup record state)
        (replacePrior setup record finalCapture candidate transition state) w := by
    unfold replacePrior
    split
    · rename_i previous active
      exact suspendPrior_spec guarded tidy held active untouched own
    · rename_i none
      refine checkListeners_spec guarded tidy held own ⟨⟨untouched.suspended, nofun, nofun⟩,
        untouched.apart, nofun, fun t id left => ?_, untouched.attached, untouched.off,
        fun is => absurd is untouched.clear⟩ untouched.clear
      have owner := untouched.settled t id left
      rw [none] at owner
      cases owner
  unfold beginTransition
  split
  · rename_i present
    refine .ask fun begun _ _ => ?_
    cases begun with
    | false => exact abandon_spec tidy untouched
    | true => exact replaces true present.symm
  · rename_i absent
    exact replaces false (by simpa using absent)

/-- What a call finds: nothing touched, paused or suspended yet, and the ids in use known. -/
structure Found (T G : Prop) (setup : Setup) (state : ActivationState) (w : World) : Prop where
  known : ∀ generation, state.active = some generation → generation.runtimeId ∈ w.ids
  captured : ∀ id, w.captured = some id → id ∈ w.ids
  suspended : w.suspended = none
  unharmed : ∀ generation, state.active = some generation →
    (w.core generation).touched = false ∧ (w.core generation).paused = false
  settled : T → Settled state w
  attached : G → w.stranded = false
  off : G → setup.capture = false → w.captured = none

omit guarded tidy in
theorem Found.unharmed' (found : Found T G setup state w) (generation : Generation)
    (active : state.active = some generation) : w.Unharmed generation := by
  obtain ⟨touched, paused⟩ := found.unharmed generation active
  refine ⟨fun is => ?_, paused, found.suspended⟩
  cases touched.symm.trans is

variable {policy : ManagedRuntimePolicy}

theorem prepareCandidate_spec (found : Found T G setup state w) :
    Ensures meets (Contract T G setup record state)
    (prepareCandidate setup record finalCapture policy state) w := by
  refine .ask fun prepared _ fresh => ?_
  cases prepared with
  | error => exact failAttempt_spec found.unharmed' found.settled found.attached found.off
  | ok runtimeId =>
    have untouched : Untouched T G setup state (candidateOf record policy runtimeId)
        { w with ids := runtimeId :: w.ids } := by
      refine ⟨fun generation active same => ?_, fun is => ?_, found.suspended, found.unharmed,
        found.settled, found.attached, found.off⟩
      · have known := found.known generation active
        rw [same] at known
        exact fresh known
      · exact fresh (found.captured _ is)
    refine .ask fun cancelled _ _ => ?_
    cases cancelled with
    | true => exact abandon_spec tidy untouched
    | false => exact beginTransition_spec guarded tidy untouched ⟨policy, rfl⟩

theorem activate_spec (found : Found T G setup state w) :
    Ensures meets (Contract T G setup record state)
    (activate setup record finalCapture policy state) w := by
  have refused (error : MihomoActivationError) :
      Contract T G setup record state (.error error, state) w :=
    contract_unharmed id found.unharmed' found.settled found.attached found.off
  refine .ask fun recovered _ _ => ?_
  cases recovered with
  | false => exact refused _
  | true =>
    dsimp only
    split
    · exact refused _
    · split
      · exact refused _
      · refine .ask fun resolved _ _ => ?_
        cases resolved with
        | error => exact refused _
        | ok =>
          refine .ask fun begun _ _ => ?_
          cases begun with
          | error => exact refused _
          | ok =>
            refine .ask fun conflict _ _ => ?_
            match conflict with
            | .error _ | .ok (some _) =>
              exact failAttempt_spec found.unharmed' found.settled found.attached found.off
            | .ok none => exact prepareCandidate_spec guarded tidy found

end

end Mish.Activation
