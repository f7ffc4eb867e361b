import Mish.Interaction.Pool
import Mish.Profile.Directory

/-!
# Previews

A preflight reads a source and leaves its report under a new token, the preview; a save takes
the report away again. Preflights and saves run interleaved, and the repository changes in
between. The reports are behind a mutex; the repository is changed only with the mutation
permit, which a save holds too.
-/

namespace Mish.Profile.Preview

open Interaction

variable {Bytes : Type}

abbrev Generation := Option ProfileGenerationId

structure PendingPreflight (Bytes : Type) where
  createdAt : Nat
  generation : Generation
  requestSequence : Nat
  report : PreflightReport Bytes

structure PendingPreflights (Bytes : Type) where
  activeRequest : Option Nat
  nextRequestSequence : Nat
  reports : List (String × PendingPreflight Bytes)

def PendingPreflights.default : PendingPreflights Bytes := ⟨none, 0, []⟩

/-- In milliseconds. -/
def preflightTtl : Nat := 10 * 60 * 1000

variable (pending : PendingPreflights Bytes)

/-- `duration_since` is zero for a later instant. -/
def PendingPreflights.removeExpired (now : Nat) :
    PendingPreflights Bytes :=
  { pending with reports := pending.reports.filter fun entry =>
    now - entry.2.createdAt ≤ preflightTtl }

def PendingPreflights.remove (pending : PendingPreflights Bytes) (id : String) :
    PendingPreflights Bytes :=
  { pending with reports := Assoc.remove id pending.reports }

/-! ## What is asked -/

/-- What was done while the mutex was held. The program does not depend on it. -/
inductive Mark (Bytes : Type) where
  | nothing
  | began (sequence : Nat) (generation : Generation)
  | issued (id : String) (report : PreflightReport Bytes)
  | taken (id : String) (report : PreflightReport Bytes)

/-- `lock` gives the contents of the mutex, and `unlock` puts them back: there is no await in
between. -/
inductive Request (Bytes : Type) where
  | currentGenerationId
  | lock
  | unlock (pending : PendingPreflights Bytes) (mark : Mark Bytes)
  | run (source : ProfileSource) (label : Option String)
  | newUuid
  | now
  | acquirePermit
  | releasePermit
  | editRepository
  | save (previewId : String) (report : PreflightReport Bytes)

def Reply : Request Bytes → Type
  | .currentGenerationId => Except RepositoryError Generation
  | .lock => PendingPreflights Bytes
  | .run _ _ => Option (PreflightReport Bytes)
  | .newUuid => String
  | .now => Nat
  | .acquirePermit => Bool
  | .unlock _ _ | .releasePermit | .editRepository | .save _ _ => Unit

inductive Failure where
  | error (error : ProfileServiceError)
  /-- `expect("profile preflight request sequence exhausted")` -/
  | panicked

abbrev Service (Bytes α : Type) := ExceptT Failure (Program (Request Bytes) Reply) α

def ask (request : Request Bytes) : Service Bytes (Reply request) :=
  ExceptT.lift (Interaction.request request)

/-! ## Preflights -/

def currentGenerationId : Service Bytes Generation := do
  let read : Except RepositoryError Generation ← ask .currentGenerationId
  match read with
  | .ok generation => return generation
  | .error e => throw (.error (.repository e))

/-- The mutex is released, and the caller gets an error. -/
def refuse {α : Type} (mark : Mark Bytes)
    (failure : Failure) : Service Bytes α := do
  let _ ← ask (.unlock pending mark)
  throw failure

def beginPendingRequest (generation : Generation) : Service Bytes Nat := do
  let pending : PendingPreflights Bytes ← ask .lock
  if pending.nextRequestSequence + 1 < 2 ^ 64 then
    let sequence := pending.nextRequestSequence + 1
    let _ ← ask (.unlock ⟨some sequence, sequence, []⟩ (.began sequence generation))
    return sequence
  else refuse pending .nothing .panicked

/-- The report is put in its place and the generation read once more. -/
def insertPending (previewId : String)
    (report : PreflightReport Bytes) (generation : Generation) (sequence : Nat) :
    Service Bytes String := do
  let createdAt : Nat ← ask .now
  let stored : PendingPreflights Bytes := { pending with
    reports := Assoc.insert previewId ⟨createdAt, generation, sequence, report⟩ pending.reports }
  if stored.activeRequest ≠ some sequence then
    refuse (stored.remove previewId) .nothing (.error .previewNotFound)
  else
    let read : Except RepositoryError Generation ← ask .currentGenerationId
    match read with
    | .error e => refuse stored (.issued previewId report) (.error (.repository e))
    | .ok current =>
      if current ≠ generation then
        refuse (stored.remove previewId) .nothing (.error .previewNotFound)
      else
        let _ ← ask (.unlock stored (.issued previewId report))
        return previewId

def storePending (report : PreflightReport Bytes) (generation : Generation) (sequence : Nat) :
    Service Bytes String := do
  let previewId : String ← ask .newUuid
  let pending : PendingPreflights Bytes ← ask .lock
  let now : Nat ← ask .now
  let pending := pending.removeExpired now
  if pending.activeRequest ≠ some sequence then
    refuse pending .nothing (.error .previewNotFound)
  else
    let read : Except RepositoryError Generation ← ask .currentGenerationId
    match read with
    | .error e => refuse pending .nothing (.error (.repository e))
    | .ok current =>
      if current ≠ generation then refuse pending .nothing (.error .previewNotFound)
      else insertPending pending previewId report generation sequence

def preflight (source : ProfileSource) (label : Option String) : Service Bytes String := do
  let generation ← currentGenerationId
  let sequence ← beginPendingRequest generation
  let report : Option (PreflightReport Bytes) ← ask (.run source label)
  match report with
  | none => throw (.error .importError)
  | some report => storePending report generation sequence

/-! ## Saves -/

/-- The report is handed out if it is still that of the current request and generation. -/
def takeCandidate (previewId : String) (generation : Generation)
    (candidate : PendingPreflight Bytes) : Service Bytes (PreflightReport Bytes) := do
  if pending.activeRequest ≠ some candidate.requestSequence ∨
      candidate.generation ≠ generation then
    refuse (pending.remove previewId) .nothing (.error .previewNotFound)
  else
    let read : Except RepositoryError Generation ← ask .currentGenerationId
    match read with
    | .error e => refuse pending .nothing (.error (.repository e))
    | .ok current =>
      if current ≠ generation then
        refuse (pending.remove previewId) .nothing (.error .previewNotFound)
      else
        let _ ← ask (.unlock (pending.remove previewId) (.taken previewId candidate.report))
        return candidate.report

def takeFound (previewId : String) (generation : Generation) :
    Option (PendingPreflight Bytes) → Service Bytes (PreflightReport Bytes)
  | none => refuse pending .nothing (.error .previewNotFound)
  | some candidate => takeCandidate pending previewId generation candidate

def takePending (previewId : String) : Service Bytes (PreflightReport Bytes) := do
  let generation ← currentGenerationId
  let pending : PendingPreflights Bytes ← ask .lock
  let now : Nat ← ask .now
  let pending := pending.removeExpired now
  takeFound pending previewId generation (pending.reports.lookup previewId)

/-- What is done with the permit: the repository is edited, or a preview is saved. -/
inductive Mutation where
  | edit
  | savePreview (previewId : String)

def Mutation.perform : Mutation → Service Bytes PUnit
  | .edit => do let _ ← ask .editRepository
  | .savePreview previewId => do
    let report ← takePending previewId
    let _ ← ask (.save previewId report)

/-- The permit is held for some mutations, each of which may fail. -/
def mutate (mutations : List Mutation) : Service Bytes PUnit := do
  let acquired : Bool ← ask .acquirePermit
  if acquired then
    mutations.forM fun mutation => tryCatch mutation.perform fun _ => pure ⟨⟩
    let _ ← ask .releasePermit
  else throw (.error .busy)

/-! ## Interleaving -/

inductive Event (Bytes : Type) where
  | began (thread : Nat) (sequence : Nat) (generation : Generation)
  | ran (thread : Nat) (report : PreflightReport Bytes)
  | issued (thread : Nat) (id : String) (report : PreflightReport Bytes)
  | taken (thread : Nat) (id : String) (report : PreflightReport Bytes)
      (current : Except RepositoryError Generation)
  | saved (thread : Nat) (id : String) (report : PreflightReport Bytes)

def Event.thread : Event Bytes → Nat
  | .began thread _ _ | .ran thread _ | .issued thread _ _ | .taken thread _ _ _
  | .saved thread _ _ => thread

/-- The service and the repository, with the tokens drawn so far and what has happened, the
latest first. -/
structure State (Bytes : Type) where
  pending : PendingPreflights Bytes
  (holder permit : Option Nat)
  generation : Except RepositoryError Generation
  clock : Nat
  drawn : List (Nat × String)
  log : List (Event Bytes)

def Mark.events (thread : Nat) (current : Except RepositoryError Generation) :
    Mark Bytes → List (Event Bytes)
  | .nothing => []
  | .began sequence generation => [.began thread sequence generation]
  | .issued id report => [.issued thread id report]
  | .taken id report => [.taken thread id report current]

def State.unlock (s : State Bytes) (thread : Nat) (pending : PendingPreflights Bytes)
    (mark : Mark Bytes) : State Bytes :=
  { s with pending, holder := none, log := mark.events thread s.generation ++ s.log }

/-- A thread that has gone holds nothing. -/
def State.release (s : State Bytes) (thread : Nat) : State Bytes :=
  { s with
    holder := if s.holder = some thread then none else s.holder
    permit := if s.permit = some thread then none else s.permit }

def env (i _ : Nat) : Environment (Request Bytes) Reply (State Bytes)
  | s, .currentGenerationId, read, t => read = s.generation ∧ t = s
  | s, .lock, pending, t => s.holder = none ∧ pending = s.pending ∧ t = { s with holder := some i }
  | s, .unlock pending mark, _, t => t = s.unlock i pending mark
  | s, .run _ _, report, t => t = { s with log := (report.map (Event.ran i)).toList ++ s.log }
  | s, .newUuid, id, t => id ∉ s.drawn.map Prod.snd ∧ t = { s with drawn := (i, id) :: s.drawn }
  | s, .now, time, t => s.clock ≤ time ∧ t = { s with clock := time }
  | s, .acquirePermit, acquired, t =>
    (acquired = true ∧ s.permit = none ∧ t = { s with permit := some i }) ∨
      (acquired = false ∧ t = s)
  | s, .releasePermit, _, t => s.permit = some i ∧ t = { s with permit := none }
  | s, .editRepository, _, t =>
    s.permit = some i ∧ ∃ generation, t = { s with generation }
  | s, .save id report, _, t =>
    s.permit = some i ∧ ∃ generation, t = { s with generation, log := .saved i id report :: s.log }

def thread {α : Type} (service : Service Bytes α) : Program (Request Bytes) Reply Unit := do
  let _ ← service.run

inductive Launches : Program (Request Bytes) Reply Unit → Prop where
  | preflight (source : ProfileSource) (label : Option String) :
      Launches (thread (preflight source label))
  | mutate (mutations : List Mutation) : Launches (thread (mutate mutations))

def previews : Concurrent (Request Bytes) Reply (State Bytes) Unit where
  env := env
  fork := fun _ _ => none
  launches := Launches
  leaves := fun i _ s t => t = s.release i

def start (generation : Except RepositoryError Generation) : State Bytes :=
  ⟨.default, none, none, generation, 0, [], []⟩

end Mish.Profile.Preview
