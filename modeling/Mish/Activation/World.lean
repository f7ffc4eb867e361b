import Mathlib.Logic.Function.Basic
import Mish.Activation.Manager

/-!
# What the manager's calls are answered, and what is known from the answers

Every request may be answered in any way; a runtime id is never given twice. A `World` holds what
the answers say: which cores are running, which are still to be stopped, which core the capture was
applied on, and what the present call has done to the generation it found.
-/

namespace Mish.Activation
open Interaction
open Capture (CaptureRequest CaptureSelection)

/-- What the answers say of one core. -/
structure CoreView where
  -- a start has succeeded
  started : Bool
  -- after the last start that succeeded, or a stop that failed, no stop has succeeded
  loose : Bool
  -- the last answer about it says that it is running
  running : Bool
  -- the present call has started or stopped it
  touched : Bool
  -- the present call has paused its observations
  paused : Bool

/-- `persisted` is the record written last, `captured` the core that the capture was applied on and
not taken off since, `suspended` the selection that the present call has suspended and not applied
again, and `stranded` says that the present call has stopped a core with the capture on it, and has
not applied the capture on a running core since. -/
structure World where
  ids : List String
  persisted : Option ManagedActivationState
  cores : String → CoreView
  captured : Option String
  suspended : Option CaptureSelection
  stranded : Bool

/-- Something is selected. -/
def selects (selection : CaptureSelection) : Bool := selection.systemProxy || selection.tun

namespace World

variable (w : World) (generation : Generation)

def core : CoreView := w.cores generation.runtimeId

def update (w : World) (generation : Generation) (view : CoreView) : World :=
  { w with cores := Function.update w.cores generation.runtimeId view }

def startAnswered (ok : Bool) : World :=
  w.update generation
    (if ok then
      { w.core generation with started := true, loose := true, running := true, touched := true }
    else { w.core generation with running := false, touched := true })

def stopAnswered (ok : Bool) : World :=
  { w.update generation { w.core generation with
      loose := !ok && (w.core generation).started
      running := false
      touched := true } with
    stranded := w.stranded || w.captured == some generation.runtimeId }

/-- The reconciler has succeeded: with an active request that selects something the capture is on
the core, and otherwise it is off. -/
def reconciled (request : CaptureRequest) (stage : Stage) (core : Option Generation) : World :=
  let captures := request.active && selects request.selection
  { w with
    captured := if captures then core.map (·.runtimeId) else none
    suspended :=
      if request.active then
        if stage = .restore ∧ w.suspended = some request.selection then none else w.suspended
      else if stage = .prior then some request.selection
      else w.suspended
    stranded := w.stranded && !(captures && core.any fun generation => (w.core generation).running) }

def after : (r : Request) → Reply r → World
  | .prepareGeneration, .ok runtimeId => { w with ids := runtimeId :: w.ids }
  | .pauseObservations generation, _ =>
    w.update generation { w.core generation with paused := true }
  | .resumeObservations generation, _ =>
    w.update generation { w.core generation with paused := false }
  | .reconcile request _ stage core, .ok () => w.reconciled request stage core
  | .start generation _, ok => w.startAnswered generation ok
  | .stop generation _, ok => w.stopAnswered generation ok
  | .coreStatus generation, phase =>
    w.update generation { w.core generation with running := phase == .running }
  | .persistManagedState managed, true => { w with persisted := some managed }
  | _, _ => w

/-- At the beginning of a call. The ids of the active generation and of the captured core are in
use. -/
def begin (state : ActivationState) : World :=
  { w with
    ids := (state.active.map (·.runtimeId)).toList ++ w.captured.toList ++ w.ids
    cores := fun id => { w.cores id with touched := false, paused := false }
    suspended := none
    stranded := false }

/-- A runtime id is new. -/
def fresh : (r : Request) → Reply r → Prop
  | .prepareGeneration, .ok runtimeId => runtimeId ∉ w.ids
  | _, _ => True

@[simp] theorem cores_update (view : CoreView) (id : String) :
    (w.update generation view).cores id = if id = generation.runtimeId then view else w.cores id :=
  Function.update_apply _ _ _ _

end World

/-- The answers that meet a condition. -/
def answers (meets : World → (r : Request) → Reply r → Prop) : Environment Request Reply World :=
  fun w r a t => meets w r a ∧ w.fresh r a ∧ t = w.after r a

end Mish.Activation
