import Mish.Capture.Calls
import Mish.Lifecycle.Upkeep

/-!
# The reconciler at rest

Between the calls of the runtime the Capture reconciler is at rest. A request that
does not ask for capture leaves it off where it was off, so every handler does if
the replay of the kept selection does.
-/

namespace Mish.Lifecycle
open Interaction Capture CaptureReconciler
open SystemProxy (Fallible)

/-- A request that does not ask for capture. -/
def Restrained (allowed : CaptureSelection → Prop) : Request → Prop
  | .reconcile req _ => req.active = false ∧ allowed req.selection
  | _ => True

section
variable {m : CaptureMachine} {σ τ ρ : Type} {c : CaptureEffectAdapter}
  {services : SystemProxy.Behaviour σ} {network : Tun.Behaviour τ}
  {behaves : Environment Request Reply ρ} {allowed : CaptureSelection → Prop} {off : Prop}
  {d t : Desktop m σ τ ρ} {r : Request}

/-- The reconciler is at rest, with capture off if `off`. -/
structure Rests (c : CaptureEffectAdapter) (allowed : CaptureSelection → Prop) (off : Prop)
    (d : Desktop m σ τ ρ) : Prop where
  idle : Idle d.capture
  calm : off → d.capture.Off c allowed

theorem Rests.mono {off' : Prop} (h : Rests c allowed off d) (fewer : off' → off) :
    Rests c allowed off' d := ⟨h.idle, fun yes => h.calm (fewer yes)⟩

/-- Only a call of the reconciler changes what it is about. -/
theorem rests_elsewhere {a} (h : Rests c allowed off d) (elsewhere : onCapture r = none)
    (e : desktop c services network behaves d r a t) : Rests c allowed off t := by
  have same : t.capture = d.capture := by
    have moved := e.1
    simp only [Captures, elsewhere] at moved
    exact moved
  exact ⟨same ▸ h.idle, fun yes => same ▸ h.calm yes⟩

/-- One request of the runtime, with what it asks of the reconciler. -/
theorem Rests.step {a} (h : Rests c allowed off d) (asks : off → Restrained allowed r)
    (e : desktop c services network behaves d r a t) : Rests c allowed off t := by
  have capture := e.1
  cases r with
  | reconcile req coreHealthy =>
    have leaves : Safe (live c services network) (fun _ _ => True) (Leaves c allowed off True)
        (CaptureReconciler.reconcile req coreHealthy) d.capture :=
      reconcile_leaves coreHealthy h.idle asks fun yes _ => h.calm yes
    obtain ⟨idle, calm⟩ := leaves.result capture
    exact ⟨idle, fun yes => calm yes (.inl trivial)⟩
  | audit reason coreHealthy =>
    obtain ⟨idle, calm⟩ := (audit_leaves reason coreHealthy h.idle h.calm).result capture
    exact ⟨idle, calm⟩
  | captureStatus =>
    obtain ⟨idle, same, _⟩ := (status_reads h.idle).result capture
    exact ⟨idle, fun yes => same.keeps_off (h.calm yes)⟩
  | runtimeTransitionPending =>
    have kept : Safe (live c services network) (fun _ _ => True)
        (fun _ u => Idle u ∧ d.capture.Same u) (CaptureReconciler.call .runtimeTransition)
        d.capture := by
      refine ⟨trivial, ?_⟩
      rintro reply u ⟨d', ticks, rfl⟩
      exact h.idle.ticks ticks
    obtain ⟨idle, same⟩ := kept.result capture
    exact ⟨idle, fun yes => same.keeps_off (h.calm yes)⟩
  | _ => exact rests_elsewhere h rfl e

/-! ## What the programs maintain -/

/-- The program keeps the reconciler at rest, and capture off if `off`. -/
abbrev Keeps {α : Type} (m : CaptureMachine) (c : CaptureEffectAdapter)
    (services : SystemProxy.Behaviour σ) (network : Tun.Behaviour τ)
    (behaves : Environment Request Reply ρ) (allowed : CaptureSelection → Prop) (off : Prop)
    (p : Action α) : Prop :=
  Maintains (desktop (m := m) c services network behaves) (fun _ r => off → Restrained allowed r)
    (Rests c allowed off) p

theorem keeps_other (other : Restrained allowed r) :
    Keeps m c services network behaves allowed off (call r) :=
  fun _ h => ⟨fun _ => other, fun _ _ e => h.step (fun _ => other) e⟩

theorem keeps_unasking (r : Request) (is : Unasking r) :
    Keeps m c services network behaves allowed off (call r) :=
  keeps_other (by cases r <;> trivial)

/-! ## With nothing selected, the replay of the selection is an audit -/

theorem keeps_captureStatus {α : Type} {f : CaptureRuntimeStatus → Action α}
    (later : ∀ shown, (off → allowed shown.captureSelection) →
    Keeps m c services network behaves allowed off (f shown)) :
    Keeps m c services network behaves allowed off (call .captureStatus >>= f) := by
  intro d rests
  have asks : off → Restrained allowed .captureStatus := fun _ => trivial
  refine safe_request_bind.mpr ⟨asks, fun shown t e => ?_⟩
  have published := ((status_reads rests.idle).result e.1).2.2
  apply later shown
  · intro yes
    rw [published]
    exact (rests.calm yes).1.selection
  · exact rests.step asks e

def Unselected (selection : CaptureSelection) : Prop := selection = ⟨false, false⟩

theorem unselected_keeps (h : Host) :
    Keeps m c services network behaves Unselected True h.restoreCaptureIntent := by
  refine restoreCaptureIntent_keeps (plain keeps_unasking) (fun _ => keeps_captureStatus) ?_
  intro status healthy unselected
  rw [unselected trivial]
  exact keeps_other trivial

end

end Mish.Lifecycle
