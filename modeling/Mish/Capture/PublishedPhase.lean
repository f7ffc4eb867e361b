import Mish.Capture.Conduct

/-!
# The published phase

Whatever the platform and the store answer, an operation that returns has
published a phase that agrees with the stored journal, and a status it returns
is the one it published.
-/

namespace Mish.Capture.SystemProxy
open Interaction CaptureRuntimeStatus

section
variable {σ : Type} {behaves : Behaviour σ} {supported : Prop} {endpoint : LoopbackProxyEndpoint}
  {start w : World σ}

/-- How the published phase and the stored journal fit together. -/
structure PhaseAgrees (endpoint : LoopbackProxyEndpoint) (w : World σ) : Prop where
  applied : w.status.systemProxy.phase = .applied → w.status.systemProxyEnabled = true ∧
    ∃ prior observed, w.journal = some ⟨prior⟩ ∧ w.lastActive = some (.ok observed) ∧
      observed.semanticallyMatches (prior.withEndpoint endpoint) = true
  released : w.status.systemProxy.phase = .off ∨ w.status.systemProxy.phase = .failed →
    w.journal = none ∧ w.status.systemProxyEnabled = false
  owned : w.journal ≠ none → w.status.systemProxy.phase ≠ .applied →
    w.status.systemProxy.phase = .drift ∧ w.status.systemProxy.recoveryActions ≠ []

theorem Published.phaseAgrees (h : Published True endpoint w) : PhaseAgrees endpoint w := by
  unfold Published Agrees at h
  constructor
  · intro phase
    simpa [phase] using h
  · rintro (phase | phase)
    · simpa [phase] using h
    · simpa [phase] using h
  · intro owned notApplied
    cases phase : w.status.systemProxy.phase with
    | applied => exact absurd phase notApplied
    | drift => simpa [phase] using (by simpa [phase] using h : _ ∧ _).1
    | off => simp [phase, owned] at h
    | failed => simp [phase, owned] at h
    | pending => simp [phase] at h

/-- An operation that finds an agreeing status leaves one behind. -/
theorem program_settles (known : supported → ∀ s a s', behaves s .availability a s' →
    a = .supported) (op : Op) (published : Published supported endpoint w) :
    Settles behaves supported endpoint (op.program endpoint) w.begin := by
  have begun : Published supported endpoint w.begin := by
    unfold Published at published ⊢
    rwa [lastActive_begin]
  have conducts := program_conducts supported True op (opening_begin w) known fun _ => begun
  exact (conducts.mono fun _ _ settled => settled trivial).weaken fun _ _ _ => trivial

theorem run_published {admits} (known : supported → ∀ s a s', behaves s .availability a s' →
    a = .supported) (published : Published supported endpoint start)
    (run : Run (platform behaves) World.begin (Op.program endpoint) admits start w) :
    Published supported endpoint w := by
  refine run.invariant (fun op t result u h _ exec => ?_) published
  exact ((program_settles known op h).result exec).1

theorem published_initial (empty : start.journal = none)
    (initial : start.status = .off) : Published supported endpoint start := by
  simp [Published, Agrees, empty, initial, off]

end

/-- On a platform that stays supported, from an empty journal, every operation
that returns leaves a published phase that agrees with the journal. -/
theorem published_phase_agrees {σ : Type} (behaves : Behaviour σ)
    (endpoint : LoopbackProxyEndpoint) (start w : World σ)
    (supports : ∀ s availability s', behaves s .availability availability s' →
      availability = .supported) (empty : start.journal = none) (initial : start.status = .off)
    (run : Run (platform behaves) World.begin (Op.program endpoint) (fun _ _ => True) start w) :
    PhaseAgrees endpoint w :=
  (run_published (fun _ => supports) (published_initial empty initial) run).phaseAgrees

/-- A service that shows the endpoint once it has been written. -/
def obedientService : Script where
  active := fun w => .ok (if w.trace.any (appliesTo directService.serviceId)
    then directService.withEndpoint .managed else directService)
  service := fun _ _ => .ok directService

def enabledWorld : Operation (Fallible CaptureRuntimeStatus) × World Unit :=
  obedientService.run .managed .turnOn .fresh fun _ => false

theorem enabled_phase_agrees : enabledWorld.2.status.systemProxy.phase = .applied ∧
    PhaseAgrees .managed enabledWorld.2 := by
  have returned : enabledWorld.1 = .done (.ok enabledWorld.2.status) :=
    Program.eq_done_of_result (by decide +kernel)
  have exec : Exec (platform alwaysSupported) (Op.turnOn.program .managed) World.fresh.begin
      enabledWorld.1 enabledWorld.2 :=
    Script.exec_run (fun w r => by cases r <;> first | rfl | trivial) _ _ _ _
  exact ⟨by decide +kernel, published_phase_agrees alwaysSupported .managed .fresh _
    (fun _ _ _ h => h) rfl rfl (.op Op.turnOn (.refl _) trivial exec)⟩

end Mish.Capture.SystemProxy
