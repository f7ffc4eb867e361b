import Mish.Capture.Conduct

/-!
# Whose configuration is journaled

Turning System Proxy on refuses a service that already carries the endpoint. An
audit that follows the active service and a Repair journal what they observe
without that check, so the journal can name Mish's own endpoint as the user's
configuration.
-/

namespace Mish.Capture.SystemProxy
open Interaction

/-- An operation started in any world, so after any run, journals a prior that
carries the endpoint exactly when it is an audit or a recovery and the platform
showed it an active service that carries the endpoint. -/
theorem journals_endpoint_iff {σ : Type} (behaves : Behaviour σ)
    (endpoint : LoopbackProxyEndpoint) (found w : World σ) (op : Op) (journal : CaptureJournal)
    (next : Fallible Unit → Operation (Fallible CaptureRuntimeStatus))
    (run : Exec (platform behaves) (op.program endpoint) found.begin
      (.call (.saveJournal journal) next) w) :
    journal.prior.hasMatchingManualProxyEndpoint endpoint = true ↔
      op.checksEndpoint = false ∧
        ∃ observed ∈ w.actives, observed.hasMatchingManualProxyEndpoint endpoint = true := by
  have lawful : Journalable endpoint op w journal :=
    (program_obeys op (opening_begin found)).request_allowed run
  have observed := lawful.observed
  cases checks : op.checksEndpoint with
  | true =>
    simp only [checks, if_true] at observed
    simp [observed]
  | false =>
    simp only [checks, Bool.false_eq_true, if_false] at observed
    simp [observed]

/-! ## A Repair that adopts the endpoint -/

/-- The active service carries the endpoint although Mish never wrote it. -/
def leftoverEndpoint : Script where
  active := fun _ => .ok (directService.withEndpoint .managed)
  service := fun _ _ => .ok (directService.withEndpoint .managed)

/-- Turning System Proxy on refuses the service and publishes drift. -/
def refusedEnable : World Unit := (leftoverEndpoint.run .managed .turnOn .fresh fun _ => false).2

/-- The offered Repair, up to its journal write. -/
def adoptingRepair : Operation (Fallible CaptureRuntimeStatus) × World Unit :=
  leftoverEndpoint.run .managed (.recover .repair true) refusedEnable Request.isSave

theorem refusedEnable_session : Session (platform anything) World.begin (Op.program .managed)
    .fresh refusedEnable :=
  .op Op.turnOn (.refl _) (Script.exec_run (fun _ _ => trivial) _ _ _ _)

theorem adoptingRepair_pending : adoptingRepair.1.pending =
    some (.saveJournal ⟨directService.withEndpoint .managed⟩) := by decide +kernel

/-- Nothing is journaled at the start, and the Repair offered after a refused
enable journals Mish's own endpoint as the user's configuration. -/
theorem repair_journals_endpoint : ∃ journal w,
    Reaches anything .managed .fresh (.saveJournal journal) w ∧
      journal.prior.hasMatchingManualProxyEndpoint .managed = true :=
  ⟨_, _, Script.reaches refusedEnable_session adoptingRepair_pending, by decide +kernel⟩

theorem repair_journals_observed_endpoint :
    (CaptureJournal.mk (directService.withEndpoint .managed)).prior.hasMatchingManualProxyEndpoint
        .managed = true ↔
      (Op.recover .repair true).checksEndpoint = false ∧
        ∃ observed ∈ adoptingRepair.2.actives,
          observed.hasMatchingManualProxyEndpoint .managed = true := by
  obtain ⟨next, waiting⟩ := Program.eq_call_of_pending adoptingRepair_pending
  exact journals_endpoint_iff anything .managed refusedEnable adoptingRepair.2
    (.recover .repair true) _ next (waiting ▸ Script.exec_run (fun _ _ => trivial) _ _ _ _)

end Mish.Capture.SystemProxy
