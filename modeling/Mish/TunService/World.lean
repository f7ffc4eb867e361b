import Mathlib.Logic.Function.Basic
import Mish.TunService.NetworkOwnership

/-!
# The journal and the DNS settings

What the requests of the transactions do, and how they may fail. A file operation may fail without
having done anything, and, where the lapses allow it, also once what it did is visible. The DNS
value of a service is written by a `compare_and_set` that is atomic, and by other programs.
-/

namespace Mish.TunService
open Interaction

/-- The recovery record's path: nothing, a record, or something `load_record` refuses. -/
inductive Journal where
  | absent
  | record (record : NetworkRecoveryRecord)
  | foreign
  deriving DecidableEq

/-- What is written down of the calls that changed something. -/
inductive Event where
  | wrote (purpose : Purpose) (before : List IpAddr) (author : Option Purpose)
  | removed (transaction : ManagedDnsState) (journal : Journal)
  deriving DecidableEq

/-- `author` is what last wrote the DNS value of a service, if it was a transaction. `spent` are
the transactions whose apply has made its write, and `seen` is the record that a process has read
in its present attempt. -/
structure World where
  journal : Journal
  dns : String → List IpAddr
  author : String → Option Purpose
  spent : List ManagedDnsState
  seen : Nat → Option ManagedDnsState
  events : List Event

/-- How calls may fail: without effect, a rename or a removal that has taken effect, the
synchronisation of the directory after either, and the reading of a record that is there. -/
structure Lapses where
  (failures rename sync unlink read : Bool)

namespace World

/-- Reading may fail. -/
def refuses (lapses : Lapses) (w : World) : Prop :=
  match w.journal with
  | .foreign => True
  | .absent => lapses.failures = true
  | .record _ => lapses.read = true

variable (w : World)

def forget (i : Nat) : World := { w with seen := Function.update w.seen i none }

def sees (i : Nat) (transaction : ManagedDnsState) : World :=
  { w with seen := Function.update w.seen i (some transaction) }

def publish (record : NetworkRecoveryRecord) : World :=
  { w with journal := .record record }

def erase (transaction : ManagedDnsState) : World :=
  { w with journal := .absent, events := .removed transaction w.journal :: w.events }

/-- The write has been tried. -/
def tried : Purpose → World
  | .apply transaction => { w with spent := transaction :: w.spent }
  | .restore _ => w

def write (service : String) (servers : List IpAddr) (purpose : Purpose) : World :=
  { w.tried purpose with
    dns := Function.update w.dns service servers
    author := Function.update w.author service (some purpose)
    events := .wrote purpose (w.dns service) (w.author service) :: w.events }

def writeForeign (service : String) (servers : List IpAddr) : World :=
  { w with
    dns := Function.update w.dns service servers
    author := Function.update w.author service none }

end World

/-- The replies to process `i`. -/
def serves (lapses : Lapses) (i : Nat) : Environment Request Reply World := fun w r a t =>
  match r, a with
  | .parentMetadata, a => (a = true ∨ w.refuses lapses) ∧ t = w.forget i
  | .recordMetadata, a =>
    (a = .missing ∧ w.journal = .absent ∨ a = .usable ∧ w.journal ≠ .absent ∨
      a = .unusable ∧ w.refuses lapses) ∧ t = w
  | .readRecord, none => (w.journal = .absent ∨ w.refuses lapses) ∧ t = w
  | .readRecord, some record => w.journal = .record record ∧ t = w.sees i record.state
  | .createTemporary, a | .writeTemporary, a | .endTemporary, a | .syncTemporary, a
  | .temporaryMetadata, a => (a = true ∨ lapses.failures = true) ∧ t = w
  | .removeTemporary, _ => t = w
  | .rename record, a =>
    a = true ∧ t = w.publish record ∨ a = false ∧ lapses.failures = true ∧ t = w ∨
      a = false ∧ lapses.rename = true ∧ t = w.publish record
  | .syncDirectory, a => (a = true ∨ lapses.sync = true) ∧ t = w
  | .removeRecord transaction, a =>
    a = true ∧ w.journal ≠ .absent ∧ t = w.erase transaction ∨
      a = false ∧ (lapses.failures = true ∨ w.journal = .absent) ∧ t = w ∨
      a = false ∧ lapses.unlink = true ∧ w.journal ≠ .absent ∧ t = w.erase transaction
  | .defaultRouteInterface, _ | .inventory, _ => t = w
  | .observeDns service, a => (a = none ∨ a = some (w.dns service.id)) ∧ t = w
  | .compareAndSet service expected replacement purpose, a =>
    a = .ok () ∧ w.dns service.id = expected ∧ t = w.write service.id replacement purpose ∨
      a = .error .unchanged ∧ t = w.tried purpose ∨
      a = .error .mayHaveChanged ∧ (t = w.tried purpose ∨
        w.dns service.id = expected ∧ t = w.write service.id replacement purpose)
  | .sleep, _ => t = w.forget i
  | .writeDns service servers, _ => t = w.writeForeign service servers

/-- The journal holds the record of the transaction. -/
def World.holds (codec : Codec) (w : World) (transaction : ManagedDnsState) : Prop :=
  ∃ record, w.journal = .record record ∧ record.state = transaction ∧
    record.recordSchemaVersion = networkRecoveryRecordVersion ∧
    validManagedDnsState codec transaction = true

end Mish.TunService
