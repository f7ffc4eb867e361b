import Mathlib.Algebra.BigOperators.Group.List.Basic
import Mathlib.Algebra.Order.BigOperators.Group.List
import Mathlib.Algebra.Group.Action.Defs
import Mathlib.Algebra.Order.Ring.Nat
import Mish.Profile.Model

/-!
# The selected profile

`ProfileSelectionAuthority` keeps which profile is selected, in memory and in a
file, with a revision. A write either replaces the file or leaves it; a restart
reads the file again.
-/

namespace Mish.Profile.Selection
open ProfileId

def profileSelectionSchemaVersion : Nat := 1

def profileSelectionMaxBytes : Nat := 4096

def maxU64 : Nat := 2 ^ 64 - 1

/-- The fields of a listed profile that the register reads. -/
structure ProfileListItem where
  id : String
  valid : Bool

structure ProfileSelectionSnapshot where
  profileId : Option String := none
  revision : Nat := 0
  deriving DecidableEq

structure StoredProfileSelection where
  profileId : Option String
  (revision schemaVersion : Nat)

/-! ## The file -/

/-- The bytes of a character in a JSON string. -/
def escapedSize (c : Char) : Nat :=
  if c.toNat ∈ [0x08, 0x09, 0x0a, 0x0c, 0x0d, 0x22, 0x5c] then 2
  else if c.toNat < 0x20 then 6
  else c.utf8Size

def stringSize (text : String) : Nat := 2 + (text.toList.map escapedSize).sum

def numberSize (n : Nat) : Nat := (Nat.toDigits 10 n).length

/-- The length of the text `to_vec_pretty` makes: the braces, three lines with
their field names, and the values. -/
def StoredProfileSelection.size (stored : StoredProfileSelection) : Nat :=
  4 + (15 + (stored.profileId.map stringSize).getD 4) + 2 + (14 + numberSize stored.revision) + 2 +
    (19 + numberSize stored.schemaVersion)

/-- What is at the register's path: `contents` is the record that its text parses
to, if it can be read and is one. -/
structure SelectionFile where
  (isFile isSymlink : Bool)
  length : Nat
  contents : Option StoredProfileSelection

/-- The file that a write leaves. -/
def SelectionFile.of (stored : StoredProfileSelection) : SelectionFile :=
  ⟨true, false, stored.size, some stored⟩

def loadSelection (path : Option SelectionFile) : Option ProfileSelectionSnapshot := do
  let metadata ← path
  if !metadata.isFile || metadata.isSymlink || profileSelectionMaxBytes < metadata.length then none
  else
    let stored ← metadata.contents
    if stored.schemaVersion ≠ profileSelectionSchemaVersion ∨ stored.revision = 0 ∨
        stored.profileId.any (fun profileId => (parse profileId).isNone) then none
    else some ⟨stored.profileId, stored.revision⟩

/-! ## The register -/

/-- The register with its file. `persisted` is no part of the program: it lists
what was written to the file, newest first. -/
structure Authority where
  path : Option SelectionFile
  migrationPending : Bool
  snapshot : ProfileSelectionSnapshot
  persisted : List ProfileSelectionSnapshot

abbrev Selecting := ExceptT RepositoryError (StateM Authority)

def validProfile (profiles : List ProfileListItem) (profileId : String) : Bool :=
  profiles.any fun profile => profile.id == profileId && profile.valid

def firstValidProfileId (profiles : List ProfileListItem) : Option String :=
  (profiles.find? (·.valid)).map (·.id)

variable (written : Bool)

/-- `written` says whether the write succeeds. -/
def commitSelection (profileId : Option String) : Selecting Unit := do
  let state ← get
  if maxU64 < state.snapshot.revision + 1 then throw .atomicWriteFailed
  let revision := state.snapshot.revision + 1
  if !written then throw .atomicWriteFailed
  modify fun state => { state with
    path := some (.of ⟨profileId, revision, profileSelectionSchemaVersion⟩)
    persisted := ⟨profileId, revision⟩ :: state.persisted }
  modify fun state => { state with snapshot := ⟨profileId, revision⟩ }

/-- A commit, after which no migration is pending. -/
def commit (profileId : Option String) : Selecting ProfileSelectionSnapshot := do
  commitSelection written profileId
  modify fun state => { state with migrationPending := false }
  return (← get).snapshot

def reconcileSelection (profiles : List ProfileListItem) : Selecting ProfileSelectionSnapshot := do
  let state ← get
  let next := (state.snapshot.profileId.filter (validProfile profiles)).or
    (firstValidProfileId profiles)
  if next = state.snapshot.profileId then return state.snapshot
  commit written next

/-- A restart. -/
def load : Selecting ProfileSelectionSnapshot := do
  let stored := loadSelection (← get).path
  modify fun state => { state with
    migrationPending := stored.isNone
    snapshot := stored.getD {} }
  return (← get).snapshot

def initializeSelection (profiles : List ProfileListItem)
    (preferredProfileId : Option String) : Selecting ProfileSelectionSnapshot := do
  if !(← get).migrationPending then reconcileSelection written profiles
  else
    let next := (preferredProfileId.filter (validProfile profiles)).or
      (firstValidProfileId profiles)
    commit written next

def reconcile (profiles : List ProfileListItem) : Selecting ProfileSelectionSnapshot :=
  reconcileSelection written profiles

def select (profiles : List ProfileListItem) (profileId : String)
    (expected : Option ProfileSelectionSnapshot) : Selecting ProfileSelectionSnapshot := do
  if !validProfile profiles profileId then throw .notFound
  let state ← get
  if expected.any (· ≠ state.snapshot) then return state.snapshot
  if state.snapshot.profileId = some profileId then return state.snapshot
  commit written (some profileId)

/-- The calls, a restart among them. -/
inductive Call where
  | load
  | initializeSelection (profiles : List ProfileListItem) (preferredProfileId : Option String)
  | reconcile (profiles : List ProfileListItem)
  | select (profiles : List ProfileListItem) (profileId : String)
      (expected : Option ProfileSelectionSnapshot)

def Call.program : Call → Selecting ProfileSelectionSnapshot
  | .load => Selection.load
  | .initializeSelection profiles preferred => Selection.initializeSelection written profiles preferred
  | .reconcile profiles => Selection.reconcile written profiles
  | .select profiles profileId expected => Selection.select written profiles profileId expected

/-- The call's result, and the register after it. -/
def Call.run (call : Call) (written : Bool) (s : Authority) :
    Except RepositoryError ProfileSelectionSnapshot × Authority :=
  (call.program written).run.run s

/-- The first start, with whatever is at the path. -/
def start (path : Option SelectionFile) : Authority :=
  let stored := loadSelection path
  ⟨path, stored.isNone, stored.getD {}, stored.toList⟩

/-! ## What a call can do -/

section
variable {α β : Type} (s : Authority)

theorem run_bind (x : Selecting α) (f : α → Selecting β) :
    (x >>= f).run.run s = match x.run.run s with
      | (.ok a, t) => (f a).run.run t
      | (.error e, t) => (.error e, t) := by
  change (ExceptT.bindCont f (x.run.run s).1) (x.run.run s).2 = _
  rcases x.run.run s with ⟨_ | _, t⟩ <;> rfl

theorem run_get : (get : Selecting Authority).run.run s = (.ok s, s) := rfl

theorem run_modify (f : Authority → Authority) :
    (modify f : Selecting PUnit).run.run s = (.ok ⟨⟩, f s) := rfl

theorem run_throw (e : RepositoryError) : (throw e : Selecting α).run.run s = (.error e, s) := rfl

theorem run_pure (a : α) : (pure a : Selecting α).run.run s = (.ok a, s) := rfl

theorem run_ite {p : Prop} [Decidable p] (x y : Selecting α) :
    (if p then x else y).run.run s = if p then x.run.run s else y.run.run s := by
  split <;> rfl

end

/-- The register after `profileId` is committed. -/
def Authority.committed (s : Authority) (profileId : Option String) : Authority :=
  let snapshot := ⟨profileId, s.snapshot.revision + 1⟩
  ⟨some (.of ⟨profileId, s.snapshot.revision + 1, profileSelectionSchemaVersion⟩), false, snapshot,
    snapshot :: s.persisted⟩

/-- The register after a restart. -/
def Authority.restarted (s : Authority) : Authority :=
  { s with
    migrationPending := (loadSelection s.path).isNone
    snapshot := (loadSelection s.path).getD {} }

theorem commit_run (written : Bool) (profileId : Option String) (s : Authority) :
    (commit written profileId).run.run s =
    if written = true ∧ s.snapshot.revision + 1 ≤ maxU64 then
    (.ok (s.committed profileId).snapshot, s.committed profileId)
    else (.error .atomicWriteFailed, s) := by
  simp only [commit, commitSelection, run_bind, run_get, run_ite, run_throw, run_pure, run_modify]
  by_cases room : s.snapshot.revision + 1 ≤ maxU64
  · cases written
    · simp [not_lt.mpr room]
    · simp [room, not_lt.mpr room, Authority.committed]
  · simp [room, not_le.mp room]

/-- The profile that is selected where one is preferred. -/
def chosen (profiles : List ProfileListItem) (preferred : Option String) : Option String :=
  (preferred.filter (validProfile profiles)).or (firstValidProfileId profiles)

theorem reconcileSelection_run (written : Bool) (profiles : List ProfileListItem) (s : Authority) :
    (reconcileSelection written profiles).run.run s =
    if chosen profiles s.snapshot.profileId = s.snapshot.profileId then (.ok s.snapshot, s)
    else (commit written (chosen profiles s.snapshot.profileId)).run.run s := by
  simp only [reconcileSelection, run_bind, run_get, run_ite, run_pure]
  rfl

/-- The profiles a call is given. -/
def Call.profiles : Call → List ProfileListItem
  | .load => []
  | .initializeSelection profiles _ => profiles
  | .reconcile profiles => profiles
  | .select profiles _ _ => profiles

def Call.initializes : Call → Bool
  | .initializeSelection _ _ => true
  | _ => false

/-- What a call can do to the register, and what it then returns. -/
inductive Outcome (call : Call) (s : Authority) :
    Except RepositoryError ProfileSelectionSnapshot × Authority → Prop where
  | failed (e : RepositoryError) : Outcome call s (.error e, s)
  | unchanged (initialized : call.initializes = true → s.migrationPending = false) :
      Outcome call s (.ok s.snapshot, s)
  | committed (next : Option String) (room : s.snapshot.revision + 1 ≤ maxU64)
      (listed : ∀ id, next = some id → validProfile call.profiles id = true)
      (changed : next = s.snapshot.profileId → call.initializes = true ∧ s.migrationPending = true) :
      Outcome call s (.ok (s.committed next).snapshot, s.committed next)
  | restarted : call = .load → Outcome call s (.ok s.restarted.snapshot, s.restarted)

variable {s : Authority} {next : Option String} {profiles : List ProfileListItem}
  {preferred : Option String} {ran : Except RepositoryError ProfileSelectionSnapshot × Authority}
  {snapshot : ProfileSelectionSnapshot}

theorem commit_outcome {call} (written : Bool)
    (listed : ∀ id, next = some id → validProfile call.profiles id = true)
    (changed : next = s.snapshot.profileId → call.initializes = true ∧ s.migrationPending = true) :
    Outcome call s ((commit written next).run.run s) := by
  rw [commit_run]
  split
  · rename_i done
    exact .committed next done.2 listed changed
  · exact .failed _

theorem firstValidProfileId_valid {id}
    (found : firstValidProfileId profiles = some id) : validProfile profiles id = true := by
  obtain ⟨profile, first, rfl⟩ := Option.map_eq_some_iff.mp found
  refine List.any_eq_true.mpr ⟨profile, List.mem_of_find?_eq_some first, ?_⟩
  simpa using List.find?_some first

theorem chosen_valid {id}
    (found : chosen profiles preferred = some id) : validProfile profiles id = true := by
  rcases Option.or_eq_some_iff.mp found with kept | ⟨_, first⟩
  · exact (Option.filter_eq_some_iff.mp kept).2
  · exact firstValidProfileId_valid first

theorem chosen_eq_none :
    chosen profiles preferred = none ↔ ∀ profile ∈ profiles, profile.valid = false := by
  constructor
  · intro absent
    have first := (Option.or_eq_none_iff.mp absent).2
    simpa [firstValidProfileId] using first
  · intro invalid
    refine Option.or_eq_none_iff.mpr ⟨?_, by simpa [firstValidProfileId] using invalid⟩
    refine Option.filter_eq_none_iff.mpr fun id _ valid => ?_
    obtain ⟨profile, listed, same⟩ := List.any_eq_true.mp valid
    simp [invalid profile listed] at same

theorem reconcile_outcome {call} (written : Bool) (given : call.profiles = profiles)
    (initialized : call.initializes = true → s.migrationPending = false) :
    Outcome call s ((reconcileSelection written profiles).run.run s) := by
  rw [reconcileSelection_run]
  split
  · exact .unchanged initialized
  · rename_i differs
    exact commit_outcome written (fun _ found => given ▸ chosen_valid found)
      (fun same => absurd same differs)

theorem Call.run_outcome (call : Call) (written : Bool) (s : Authority) :
    Outcome call s (call.run written s) := by
  cases call with
  | load => exact .restarted rfl
  | reconcile profiles => exact reconcile_outcome written rfl nofun
  | initializeSelection profiles preferred =>
    simp only [Call.run, Call.program, Selection.initializeSelection, run_bind, run_get, run_ite]
    split
    · rename_i initialized
      exact reconcile_outcome written rfl fun _ => by simpa using initialized
    · rename_i pending
      exact commit_outcome written (fun _ found => chosen_valid found)
        fun _ => ⟨rfl, by simpa using pending⟩
  | select profiles profileId expected =>
    simp only [Call.run, Call.program, Selection.select, run_bind, run_get, run_ite, run_throw,
      run_pure]
    split
    · exact .failed _
    rename_i valid
    split
    · exact .unchanged nofun
    split
    · exact .unchanged nofun
    rename_i differs
    refine commit_outcome written (fun id same => ?_) (fun same => absurd same.symm differs)
    rw [← Option.some.inj same]
    simpa [Call.profiles] using valid

/-! ## The register over a history -/

/-- The profiles a call may select have profile ids. -/
def Call.Canonical (call : Call) : Prop :=
  ∀ profile ∈ call.profiles, profile.valid = true → (parse profile.id).isSome

/-- The registers that calls among those that `admits` lead to, each with a write
that succeeds or fails. -/
inductive Reached (admits : Call → Prop) (path : Option SelectionFile) : Authority → Prop where
  | start : Reached admits path (start path)
  | call {s : Authority} (call : Call) (written : Bool) : Reached admits path s → admits call →
      Reached admits path (call.run written s).2

/-- Memory and file hold what was persisted last. -/
structure Durable (s : Authority) : Prop where
  memory : s.snapshot = s.persisted.head?.getD {}
  file : loadSelection s.path = s.persisted.head?
  pending : s.migrationPending = s.persisted.head?.isNone

theorem durable_start (path : Option SelectionFile) : Durable (start path) := by
  cases stored : loadSelection path <;> exact ⟨by simp [start, stored], by simp [start, stored],
    by simp [start, stored]⟩

theorem escapedSize_le (c : Char) : escapedSize c ≤ 6 := by
  unfold escapedSize
  have := c.utf8Size_le_four
  split
  · omega
  · split <;> omega

theorem stringSize_le (text : String) : stringSize text ≤ 2 + 6 * text.toList.length := by
  have each : ∀ n ∈ text.toList.map escapedSize, n ≤ 6 := by
    intro n listed
    obtain ⟨c, _, rfl⟩ := List.mem_map.mp listed
    exact escapedSize_le c
  have total := List.sum_le_card_nsmul _ 6 each
  simp only [List.length_map, smul_eq_mul] at total
  unfold stringSize
  omega

theorem numberSize_le {n} (bound : n ≤ maxU64) : numberSize n ≤ 20 :=
  (Nat.length_toDigits_le_iff (by decide) (by decide)).mpr (lt_of_le_of_lt bound (by decide))

/-- A record of a profile id is short enough to be read back. -/
theorem size_le {profileId revision} (bound : revision ≤ maxU64)
    (canonical : ∀ id, profileId = some id → (parse id).isSome) :
    StoredProfileSelection.size ⟨profileId, revision, profileSelectionSchemaVersion⟩ ≤
      profileSelectionMaxBytes := by
  have digits := numberSize_le bound
  have version : numberSize profileSelectionSchemaVersion = 1 := by decide
  have value : (profileId.map stringSize).getD 4 ≤ 218 := by
    cases profileId with
    | none => decide
    | some id =>
      have length : id.toList.length = 36 := by
        have := parse_isSome.mp (canonical id rfl)
        simp only [isCanonicalUuid, Bool.and_eq_true, beq_iff_eq] at this
        exact this.1
      have := stringSize_le id
      simp only [Option.map_some, Option.getD_some]
      omega
  simp only [StoredProfileSelection.size, profileSelectionMaxBytes, version]
  omega

theorem loadSelection_of {profileId revision} (positive : 0 < revision)
    (bound : revision ≤ maxU64) (canonical : ∀ id, profileId = some id → (parse id).isSome) :
    loadSelection (some (.of ⟨profileId, revision, profileSelectionSchemaVersion⟩)) =
    some ⟨profileId, revision⟩ := by
  have fits := not_lt.mpr (size_le bound canonical)
  have parses : profileId.any (fun id => (parse id).isNone) = false := by
    cases profileId with
    | none => rfl
    | some id => simpa using canonical id rfl
  simp [loadSelection, SelectionFile.of, fits, parses, positive.ne']

theorem Durable.committed (room : s.snapshot.revision + 1 ≤ maxU64)
    (canonical : ∀ id, next = some id → (parse id).isSome) : Durable (s.committed next) :=
  ⟨rfl, loadSelection_of (Nat.succ_pos _) room canonical, rfl⟩

theorem Durable.restarted_eq (h : Durable s) : s.restarted = s := by
  obtain ⟨memory, file, pending⟩ := h
  cases s
  simp_all [Authority.restarted]

theorem Durable.call (h : Durable s) {call : Call} (canonical : call.Canonical)
    (written : Bool) : Durable (call.run written s).2 := by
  generalize ran : call.run written s = ran'
  have outcome := call.run_outcome written s
  rw [ran] at outcome
  cases outcome with
  | failed e => exact h
  | unchanged => exact h
  | committed next room listed changed =>
    refine .committed room fun id same => ?_
    obtain ⟨profile, found, valid⟩ := List.any_eq_true.mp (listed id same)
    simp only [Bool.and_eq_true, beq_iff_eq] at valid
    exact valid.1 ▸ canonical profile found valid.2
  | restarted =>
    rw [h.restarted_eq]
    exact h

theorem Reached.durable {path : Option SelectionFile}
    (reached : Reached Call.Canonical path s) : Durable s := by
  induction reached with
  | start => exact durable_start path
  | call call written _ canonical ih => exact ih.call canonical written

/-- Some listed profile is selected, unless none is valid. -/
def Listed (profiles : List ProfileListItem) (selected : Option String) : Prop :=
  (∀ id, selected = some id → ∃ profile ∈ profiles, profile.id = id ∧ profile.valid = true) ∧
    (selected = none ↔ ∀ profile ∈ profiles, profile.valid = false)

/-- What one call may do to the register `s` and return. -/
structure Lawful (s : Authority) (call : Call)
    (ran : Except RepositoryError ProfileSelectionSnapshot × Authority) : Prop where
  /-- The first initialization apart, the revision counts the changes. -/
  revision : (call.initializes = true → s.migrationPending = false) →
    ran.2.snapshot.revision = s.snapshot.revision +
      if ran.2.snapshot.profileId = s.snapshot.profileId then 0 else 1
  initialized : s.migrationPending = false ∨ call.initializes = true ∧ ran.1.isOk = true →
    ran.2.migrationPending = false
  stale : ∀ profiles profileId expected, call = .select profiles profileId (some expected) →
    expected ≠ s.snapshot → ran.2 = s
  failed : ∀ e, ran.1 = .error e → ran.2 = s
  returned : ∀ snapshot, ran.1 = .ok snapshot → snapshot = ran.2.snapshot
  listed : (∃ profiles, call = .reconcile profiles) ∨ call.initializes = true →
    ∀ snapshot, ran.1 = .ok snapshot → Listed call.profiles snapshot.profileId

theorem Outcome.revision {call} (h : Durable s) (outcome : Outcome call s ran)
    (after : call.initializes = true → s.migrationPending = false) : ran.2.snapshot.revision =
    s.snapshot.revision + if ran.2.snapshot.profileId = s.snapshot.profileId then 0 else 1 := by
  cases outcome with
  | failed e => simp
  | unchanged => simp
  | committed next room listed changed =>
    have differs : next ≠ s.snapshot.profileId := by
      intro same
      obtain ⟨initializes, pending⟩ := changed same
      simp [after initializes] at pending
    simp [Authority.committed, differs]
  | restarted => simp [h.restarted_eq]

theorem Outcome.initialized {call} (h : Durable s) (outcome : Outcome call s ran)
    (done : s.migrationPending = false ∨ call.initializes = true ∧ ran.1.isOk = true) :
    ran.2.migrationPending = false := by
  cases outcome with
  | failed e => simpa [Except.isOk, Except.toBool] using done
  | unchanged initialized => exact done.elim id fun now => initialized now.1
  | committed => rfl
  | restarted loads =>
    subst loads
    rw [h.restarted_eq]
    simpa [Call.initializes] using done

theorem select_stale {expected} (written : Bool)
    (profiles : List ProfileListItem) (profileId : String) (stale : expected ≠ s.snapshot) :
    ((Call.select profiles profileId (some expected)).run written s).2 = s := by
  simp only [Call.run, Call.program, select, run_bind, run_get, run_ite, run_throw, run_pure]
  split
  · rfl
  · simp [stale]

theorem chosen_listed (profiles : List ProfileListItem) (preferred : Option String) :
    Listed profiles (chosen profiles preferred) := by
  refine ⟨fun id found => ?_, chosen_eq_none⟩
  obtain ⟨profile, listed, valid⟩ := List.any_eq_true.mp (chosen_valid found)
  simp only [Bool.and_eq_true, beq_iff_eq] at valid
  exact ⟨profile, listed, valid⟩

theorem commit_listed {written}
    (returned : ((commit written (chosen profiles preferred)).run.run s).1 = .ok snapshot) :
    Listed profiles snapshot.profileId := by
  rw [commit_run] at returned
  split at returned
  · cases returned
    exact chosen_listed profiles preferred
  · cases returned

theorem reconcile_listed {written}
    (returned : ((reconcileSelection written profiles).run.run s).1 = .ok snapshot) :
    Listed profiles snapshot.profileId := by
  rw [reconcileSelection_run] at returned
  split at returned
  · rename_i same
    cases returned
    rw [← same]
    exact chosen_listed profiles _
  · exact commit_listed returned

theorem initializeSelection_listed {written}
    (returned : ((initializeSelection written profiles preferred).run.run s).1 = .ok snapshot) :
    Listed profiles snapshot.profileId := by
  simp only [initializeSelection, run_bind, run_get, run_ite] at returned
  split at returned
  · exact reconcile_listed returned
  · exact commit_listed returned

theorem Durable.lawful (h : Durable s) (call : Call) (written : Bool) :
    Lawful s call (call.run written s) where
  revision := (call.run_outcome written s).revision h
  initialized := (call.run_outcome written s).initialized h
  stale := by
    rintro profiles profileId expected rfl stale
    exact select_stale written profiles profileId stale
  failed e failed := by
    generalize call.run written s = ran, call.run_outcome written s = outcome at failed ⊢
    cases outcome with
    | failed e => rfl
    | _ => cases failed
  returned snapshot returned := by
    generalize call.run written s = ran, call.run_outcome written s = outcome at returned ⊢
    cases outcome with
    | failed e => cases returned
    | unchanged | committed | restarted => cases returned; rfl
  listed := by
    rintro (⟨profiles, rfl⟩ | initializes) snapshot returned
    · exact reconcile_listed returned
    · cases call with
      | initializeSelection profiles preferred => exact initializeSelection_listed returned
      | _ => cases initializes

/-- Along every history of calls with lists of profiles that have profile ids, and
with every failure of a write, memory holds what was persisted last and every
call is lawful. -/
theorem durable_lawful_register {path : Option SelectionFile} {s : Authority}
    (reached : Reached Call.Canonical path s) :
    s.snapshot = s.persisted.head?.getD {} ∧ ∀ call written, Lawful s call (call.run written s) :=
  ⟨reached.durable.memory, fun call written => reached.durable.lawful call written⟩

namespace Sample

/-- The first start of all, a profile that is then selected, and a restart. -/
def restarted (id : String) : Authority :=
  (Call.load.run true ((Call.initializeSelection [⟨id, true⟩] none).run true (start none)).2).2

def profileId : String := "8f496cb3-757c-4b16-a6a1-395f324ff28b"

theorem reached (admits : Call → Prop) (id : String)
    (given : admits (.initializeSelection [⟨id, true⟩] none)) (loads : admits .load) :
    Reached admits none (restarted id) :=
  .call .load true (.call _ true .start given) loads

theorem canonical : (Call.initializeSelection [⟨profileId, true⟩] none).Canonical := by
  intro profile listed _
  rw [List.mem_singleton.mp listed]
  decide +kernel

end Sample

/-- A selection that is no profile id is written, and a restart does not read it
back. -/
theorem restart_forgets_other_id :
    ∃ s, Reached (fun _ => True) none s ∧ s.persisted.head? = some ⟨some "work", 1⟩ ∧
      s.snapshot = ⟨none, 0⟩ :=
  ⟨Sample.restarted "work", Sample.reached _ _ trivial trivial, by decide +kernel,
    by decide +kernel⟩

theorem durable_lawful_register_restarted :
    (Sample.restarted Sample.profileId).snapshot = ⟨some Sample.profileId, 1⟩ ∧
      ∀ call written, Lawful (Sample.restarted Sample.profileId) call
        (call.run written (Sample.restarted Sample.profileId)) := by
  obtain ⟨memory, lawful⟩ := durable_lawful_register
    (Sample.reached Call.Canonical Sample.profileId Sample.canonical nofun)
  exact ⟨memory, lawful⟩

end Mish.Profile.Selection
