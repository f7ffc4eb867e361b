import Mish.Interaction.May
import Mish.Profile.Agreement
import Mish.Profile.Directory

/-!
# Which profiles a reconciliation deletes

A record is deleted if it is not marked active and its file is not among those that pass
every check. The file may be there all the same; and the mark is not what the activation
authority says.
-/

namespace Mish.Profile
open FileSystem Interaction ProfileService List

variable {Bytes : Type}

/-! ## The directory at the scan -/

/-- An entry with what the checks of it give: whether `read_dir` comes to its name, what
`symlink_metadata` says and what can be read. -/
structure Entry (Bytes : Type) where
  name : FileName
  listed : Bool
  metadata : Option FileMetadata
  contents : Option Bytes

structure World (Bytes : Type) where
  free : Bool
  store : Store Bytes
  created : Bool
  directory : Option FileMetadata
  listing : Option (List (Entry Bytes))
  /-- What the activation authority reports as active. -/
  active : Option ProfileId
  distinct : ∀ entries, listing = some entries → (entries.map Entry.name).Nodup

namespace World

def entries (w : World Bytes) : List (Entry Bytes) := w.listing.getD []

def entry (w : World Bytes) (name : FileName) : Option (Entry Bytes) :=
  w.entries.find? (·.name = name)

def names (entries : List (Entry Bytes)) : List (Option FileName) :=
  entries.map fun entry => if entry.listed then some entry.name else none

variable (service : ProfileService Bytes) (w : World Bytes)

def records : List (ProfileRecord Bytes) :=
  match readCurrentGeneration service.enc w.store with
  | .ok generation => (generation.map ProfileGeneration.profiles).getD []
  | .error _ => []

/-- Nothing is known of what the preflight and the edits of the repository give. -/
def Answers : (query : Query Bytes) → query.Reply → Prop
  | .tryAcquire, free => free = w.free
  | .readCurrentGeneration, generation =>
    generation = readCurrentGeneration service.enc w.store
  | .createDirAll, created => created = w.created
  | .directoryMetadata, metadata => metadata = w.directory
  | .readDir, listing => listing = w.listing.map names
  | .symlinkMetadata name, metadata => metadata = (w.entry name).bind Entry.metadata
  | .read name, contents => contents = (w.entry name).bind Entry.contents
  | .iterate records, order => order.Perm records
  | .preflight _ _, _ | .newId, _ | .now, _ | .edit _, _ => True

end World

def scanning (service : ProfileService Bytes) :
    Environment (Query Bytes) Query.Reply (World Bytes) :=
  fun w query reply w' => w' = w ∧ w.Answers service query reply

variable {service : ProfileService Bytes} {w : World Bytes}

/-- The entry passes every check. -/
def Entry.passes (service : ProfileService Bytes) (entry : Entry Bytes) : Bool :=
  entry.listed && entry.name.isYamlPath && service.fits entry.metadata && entry.contents.isSome

/-- The scan gets as far as the files. -/
def World.Scans (w : World Bytes) : Prop :=
  w.free = true ∧ w.created = true ∧ (∃ metadata, w.directory = some metadata ∧
    metadata.kind = .directory) ∧ w.listing.isSome

/-- The record is not marked active and its file does not pass. -/
def Doomed (service : ProfileService Bytes) (w : World Bytes) (record : ProfileRecord Bytes) :
    Prop :=
  w.Scans ∧ (service.fileName record, record) ∈ service.recordsByFileName (w.records service) ∧
    record.metadata.status.active = false ∧
    ∀ entry ∈ w.entries, entry.name = .utf8 (service.fileName record) → entry.passes service = false

/-! ## Files that are met -/

/-- The file name under which a path that is listed is taken off the records. -/
def World.met (service : ProfileService Bytes) (w : World Bytes) : FileName → Option String
  | .utf8 name =>
    if service.fits ((w.entry (.utf8 name)).bind Entry.metadata) &&
      ((w.entry (.utf8 name)).bind Entry.contents).isSome then some name else none
  | .other _ _ => none

def World.paths (w : World Bytes) : List FileName := yamlPaths (World.names w.entries)

/-- The records that are left when the files on these paths have been met. -/
def World.missing (service : ProfileService Bytes) (w : World Bytes) (past : List FileName) :
    List (String × ProfileRecord Bytes) :=
  (service.recordsByFileName (w.records service)).filter
    fun entry => entry.1 ∉ past.filterMap (w.met service)

open World

theorem World.entry_eq {entry} (mem : entry ∈ w.entries) : w.entry entry.name = some entry := by
  have distinct : (w.entries.map Entry.name).Nodup := by
    unfold entries
    cases listing : w.listing with
    | none => exact nodup_nil
    | some entries => exact w.distinct entries listing
  cases found : w.entry entry.name with
  | none =>
    have none_ := find?_eq_none.1 found entry mem
    simp at none_
  | some other =>
    have same : other.name = entry.name := by simpa using find?_some found
    rw [inj_on_of_nodup_map distinct (mem_of_find?_eq_some found) mem same]

theorem World.mem_paths {path} : path ∈ w.paths ↔ ∃ entry ∈ w.entries, entry.listed = true ∧
    entry.name = path ∧ path.isYamlPath = true := by
  unfold paths yamlPaths names
  rw [(mergeSort_perm ..).mem_iff, mem_filter]
  simp only [mem_filterMap, mem_map, id_eq, exists_eq_right]
  constructor
  · rintro ⟨⟨entry, mem, is⟩, yaml⟩
    split at is
    · cases is
      exact ⟨entry, mem, by assumption, rfl, yaml⟩
    · cases is
  · rintro ⟨entry, mem, listed, rfl, yaml⟩
    exact ⟨⟨entry, mem, by rw [if_pos listed]⟩, yaml⟩

/-- A name is met just if an entry with that name passes. -/
theorem World.mem_met {name} : name ∈ w.paths.filterMap (w.met service) ↔
    ∃ entry ∈ w.entries, entry.name = .utf8 name ∧ entry.passes service = true := by
  rw [mem_filterMap]
  constructor
  · rintro ⟨path, here, met⟩
    obtain ⟨entry, mem, listed, rfl, yaml⟩ := mem_paths.1 here
    have found := entry_eq mem
    unfold World.met at met
    split at met
    · rename_i name' is
      rw [← is, found] at met
      split at met
      · rename_i checked
        cases met
        refine ⟨entry, mem, is, ?_⟩
        simp only [Option.bind_some, Bool.and_eq_true] at checked
        simp [Entry.passes, listed, yaml, checked]
      · cases met
    · cases met
  · rintro ⟨entry, mem, is, passes⟩
    have found := entry_eq mem
    simp only [Entry.passes, Bool.and_eq_true] at passes
    obtain ⟨⟨⟨listed, yaml⟩, fits⟩, readable⟩ := passes
    refine ⟨.utf8 name, mem_paths.2 ⟨entry, mem, listed, is, is ▸ yaml⟩, ?_⟩
    rw [is] at found
    simp [met, found, fits, readable]

theorem ProfileService.mem_recordsByFileName {records entry}
    (mem : entry ∈ service.recordsByFileName records) :
    entry.2 ∈ records ∧ entry.1 = service.fileName entry.2 := by
  suffices h : ∀ map : List (String × ProfileRecord Bytes),
      entry ∈ records.foldl
        (fun map record => Assoc.insert (service.fileName record) record map) map →
      entry ∈ map ∨ (entry.2 ∈ records ∧ entry.1 = service.fileName entry.2) from
    (h [] mem).resolve_left (by simp)
  clear mem
  intro map
  induction records generalizing map with
  | nil => exact .inl
  | cons record rest ih =>
    intro mem
    rcases ih _ mem with inserted | ⟨later, is⟩
    · rcases Assoc.mem_insert inserted with rfl | before
      · exact .inr ⟨by simp, rfl⟩
      · exact .inl before
    · exact .inr ⟨mem_cons_of_mem _ later, is⟩

/-! ## Every scan -/

/-- Only records that are doomed are deleted. -/
def Sparing (service : ProfileService Bytes) (w : World Bytes) : Query Bytes → Prop
  | .edit (.delete id) => ∃ record, Doomed service w record ∧ record.id = id
  | _ => True

/-- The scan goes on in the same world, and a result is as described. -/
abbrev Yields {α : Type} (service : ProfileService Bytes) (w : World Bytes) (post : α → Prop)
    (p : Reconcile Bytes α) : Prop :=
  Safe (scanning service) (Sparing service)
    (fun result t => t = w ∧ match result with
      | .ok a => post a
      | .error _ => True) p.run w

/-- What does not delete may do as it likes. -/
abbrev Spares {α : Type} (service : ProfileService Bytes) (w : World Bytes)
    (p : Reconcile Bytes α) : Prop :=
  Maintains (scanning service) (Sparing service) (· = w) p.run

variable {β : Type} {post : Except ProfileServiceError β → World Bytes → Prop}
  (observed : List (String × RevisionId)) {record : ProfileRecord Bytes}

theorem safe_ask_bind {query next} (spares : Sparing service w query)
    (ok : ∀ reply, w.Answers service query reply →
    Safe (scanning service) (Sparing service) post (next reply).run w) :
    Safe (scanning service) (Sparing service) post (ask query >>= next).run w := by
  refine ⟨spares, ?_⟩
  rintro reply _ ⟨rfl, answer⟩
  exact ok reply answer

theorem safe_check_bind {α : Type} {result : Except RepositoryError α} {next}
    (ok : ∀ a, result = .ok a → Safe (scanning service) (Sparing service) post (next a).run w)
    (error : ∀ e, post (.error e) w) :
    Safe (scanning service) (Sparing service) post (check result >>= next).run w := by
  cases result with
  | ok a => exact ok a rfl
  | error e => exact error _

theorem maintains_ask (query : Query Bytes) (spares : Sparing service w query) :
    Spares service w (ask query) := by
  rintro _ rfl
  refine ⟨spares, ?_⟩
  rintro reply _ ⟨rfl, -⟩
  rfl

theorem maintains_edit (operation : Operation Bytes)
    (spares : Sparing service w (.edit operation)) : Spares service w (edit operation) := by
  refine (maintains_ask _ spares).attempt fun result => ?_
  exact .pure _

namespace ProfileService

theorem maintains_invalid (record : ProfileRecord Bytes) :
    Spares service w (markDirectoryProfileInvalid record) :=
  (maintains_ask .now trivial).attempt fun _ => maintains_edit (.update _) trivial

theorem maintains_replace {current report} :
    Spares service w (service.replaceImported current report) := by
  refine (maintains_ask .now trivial).attempt fun completedAt => ?_
  dsimp only
  split
  · split
    · exact maintains_edit (.update _) trivial
    · exact maintains_edit (.replaceSource _) trivial
  · exact maintains_invalid current

theorem maintains_import {fileName current} :
    Spares service w (service.importFile fileName current) := by
  unfold importFile
  dsimp only
  split
  · refine (maintains_ask (.preflight _ _) trivial).attempt fun report => ?_
    split
    · refine (maintains_ask .newId trivial).attempt fun id => ?_
      refine (maintains_ask .now trivial).attempt fun importedAt => ?_
      exact (maintains_edit (.save _) trivial).attempt fun _ => .pure _
    · exact maintains_replace.attempt fun _ => .pure _
    · exact (maintains_invalid _).attempt fun _ => .pure _
    · exact .pure _
  · exact .pure _

variable (observed : List (String × RevisionId))

/-- A file that is met is taken off the records, whatever becomes of it. -/
theorem reconcileFile_safe (progress : Progress Bytes) (fileName : String) (sourceBytes : Bytes) :
    Yields service w (fun next => next.records = Assoc.remove fileName progress.records)
    (service.reconcileFile observed progress fileName sourceBytes) := by
  unfold reconcileFile
  dsimp only
  split
  · exact ⟨rfl, rfl⟩
  · refine (maintains_import w rfl).attempt ?_ fun _ _ h => ⟨h, trivial⟩
    rintro changed _ rfl
    exact ⟨rfl, rfl⟩

theorem reconcilePath_safe (progress : Progress Bytes) (path : FileName) :
    Yields service w (fun next => next.records = progress.records.filter fun entry =>
    entry.1 ∉ (w.met service path).toList) (service.reconcilePath observed progress path) := by
  refine safe_ask_bind trivial ?_
  rintro metadata rfl
  have unmet : w.met service path = none → progress.records =
      progress.records.filter fun entry => entry.1 ∉ (w.met service path).toList := by
    intro none_
    simp [none_]
  split
  · rename_i fits
    split
    · exact ⟨rfl, unmet rfl⟩
    · rename_i fileName
      refine safe_ask_bind trivial ?_
      rintro contents rfl
      split
      · rename_i unreadable
        exact ⟨rfl, unmet (by simp [met, unreadable])⟩
      · rename_i sourceBytes readable
        have met : w.met service (.utf8 fileName) = some fileName := by
          simp [met, fits, readable]
        refine (service.reconcileFile_safe observed progress fileName sourceBytes).mono ?_
        rintro result _ ⟨rfl, done⟩
        refine ⟨rfl, ?_⟩
        cases result with
        | error e => trivial
        | ok next => simpa [Assoc.remove, met] using done
  · rename_i unfit
    refine ⟨rfl, unmet ?_⟩
    cases path with
    | utf8 name => simp [met, unfit]
    | other bytes invalid => rfl

theorem currentRecords_safe : Yields service w
    (fun records => records = w.records service) currentRecords := by
  refine safe_ask_bind trivial ?_
  rintro generation rfl
  refine safe_check_bind (fun found read => ⟨rfl, ?_⟩) fun _ => ⟨rfl, trivial⟩
  rw [records, read]

theorem scanDirectory_safe : Yields service w (fun paths => paths = w.paths ∧ w.created = true ∧
    (∃ metadata, w.directory = some metadata ∧ metadata.kind = .directory) ∧
    w.listing.isSome) scanDirectory := by
  refine safe_ask_bind trivial ?_
  rintro created rfl
  refine safe_check_bind (fun _ created => ?_) fun _ => ⟨rfl, trivial⟩
  refine safe_ask_bind trivial ?_
  rintro metadata rfl
  refine safe_check_bind (fun _ safe => ?_) fun _ => ⟨rfl, trivial⟩
  refine safe_ask_bind trivial ?_
  rintro listing rfl
  have directory : ∃ metadata, w.directory = some metadata ∧ metadata.kind = .directory := by
    unfold directoryIsSafe at safe
    split at safe
    · cases safe
    · rename_i metadata is
      exact ⟨metadata, is, by simpa using safe⟩
  cases listed : w.listing with
  | none => exact ⟨rfl, trivial⟩
  | some entries =>
    refine ⟨rfl, ?_, by simpa using created, directory, rfl⟩
    simp [paths, World.entries, listed]

theorem reconcileMissing_maintains {entry} (doomed : entry.2.metadata.status.active = false →
    Doomed service w entry.2) (progress : List (String × RevisionId) × Bool) :
    Spares service w (reconcileMissing progress entry) := by
  unfold reconcileMissing
  dsimp only
  split
  · split
    · exact (maintains_edit (.update _) trivial).attempt fun _ => .pure _
    · exact .pure _
  · rename_i inactive
    refine (maintains_edit (.delete entry.2.id) ?_).attempt fun _ => .pure _
    exact ⟨entry.2, doomed (by simpa using inactive), rfl⟩

end ProfileService

theorem doomed_of_missing {entry} (scans : w.Scans) (mem : entry ∈ w.missing service w.paths)
    (inactive : entry.2.metadata.status.active = false) : Doomed service w entry.2 := by
  obtain ⟨mem, unmet⟩ := mem_filter.1 mem
  have is := (mem_recordsByFileName mem).2
  refine ⟨scans, is ▸ mem, inactive, fun other here named => ?_⟩
  rw [← is] at named
  by_contra passes
  rw [decide_eq_true_eq] at unmet
  exact unmet (mem_met.2 ⟨other, here, named, by simpa using passes⟩)

theorem missing_snoc (past : List FileName) (path : FileName) : w.missing service (past ++ [path]) =
    (w.missing service past).filter fun entry => entry.1 ∉ (w.met service path).toList := by
  unfold missing
  rw [filter_filter]
  congr 1
  funext entry
  cases met : w.met service path <;> simp [filterMap_append, met, and_comm, not_or]

/-- What the scan leaves of the records are those whose files were not met. -/
theorem scanFiles_safe :
    Yields service w (fun progress => progress.records = w.missing service w.paths)
    (w.paths.foldlM (service.reconcilePath observed)
    ⟨service.recordsByFileName (w.records service), [], false⟩) := by
  apply Safe.foldlM fun past progress t => t = w ∧ progress.records = w.missing service past
  · rintro past path progress t - ⟨rfl, left⟩
    refine (service.reconcilePath_safe observed progress path).mono ?_
    rintro result u ⟨rfl, done⟩
    cases result with
    | error e => exact ⟨rfl, trivial⟩
    | ok next =>
      refine ⟨rfl, ?_⟩
      rw [missing_snoc, ← left]
      exact done
  · refine ⟨rfl, ?_⟩
    simp [missing]
  · exact fun _ _ h => h

theorem reconcile_safe : Safe (scanning service) (Sparing service) (fun _ _ => True)
    (service.reconcileProfileDirectory observed).run w := by
  refine safe_ask_bind trivial ?_
  rintro free rfl
  by_cases free : w.free = true
  swap
  · simp only [free, failIf]
    trivial
  simp only [free, failIf]
  refine currentRecords_safe.attempt ?_ fun _ _ _ => trivial
  rintro records t ⟨rfl, rfl⟩
  refine scanDirectory_safe.attempt ?_ fun _ _ _ => trivial
  rintro paths t ⟨rfl, rfl, created, directory, listing⟩
  refine (scanFiles_safe observed).attempt ?_ fun _ _ _ => trivial
  rintro progress t ⟨rfl, left⟩
  refine safe_ask_bind trivial ?_
  intro (missing : List (String × ProfileRecord Bytes)) (order : missing.Perm _)
  have doomed : ∀ entry ∈ missing, entry.2.metadata.status.active = false →
      Doomed service t entry.2 := by
    intro entry mem
    apply doomed_of_missing ⟨free, created, directory, listing⟩
    rw [← left]
    exact order.mem_iff.1 mem
  apply Safe.foldlM fun _ _ u => u = t
  · rintro past entry progress u ⟨rest, rfl⟩ rfl
    refine (reconcileMissing_maintains (doomed entry (by simp)) progress u rfl).mono ?_
    intro result u' h
    cases result with
    | ok _ => exact h
    | error _ => trivial
  · rfl
  · exact fun _ _ _ => trivial

/-! ## Some scan -/

theorem may_ask_bind (query : Query Bytes) {next} (reply : query.Reply)
    (answer : w.Answers service query reply) (ok : May (scanning service) post (next reply).run w) :
    May (scanning service) post (ask query >>= next).run w :=
  ⟨reply, w, ⟨rfl, answer⟩, ok⟩

theorem asks_ask_bind (query : Query Bytes) {next : query.Reply → Reconcile Bytes β}
    {target} (reply : query.Reply) (answer : w.Answers service query reply)
    (later : Asks (scanning service) target (next reply).run w) :
    Asks (scanning service) target (ask query >>= next).run w :=
  .inr ⟨reply, w, ⟨rfl, answer⟩, later⟩

/-- The repository may do what it is told. -/
theorem may_edit {operation} :
    May (scanning service) (Succeeding fun _ t => t = w) (edit operation).run w :=
  may_ask_bind (.edit operation) (.ok ⟨⟩) trivial rfl

namespace ProfileService

/-- The preflight may find fault with the file. -/
theorem may_import (fileName : String) (current : Option (ProfileRecord Bytes)) :
    May (scanning service) (Succeeding fun _ t => t = w)
    (service.importFile fileName current).run w := by
  unfold importFile
  dsimp only
  split
  · apply may_ask_bind (.preflight _ _) none trivial
    cases current with
    | none => exact rfl
    | some record =>
      have marked : May (scanning service) (Succeeding fun _ t => t = w)
          (markDirectoryProfileInvalid record).run w :=
        may_ask_bind .now (0 : Nat) trivial may_edit
      exact marked.attempt fun _ _ h => h
  · exact rfl

theorem may_reconcilePath (observed : List (String × RevisionId)) (progress : Progress Bytes)
    (path : FileName) : May (scanning service) (Succeeding fun next t => t = w ∧
    next.records = progress.records.filter fun entry => entry.1 ∉ (w.met service path).toList)
    (service.reconcilePath observed progress path).run w := by
  have comes : May (scanning service) (Succeeding fun _ _ => True)
      (service.reconcilePath observed progress path).run w := by
    apply may_ask_bind (.symlinkMetadata path) ((w.entry path).bind Entry.metadata) rfl
    split
    · cases path with
      | other bytes invalid => trivial
      | utf8 fileName =>
        apply may_ask_bind (.read _) ((w.entry (.utf8 fileName)).bind Entry.contents) rfl
        split
        · trivial
        · unfold reconcileFile
          dsimp only
          split
          · trivial
          · exact (service.may_import _ _).attempt fun _ _ _ => trivial
    · trivial
  refine (comes.and (service.reconcilePath_safe observed progress path)).mono ?_
  rintro (e | next) t ⟨through, is⟩
  · exact through
  · exact is

theorem may_currentRecords {generation}
    (read : readCurrentGeneration service.enc w.store = .ok generation) :
    May (scanning service) (Succeeding fun records t => t = w ∧ records = w.records service)
    (currentRecords : Reconcile Bytes _).run w := by
  apply may_ask_bind .readCurrentGeneration (readCurrentGeneration service.enc w.store) rfl
  rw [read]
  refine ⟨rfl, ?_⟩
  rw [records, read]

theorem may_scanDirectory (scans : w.Scans) :
    May (scanning service) (Succeeding fun paths t => t = w ∧ paths = w.paths)
    (scanDirectory : Reconcile Bytes _).run w := by
  obtain ⟨-, created, ⟨metadata, directory, kind⟩, listing⟩ := scans
  obtain ⟨entries, listed⟩ := Option.isSome_iff_exists.1 listing
  have safe : directoryIsSafe (some metadata) = .ok () := by simp [directoryIsSafe, kind]
  apply may_ask_bind .createDirAll true created.symm
  apply may_ask_bind .directoryMetadata (some metadata) directory.symm
  rw [safe]
  have names : some (names entries) = w.listing.map names := by
    rw [listed]
    rfl
  apply may_ask_bind .readDir (some (World.names entries)) names
  refine ⟨rfl, ?_⟩
  simp [paths, World.entries, listed]

end ProfileService

theorem may_scanFiles (observed : List (String × RevisionId)) : May (scanning service)
    (Succeeding fun progress t => t = w ∧ progress.records = w.missing service w.paths)
    (w.paths.foldlM (service.reconcilePath observed)
    ⟨service.recordsByFileName (w.records service), [], false⟩).run w := by
  apply May.foldlM fun past (progress : Progress Bytes) t =>
    t = w ∧ progress.records = w.missing service past
  · rintro past path progress t - ⟨rfl, left⟩
    refine (service.may_reconcilePath observed progress path).imp ?_
    rintro next u ⟨rfl, done⟩
    refine ⟨rfl, ?_⟩
    rw [missing_snoc, ← left]
    exact done
  · refine ⟨rfl, ?_⟩
    simp [missing]

theorem missing_of_doomed (doomed : Doomed service w record) :
    (service.fileName record, record) ∈ w.missing service w.paths := by
  obtain ⟨-, mem, -, fails⟩ := doomed
  refine mem_filter.2 ⟨mem, ?_⟩
  rw [decide_eq_true_eq, mem_met]
  rintro ⟨entry, here, named, passes⟩
  rw [fails entry here named] at passes
  cases passes

/-- A doomed record may be the first to go. -/
theorem asks_of_doomed (doomed : Doomed service w record) (observed : List (String × RevisionId)) :
    Asks (scanning service) (· = .edit (.delete record.id))
    (service.reconcileProfileDirectory observed).run w := by
  have scans := doomed.1
  have read : ∃ generation, readCurrentGeneration service.enc w.store = .ok generation := by
    cases read : readCurrentGeneration service.enc w.store with
    | ok generation => exact ⟨generation, rfl⟩
    | error e =>
      have mem := (mem_recordsByFileName doomed.2.1).1
      simp [records, read] at mem
  obtain ⟨generation, read⟩ := read
  apply asks_ask_bind .tryAcquire true scans.1.symm
  refine (may_currentRecords read).attempt_asks ?_
  rintro records t ⟨rfl, rfl⟩
  refine (may_scanDirectory scans).attempt_asks ?_
  rintro paths t ⟨rfl, rfl⟩
  refine (may_scanFiles observed).attempt_asks ?_
  rintro progress t ⟨rfl, left⟩
  have mem := missing_of_doomed doomed
  rw [← left] at mem
  obtain ⟨front, back, split⟩ := append_of_mem mem
  have order : ((service.fileName record, record) :: (front ++ back)).Perm progress.records := by
    rw [split]
    exact perm_middle.symm
  apply asks_ask_bind (.iterate _) _ order
  apply Asks.attempt
  unfold reconcileMissing
  simp only [doomed.2.2.1]
  exact .inl rfl

/-! ## Published records -/

theorem id_of_loadFromProfilePath {enc id} {profile : Store Bytes}
    (loaded : loadFromProfilePath enc id profile = .ok record) : record.id = id := by
  obtain ⟨metadata, -, -, persisted⟩ := loadFromProfilePath_metadata loaded
  obtain ⟨⟨⟩, -, persisted⟩ := bind_ok persisted
  obtain ⟨⟨⟩, same, -⟩ := bind_ok persisted
  rw [failIf_ok, Decidable.not_not] at same
  exact same

/-- The reader of a generation takes no profile twice. -/
theorem ordered_of_readGenerationAt {enc} {generation : Store Bytes} {id found}
    (read : readGenerationAt enc generation id = .ok found) : Ordered found.profiles := by
  obtain ⟨⟨⟩, -, read⟩ := bind_ok read
  obtain ⟨⟨⟩, validated, read⟩ := bind_ok read
  obtain ⟨manifest, manifest_, read⟩ := bind_ok read
  obtain ⟨⟨⟩, -, read⟩ := bind_ok read
  obtain ⟨⟨⟩, -, read⟩ := bind_ok read
  obtain ⟨profiles, loaded, read⟩ := bind_ok read
  cases read
  obtain ⟨manifest', same, validated⟩ := bind_ok validated
  rw [manifest_] at same
  cases same
  obtain ⟨⟨⟩, -, validated⟩ := bind_ok validated
  obtain ⟨⟨⟩, bounded, -⟩ := bind_ok validated
  simp only [failIf_ok, not_or, Decidable.not_not] at bounded
  have ids : profiles.map ProfileRecord.id = manifest.profileIds := by
    have related := (mapM_eq_ok.1 loaded).imp fun _ _ => id_of_loadFromProfilePath
    rw [← forall₂_eq_eq_eq, forall₂_map_left_iff]
    exact related.flip
  have chain := isChain_iff_pairwise.1 bounded.2.2
  rw [← ids, map_map] at chain
  exact chain

theorem World.records_ordered : Ordered (w.records service) := by
  unfold records
  split
  · rename_i generation read
    rcases readCurrentGeneration_ok read with ⟨rfl, -, -⟩ | ⟨pointer, found, -, at_, rfl⟩
    · exact .nil
    · exact ordered_of_readGenerationAt at_
  · exact .nil

/-! ## Deletions -/

/-- Some run of the reconciliation comes to delete the profile. -/
def Deletes (service : ProfileService Bytes) (observed : List (String × RevisionId))
    (w : World Bytes) (id : ProfileId) : Prop :=
  ∃ next t, Exec (scanning service) (service.reconcileProfileDirectory observed).run w
    (.call (.edit (.delete id)) next) t

theorem deletes_iff {observed id} :
    Deletes service observed w id ↔ ∃ record, Doomed service w record ∧ record.id = id := by
  constructor
  · rintro ⟨next, t, exec⟩
    have spares := (reconcile_safe observed).request_allowed exec
    have kept : w = t := by
      apply (reconcile_safe observed).invariant _ rfl exec
      intro s query reply t h _ step
      exact h.trans step.1.symm
    rw [← kept] at spares
    exact spares
  · rintro ⟨record, doomed, rfl⟩
    obtain ⟨query, next, t, rfl, exec⟩ := (asks_of_doomed doomed observed).exec
    exact ⟨next, t, exec⟩

/-- No entry of the directory has the name of the record's file. -/
def Absent (service : ProfileService Bytes) (w : World Bytes) (record : ProfileRecord Bytes) :
    Prop :=
  ∀ entry ∈ w.entries, entry.name ≠ .utf8 (service.fileName record)

/-- What the reconciliation deletes has no file and is not active. -/
def DeletesRightly (service : ProfileService Bytes) (w : World Bytes) : Prop :=
  ∀ observed id, Deletes service observed w id → w.active ≠ some id ∧
    ∀ record ∈ w.records service, record.id = id → Absent service w record

/-- If the scan gets as far as the files, each record that it looks up and that is not marked
active has an entry that passes every check, or else no entry at all and is not active. -/
def Accounted (service : ProfileService Bytes) (w : World Bytes) : Prop :=
  w.Scans → ∀ record, record.metadata.status.active = false →
    (service.fileName record, record) ∈ service.recordsByFileName (w.records service) →
    (∃ entry ∈ w.entries, entry.name = .utf8 (service.fileName record) ∧
      entry.passes service = true) ∨
    (Absent service w record ∧ w.active ≠ some record.id)

theorem deletes_rightly_iff (service : ProfileService Bytes) (w : World Bytes) :
    DeletesRightly service w ↔ Accounted service w := by
  constructor
  · intro rightly scans record unmarked kept
    by_cases passes : ∃ entry ∈ w.entries, entry.name = .utf8 (service.fileName record) ∧
        entry.passes service = true
    · exact .inl passes
    · have doomed : Doomed service w record := by
        refine ⟨scans, kept, unmarked, fun entry here named => ?_⟩
        by_contra pass
        exact passes ⟨entry, here, named, by simpa using pass⟩
      obtain ⟨inactive, absent⟩ := rightly [] record.id (deletes_iff.2 ⟨record, doomed, rfl⟩)
      have mem := (mem_recordsByFileName kept).1
      exact .inr ⟨absent record mem rfl, inactive⟩
  · intro accounted observed id deletes
    obtain ⟨record, doomed, rfl⟩ := deletes_iff.1 deletes
    obtain ⟨scans, kept, unmarked, fails⟩ := doomed
    rcases accounted scans record unmarked kept with ⟨entry, here, named, passes⟩ | ⟨absent, inactive⟩
    · rw [fails entry here named] at passes
      cases passes
    · refine ⟨inactive, fun other mem same => ?_⟩
      have mem' := (mem_recordsByFileName kept).1
      rw [records_ordered.unique mem mem' same]
      exact absent

/-! ## A sample -/

def sampleService : ProfileService Unit where
  enc := sampleEncoding
  profileDirectory := "/profiles"
  maxBytes := 0
  redacted := id

def documentFile (document : Document) : Node (Contents Unit) := .file (.document document)

def sampleProfile : Node (Contents Unit) :=
  .directory [
    ("metadata.json", documentFile (.metadata sampleRecord.metadata)),
    ("source", .directory [
      ("source.json", documentFile (.source sampleRecord.source)),
      ("revisions", .directory [(recordFile zeroDigest, .file (.bytes ()))])]),
    ("artifacts", .directory [(recordFile zeroDigest, .file (.bytes ()))]),
    ("patches", .directory [
      ("index.json", documentFile (.patchPointer ⟨zeroDigest⟩)),
      ("sets", .directory [(patchFile zeroDigest, documentFile (.patches sampleRecord.patches))])])]

/-- A store whose generation has one profile. -/
def sampleStore : Store Unit :=
  some (.directory [
    ("current.json", documentFile (.pointer ⟨sampleName, profileGenerationSchemaVersion⟩)),
    ("generations", .directory [(sampleName, .directory [
      ("manifest.json", documentFile (.manifest
        ⟨sampleName, [sampleId], profileGenerationSchemaVersion⟩)),
      ("profiles", .directory [(sampleName, sampleProfile)])])])])

theorem read_sampleStore : readCurrentGeneration sampleEncoding sampleStore =
    .ok (some ⟨sampleName, [sampleRecord]⟩) := by
  have pointed : readGenerationPointer sampleEncoding sampleStore =
      .ok ⟨sampleName, profileGenerationSchemaVersion⟩ := by
    decide +kernel
  have sorted : sortById [sampleRecord] = [sampleRecord] := mergeSort_singleton _
  have holds : HoldsGeneration sampleEncoding (look sampleStore (generationPath sampleName))
      sampleName (sortById [sampleRecord]) := by
    rw [sorted]
    refine ⟨⟨_, rfl⟩, rfl, ?_, ?_⟩
    · intro name exists_
      have entry : (lookup name [(sampleName, sampleProfile)]).isSome := exists_
      rw [Assoc.lookup_cons] at entry
      split at entry
      · rename_i is
        exact ⟨sampleRecord, mem_singleton.2 rfl, is.symm⟩
      · cases entry
    · rw [forall_mem_singleton]
      exact ⟨⟨_, rfl⟩, rfl, rfl, rfl, rfl, rfl, rfl⟩
  have publishable : Publishable sampleEncoding [sampleRecord] :=
    publishable_samples (by decide) (nodup_singleton sampleId)
  have read := readGenerationAt_of_holds publishable sampleId.canonical holds
  rw [sorted] at read
  exact readCurrentGeneration_pointed pointed read

/-- The file of the profile is there, but it has grown too long. The profile is active. -/
def oversizedWorld : World Unit where
  free := true
  store := sampleStore
  created := true
  directory := some ⟨.directory, 0⟩
  listing := some [⟨.utf8 "sample.yaml", true, some ⟨.file, 1⟩, some ()⟩]
  active := some sampleId
  distinct := by rintro _ ⟨⟩; exact nodup_singleton _

theorem oversized_active_profile_deleted :
    Deletes sampleService [] oversizedWorld sampleId ∧ oversizedWorld.active = some sampleId ∧
    ∃ entry ∈ oversizedWorld.entries, entry.name = .utf8 (sampleService.fileName sampleRecord) := by
  have records : oversizedWorld.records sampleService = [sampleRecord] := by
    have read : readCurrentGeneration sampleService.enc oversizedWorld.store = _ := read_sampleStore
    rw [records, read]
    rfl
  have entries : oversizedWorld.entries =
      [⟨.utf8 "sample.yaml", true, some ⟨.file, 1⟩, some ()⟩] := rfl
  refine ⟨deletes_iff.2 ⟨sampleRecord, ⟨⟨rfl, rfl, ⟨_, rfl, rfl⟩, rfl⟩, ?_, rfl, ?_⟩, rfl⟩, rfl, ?_⟩
  · rw [records]
    exact mem_singleton.2 rfl
  · intro entry mem named
    rw [entries, mem_singleton] at mem
    rw [mem]
    simp [Entry.passes, fits, sampleService]
  · exact ⟨_, mem_singleton.2 rfl, rfl⟩

end Mish.Profile
