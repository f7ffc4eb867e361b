import Mathlib.Data.List.Perm.Basic
import Mish.Profile.Interruption

/-!
# The mirror and the published generation

Every operation changes the mirror before it publishes. The two agree again when it returns,
provided that no call fails once one has entered the directory of a profile in the mirror
(`entersMirror`). A failure after that leaves them apart, and nothing brings them together.
-/

namespace Mish.Profile
open FileSystem Interaction ProfileGeneration List

variable {Bytes : Type} {enc : Encoding Bytes}

/-- What the mirror's readers say of a store whose mirror has these records. -/
structure Shows (enc : Encoding Bytes) (d : Store Bytes) (records : List (ProfileRecord Bytes)) :
    Prop where
  list : listMetadata enc d = .ok (records.map ProfileRecord.metadata)
  loads : ∀ record ∈ records, load enc record.id d = .ok record
  others : ∀ id, (∀ record ∈ records, record.id ≠ id) → load enc id d = .error .notFound

/-- The mirror shows what is published. -/
def Agree (enc : Encoding Bytes) (d : Store Bytes) : Prop :=
  ∃ generation, readCurrentGeneration enc d = .ok generation ∧
    Shows enc d ((generation.map profiles).getD [])

def SameView (enc : Encoding Bytes) (s d : Store Bytes) : Prop :=
  listMetadata enc d = listMetadata enc s ∧ ∀ id, load enc id d = load enc id s

/-- Both stores hold what they held. -/
def Unchanged (enc : Encoding Bytes) (s t : Store Bytes) : Prop :=
  readCurrentGeneration enc t = readCurrentGeneration enc s ∧ SameView enc s t

/-- The path leads to the directory of a profile in the mirror, into it or to what is above it. -/
def onMirror : Path → Bool
  | [] => true
  | [root] => root == "profiles"
  | root :: name :: _ => root == "profiles" && !isTransient name

/-- The call changes something in the directory of a profile, or the directory as a whole. What is
above the directories is made where it is missing. -/
def entersMirror : Call (Contents Bytes) → Bool
  | .createPrivateDir path | .write path _ => 2 ≤ path.length && onMirror path
  | .rename source target => onMirror source || onMirror target
  | .syncDirectory _ => false
  | .removeDirAll path => onMirror path

/-- The operation returns. A call fails only as long as none has entered the mirror. -/
def Returns (enc : Encoding Bytes) (s : Store Bytes) (o : Operation Bytes)
    (result : Except RepositoryError PUnit) (t : Store Bytes) : Prop :=
  ∃ done, Exec (faultyAfter Fresh fun done => ∀ call ∈ done, entersMirror call = false)
    (o.program enc).run (s, []) (.done result) (t, done)

/-- The operations that write both stores. -/
def Operation.Edits (o : Operation Bytes) : Prop := o.touched.isSome

/-- The stores that returning operations lead to. -/
inductive Edited (enc : Encoding Bytes) : Store Bytes → Prop where
  | fresh : Edited enc none
  | operation {s t result} (o : Operation Bytes) :
      Edited enc s → o.Edits → o.Admissible enc s → Returns enc s o result t → Edited enc t

variable {s d t : Store Bytes} {o : Operation Bytes} {records : List (ProfileRecord Bytes)}

/-! ## Listing -/

theorem mapM_eq_ok {α β ε : Type} {f : α → Except ε β} {l out} :
    l.mapM f = .ok out ↔ List.Forall₂ (fun a b => f a = .ok b) l out := by
  induction l generalizing out with
  | nil =>
    rw [List.forall₂_nil_left_iff, mapM_nil]
    constructor
    · rintro ⟨⟩
      rfl
    · rintro rfl
      rfl
  | cons a l ih =>
    rw [mapM_cons, List.forall₂_cons_left_iff]
    constructor
    · intro mapped
      obtain ⟨b, first, mapped⟩ := bind_ok mapped
      obtain ⟨rest, others, mapped⟩ := bind_ok mapped
      cases mapped
      exact ⟨b, rest, first, ih.1 others, rfl⟩
    · rintro ⟨b, rest, first, others, rfl⟩
      rw [first, ok_bind, ih.2 others, ok_bind]
      rfl

/-- Entries read in any order give what there is to read, in some order. -/
theorem mapM_perm {α β ε : Type} {read : String → Except ε β} {key} {value : α → β}
    {names : List String} {items : List α} (perm : names.Perm (items.map key))
    (each : ∀ item ∈ items, read (key item) = .ok (value item)) :
    ∃ out, names.mapM read = .ok out ∧ out.Perm (items.map value) := by
  have related : List.Forall₂ (fun name item => read name = .ok (value item))
      (items.map key) items := by
    rw [List.forall₂_map_left_iff, List.forall₂_same]
    exact each
  obtain ⟨items', related', perm'⟩ := perm_comp_forall₂ perm related
  refine ⟨items'.map value, mapM_eq_ok.2 ?_, perm'.map value⟩
  rw [List.forall₂_map_right_iff]
  exact related'

theorem exists_of_forall₂ {α β : Type} {R : α → β → Prop} {l out}
    (related : List.Forall₂ R l out) {a} (mem : a ∈ l) : ∃ b ∈ out, R a b := by
  induction related with
  | nil => cases mem
  | cons first _ ih =>
    rcases mem_cons.1 mem with rfl | mem
    · exact ⟨_, by simp, first⟩
    · obtain ⟨b, mem', is⟩ := ih mem
      exact ⟨b, by simp [mem'], is⟩

theorem look_profilePath (d : Store Bytes) (name : String) (q : Path) :
    look d (mirrorPath name ++ q) = look (look d profilesRoot) (name :: q) :=
  look_append d profilesRoot (name :: q)

theorem ProfileId.parse_value (id : ProfileId) : ProfileId.parse id.value = some id := by
  simp [ProfileId.parse, id.canonical]

variable {record : ProfileRecord Bytes} {id : ProfileId}
  {generation : Option (ProfileGeneration Bytes)}

theorem loadFromProfilePath_metadata {profile : Store Bytes}
    (loaded : loadFromProfilePath enc id profile = .ok record) :
    ∃ metadata, readJson enc Document.asMetadata (look profile ["metadata.json"]) .metadata =
    .ok metadata ∧ record.metadata = migrateLegacyMetadata metadata ∧
    validatePersistedMetadata record.metadata id = .ok () := by
  obtain ⟨⟨⟩, -, loaded⟩ := bind_ok loaded
  obtain ⟨metadata, read, loaded⟩ := bind_ok loaded
  obtain ⟨⟨⟩, persisted, loaded⟩ := bind_ok loaded
  obtain ⟨source, -, loaded⟩ := bind_ok loaded
  obtain ⟨⟨⟩, -, loaded⟩ := bind_ok loaded
  obtain ⟨sourceBytes, -, loaded⟩ := bind_ok loaded
  obtain ⟨normalizedBytes, -, loaded⟩ := bind_ok loaded
  obtain ⟨patches, -, loaded⟩ := bind_ok loaded
  obtain ⟨⟨⟩, -, loaded⟩ := bind_ok loaded
  cases loaded
  exact ⟨metadata, read, rfl, persisted⟩

/-- What can be loaded is listed with the metadata it is loaded with. -/
theorem listEntry_of_load (loaded : load enc id d = .ok record) :
    listEntry enc (look d profilesRoot) id.value = .ok record.metadata := by
  unfold load at loaded
  split at loaded
  · cases loaded
  · obtain ⟨metadata, read, is, persisted⟩ := loadFromProfilePath_metadata loaded
    rw [is] at persisted ⊢
    rw [← look_append, profilePath, look_profilePath] at read
    unfold listEntry
    rw [id.parse_value]
    simp only [read, ok_bind, persisted]
    rfl

theorem id_of_listEntry {profiles : Store Bytes} {name metadata}
    (listed : listEntry enc profiles name = .ok metadata) : metadata.id.value = name := by
  unfold listEntry at listed
  split at listed
  · cases listed
  · rename_i id parsed
    obtain ⟨found, -, listed⟩ := bind_ok listed
    obtain ⟨⟨⟩, persisted, listed⟩ := bind_ok listed
    cases listed
    obtain ⟨⟨⟩, -, persisted⟩ := bind_ok persisted
    obtain ⟨⟨⟩, same, -⟩ := bind_ok persisted
    rw [failIf_ok, Decidable.not_not] at same
    rw [same]
    unfold ProfileId.parse at parsed
    split at parsed <;> cases parsed
    rfl

/-- Nothing in the mirror is left out of the list. -/
theorem exists_listed {list : List ProfileMetadata} {name} (listed : listMetadata enc d = .ok list)
    (plain : isTransient name = false) (exists_ : (look d (mirrorPath name)).isSome) :
    ∃ metadata ∈ list, metadata.id.value = name := by
  have entry : name ∈ entryNames (look d profilesRoot) := by
    rw [mem_entryNames]
    exact look_append d profilesRoot [name] ▸ exists_
  unfold listMetadata at listed
  cases root : look d profilesRoot with
  | none => simp [root, entryNames] at entry
  | some node =>
    rw [root] at listed entry
    cases node with
    | file contents => cases listed
    | directory entries =>
      obtain ⟨profiles, mapped, listed⟩ := bind_ok listed
      cases listed
      have kept : name ∈ (entryNames (some (.directory entries))).filter
          fun name => !isTransient name := by simp [entry, plain]
      obtain ⟨metadata, mem, is⟩ := exists_of_forall₂ (mapM_eq_ok.1 mapped) kept
      exact ⟨metadata, (mergeSort_perm ..).mem_iff.2 mem, id_of_listEntry is⟩

/-! ## What the mirror has -/

/-- The mirror has these records, and nothing else that is seen. -/
structure Mirrors (enc : Encoding Bytes) (d : Store Bytes) (records : List (ProfileRecord Bytes)) :
    Prop where
  loads : ∀ record ∈ records, load enc record.id d = .ok record
  only : ∀ name, isTransient name = false → (look d (mirrorPath name)).isSome →
    ∃ record ∈ records, record.id.value = name

theorem Ordered.unique (ordered : Ordered records) {a b} (left : a ∈ records)
    (right : b ∈ records) (same : a.id = b.id) : a = b :=
  inj_on_of_nodup_map (ordered.imp ne_of_lt) left right (congrArg ProfileId.value same)

theorem Shows.mirrors (shows_ : Shows enc d records) : Mirrors enc d records := by
  refine ⟨shows_.loads, ?_⟩
  intro name plain exists_
  obtain ⟨metadata, mem, is⟩ := exists_listed shows_.list plain exists_
  obtain ⟨record, mem', rfl⟩ := mem_map.1 mem
  exact ⟨record, mem', is⟩

theorem isSome_of_load
    (loaded : load enc id d = .ok record) : (look d (profilePath id)).isSome := by
  unfold load at loaded
  split at loaded
  · cases loaded
  · rename_i exists_
    simpa [Option.isSome_iff_ne_none] using exists_

/-- The list is the one sorted list of the metadata of these records. -/
theorem Mirrors.list (mirrors : Mirrors enc d records) (laid : Laid layout d)
    (ordered : Ordered records) :
    listMetadata enc d = .ok (records.map ProfileRecord.metadata) := by
  have entries : ∀ name, name ∈ (entryNames (look d profilesRoot)).filter
      (fun name => !isTransient name) ↔ name ∈ records.map fun record => record.id.value := by
    intro name
    have here : (look (look d profilesRoot) [name]).isSome ↔ (look d (mirrorPath name)).isSome := by
      rw [mirrorPath, look_append]
    simp only [mem_filter, mem_entryNames, here, Bool.not_eq_true', mem_map]
    constructor
    · rintro ⟨exists_, plain⟩
      exact mirrors.only name plain exists_
    · rintro ⟨record, mem, rfl⟩
      exact ⟨isSome_of_load (mirrors.loads record mem), record.id.not_transient⟩
  have perm := (perm_ext_iff_of_nodup ((nodup_entryNames _).filter _)
    (ordered.imp ne_of_lt)).2 entries
  obtain ⟨out, mapped, perm⟩ := mapM_perm perm fun record mem =>
    listEntry_of_load (mirrors.loads record mem)
  unfold listMetadata
  cases root : look d profilesRoot with
  | none =>
    rw [root] at mapped
    cases mapped
    rw [← perm.nil_eq]
    rfl
  | some node =>
    cases node with
    | file contents => cases laid profilesRoot _ root
    | directory children =>
      rw [root] at mapped
      simp only [mapped, ok_bind]
      refine congrArg Except.ok (mergeSort_eq ?_ perm)
      rw [pairwise_map]
      exact pairwise_map.1 ordered

theorem load_absent (absent : look d (profilePath id) = none) :
    load enc id d = .error .notFound := by
  rw [load, absent]
  rfl

theorem Mirrors.shows (mirrors : Mirrors enc d records) (laid : Laid layout d)
    (ordered : Ordered records) : Shows enc d records := by
  refine ⟨mirrors.list laid ordered, mirrors.loads, fun id absent => load_absent ?_⟩
  by_contra exists_
  obtain ⟨record, mem, is⟩ := mirrors.only id.value id.not_transient
    (Option.isSome_iff_ne_none.2 exists_)
  exact absent record mem (ProfileId.value_injective is)

theorem load_congr (same : look t (profilePath id) = look d (profilePath id)) :
    load enc id t = load enc id d := by
  unfold load
  rw [same]

theorem Mirrors.congr (mirrors : Mirrors enc d records) (same : SameMirror d t) :
    Mirrors enc t records := by
  refine ⟨fun record mem => ?_, fun name plain exists_ => ?_⟩
  · rw [load_congr (same _ record.id.not_transient)]
    exact mirrors.loads record mem
  · rw [same name plain] at exists_
    exact mirrors.only name plain exists_

theorem Shows.sameView (before : Shows enc s records) (after : Shows enc t records) :
    SameView enc s t := by
  refine ⟨after.list.trans before.list.symm, fun id => ?_⟩
  by_cases listed : ∃ record ∈ records, record.id = id
  · obtain ⟨record, mem, rfl⟩ := listed
    exact (after.loads record mem).trans (before.loads record mem).symm
  · have absent : ∀ record ∈ records, record.id ≠ id :=
      fun record mem is => listed ⟨record, mem, is⟩
    exact (after.others id absent).trans (before.others id absent).symm

/-! ## Calls that leave the mirror -/

theorem onMirror_of_meets {path : Path} {name} (plain : isTransient name = false)
    (meets : ¬ Apart path (mirrorPath name)) : onMirror path = true := by
  match path with
  | [] => rfl
  | [root] =>
    by_contra other
    refine meets (apart_cons.2 fun same => ?_)
    simp [onMirror, same] at other
  | root :: first :: rest =>
    by_contra other
    refine meets (apart_cons.2 fun same => apart_cons.2 fun same' => ?_)
    simp [onMirror, same, same', plain] at other

theorem sameMirror_of_effect {call : Call (Contents Bytes)} (done : call.effect d = some t)
    (leaves : entersMirror call = false) : SameMirror d t := by
  intro name plain
  refine look_effect done fun reaches => ?_
  have below {path : Path} (inside : mirrorPath name <+: path) :
      (2 ≤ path.length && onMirror path) = true := by
    have long : 2 ≤ path.length := inside.length_le
    simp [long, onMirror_of_meets plain fun apart => apart.2 inside]
  cases call with
  | createPrivateDir | write => cases leaves.symm.trans (below reaches)
  | rename source target =>
    obtain ⟨first, second⟩ := Bool.or_eq_false_iff.1 leaves
    rcases reaches with meets | meets
    · cases first.symm.trans (onMirror_of_meets plain meets)
    · cases second.symm.trans (onMirror_of_meets plain meets)
  | syncDirectory => exact reaches
  | removeDirAll => cases leaves.symm.trans (onMirror_of_meets plain reaches)

/-- Where a call fails, the mirror is the one from the start. -/
theorem Returns.exec {result} (returns : Returns enc s o result t) :
    Exec (faulty Fresh (SameMirror s)) (o.program enc).run s (.done result) t := by
  obtain ⟨done, exec⟩ := returns
  refine exec_faulty (fun done d => (∀ call ∈ done, entersMirror call = false) → SameMirror s d)
    (fun done d call t known effect leaves => ?_) (fun _ _ known leaves => known leaves)
    (fun _ _ _ => rfl) exec
  obtain ⟨last, others⟩ := forall_mem_cons.1 leaves
  exact (known others).trans (sameMirror_of_effect effect last)

/-! ## One operation -/

/-- What an operation proposes differs from what is published in its own profile only. -/
structure Operation.Amends (o : Operation Bytes) (current records : List (ProfileRecord Bytes)) :
    Prop where
  others : ∀ record, o.touched ≠ some record.id → (record ∈ records ↔ record ∈ current)
  own : match o with
    | .save record | .update record | .replaceSource record => record ∈ records
    | .delete id => current ≠ [] ∧ ∀ record ∈ records, record.id ≠ id
    | _ => True

/-- Replacing the record at an index leaves those with another id. -/
theorem mem_set_iff {index old new record}
    (at_ : records[index]? = some old) (notOld : record ≠ old) (notNew : record ≠ new) :
    record ∈ records.set index new ↔ record ∈ records := by
  constructor
  · intro mem
    exact (mem_or_eq_of_mem_set mem).resolve_right notNew
  · intro mem
    obtain ⟨other, is⟩ := List.getElem?_of_mem mem
    have differ : index ≠ other := by
      rintro rfl
      exact notOld (Option.some.inj (is.symm.trans at_))
    exact mem_of_getElem? ((List.getElem?_set_ne differ).trans is)

theorem amends_of_replacement {sameSource current}
    (published : currentRecordsForWrite enc s = .ok current)
    (proposed : Operation.replacement enc s sameSource record = .ok records) :
    (∀ other, record.id ≠ other.id → (other ∈ records ↔ other ∈ current)) ∧ record ∈ records := by
  obtain ⟨⟨⟩, -, proposed⟩ := bind_ok proposed
  obtain ⟨current', published', proposed⟩ := bind_ok proposed
  obtain ⟨index, found, proposed⟩ := bind_ok proposed
  obtain ⟨⟨⟩, -, proposed⟩ := bind_ok proposed
  cases proposed
  rw [published] at published'
  cases published'
  obtain ⟨old, at_, is⟩ := Operation.position_id found
  refine ⟨fun other differs => mem_set_iff at_ ?_ ?_, mem_set (Operation.position_lt found) record⟩
  · rintro rfl
    exact differs is.symm
  · rintro rfl
    exact differs rfl

theorem Operation.amends {current} (edits : o.Edits)
    (published : currentRecordsForWrite enc s = .ok current) (ordered : Ordered current)
    (proposed : o.proposal enc s = .ok records) : o.Amends current records := by
  cases o with
  | publishRecords | stage | publish => cases edits
  | save record =>
    obtain ⟨⟨⟩, -, proposed⟩ := bind_ok proposed
    obtain ⟨current', published', proposed⟩ := bind_ok proposed
    obtain ⟨⟨⟩, -, proposed⟩ := bind_ok proposed
    cases proposed
    rw [published] at published'
    cases published'
    refine ⟨fun other differs => ?_, by simp⟩
    have : other ≠ record := by
      rintro rfl
      exact differs rfl
    simp [this]
  | update record | replaceSource record =>
    obtain ⟨others, own⟩ := amends_of_replacement published proposed
    exact ⟨fun other differs => others other fun same => differs (congrArg some same), own⟩
  | delete id =>
    obtain ⟨current', published', proposed⟩ := bind_ok proposed
    obtain ⟨index, found, proposed⟩ := bind_ok proposed
    cases proposed
    rw [published] at published'
    cases published'
    obtain ⟨old, at_, rfl⟩ := Operation.position_id found
    have perm : (old :: current.eraseIdx index).Perm current := by
      obtain ⟨bound, rfl⟩ := List.getElem?_eq_some_iff.1 at_
      exact getElem_cons_eraseIdx_perm bound
    have nodup : current.Nodup :=
      .of_map _ (show (current.map fun record => record.id.value).Nodup from ordered.imp ne_of_lt)
    have once : old ∉ current.eraseIdx index := (nodup_cons.1 (perm.nodup_iff.2 nodup)).1
    have erased : ∀ other, other ∈ current.eraseIdx index ↔ other ∈ current ∧ other ≠ old := by
      intro other
      rw [← perm.mem_iff, mem_cons]
      constructor
      · intro mem
        exact ⟨.inr mem, fun is => once (is ▸ mem)⟩
      · rintro ⟨is | mem, differs⟩
        · exact absurd is differs
        · exact mem
    refine ⟨fun other differs => ?_, ?_, fun other mem same => ?_⟩
    · rw [erased]
      exact and_iff_left_of_imp fun _ => by rintro rfl; exact differs rfl
    · rintro rfl
      cases at_
    · obtain ⟨mem, differs⟩ := (erased other).1 mem
      exact differs (ordered.unique mem (mem_of_getElem? at_) same)

theorem load_of_mirror (holds : Holds enc (look t (profilePath record.id)) record)
    (valid : validateRecord enc record = .ok ()) (fits : Readable enc record) :
    load enc record.id t = .ok record := by
  obtain ⟨entries, found⟩ := holds.directory
  rw [look_nil] at found
  unfold load
  rw [if_neg (by simp [found])]
  exact load_of_holds holds valid fits

/-- An operation that published has made the mirror the same. -/
theorem Operation.Mirrored.mirrors {current} (edits : o.Edits) (mirrored : o.Mirrored enc s t)
    (before : Mirrors enc s current) (amends : o.Amends current records)
    (publishable : Publishable enc records) : Mirrors enc t (sortById records) := by
  have ordered := ordered_sortById publishable.differ
  have kept : ∀ name, isTransient name = false → (∀ id, o.touched = some id → name ≠ id.value) →
      look t (mirrorPath name) = look s (mirrorPath name) := mirrored.1
  refine ⟨fun record mem => ?_, fun name plain exists_ => ?_⟩
  · have listed := mem_sortById.1 mem
    have loaded : ∀ new ∈ records, new.id = record.id →
        Holds enc (look t (profilePath new.id)) new → load enc record.id t = .ok record := by
      intro new mem' same holds
      obtain rfl := ordered.unique (mem_sortById.2 mem') mem same
      exact load_of_mirror holds (publishable.valid new listed) (publishable.readable new listed)
    by_cases own : o.touched = some record.id
    · cases o with
      | save new | update new | replaceSource new =>
        exact loaded new amends.own (Option.some.inj own) mirrored.2
      | delete id => exact absurd (Option.some.inj own).symm (amends.own.2 record listed)
      | _ => cases own
    · rw [load_congr (kept _ record.id.not_transient ?_)]
      · exact before.loads record ((amends.others record own).1 listed)
      · rintro id is same
        exact own (is.trans (congrArg some (ProfileId.value_injective same.symm)))
  · by_cases own : ∃ id, o.touched = some id ∧ name = id.value
    · obtain ⟨id, touched, rfl⟩ := own
      cases o with
      | save new | update new | replaceSource new =>
        cases touched
        exact ⟨new, mem_sortById.2 amends.own, rfl⟩
      | delete id =>
        cases touched
        rw [show look t (mirrorPath id.value) = none from mirrored.2] at exists_
        cases exists_
      | _ => cases touched
    · rw [kept name plain fun id touched is => own ⟨id, touched, is⟩] at exists_
      obtain ⟨record, mem, rfl⟩ := before.only name plain exists_
      refine ⟨record, mem_sortById.2 ((amends.others record ?_).2 mem), rfl⟩
      exact fun touched => own ⟨record.id, touched, rfl⟩

/-- What every operation starts from and leaves. -/
structure InStep (enc : Encoding Bytes) (d : Store Bytes)
    (generation : Option (ProfileGeneration Bytes)) : Prop where
  laid : Laid layout d
  read : readCurrentGeneration enc d = .ok generation
  ordered : Ordered ((generation.map profiles).getD [])
  shows_ : Shows enc d ((generation.map profiles).getD [])

theorem InStep.current (h : InStep enc d generation) : currentRecordsForWrite enc d =
    .ok ((generation.map profiles).getD []) := by
  rw [currentRecordsForWrite, h.read]
  rfl

theorem Operation.publishable (edits : o.Edits) (admissible : o.Admissible enc s)
    (proposed : o.proposal enc s = .ok records) : Publishable enc records := by
  cases o with
  | publishRecords | stage | publish => cases edits
  | save | update | replaceSource | delete => exact admissible _ proposed

theorem InStep.ok {nothing}
    (h : InStep enc s generation) (edits : o.Edits) (admissible : o.Admissible enc s)
    (ends : o.Ends enc (SameMirror s) s (.ok nothing) t) : ∃ now, InStep enc t now := by
  obtain ⟨laid, mirrored, records, proposed, published, -⟩ := ends
  have publishable := o.publishable edits admissible proposed
  have ordered := ordered_sortById publishable.differ
  obtain ⟨id, read⟩ : ∃ id, readCurrentGeneration enc t = .ok (some ⟨id, sortById records⟩) := by
    cases o with
    | publishRecords | stage | publish => cases edits
    | save | update | replaceSource | delete => exact published rfl
  have mirrors := mirrored.mirrors edits h.shows_.mirrors
    (o.amends edits h.current h.ordered proposed) publishable
  exact ⟨_, laid, read, ordered, mirrors.shows laid ordered⟩

/-- In a store that never published, no mirror is left behind. -/
theorem InStep.not_mirrored (h : InStep enc s none) (edits : o.Edits)
    (mirrored : o.Mirrored enc s t) (proposed : o.proposal enc s = .ok records) :
    ¬ Mirrors enc t [] := by
  intro mirrors
  have amends := o.amends edits h.current h.ordered proposed
  have empty : ∀ record : ProfileRecord Bytes,
      ¬ Holds enc (look t (profilePath record.id)) record := by
    intro record holds
    obtain ⟨entries, found⟩ := holds.directory
    rw [look_nil] at found
    obtain ⟨other, mem, -⟩ := mirrors.only record.id.value record.id.not_transient
      (show (look t (profilePath record.id)).isSome by rw [found]; rfl)
    cases mem
  cases o with
  | save record | update record | replaceSource record => exact empty record mirrored.2
  | delete id => exact amends.own.1 rfl
  | _ => cases edits

theorem InStep.error {e} (h : InStep enc s generation) (edits : o.Edits)
    (ends : o.Ends enc (SameMirror s) s (.error e) t) : InStep enc t generation := by
  obtain ⟨touches, reason⟩ := ends
  have mirrors : Mirrors enc t ((generation.map profiles).getD []) := by
    rcases reason with ⟨⟨d, same, unseen⟩, -⟩ | ⟨-, same, -⟩
    · exact h.shows_.mirrors.congr (same.trans unseen.mirror)
    · exact h.shows_.mirrors.congr same
  have pointed : ¬ Unpointed t := by
    rcases reason with ⟨-, pointed | ⟨mirrored, records, proposed⟩⟩ | ⟨pointed, -, -⟩
    · exact pointed
    · rintro ⟨absent, -⟩
      rcases readCurrentGeneration_ok h.read with ⟨rfl, -, -⟩ | ⟨pointer, found, pointed, -, -⟩
      · exact h.not_mirrored edits mirrored proposed mirrors
      · have present := (readGenerationPointer_ok pointed).1
        rw [← touches.pointer, absent] at present
        cases present
    · exact pointed
  exact ⟨touches.laid, touches.read h.read pointed, h.ordered, mirrors.shows touches.laid h.ordered⟩

/-! ## Histories -/

theorem InStep.returns {result} (h : InStep enc s generation)
    (edits : o.Edits) (admissible : o.Admissible enc s) (step : Returns enc s o result t) :
    (∃ now, InStep enc t now) ∧ ∀ e, result = .error e → InStep enc t generation := by
  have ends : o.Ends enc (SameMirror s) s result t :=
    (Operation.safe h.laid (not_unpointed_of_read h.read) admissible).result step.exec
  cases result with
  | ok _ => exact ⟨h.ok edits admissible ends, nofun⟩
  | error e =>
    have same := h.error edits ends
    exact ⟨⟨generation, same⟩, fun _ _ => same⟩

theorem inStep_fresh : InStep enc none none := by
  have mirrors : Mirrors enc none [] := by
    refine ⟨by simp, fun name _ exists_ => ?_⟩
    cases exists_
  exact ⟨laid_none, rfl, .nil, mirrors.shows laid_none .nil⟩

theorem Edited.inStep (history : Edited enc s) : ∃ generation, InStep enc s generation := by
  induction history with
  | fresh => exact ⟨none, inStep_fresh⟩
  | operation o _ edits admissible step ih =>
    obtain ⟨generation, h⟩ := ih
    exact (h.returns edits admissible step).1

/-- Whenever an operation has returned, the mirror shows what is published; and if it has
failed, both are as they were. -/
theorem edited_stores_agree {result : Except RepositoryError PUnit} (history : Edited enc s)
    (edits : o.Edits) (admissible : o.Admissible enc s) (step : Returns enc s o result t) :
    Agree enc t ∧ ∀ e, result = .error e → Unchanged enc s t := by
  obtain ⟨generation, h⟩ := history.inStep
  obtain ⟨⟨now, after⟩, failed⟩ := h.returns edits admissible step
  refine ⟨⟨now, after.read, after.shows_⟩, fun e is => ?_⟩
  have same := failed e is
  exact ⟨same.read.trans h.read.symm, h.shows_.sameView same.shows_⟩

/-! ## Samples -/

/-- A call may fail that comes before all that enter the mirror. -/
def mayFail (done : List (Call (Contents Unit))) : Bool := done.all fun call => !entersMirror call

theorem returns_sampleRun {o : Operation Unit} {answers s result}
    (returned : (sampleRun mayFail o answers s).1.result = some result) :
    Returns sampleEncoding s o result (sampleRun mayFail o answers s).2.1 := by
  have run := exec_replay (fun (d : Store Unit) name (new : decide (Fresh d name) = true) =>
    of_decide_eq_true new) (fun done (leave : mayFail done = true) call mem =>
    Bool.eq_false_of_not_eq_true' (all_eq_true.1 leave call mem))
    (o.program sampleEncoding).run answers (s, [])
  rw [sampleRun] at returned
  rw [Program.eq_done_of_result returned] at run
  exact ⟨_, run⟩

def secondId : ProfileId := ⟨thirdName, by decide⟩

/-- A second profile is being staged when a call fails, and what has been staged is removed. -/
def refusedAnswers : List Answer :=
  [.done, .done, .named thirdName, .done, .done, .failed, .done]

theorem edited_stores_agree_failed : ∃ s t,
    readCurrentGeneration sampleEncoding s = .ok (some ⟨otherName, [sampleRecord]⟩) ∧
    Returns sampleEncoding s (.save (sampleRecordOf secondId)) (.error .atomicWriteFailed) t ∧
    Agree sampleEncoding t ∧ Unchanged sampleEncoding s t := by
  have outcome : (sampleRun mayFail (.save sampleRecord) savedAnswers none).1.result =
        some (.ok ⟨⟩) ∧
      readCurrentGeneration sampleEncoding
        (sampleRun mayFail (.save sampleRecord) savedAnswers none).2.1 =
          .ok (some ⟨otherName, [sampleRecord]⟩) ∧
      (sampleRun mayFail (.save (sampleRecordOf secondId)) refusedAnswers
        (sampleRun mayFail (.save sampleRecord) savedAnswers none).2.1).1.result =
          some (.error .atomicWriteFailed) := by decide +kernel
  have saves := returns_sampleRun outcome.1
  generalize sampleRun mayFail (.save sampleRecord) savedAnswers none = saved at saves outcome
  obtain ⟨-, read, refused⟩ := outcome
  have history : Edited sampleEncoding saved.2.1 :=
    .operation _ .fresh (show Option.isSome _ from rfl) admissible_sample saves
  have admissible : (Operation.save (sampleRecordOf secondId)).Admissible sampleEncoding
      saved.2.1 := by
    intro records proposed
    have is : (Operation.save (sampleRecordOf secondId)).proposal sampleEncoding saved.2.1 =
        .ok [sampleRecord, sampleRecordOf secondId] := by
      rw [Operation.proposal, validateRecord_sample, currentRecordsForWrite, read]
      rfl
    cases is.symm.trans proposed
    exact publishable_samples (by decide) (show [sampleId, secondId].Nodup by decide)
  have fails := returns_sampleRun refused
  obtain ⟨agree, unchanged⟩ := edited_stores_agree history (show Option.isSome _ from rfl) admissible
    fails
  exact ⟨_, _, read, fails, agree, unchanged _ rfl⟩

/-- The first profile is saved, and the synchronisation after its directory has been renamed
into the mirror fails. -/
def failedAnswers : List Answer :=
  [.done, .done, .named sampleName] ++ List.replicate 8 .done ++ [.failed]

/-- The failed save leaves a profile in the mirror that is not published. -/
theorem failed_save_left_in_mirror : ∃ t,
    Exec (faulty Fresh fun _ => True) ((Operation.save sampleRecord).program sampleEncoding).run
      none (.done (.error .atomicWriteFailed)) t ∧
    readCurrentGeneration sampleEncoding t = .ok none ∧
    listMetadata sampleEncoding none = .ok [] ∧
    listMetadata sampleEncoding t = .ok [sampleRecord.metadata] := by
  have outcome :
      (sampleRun (fun _ => true) (.save sampleRecord) failedAnswers none).1.result =
        some (.error .atomicWriteFailed) ∧
      readCurrentGeneration sampleEncoding
        (sampleRun (fun _ => true) (.save sampleRecord) failedAnswers none).2.1 = .ok none ∧
      listMetadata sampleEncoding none = .ok [] ∧
      listMetadata sampleEncoding
        (sampleRun (fun _ => true) (.save sampleRecord) failedAnswers none).2.1 =
        .ok [sampleRecord.metadata] := by decide +kernel
  have run := @exec_sampleRun (fun _ => True) (fun _ => true) (.save sampleRecord) failedAnswers
    (fun _ _ _ => trivial) none
  rw [Program.eq_done_of_result outcome.1] at run
  exact ⟨_, run, outcome.2⟩

end Mish.Profile
