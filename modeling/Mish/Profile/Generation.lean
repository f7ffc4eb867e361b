import Mathlib.Data.List.Chain
import Mish.Profile.Storage

/-!
# Generations

`HoldsGeneration` is what a complete generation is; it reads back as the records it was made
of (`readGenerationAt_of_holds`). Until the pointer is written a store only `Touches` what
the reader does not see.
-/

namespace Mish.Profile
open FileSystem Interaction List

abbrev Store (Bytes : Type) := Disk (Contents Bytes)

variable {Bytes : Type} {enc : Encoding Bytes} {records : List (ProfileRecord Bytes)}

/-! ## Complete generations -/

structure HoldsGeneration (enc : Encoding Bytes) (generation : Store Bytes)
    (id : ProfileGenerationId) (ordered : List (ProfileRecord Bytes)) : Prop where
  profiles : IsDir generation ["profiles"]
  manifest : look generation ["manifest.json"] = some (.file (.document (.manifest
    ⟨id, ordered.map ProfileRecord.id, profileGenerationSchemaVersion⟩)))
  only : ∀ name, (look generation ["profiles", name]).isSome →
    ∃ record ∈ ordered, record.id.value = name
  records : ∀ record ∈ ordered, Holds enc (look generation ["profiles", record.id.value]) record

/-- The records in the order of a manifest. -/
def Ordered (records : List (ProfileRecord Bytes)) : Prop :=
  (records.map fun record => record.id.value).Pairwise (· < ·)

theorem mem_entryNames {node : Store Bytes} {name} :
    name ∈ entryNames node ↔ (look node [name]).isSome := by
  unfold entryNames
  cases node with
  | none => simp
  | some node =>
    cases node with
    | file contents => simp [look_cons, child]
    | directory entries =>
      rw [mem_dedup, Assoc.mem_keys, Option.isSome_iff_exists]
      rfl

theorem nodup_entryNames (node : Store Bytes) : (entryNames node).Nodup := by
  unfold entryNames
  split
  · exact nodup_dedup _
  · exact nodup_nil

theorem pairwise_mergeSort_key {α : Type} (key : α → String) (items : List α) :
    (items.mergeSort fun a b => key a ≤ key b).Pairwise (key · ≤ key ·) := by
  have sorted := @pairwise_mergeSort _ (fun a b => key a ≤ key b)
    (fun a b c => by simpa using le_trans)
    (fun a b => by simpa using le_total (key a) (key b)) items
  exact sorted.imp (by simp)

/-- Sorting gives the one sorted list with these members. -/
theorem mergeSort_eq {α : Type} {key : α → String} {items sorted : List α}
    (strict : sorted.Pairwise (key · < key ·)) (same : items.Perm sorted) :
    (items.mergeSort fun a b => key a ≤ key b) = sorted := by
  have perm : (items.mergeSort fun a b => key a ≤ key b).Perm sorted :=
    (mergeSort_perm items _).trans same
  have unique := inj_on_of_nodup_map
    (show (sorted.map key).Nodup from (pairwise_map.2 strict).imp ne_of_lt)
  have antisymm : ∀ a b, a ∈ items.mergeSort (fun a b => key a ≤ key b) → b ∈ sorted →
      key a ≤ key b → key b ≤ key a → a = b :=
    fun a b mem mem' ab ba => unique (perm.mem_iff.1 mem) mem' (le_antisymm ab ba)
  exact perm.eq_of_pairwise antisymm (pairwise_mergeSort_key key items) (strict.imp le_of_lt)

theorem ProfileId.value_injective {a b : ProfileId} (same : a.value = b.value) : a = b := by
  cases a
  cases same
  rfl

/-- A sorted list without equal neighbours. -/
theorem pairwise_lt {names : List String} (sorted : names.Pairwise (· ≤ ·))
    (differ : names.IsChain (· ≠ ·)) : names.Pairwise (· < ·) := by
  induction names with
  | nil => exact .nil
  | cons name rest ih =>
    rw [pairwise_cons] at sorted ⊢
    have later := ih sorted.2 differ.tail
    refine ⟨?_, later⟩
    intro other mem
    cases rest with
    | nil => cases mem
    | cons next rest =>
      have first : name < next :=
        lt_of_le_of_ne (sorted.1 next (mem_cons_self ..)) (isChain_cons_cons.1 differ).1
      rcases mem_cons.1 mem with rfl | further
      · exact first
      · exact first.trans ((pairwise_cons.1 later).1 other further)

theorem ordered_sortById (differ : ((sortById records).map ProfileRecord.id).IsChain (· ≠ ·)) :
    Ordered (sortById records) := by
  apply pairwise_lt
  · rw [pairwise_map]
    exact pairwise_mergeSort_key (fun record => record.id.value) records
  · rw [isChain_map] at differ ⊢
    exact differ.imp fun a b ids values => ids (ProfileId.value_injective values)

/-- All that it takes for a list of records to be published. -/
structure Publishable (enc : Encoding Bytes) (records : List (ProfileRecord Bytes)) : Prop where
  few : records.length ≤ maxGenerationProfiles
  differ : ((sortById records).map ProfileRecord.id).IsChain (· ≠ ·)
  valid : ∀ record ∈ records, validateRecord enc record = .ok ()
  redacted : ∀ record ∈ records, enc.isRedacted record.metadata.provenance.source = true
  readable : ∀ record ∈ records, Readable enc record
  manifest : ∀ id, isCanonicalUuid id = true → enc.size (.document (.manifest
    ⟨id, (sortById records).map ProfileRecord.id, profileGenerationSchemaVersion⟩)) ≤
      maxGenerationManifestBytes

theorem mapM_load {load : ProfileId → Except RepositoryError (ProfileRecord Bytes)}
    (loads : ∀ record ∈ records, load record.id = .ok record) :
    (records.map ProfileRecord.id).mapM load = .ok records := by
  induction records with
  | nil => rfl
  | cons record rest ih =>
    rw [forall_mem_cons] at loads
    rw [map_cons, mapM_cons, loads.1, ok_bind, ih loads.2, ok_bind]
    rfl

theorem readGenerationAt_of_holds {generation : Store Bytes} {id : ProfileGenerationId}
    (publishable : Publishable enc records) (canonical : isCanonicalUuid id = true)
    (holds : HoldsGeneration enc generation id (sortById records)) :
    readGenerationAt enc generation id = .ok ⟨id, sortById records⟩ := by
  have ordered := ordered_sortById publishable.differ
  have mem : ∀ record, record ∈ sortById records → record ∈ records :=
    fun record => (mergeSort_perm records _).mem_iff.1
  have length : (sortById records).length = records.length := length_mergeSort _
  obtain ⟨entries, profiles⟩ := holds.profiles
  obtain ⟨all, directory⟩ : IsDir generation [] := isDir_of_look profiles
  rw [look_nil] at directory
  have manifest := readJsonBounded_file Document.asManifest .generationManifest
    (publishable.manifest id canonical) rfl
  have chain : (((sortById records).map ProfileRecord.id).map ProfileId.value).IsChain (· < ·) := by
    rw [map_map]
    exact ordered.isChain
  have few : ¬ maxGenerationProfiles < ((sortById records).map ProfileRecord.id).length := by
    rw [length_map, length]
    exact Nat.not_lt.2 publishable.few
  have opened : ensureDirectory generation .generationManifest = .ok () := by rw [directory]; rfl
  have openedProfiles : ensureDirectory (look generation ["profiles"]) .generationManifest =
      .ok () := by rw [profiles]; rfl
  have validManifest : validateGenerationManifest enc generation id = .ok () := by
    unfold validateGenerationManifest
    rw [holds.manifest, manifest, ok_bind, failIf_bind (by simp), failIf_bind, validateGenerationId,
      failIf_bind (by simp [canonical]), openedProfiles]
    rw [not_or, not_or, not_not, not_not]
    exact ⟨rfl, few, chain⟩
  have names : ∀ name, name ∈ entryNames (look generation ["profiles"]) ↔
      name ∈ (sortById records).map fun record => record.id.value := by
    intro name
    rw [mem_entryNames, ← look_append, mem_map]
    constructor
    · exact holds.only name
    · rintro ⟨record, at_, rfl⟩
      obtain ⟨entries, found⟩ := (holds.records record at_).directory
      rw [look_nil] at found
      simp [found]
  have validEntries : validateGenerationEntries (look generation ["profiles"])
      ((sortById records).map ProfileRecord.id) = .ok () := by
    have perm := (perm_ext_iff_of_nodup (nodup_entryNames _) (ordered.imp ne_of_lt)).2 names
    have sorted : (entryNames (look generation ["profiles"])).mergeSort (· ≤ ·) = _ :=
      @mergeSort_eq _ (fun name => name) _ _ ordered perm
    have count : (entryNames (look generation ["profiles"])).length = records.length := by
      have same := congrArg List.length sorted
      rwa [length_mergeSort, length_map, length] at same
    unfold validateGenerationEntries
    simp only [failIf_ok, not_or, not_exists, not_and, not_lt, Decidable.not_not]
    refine ⟨count ▸ publishable.few, ?_, sorted.trans (by simp [ProfileRecord.id])⟩
    intro name at_
    obtain ⟨record, has, rfl⟩ := mem_map.1 ((names name).1 at_)
    refine ⟨by simp [record.id.canonical], ?_⟩
    obtain ⟨inner, found⟩ := (holds.records record has).directory
    exact ⟨inner, by rwa [look_nil, ← look_append] at *⟩
  have loads : ((sortById records).map ProfileRecord.id).mapM (fun profileId =>
      loadFromProfilePath enc profileId (look generation ["profiles", profileId.value])) =
        .ok (sortById records) := by
    apply mapM_load
    intro record at_
    exact load_of_holds (holds.records record at_) (publishable.valid record (mem record at_))
      (publishable.readable record (mem record at_))
  unfold readGenerationAt
  simp only [opened, validManifest, holds.manifest, manifest, openedProfiles, validEntries, loads,
    ok_bind]
  rfl

/-! ## Staging -/

section Staging

variable {tolerates inv : Store Bytes → Prop} {d t u : Store Bytes} {base : Path}

/-- A generation in the making holds the records it is done with. -/
structure Filled (enc : Encoding Bytes) (base : Path) (past : List (ProfileRecord Bytes))
    (d t : Store Bytes) : Prop where
  outside : Outside base d t
  laid : Laid layout t
  profiles : IsDir t (base ++ ["profiles"])
  only : ∀ name, (look t (base ++ ["profiles", name])).isSome →
    ∃ record ∈ past, record.id.value = name
  records : ∀ record ∈ past, Holds enc (look t (base ++ ["profiles", record.id.value])) record
  redacted : ∀ record ∈ past, enc.isRedacted record.metadata.provenance.source = true

theorem Filled.next {past record}
    (f : Filled enc base past d t) (new : ∀ old ∈ past, old.id.value ≠ record.id.value)
    (outside : Outside (base ++ ["profiles", record.id.value]) t u) (laid : Laid layout u)
    (holds : Holds enc (look u (base ++ ["profiles", record.id.value])) record)
    (redacted : enc.isRedacted record.metadata.provenance.source = true) :
    Filled enc base (past ++ [record]) d u := by
  have others : ∀ name, name ≠ record.id.value →
      look u (base ++ ["profiles", name]) = look t (base ++ ["profiles", name]) := by
    intro name differs
    apply outside.same
    rw [apart_append_left, apart_cons]
    intro _
    rw [apart_cons]
    exact fun same => absurd same.symm differs
  constructor
  · exact f.outside.trans outside.above
  · exact laid
  · obtain ⟨entries, found⟩ := holds.directory
    apply isDir_of_look
    rw [append_assoc]
    exact found
  · intro name exists_
    by_cases same : name = record.id.value
    · exact ⟨record, by simp, same.symm⟩
    · rw [others name same] at exists_
      obtain ⟨old, mem, named⟩ := f.only name exists_
      exact ⟨old, by simp [mem], named⟩
  · intro old mem
    rcases mem_append.1 mem with earlier | now
    · rw [others _ (new old earlier)]
      exact f.records old earlier
    · rw [mem_singleton.1 now]
      exact holds
  · intro old mem
    rcases mem_append.1 mem with earlier | now
    · exact f.redacted old earlier
    · rw [mem_singleton.1 now]
      exact redacted

/-- With its manifest the generation is complete. -/
theorem Filled.complete {past id} (f : Filled enc base past d t)
    (outside : Outside (base ++ ["manifest.json"]) t u)
    (manifest : look u (base ++ ["manifest.json"]) = some (.file (.document (.manifest
    ⟨id, past.map ProfileRecord.id, profileGenerationSchemaVersion⟩)))) :
    IsDir u (base ++ ["profiles"]) ∧ HoldsGeneration enc (look u base) id past := by
  have kept : ∀ q, look u (base ++ "profiles" :: q) = look t (base ++ "profiles" :: q) := by
    intro q
    apply outside.same
    rw [apart_append_left, apart_cons]
    simp
  obtain ⟨entries, found⟩ := f.profiles
  have profiles : look u (base ++ ["profiles"]) = some (.directory entries) := (kept []).trans found
  refine ⟨⟨entries, profiles⟩, ⟨entries, (look_append ..).symm.trans profiles⟩, ?_, ?_, ?_⟩
  · rw [← look_append]
    exact manifest
  · intro name
    rw [← look_append, kept]
    exact f.only name
  · intro record mem
    rw [← look_append, kept]
    exact f.records record mem

theorem layout_generation (name : String) (q : Path) :
    layout (generationPath name ++ q) = generationLayout q := by
  simp [generationPath, generationsRoot, layout]

/-- What is left of a staging that failed: a call failed, or a record cannot be written. -/
def Unfilled (enc : Encoding Bytes) (tolerates : Store Bytes → Prop) (base : Path)
    (ordered : List (ProfileRecord Bytes)) (d u : Store Bytes) : Prop :=
  Outside base d u ∧ Laid layout u ∧
    (tolerates u ∨ ∃ record ∈ ordered, enc.isRedacted record.metadata.provenance.source = false)

theorem fillRecords_safe {ordered} (sorted : Ordered ordered) (start : Filled enc base [] d t)
    (recordBase : ∀ name, RecordBase (base ++ ["profiles", name]))
    (keeps : ∀ u, Outside base d u → Laid layout u → inv u) : SafeOn Fresh tolerates inv
      (fun result u => match result with
        | .ok _ => Filled enc base ordered d u
        | .error _ => Unfilled enc tolerates base ordered d u)
      (ordered.forM fun record =>
        writeRecord enc (base ++ ["profiles", record.id.value]) record) t := by
  refine Safe.forM (fun past u => Filled enc base past d u) ordered ?_ start fun u h => h
  intro past record t before filled
  have new : ∀ old ∈ past, old.id.value ≠ record.id.value := by
    intro old mem same
    have apart := (pairwise_map.1 sorted).sublist before.sublist
    rw [pairwise_append] at apart
    exact absurd same (ne_of_lt (apart.2.2 old mem record (by simp)))
  refine (writeRecord_safe record filled.laid (recordBase record.id.value) ?_).mono ?_
  · intro u outside good
    exact keeps u (filled.outside.trans outside.above) good
  · rintro result u ⟨outside, good, done⟩
    cases result with
    | ok _ => exact filled.next new outside good done.1 done.2
    | error e =>
      refine ⟨filled.outside.trans outside.above, good, done.imp_right fun plain => ?_⟩
      exact ⟨record, before.subset (by simp), plain⟩

/-- Staging touches its own directory only. Once it is done the directory is a complete
generation. -/
theorem fillStaging_safe {id : ProfileGenerationId} {ordered} (laid : Laid layout d)
    (free : look d (generationPath (stagingName id)) = none) (sorted : Ordered ordered)
    (keeps : ∀ u, Outside (generationPath (stagingName id)) d u → Laid layout u → inv u) :
    SafeOn Fresh tolerates inv
      (fun result u => match result with
        | .ok _ => Outside (generationPath (stagingName id)) d u ∧ Laid layout u ∧
          HoldsGeneration enc (look u (generationPath (stagingName id))) id ordered
        | .error _ => Unfilled enc tolerates (generationPath (stagingName id)) ordered d u)
      (fillStaging enc id ordered) d := by
  obtain ⟨base, is⟩ : ∃ base, generationPath (stagingName id) = base := ⟨_, rfl⟩
  have clear : ∀ q, above layout (base ++ q) = above generationLayout q :=
    fun q => is ▸ rfl
  have shape : ∀ q, layout (base ++ q) = generationLayout q := fun q => is ▸ layout_generation _ q
  have recordBase : ∀ name, RecordBase (base ++ ["profiles", name]) :=
    fun name => is ▸ recordBase_generation name
  unfold fillStaging
  rw [is] at free keeps ⊢
  have failed : ∀ u, Outside base d u → Laid layout u → tolerates u →
      Unfilled enc tolerates base ordered d u :=
    fun u outside good tolerated => ⟨outside, good, .inl tolerated⟩
  -- the two directories
  obtain ⟨t₁, made₁, outside₁, laid₁, -, below₁⟩ := effect_createPrivateDir laid
    (show above layout base = true from is ▸ rfl) (show layout base = true from is ▸ rfl)
  apply safe_perform_bind made₁ (keeps d (.refl base d) laid) _ (failed d (.refl base d) laid)
  obtain ⟨t₂, made₂, outside₂, laid₂, profiles₂, below₂⟩ := effect_createPrivateDir laid₁
    (clear ["profiles"]) (shape ["profiles"])
  apply safe_perform_bind made₂ (keeps t₁ outside₁ laid₁) _ (failed t₁ outside₁ laid₁)
  have empty : ∀ name, look t₂ (base ++ ["profiles", name]) = none := by
    intro name
    have kept := below₂ name []
    rw [append_assoc] at kept
    refine kept.trans ((below₁ "profiles" [name]).trans ?_)
    rw [look_append, free, look_none]
  have start : Filled enc base [] d t₂ :=
    ⟨outside₁.trans outside₂.above, laid₂, profiles₂, by simp [empty], by simp, by simp⟩
  refine (fillRecords_safe sorted start recordBase keeps).attempt ?_ fun _ u h => h
  intro _ t₃ filled
  -- the manifest
  obtain ⟨t₄, made₄, outside₄, laid₄, manifest⟩ := effect_write
    (.document (.manifest ⟨id, ordered.map ProfileRecord.id, profileGenerationSchemaVersion⟩))
    filled.laid (clear ["manifest.json"]) (shape ["manifest.json"])
  apply safe_perform_bind made₄ (keeps t₃ filled.outside filled.laid) _
    (failed t₃ filled.outside filled.laid)
  have outside : Outside base d t₄ := filled.outside.trans outside₄.above
  obtain ⟨profiles, complete⟩ := filled.complete outside₄ manifest
  apply safe_perform_bind (effect_syncDirectory profiles) (keeps t₄ outside laid₄) _
    (failed t₄ outside laid₄)
  have directory : IsDir t₄ base := by
    obtain ⟨entries, found⟩ := profiles
    exact isDir_of_look found
  exact safe_perform (effect_syncDirectory directory) (keeps t₄ outside laid₄)
    ⟨outside, laid₄, complete⟩ (failed t₄ outside laid₄)

end Staging

end Mish.Profile
