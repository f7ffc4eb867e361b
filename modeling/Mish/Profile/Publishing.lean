import Mish.Profile.Generation

/-!
# Staging and publishing a generation

Until the pointer is written, a publication `Touches` only what the reader of generations
does not see. The one call it can see is the last one. If something fails, what is left
differs from the disk of the failure in entries that no reader sees (`Unseen`).
-/

namespace Mish.Profile

open FileSystem Interaction

variable {Bytes : Type} {enc : Encoding Bytes} {name : String}

/-! ## Names -/

theorem isTransient_stagingName (id : String) : isTransient (stagingName id) = true := by
  simp [isTransient, stagingName]

theorem isTransient_deletingName (id : String) : isTransient (deletingName id) = true := by
  simp [isTransient, deletingName]

theorem not_transient_of_canonical (canonical : isCanonicalUuid name = true) :
    isTransient name = false := by
  unfold isCanonicalUuid at canonical
  unfold isTransient
  cases chars : name.toList with
  | nil => simp [chars] at canonical
  | cons c rest =>
    have plain : c ≠ '.' := by
      rintro rfl
      simp [chars, List.zipIdx_cons] at canonical
    simp [List.isPrefixOf, plain.symm]

theorem ProfileId.not_transient (id : ProfileId) : isTransient id.value = false :=
  not_transient_of_canonical id.canonical

/-! ## What readers do not see -/

/-- The stores differ in entries in the making or in the going only. -/
structure Unseen (d t : Store Bytes) : Prop where
  laid : Laid layout t
  pointer : look t currentGenerationPath = look d currentGenerationPath
  root : (look t generationsRoot).isSome = (look d generationsRoot).isSome
  generations : ∀ name, isTransient name = false →
    look t (generationPath name) = look d (generationPath name)
  mirror : ∀ name, isTransient name = false → look t (mirrorPath name) = look d (mirrorPath name)

/-- Nothing is published, and of the mirror only the directory of one profile is touched. -/
structure Touches (s : Store Bytes) (touched : Option ProfileId) (t : Store Bytes) : Prop where
  laid : Laid layout t
  pointer : look t currentGenerationPath = look s currentGenerationPath
  generations : ∀ name, isTransient name = false → (look s (generationPath name)).isSome →
    look t (generationPath name) = look s (generationPath name)
  mirror : ∀ name, isTransient name = false → (∀ id, touched = some id → name ≠ id.value) →
    look t (mirrorPath name) = look s (mirrorPath name)

variable {s d t u : Store Bytes} {touched : Option ProfileId} {pointer : GenerationPointer}
  {generation : Option (ProfileGeneration Bytes)}

theorem Unseen.refl (laid : Laid layout d) : Unseen d d :=
  ⟨laid, rfl, rfl, fun _ _ => rfl, fun _ _ => rfl⟩

theorem Unseen.touches (h : Unseen d t) : Touches d touched t :=
  ⟨h.laid, h.pointer, fun name plain _ => h.generations name plain,
    fun name plain _ => h.mirror name plain⟩

theorem Touches.refl (laid : Laid layout s) : Touches s touched s := (Unseen.refl laid).touches

theorem Touches.trans (first : Touches s touched d) (second : Touches d touched t) :
    Touches s touched t := by
  refine ⟨second.laid, second.pointer.trans first.pointer, ?_, ?_⟩
  · intro name plain exists_
    have kept := first.generations name plain exists_
    exact (second.generations name plain (by rwa [kept])).trans kept
  · intro name plain other
    exact (second.mirror name plain other).trans (first.mirror name plain other)

/-- Two names in one directory are apart. -/
theorem apart_names {root : Path} {a b} (differ : a ≠ b) : Apart (root ++ [a]) (root ++ [b]) := by
  rw [apart_append_left, apart_cons]
  exact fun same => absurd same differ

theorem ne_of_transient {a b} (transient : isTransient a = true)
    (plain : isTransient b = false) : a ≠ b := by
  rintro rfl
  rw [transient] at plain
  cases plain

theorem unseen_of_staging (transient : isTransient name = true)
    (outside : Outside (generationPath name) d t) (laid : Laid layout t)
    (dir : IsDir d generationsRoot) : Unseen d t := by
  refine ⟨laid, outside.same _ (by simp [generationPath, generationsRoot, currentGenerationPath,
    apart_cons]), ?_, fun other plain => ?_, fun other plain => ?_⟩
  · obtain ⟨after, stays⟩ := outside.stays generationsRoot name [] rfl dir
    obtain ⟨before, found⟩ := dir
    rw [stays, found]
    rfl
  · exact outside.same _ (apart_names (ne_of_transient transient plain))
  · exact outside.same _ (by simp [generationPath, generationsRoot, mirrorPath, profilesRoot,
      apart_cons])

theorem touches_of_mirror
    (own : isTransient name = true ∨ ∃ id, touched = some id ∧ name = id.value)
    (outside : Outside (mirrorPath name) d t) (laid : Laid layout t) : Touches d touched t := by
  refine ⟨laid, outside.same _ (by simp [mirrorPath, profilesRoot, currentGenerationPath,
    apart_cons]), fun other plain _ => ?_, fun other plain untouched => ?_⟩
  · exact outside.same _ (by simp [generationPath, generationsRoot, mirrorPath, profilesRoot,
      apart_cons])
  · apply outside.same
    apply apart_names
    rcases own with transient | ⟨id, is, rfl⟩
    · exact ne_of_transient transient plain
    · exact (untouched id is).symm

theorem unseen_of_mirror (transient : isTransient name = true)
    (outside : Outside (mirrorPath name) d t) (laid : Laid layout t) : Unseen d t := by
  have touches : Touches d none t := touches_of_mirror (.inl transient) outside laid
  refine ⟨laid, touches.pointer, ?_, fun other plain => ?_, fun other plain => ?_⟩
  · rw [outside.same _ (by simp [mirrorPath, profilesRoot, generationsRoot, apart_cons])]
  · exact outside.same _ (by simp [generationPath, generationsRoot, mirrorPath, profilesRoot,
      apart_cons])
  · exact touches.mirror other plain (by simp)

/-! ## What the reader of generations sees -/

/-- The reader takes a store for a corrupt one when there are generations and no pointer. -/
def Unpointed (d : Store Bytes) : Prop :=
  look d currentGenerationPath = none ∧ (look d generationsRoot).isSome

theorem readGenerationPointer_congr
    (same : look t currentGenerationPath = look s currentGenerationPath) :
    readGenerationPointer enc t = readGenerationPointer enc s := by
  unfold readGenerationPointer
  rw [same]

theorem readGenerationPointer_ok (read : readGenerationPointer enc s = .ok pointer) :
    (look s currentGenerationPath).isSome ∧ isCanonicalUuid pointer.generationId = true := by
  obtain ⟨⟨⟩, present, read⟩ := bind_ok read
  obtain ⟨found, -, read⟩ := bind_ok read
  obtain ⟨⟨⟩, -, read⟩ := bind_ok read
  obtain ⟨⟨⟩, canonical, read⟩ := bind_ok read
  cases read
  simp only [failIf_ok, validateGenerationId, Bool.not_eq_true', Bool.not_eq_false] at present canonical
  exact ⟨by simpa [Option.isSome_iff_ne_none] using present, canonical⟩

theorem readGenerationAt_none (id : ProfileGenerationId) :
    readGenerationAt enc none id = .error (.corruptData .generationManifest) := rfl

/-- The two ways to read a store. -/
theorem readCurrentGeneration_ok (read : readCurrentGeneration enc s = .ok generation) :
    (generation = none ∧ look s currentGenerationPath = none ∧ look s generationsRoot = none) ∨
    ∃ pointer found, readGenerationPointer enc s = .ok pointer ∧
    readGenerationAt enc (look s (generationPath pointer.generationId)) pointer.generationId =
    .ok found ∧ generation = some found := by
  unfold readCurrentGeneration at read
  split at read
  · rename_i absent
    cases read
    refine .inl ⟨rfl, ?_⟩
    rcases absent with rootless | absent
    · rw [Option.isNone_iff_eq_none] at rootless
      subst rootless
      exact ⟨look_none _, look_none _⟩
    · simpa using absent
  · obtain ⟨pointer, pointed, read⟩ := bind_ok read
    obtain ⟨found, at_, read⟩ := bind_ok read
    cases read
    exact .inr ⟨pointer, found, pointed, at_, rfl⟩

theorem readCurrentGeneration_pointed {found} (pointed : readGenerationPointer enc s = .ok pointer)
    (at_ : readGenerationAt enc (look s (generationPath pointer.generationId))
    pointer.generationId = .ok found) : readCurrentGeneration enc s = .ok (some found) := by
  have present := (readGenerationPointer_ok pointed).1
  have exists_ : s.isNone = false := by
    cases s with
    | none => rw [look_none] at present; cases present
    | some node => rfl
  have absent : (look s currentGenerationPath).isNone = false := by
    rwa [Option.isNone_eq_false_iff]
  unfold readCurrentGeneration
  rw [if_neg (by simp [exists_, absent]), pointed, ok_bind, at_, ok_bind]
  rfl

/-- What is not published is not read. -/
theorem Touches.read
    (touches : Touches s touched t) (read : readCurrentGeneration enc s = .ok generation)
    (pointed : ¬ Unpointed t) : readCurrentGeneration enc t = .ok generation := by
  rcases readCurrentGeneration_ok read with ⟨rfl, unpointed, -⟩ | ⟨pointer, found, pointer_, at_, rfl⟩
  · have absent : look t currentGenerationPath = none := touches.pointer.trans unpointed
    have rootless : look t generationsRoot = none := by
      by_contra present
      exact pointed ⟨absent, by simpa [Option.isSome_iff_ne_none] using present⟩
    unfold readCurrentGeneration
    rw [if_pos (.inr (by simp [absent, rootless]))]
    rfl
  · have canonical := (readGenerationPointer_ok pointer_).2
    have exists_ : (look s (generationPath pointer.generationId)).isSome := by
      cases there : look s (generationPath pointer.generationId) with
      | none => rw [there, readGenerationAt_none] at at_; cases at_
      | some node => rfl
    apply readCurrentGeneration_pointed
    · rw [readGenerationPointer_congr touches.pointer]
      exact pointer_
    · rw [touches.generations _ (not_transient_of_canonical canonical) exists_]
      exact at_

theorem Unseen.unpointed_iff (h : Unseen d t) : Unpointed t ↔ Unpointed d := by
  unfold Unpointed
  rw [h.pointer, h.root]

/-! ## Steps of a publication -/

section Steps

variable {tolerates inv : Store Bytes → Prop} {records : List (ProfileRecord Bytes)}
  {id : ProfileGenerationId}

/-- At most the directory `root` and the root of the store are new. -/
structure Prepared (root : String) (d t : Store Bytes) : Prop where
  laid : Laid layout t
  others : ∀ name q, name ≠ root → look t (name :: q) = look d (name :: q)
  below : ∀ name q, look t (root :: name :: q) = look d (root :: name :: q)

theorem safe_prepare {root} (dir : layout [root] = true) (laid : Laid layout d)
    (keeps : ∀ u, Prepared root d u → inv u) : SafeOn Fresh tolerates inv
      (fun result u => Prepared root d u ∧ match result with
        | .ok _ => IsDir u [root]
        | .error _ => tolerates u)
      (do createPrivateDir []; createPrivateDir [root] : Repository Bytes PUnit) d := by
  have start : Prepared root d d := ⟨laid, fun _ _ _ => rfl, fun _ _ => rfl⟩
  obtain ⟨t₁, made₁, -, laid₁, -, below₁⟩ := effect_createPrivateDir laid
    (show above layout [] = true from rfl) rfl
  apply safe_perform_bind made₁ (keeps d start) _ fun tolerated => ⟨start, tolerated⟩
  have first : Prepared root d t₁ :=
    ⟨laid₁, fun name q _ => below₁ name q, fun name q => below₁ root (name :: q)⟩
  obtain ⟨t₂, made₂, outside₂, laid₂, is, below₂⟩ := effect_createPrivateDir laid₁
    (show above layout [root] = true from rfl) dir
  refine safe_perform made₂ (keeps t₁ first) ⟨⟨laid₂, ?_, ?_⟩, is⟩ fun tolerated =>
    ⟨first, tolerated⟩
  · intro name q other
    rw [outside₂.same _ (by rw [apart_cons]; exact fun same => absurd same.symm other)]
    exact below₁ name q
  · intro name q
    exact (below₂ name q).trans (below₁ root (name :: q))

theorem Prepared.unseen (h : Prepared "profiles" d t) : Unseen d t := by
  refine ⟨h.laid, h.others _ _ (by decide), ?_, fun name _ => ?_, fun name _ => h.below name []⟩
  · rw [generationsRoot, h.others _ _ (by decide)]
  · exact h.others _ _ (by decide)

/-- The directories of the mirror are the same. -/
def SameMirror (d t : Store Bytes) : Prop :=
  ∀ name, isTransient name = false → look t (mirrorPath name) = look d (mirrorPath name)

theorem SameMirror.trans (first : SameMirror d t) (second : SameMirror t u) : SameMirror d u :=
  fun name plain => (second name plain).trans (first name plain)

theorem Prepared.touches (h : Prepared "generations" d t) : Touches d touched t :=
  ⟨h.laid, h.others _ _ (by decide), fun name _ _ => h.below name [],
    fun name _ _ => h.others _ _ (by decide)⟩

theorem Prepared.sameMirror (h : Prepared "generations" d t) : SameMirror d t :=
  fun _ _ => h.others _ _ (by decide)

theorem safe_discard_bind {β : Type} {path} {next : PUnit → Repository Bytes β}
    {post : Except RepositoryError β → Store Bytes → Prop} (laid : Laid layout d) (here : inv d)
    (ok : ∀ t, Outside path d t → Laid layout t → SafeOn Fresh tolerates inv post (next ⟨⟩) t) :
    SafeOn Fresh tolerates inv post (discardDirectory path >>= next) d := by
  refine ⟨here, ?_⟩
  rintro reply u (⟨rfl, done⟩ | ⟨rfl, rfl, -⟩)
  · simp only [Call.effect] at done
    split at done
    · cases done
      exact ok _ (outside_erase path d) (laid.erase path)
    · cases done
  · exact ok _ (.refl path _) laid

/-- Some call failed, and what is left since then has only been tidied up. -/
def Faulted (tolerates : Store Bytes → Prop) (t : Store Bytes) : Prop :=
  ∃ d, tolerates d ∧ Unseen d t

theorem Faulted.now (laid : Laid layout d) (tolerated : tolerates d) : Faulted tolerates d :=
  ⟨d, tolerated, .refl laid⟩

theorem forM_validate_error {error} (refused : records.forM (validateRecord enc) = .error error) :
    ∃ record ∈ records, validateRecord enc record ≠ .ok () := by
  induction records with
  | nil => cases refused
  | cons record rest ih =>
    cases checked : validateRecord enc record with
    | error e => exact ⟨record, by simp, by simp [checked]⟩
    | ok _ =>
      have later : rest.forM (validateRecord enc) = .error error := by
        rw [← refused]
        change _ = (validateRecord enc record >>= fun _ => rest.forM (validateRecord enc))
        rw [checked, ok_bind]
      obtain ⟨other, mem, bad⟩ := ih later
      exact ⟨other, by simp [mem], bad⟩

theorem mem_sortById {record} : record ∈ sortById records ↔ record ∈ records :=
  (List.mergeSort_perm records _).mem_iff

/-- Staging is not seen. It makes a complete generation, unless a call fails. -/
theorem stageGeneration_safe (publishable : Publishable enc records) (touches : Touches s touched d)
    (keeps : ∀ u, Touches s touched u → inv u) : SafeOn Fresh tolerates inv
      (fun result u => Touches s touched u ∧ SameMirror d u ∧ match result with
        | .ok staged => isCanonicalUuid staged.id = true ∧
          look u (generationPath staged.id) = none ∧
          HoldsGeneration enc (look u (generationPath (stagingName staged.id))) staged.id
            (sortById records)
        | .error _ => Faulted tolerates u)
      (stageGeneration enc records) d := by
  refine (safe_prepare rfl touches.laid fun u prepared =>
    keeps u (touches.trans prepared.touches)).attempt ?_ ?_
  swap
  · rintro e u ⟨prepared, tolerated⟩
    exact ⟨touches.trans prepared.touches, prepared.sameMirror, .now prepared.laid tolerated⟩
  rintro _ t₁ ⟨prepared, root⟩
  have touches₁ : Touches s touched t₁ := touches.trans prepared.touches
  refine safe_settle_bind (fun _ _ => ?_) fun e refused => ?_
  swap
  · rw [failIf, if_neg (Nat.not_lt.2 publishable.few)] at refused
    cases refused
  refine safe_settle_bind (fun _ _ => ?_) fun e refused => ?_
  swap
  · rw [failIf, if_neg (not_not.2 publishable.differ)] at refused
    cases refused
  refine safe_settle_bind (fun _ _ => ?_) fun e refused => ?_
  swap
  · obtain ⟨record, mem, bad⟩ := forM_validate_error refused
    exact absurd (publishable.valid record (mem_sortById.1 mem)) bad
  apply safe_newName_bind (keeps t₁ touches₁)
  intro id fresh
  have transient := isTransient_stagingName id
  have free : look t₁ (generationPath (stagingName id)) = none :=
    fresh.2 generationsRoot (by simp) (stagingName id) (by simp)
  have unused : look t₁ (generationPath id) = none :=
    fresh.2 generationsRoot (by simp) id (by simp)
  have hidden : ∀ u, Outside (generationPath (stagingName id)) t₁ u → Laid layout u →
      Touches s touched u :=
    fun u outside laid => touches₁.trans (unseen_of_staging transient outside laid root).touches
  have unmirrored : ∀ u, Outside (generationPath (stagingName id)) t₁ u → Laid layout u →
      SameMirror d u :=
    fun u outside laid name plain =>
      ((unseen_of_staging transient outside laid root).mirror name plain).trans
        (prepared.sameMirror name plain)
  have filled : SafeOn Fresh tolerates inv
      (fun result u => match result with
        | .ok _ => Outside (generationPath (stagingName id)) t₁ u ∧ Laid layout u ∧
          HoldsGeneration enc (look u (generationPath (stagingName id))) id (sortById records)
        | .error _ => Touches s touched u ∧ SameMirror d u ∧ Faulted tolerates u)
      (tryCatch (fillStaging enc id (sortById records)) fun error => do
        discardDirectory (generationPath (stagingName id))
        throw error) t₁ := by
    refine (fillStaging_safe touches₁.laid free (ordered_sortById publishable.differ)
      fun u outside laid => keeps u (hidden u outside laid)).rescue ?_ ?_
    · exact fun _ u filled => filled
    · rintro e u ⟨outside, laid, failed⟩
      apply safe_discard_bind laid (keeps u (hidden u outside laid))
      intro t removed laid'
      have dir := outside.stays generationsRoot _ [] rfl root
      refine ⟨hidden t (outside.trans removed) laid',
        unmirrored t (outside.trans removed) laid', ?_⟩
      rcases failed with tolerated | ⟨record, mem, plain⟩
      · exact ⟨u, tolerated, unseen_of_staging transient removed laid' dir⟩
      · rw [publishable.redacted record (mem_sortById.1 mem)] at plain
        cases plain
  refine filled.attempt ?_ fun e u h => h
  rintro _ u ⟨outside, laid, complete⟩
  refine ⟨hidden u outside laid, unmirrored u outside laid, fresh.1, ?_, complete⟩
  have apart := ne_of_transient transient (not_transient_of_canonical fresh.1)
  exact (outside.same _ (apart_names apart)).trans unused

theorem readGenerationAt_canonical {generation : Store Bytes} {found}
    (read : readGenerationAt enc generation id = .ok found) : isCanonicalUuid id = true := by
  obtain ⟨⟨⟩, -, read⟩ := bind_ok read
  obtain ⟨⟨⟩, checked, -⟩ := bind_ok read
  obtain ⟨manifest, -, checked⟩ := bind_ok checked
  obtain ⟨⟨⟩, -, checked⟩ := bind_ok checked
  obtain ⟨⟨⟩, expected, checked⟩ := bind_ok checked
  obtain ⟨⟨⟩, canonical, -⟩ := bind_ok checked
  simp only [failIf_ok, not_or, not_not] at expected
  rw [← expected.1]
  simpa [validateGenerationId] using canonical

theorem readGenerationPointer_written (canonical : isCanonicalUuid id = true)
    (written : look t currentGenerationPath =
    some (.file (.document (.pointer ⟨id, profileGenerationSchemaVersion⟩)))) :
    readGenerationPointer enc t = .ok ⟨id, profileGenerationSchemaVersion⟩ := by
  have pointer := readJsonBounded_file Document.asPointer .generationPointer
    (enc.pointer_size id canonical) rfl
  unfold readGenerationPointer
  rw [written, failIf_bind (by simp), pointer, ok_bind, failIf_bind (by simp), validateGenerationId,
    failIf_bind (by simp [canonical])]
  rfl

/-- A staged generation that gets its name is not seen yet. -/
theorem renamed_hidden {node} (laid : Laid layout d)
    (staging : look d (generationPath (stagingName id)) = some node)
    (unused : look d (generationPath id) = none) :
    ∃ t, (Call.rename (generationPath (stagingName id)) (generationPath id)).effect d = some t ∧
    Touches d touched t ∧ SameMirror d t ∧ look t (generationPath id) = some node := by
  obtain ⟨t, renamed, laid', now, -, others⟩ := effect_rename laid
    (show above layout (generationsRoot ++ [id]) = true from rfl)
    (fun q => by
      have first := layout_generation (stagingName id) q
      have second := layout_generation id q
      simp only [generationPath, List.append_assoc, List.singleton_append] at first second
      rw [first, second]) staging unused
  have apart : ∀ name q, name ≠ "generations" → look t (name :: q) = look d (name :: q) := by
    intro name q other
    have off : ∀ target, Apart (generationsRoot ++ [target]) (name :: q) := by
      intro target
      rw [generationsRoot, List.cons_append, apart_cons]
      exact fun same => absurd same.symm other
    exact others _ (off _) (off _)
  have mirror : SameMirror d t := fun name _ => apart _ _ (by decide)
  refine ⟨t, renamed, ⟨laid', apart _ _ (by decide), ?_, fun name plain _ => mirror name plain⟩,
    mirror, now⟩
  intro name visible exists_
  apply others
  · exact apart_names (ne_of_transient (isTransient_stagingName _) visible)
  · apply apart_names
    rintro rfl
    rw [unused] at exists_
    cases exists_

/-- Nothing of a publication is seen before its last call. After it the staged records are
current. -/
theorem publishGeneration_safe {staged} (touches : Touches s touched d)
    (keeps : ∀ u, Touches s touched u → inv u) : SafeOn Fresh tolerates inv
      (fun result u => SameMirror d u ∧ match result with
        | .ok _ => ∃ found,
          readGenerationAt enc (look d (generationPath (stagingName staged.id))) staged.id =
            .ok found ∧ look d (generationPath staged.id) = none ∧
          readCurrentGeneration enc u = .ok (some found) ∧ Laid layout u
        | .error _ => Touches s touched u ∧ (Faulted tolerates u ∨ ∀ found,
          readGenerationAt enc (look d (generationPath (stagingName staged.id))) staged.id =
            .ok found → (look d (generationPath staged.id)).isSome))
      (publishGeneration enc staged) d := by
  refine (safe_prepare rfl touches.laid fun u prepared =>
    keeps u (touches.trans prepared.touches)).attempt ?_ ?_
  swap
  · rintro e u ⟨prepared, tolerated⟩
    exact ⟨prepared.sameMirror, touches.trans prepared.touches, .inl (.now prepared.laid tolerated)⟩
  rintro _ t₁ ⟨prepared, root⟩
  have touches₁ : Touches s touched t₁ := touches.trans prepared.touches
  have same : ∀ name, look t₁ (generationPath name) = look d (generationPath name) :=
    fun name => prepared.below name []
  apply safe_inspect_bind (keeps t₁ touches₁)
  rw [same, same]
  refine safe_settle_bind (fun _ opened => ?_) fun e refused => ?_
  swap
  · refine ⟨prepared.sameMirror, touches₁, .inr fun found read => ?_⟩
    rw [readGenerationAt, refused] at read
    cases read
  refine safe_settle_bind (fun _ free => ?_) fun e refused => ?_
  swap
  · refine ⟨prepared.sameMirror, touches₁, .inr fun found read => ?_⟩
    by_contra absent
    rw [failIf, if_neg absent] at refused
    cases refused
  refine safe_settle_bind (fun found read => ?_) fun e refused => ?_
  swap
  · refine ⟨prepared.sameMirror, touches₁, .inr fun found read => ?_⟩
    rw [read] at refused
    cases refused
  have canonical := readGenerationAt_canonical read
  obtain ⟨node, staging⟩ : ∃ node, look t₁ (generationPath (stagingName staged.id)) = some node := by
    rw [same]
    cases there : look d (generationPath (stagingName staged.id)) with
    | none => rw [there, readGenerationAt_none] at read; cases read
    | some node => exact ⟨node, rfl⟩
  have unused : look t₁ (generationPath staged.id) = none := by
    rw [same]
    simpa using free
  -- the staged generation gets its name
  obtain ⟨t₂, renamed, unseen, mirror, now⟩ := renamed_hidden touches₁.laid staging unused
  apply safe_perform_bind renamed (keeps t₁ touches₁) _ fun tolerated =>
    ⟨prepared.sameMirror, touches₁, .inl (.now touches₁.laid tolerated)⟩
  have touches₂ : Touches s touched t₂ := touches₁.trans unseen
  have mirror₂ : SameMirror d t₂ := prepared.sameMirror.trans mirror
  apply safe_perform_bind (effect_syncDirectory (isDir_of_look now)) (keeps t₂ touches₂) _
    fun tolerated => ⟨mirror₂, touches₂, .inl (.now touches₂.laid tolerated)⟩
  -- the pointer
  obtain ⟨t₃, written, outside, laid₃, pointer⟩ := effect_write
    (.document (.pointer ⟨staged.id, profileGenerationSchemaVersion⟩)) touches₂.laid
    (show above layout currentGenerationPath = true from rfl) rfl
  apply safe_perform_bind written (keeps t₂ touches₂) _ fun tolerated =>
    ⟨mirror₂, touches₂, .inl (.now touches₂.laid tolerated)⟩
  refine ⟨?_, found, read, (same _).symm.trans unused, ?_, laid₃⟩
  · intro name plain
    rw [outside.same _ (by simp [currentGenerationPath, mirrorPath, profilesRoot, apart_cons])]
    exact mirror₂ name plain
  · refine readCurrentGeneration_pointed (readGenerationPointer_written canonical pointer) ?_
    have kept : look t₃ (generationPath staged.id) = look d (generationPath (stagingName staged.id)) := by
      rw [outside.same _ (by simp [currentGenerationPath, generationPath, generationsRoot,
        apart_cons]), ← same, staging]
      exact now
    rw [kept]
    exact read

/-- After the last call the new records are current; before it, or if a call fails, nothing
is seen of them. -/
theorem publishRecords_safe (publishable : Publishable enc records) (touches : Touches s touched d)
    (keeps : ∀ u, Touches s touched u → inv u) : SafeOn Fresh tolerates inv
      (fun result u => SameMirror d u ∧ match result with
        | .ok _ => (∃ id, readCurrentGeneration enc u = .ok (some ⟨id, sortById records⟩)) ∧
          Laid layout u
        | .error _ => Touches s touched u ∧ Faulted tolerates u)
      (publishRecords enc records) d := by
  refine (stageGeneration_safe publishable touches keeps).attempt ?_
    fun _ _ h => ⟨h.2.1, h.1, h.2.2⟩
  rintro staged t ⟨touches', mirror, canonical, unused, complete⟩
  have back := readGenerationAt_of_holds publishable canonical complete
  refine (publishGeneration_safe touches' keeps).attempt ?_ ?_
  · rintro _ u ⟨mirror', found, read, -, current, laid⟩
    rw [back] at read
    cases read
    exact ⟨mirror.trans mirror', ⟨_, current⟩, laid⟩
  · rintro e u ⟨mirror', touches'', faulted | refused⟩
    · exact ⟨mirror.trans mirror', touches'', faulted⟩
    · have exists_ := refused _ back
      rw [unused] at exists_
      cases exists_

end Steps

end Mish.Profile
