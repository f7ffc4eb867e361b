import Mish.Profile.Publishing

/-!
# The operations of the repository

`Operation.proposal` says which records an operation sets out to publish, by what is
published, and `Operation.safe` what all of them do, whatever fails on the way.
-/

namespace Mish.Profile

open FileSystem Interaction

variable {Bytes : Type} {enc : Encoding Bytes}

/-! ## The mirror's part -/

section Mirror

variable {s d t : Store Bytes} {tolerates inv : Store Bytes → Prop} {id : ProfileId}
  {record : ProfileRecord Bytes}

/-- Of the mirror the directory of one profile is touched, and the generations are not. -/
structure Tends (s : Store Bytes) (id : ProfileId) (t : Store Bytes) : Prop
    extends Touches s (some id) t where
  root : (look t generationsRoot).isSome = (look s generationsRoot).isSome

theorem Unseen.tends (h : Unseen d t) : Tends d id t := ⟨h.touches, h.root⟩

theorem Tends.refl (laid : Laid layout s) : Tends s id s := (Unseen.refl laid).tends

theorem Tends.trans (first : Tends s id d) (second : Tends d id t) : Tends s id t :=
  ⟨first.toTouches.trans second.toTouches, second.root.trans first.root⟩

theorem Tends.not_unpointed (h : Tends s id t) (pointed : ¬ Unpointed s) : ¬ Unpointed t := by
  unfold Unpointed
  rw [h.pointer, h.root]
  exact pointed

theorem tends_of_mirror (outside : Outside (profilePath id) d t) (laid : Laid layout t) :
    Tends d id t := by
  refine ⟨touches_of_mirror (.inr ⟨id, rfl, rfl⟩) outside laid, ?_⟩
  rw [outside.same _ (by simp [profilePath, mirrorPath, profilesRoot, generationsRoot, apart_cons])]

theorem layout_mirror {name} (q : Path) : layout (profilesRoot ++ name :: q) = profileLayout q := by
  simp [profilesRoot, layout]

theorem prepareRoot_safe (tends : Tends s id d) (keeps : ∀ u, Tends s id u → inv u) :
    SafeOn Fresh tolerates inv
      (fun result u => Tends s id u ∧ Unseen d u ∧ match result with
        | .ok _ => True
        | .error _ => Faulted tolerates u)
      (prepareRoot : Repository Bytes PUnit) d := by
  refine (safe_prepare rfl tends.laid fun u prepared =>
    keeps u (tends.trans prepared.unseen.tends)).mono ?_
  rintro result u ⟨prepared, done⟩
  refine ⟨tends.trans prepared.unseen.tends, prepared.unseen, ?_⟩
  cases result with
  | ok _ => trivial
  | error e => exact .now prepared.laid done

/-- The directory of a profile is renamed into its place, or out of it. -/
theorem tends_of_rename {source target} (own : ∀ name, isTransient name = false → name ≠ id.value →
    source ≠ name ∧ target ≠ name) (laid : Laid layout t)
    (others : ∀ q, Apart (profilesRoot ++ [source]) q → Apart (profilesRoot ++ [target]) q →
    look t q = look d q) : Tends d id t := by
  refine ⟨⟨laid, ?_, fun name _ _ => ?_, fun name plain untouched => ?_⟩, ?_⟩
  · apply others <;> simp [profilesRoot, currentGenerationPath, apart_cons]
  · apply others <;> simp [profilesRoot, generationPath, generationsRoot, apart_cons]
  · obtain ⟨fromSource, fromTarget⟩ := own name plain (untouched id rfl)
    exact others _ (apart_names fromSource) (apart_names fromTarget)
  · rw [others] <;> simp [profilesRoot, generationsRoot, apart_cons]

/-- A new directory of the mirror is seen once it is complete. -/
theorem writeNewMirror_safe (tends : Tends s record.id d)
    (free : look d (profilePath record.id) = none)
    (redacted : enc.isRedacted record.metadata.provenance.source = true)
    (keeps : ∀ u, Tends s record.id u → inv u) : SafeOn Fresh tolerates inv
      (fun result u => Tends s record.id u ∧ match result with
        | .ok _ => Holds enc (look u (profilePath record.id)) record
        | .error _ => Faulted tolerates u)
      (writeNewMirror enc (profilePath record.id) record) d := by
  apply safe_newName_bind (keeps d tends)
  intro name fresh
  have transient := isTransient_stagingName name
  have failed : ∀ u, Tends s record.id u → tolerates u →
      Tends s record.id u ∧ Faulted tolerates u :=
    fun u tends tolerated => ⟨tends, .now tends.laid tolerated⟩
  obtain ⟨t₁, made, outside₁, laid₁, -, -⟩ := effect_createPrivateDir tends.laid
    (recordBase_mirror (stagingName name)).clear
    (show layout (mirrorPath (stagingName name)) = true from rfl)
  apply safe_perform_bind made (keeps d tends) _ (failed d tends)
  have hidden : ∀ u, Outside (mirrorPath (stagingName name)) t₁ u → Laid layout u → Unseen d u :=
    fun u outside laid => unseen_of_mirror transient (outside₁.trans outside) laid
  have written : SafeOn Fresh tolerates inv
      (fun result u => match result with
        | .ok _ => Unseen d u ∧ Holds enc (look u (mirrorPath (stagingName name))) record
        | .error _ => Tends s record.id u ∧ Faulted tolerates u)
      (tryCatch (writeRecord enc (mirrorPath (stagingName name)) record) fun error => do
        discardDirectory (mirrorPath (stagingName name))
        throw error) t₁ := by
    refine (writeRecord_safe record laid₁ (recordBase_mirror _) fun u outside laid =>
      keeps u (tends.trans (hidden u outside laid).tends)).rescue ?_ ?_
    · rintro _ u ⟨outside, laid, holds, -⟩
      exact ⟨hidden u outside laid, holds⟩
    · rintro e u ⟨outside, laid, reason⟩
      apply safe_discard_bind laid (keeps u (tends.trans (hidden u outside laid).tends))
      intro t removed laid'
      refine ⟨tends.trans (hidden t (outside.trans removed) laid').tends, ?_⟩
      rcases reason with tolerated | plain
      · exact ⟨u, tolerated, unseen_of_mirror transient removed laid'⟩
      · rw [redacted] at plain
        cases plain
  refine written.attempt ?_ fun _ _ h => h
  rintro _ t₂ ⟨unseen, holds⟩
  have tends₂ : Tends s record.id t₂ := tends.trans unseen.tends
  obtain ⟨entries, found⟩ := holds.directory
  rw [look_nil] at found
  have free₂ : look t₂ (profilesRoot ++ [record.id.value]) = none :=
    (unseen.mirror _ record.id.not_transient).trans free
  obtain ⟨t₃, renamed, laid₃, now, -, others⟩ := effect_rename tends₂.laid
    (recordBase_mirror record.id.value).clear
    (fun q => (layout_mirror q).trans (layout_mirror q).symm) found free₂
  apply safe_perform_bind renamed (keeps t₂ tends₂) _ (failed t₂ tends₂)
  have tends₃ : Tends s record.id t₃ := by
    refine tends₂.trans (tends_of_rename ?_ laid₃ others)
    exact fun other plain differs => ⟨ne_of_transient transient plain, differs.symm⟩
  refine safe_perform (effect_syncDirectory (isDir_of_look now)) (keeps t₃ tends₃)
    ⟨tends₃, ?_⟩ (failed t₃ tends₃)
  rw [found] at holds
  exact now ▸ holds

theorem writeProfileMirror_safe (tends : Tends s record.id d)
    (redacted : enc.isRedacted record.metadata.provenance.source = true)
    (keeps : ∀ u, Tends s record.id u → inv u) : SafeOn Fresh tolerates inv
      (fun result u => Tends s record.id u ∧ match result with
        | .ok _ => Holds enc (look u (profilePath record.id)) record
        | .error _ => Faulted tolerates u)
      (writeProfileMirror enc (profilePath record.id) record) d := by
  apply safe_inspect_bind (keeps d tends)
  by_cases exists_ : (look d (profilePath record.id)).isSome
  swap
  · rw [if_neg exists_]
    exact writeNewMirror_safe tends (by simpa using exists_) redacted keeps
  · rw [if_pos exists_]
    have inside : ∀ u, Outside (profilePath record.id) d u → Laid layout u → Tends s record.id u :=
      fun u outside laid => tends.trans (tends_of_mirror outside laid)
    refine (writeRecord_safe record tends.laid (recordBase_mirror _) fun u outside laid =>
      keeps u (inside u outside laid)).mono ?_
    rintro result u ⟨outside, laid, done⟩
    refine ⟨inside u outside laid, ?_⟩
    cases result with
    | ok _ => exact done.1
    | error e =>
      rcases done with tolerated | plain
      · exact .now laid tolerated
      · rw [redacted] at plain
        cases plain

theorem dropMirror_safe (tends : Tends s id d) (exists_ : (look d (profilePath id)).isSome)
    (keeps : ∀ u, Tends s id u → inv u) : SafeOn Fresh tolerates inv
      (fun result u => Tends s id u ∧ match result with
        | .ok _ => look u (profilePath id) = none
        | .error _ => Faulted tolerates u)
      (dropMirror (profilePath id) : Repository Bytes PUnit) d := by
  apply safe_newName_bind (keeps d tends)
  intro name fresh
  have transient := isTransient_deletingName name
  have failed : ∀ u, Tends s id u → tolerates u → Tends s id u ∧ Faulted tolerates u :=
    fun u tends tolerated => ⟨tends, .now tends.laid tolerated⟩
  obtain ⟨node, found⟩ := Option.isSome_iff_exists.1 exists_
  have free : look d (profilesRoot ++ [deletingName name]) = none :=
    fresh.2 profilesRoot (by simp) (deletingName name) (by simp)
  obtain ⟨t₁, renamed, laid₁, now, gone, others⟩ := effect_rename tends.laid
    (recordBase_mirror (deletingName name)).clear
    (fun q => (layout_mirror q).trans (layout_mirror q).symm) found free
  apply safe_perform_bind renamed (keeps d tends) _ (failed d tends)
  have tends₁ : Tends s id t₁ := by
    refine tends.trans (tends_of_rename ?_ laid₁ others)
    exact fun other plain differs => ⟨differs.symm, ne_of_transient transient plain⟩
  have root₁ : IsDir t₁ profilesRoot := isDir_of_look now
  apply safe_perform_bind (effect_syncDirectory root₁) (keeps t₁ tends₁) _ (failed t₁ tends₁)
  have dir : IsDir t₁ (mirrorPath (deletingName name)) := by
    have is : node.isDirectory = true := laid₁ (mirrorPath (deletingName name)) node now
    cases node with
    | directory entries => exact ⟨entries, now⟩
    | file contents => cases is
  obtain ⟨t₂, removed, outside₂, laid₂, -⟩ := effect_removeDirAll laid₁ dir
  apply safe_perform_bind removed (keeps t₁ tends₁) _ (failed t₁ tends₁)
  have unseen : Unseen t₁ t₂ := unseen_of_mirror transient outside₂ laid₂
  have tends₂ : Tends s id t₂ := tends₁.trans unseen.tends
  have root₂ : IsDir t₂ profilesRoot := outside₂.stays profilesRoot _ [] rfl root₁
  refine safe_perform (effect_syncDirectory root₂) (keeps t₂ tends₂) ⟨tends₂, ?_⟩ (failed t₂ tends₂)
  exact (unseen.mirror _ id.not_transient).trans gone

end Mirror

/-! ## Operations -/

inductive Operation (Bytes : Type) where
  | save (record : ProfileRecord Bytes)
  | update (record : ProfileRecord Bytes)
  | replaceSource (record : ProfileRecord Bytes)
  | delete (id : ProfileId)
  | publishRecords (records : List (ProfileRecord Bytes))
  | stage (records : List (ProfileRecord Bytes))
  | publish (staged : StagedProfileGeneration)

namespace Operation

def program (enc : Encoding Bytes) : Operation Bytes → Repository Bytes PUnit
  | .save record => Profile.save enc record
  | .update record => Profile.update enc record
  | .replaceSource record => Profile.replaceSource enc record
  | .delete id => Profile.delete enc id
  | .publishRecords records => Profile.publishRecords enc records
  | .stage records => do let _ ← stageGeneration enc records
  | .publish staged => do let _ ← publishGeneration enc staged

/-- The profile whose directory in the mirror the operation changes. -/
def touched : Operation Bytes → Option ProfileId
  | .save record | .update record | .replaceSource record => some record.id
  | .delete id => some id
  | .publishRecords _ | .stage _ | .publish _ => none

def replacement (enc : Encoding Bytes) (s : Store Bytes) (sameSource : Bool)
    (record : ProfileRecord Bytes) : Except RepositoryError (List (ProfileRecord Bytes)) := do
  validateRecord enc record
  let current ← currentRecordsForWrite enc s
  let index ← position current record.id
  failIf (sameSource ∧ (current[index]?).map ProfileRecord.source ≠ some record.source)
    .integrityMismatch
  return current.set index record

/-- The records the operation sets out to publish, by what is published: what the operation
means for the list of records. -/
def proposal (enc : Encoding Bytes) (s : Store Bytes) :
    Operation Bytes → Except RepositoryError (List (ProfileRecord Bytes))
  | .save record => do
    validateRecord enc record
    let current ← currentRecordsForWrite enc s
    failIf (∃ existing ∈ current, existing.id = record.id) .alreadyExists
    return current ++ [record]
  | .update record => replacement enc s true record
  | .replaceSource record => replacement enc s false record
  | .delete id => do
    let current ← currentRecordsForWrite enc s
    let index ← position current id
    return current.eraseIdx index
  | .publishRecords records | .stage records => .ok records
  | .publish staged => do
    let found ← readGenerationAt enc (look s (generationPath (stagingName staged.id))) staged.id
    failIf (look s (generationPath staged.id)).isSome .atomicWriteFailed
    return found.profiles

/-- The records as the reader lists them. A staged generation is in order already. -/
def outcome : Operation Bytes → List (ProfileRecord Bytes) → List (ProfileRecord Bytes)
  | .publish _, records => records
  | _, records => sortById records

/-- Staging alone publishes nothing. -/
def publishes : Operation Bytes → Bool
  | .stage _ => false
  | _ => true

/-- The operation's profile has no directory in the mirror, if it is to get a new one. -/
def Clear (s : Store Bytes) : Operation Bytes → Prop
  | .save record => look s (profilePath record.id) = none
  | _ => True

/-- The operation stays within the store's limits. A generation is staged or published by
itself only in a store that has published before. -/
def Admissible (enc : Encoding Bytes) (s : Store Bytes) (o : Operation Bytes) : Prop :=
  match o with
  | .stage records =>
    (look s currentGenerationPath).isSome ∧ Publishable enc records
  | .publish _ => (look s currentGenerationPath).isSome
  | o => ∀ records, o.proposal enc s = .ok records → Publishable enc records

/-- What the mirror has after the operation. -/
def Mirrored (enc : Encoding Bytes) (s t : Store Bytes) (o : Operation Bytes) : Prop :=
  (∀ name, isTransient name = false → (∀ id, o.touched = some id → name ≠ id.value) →
    look t (mirrorPath name) = look s (mirrorPath name)) ∧
  match o with
  | .save record | .update record | .replaceSource record =>
    Holds enc (look t (profilePath record.id)) record
  | .delete id => look t (profilePath id) = none
  | _ => True

/-- What the operation leaves when it returns. -/
def Ends (enc : Encoding Bytes) (tolerates : Store Bytes → Prop) (s : Store Bytes)
    (o : Operation Bytes) : Except RepositoryError PUnit → Store Bytes → Prop
  | .ok _, t => Laid layout t ∧ o.Mirrored enc s t ∧ ∃ records, o.proposal enc s = .ok records ∧
    (o.publishes = true → ∃ id, readCurrentGeneration enc t = .ok (some ⟨id, o.outcome records⟩)) ∧
    (o.publishes = false → Touches s none t)
  | .error _, t => Touches s o.touched t ∧
    ((Faulted tolerates t ∧ (¬ Unpointed t ∨
      (o.Mirrored enc s t ∧ ∃ records, o.proposal enc s = .ok records))) ∨
    (¬ Unpointed t ∧ SameMirror s t ∧ ¬ (o.Clear s ∧ ∃ records, o.proposal enc s = .ok records)))

section

variable {s : Store Bytes} {tolerates : Store Bytes → Prop} {o : Operation Bytes}
  {e : RepositoryError} {t : Store Bytes} {id : ProfileId} {records : List (ProfileRecord Bytes)}
  {d : Store Bytes} {record : ProfileRecord Bytes}

theorem ends_refused (pointed : ¬ Unpointed s) (unseen : Unseen s t)
    (refused : ¬ (o.Clear s ∧ ∃ records, o.proposal enc s = .ok records)) :
    o.Ends enc tolerates s (.error e) t :=
  ⟨unseen.touches, .inr ⟨unseen.unpointed_iff.not.2 pointed, unseen.mirror, refused⟩⟩

/-- Nothing is proposed, and nothing is done. -/
theorem ends_unproposed (laid : Laid layout s) (pointed : ¬ Unpointed s)
    (unproposed : o.proposal enc s = .error e) : o.Ends enc tolerates s (.error e) s := by
  refine ends_refused pointed (.refl laid) ?_
  rintro ⟨-, records, proposed⟩
  rw [unproposed] at proposed
  cases proposed

/-- A check that the proposal makes too: it goes on, or nothing is proposed. -/
theorem safe_proposing {α : Type} {x} {k : α → Except RepositoryError (List (ProfileRecord Bytes))}
    {f : α → Repository Bytes PUnit} {inv : Store Bytes → Prop} (laid : Laid layout s)
    (pointed : ¬ Unpointed s) (proposes : o.proposal enc s = x >>= k) (next : ∀ a, x = .ok a →
    o.proposal enc s = k a → SafeOn Fresh tolerates inv (o.Ends enc tolerates s) (f a) s) :
    SafeOn Fresh tolerates inv (o.Ends enc tolerates s) (settle x >>= f) s := by
  refine safe_settle_bind (fun a is => next a is ?_) fun e refused => ?_
  · rw [proposes, is]
    rfl
  · have unproposed : o.proposal enc s = .error e := by
      rw [proposes, refused]
      rfl
    exact ends_unproposed laid pointed unproposed

/-- The mirror's part of the operation failed. -/
theorem ends_tended (own : o.touched = some id) (pointed : ¬ Unpointed s) (tends : Tends s id t)
    (faulted : Faulted tolerates t) : o.Ends enc tolerates s (.error e) t :=
  ⟨own ▸ tends.toTouches, .inl ⟨faulted, .inl (tends.not_unpointed pointed)⟩⟩

/-- A publication ends an operation that proposed these records. -/
theorem ends_publishRecords (touches : Touches s o.touched d)
    (publishable : Publishable enc records) (proposed : o.proposal enc s = .ok records)
    (listed : o.outcome records = sortById records) (publishes : o.publishes = true)
    (mirrored : ∀ t, SameMirror d t → o.Mirrored enc s t) :
    SafeOn Fresh tolerates (Touches s o.touched) (o.Ends enc tolerates s)
    (Profile.publishRecords enc records) d := by
  refine (publishRecords_safe publishable touches fun u h => h).mono ?_
  rintro result u ⟨mirror, done⟩
  cases result with
  | error e => exact ⟨done.1, .inl ⟨done.2, .inr ⟨mirrored u mirror, records, proposed⟩⟩⟩
  | ok _ =>
    obtain ⟨⟨id, current⟩, laid⟩ := done
    refine ⟨laid, mirrored u mirror, records, proposed, fun _ => ⟨id, listed ▸ current⟩, ?_⟩
    rw [publishes]
    exact nofun

/-- What was touched before the publication stays as it is. -/
theorem mirrored_others (touches : Touches s o.touched d) (mirror : SameMirror d t) :
    ∀ name, isTransient name = false → (∀ id, o.touched = some id → name ≠ id.value) →
    look t (mirrorPath name) = look s (mirrorPath name) :=
  fun name plain untouched => (mirror name plain).trans (touches.mirror name plain untouched)

theorem save_safe (laid : Laid layout s) (pointed : ¬ Unpointed s)
    (admissible : (save record).Admissible enc s) :
    SafeOn Fresh tolerates (Touches s (some record.id))
    ((save record).Ends enc tolerates s) (Profile.save enc record) s := by
  have start : Touches s (some record.id) s := .refl laid
  refine safe_proposing laid pointed (by rfl) fun _ _ proposes => ?_
  apply safe_inspect_bind start
  refine safe_proposing laid pointed proposes fun current _ proposes => ?_
  refine safe_proposing laid pointed proposes fun _ _ proposed => ?_
  have publishable : Publishable enc (current ++ [record]) := admissible _ proposed
  refine (prepareRoot_safe (.refl laid) fun u h => h.toTouches).attempt ?_
    fun e u h => ends_tended rfl pointed h.1 h.2.2
  rintro _ t₁ ⟨tends₁, unseen, -⟩
  apply safe_inspect_bind tends₁.toTouches
  refine safe_settle_bind (fun _ free => ?_) fun e refused => ?_
  swap
  · refine ends_refused pointed unseen ?_
    rintro ⟨clear, -⟩
    have free : look t₁ (profilePath record.id) = none :=
      (unseen.mirror _ record.id.not_transient).trans clear
    rw [free] at refused
    cases refused
  have free₁ : look t₁ (profilePath record.id) = none := by simpa using free
  have redacted := publishable.redacted record (by simp)
  refine (writeNewMirror_safe tends₁ free₁ redacted fun u h => h.toTouches).attempt ?_
    fun e u h => ends_tended rfl pointed h.1 h.2
  rintro _ t₂ ⟨tends₂, holds⟩
  refine ends_publishRecords tends₂.toTouches publishable proposed rfl rfl ?_
  intro t mirror
  refine ⟨mirrored_others tends₂.toTouches mirror, ?_⟩
  change Holds enc (look t (mirrorPath record.id.value)) record
  rw [mirror _ record.id.not_transient]
  exact holds

theorem position_id {index} (found : position records id = .ok index) :
    ∃ record, records[index]? = some record ∧ record.id = id := by
  unfold position at found
  cases at_ : records.findIdx? (·.id = id) with
  | none => rw [at_] at found; cases found
  | some index =>
    rw [at_] at found
    cases found
    obtain ⟨bound, is, -⟩ := List.findIdx?_eq_some_iff_getElem.1 at_
    exact ⟨records[index], List.getElem?_eq_getElem bound, by simpa using is⟩

theorem position_lt {index} (found : position records id = .ok index) : index < records.length := by
  obtain ⟨record, is, -⟩ := position_id found
  exact (List.getElem?_eq_some_iff.1 is).1

/-- `update` and `replace_source` in one. -/
theorem replaceRecord_safe {sameSource : Bool}
    (is : o = .update record ∧ sameSource = true ∨ o = .replaceSource record ∧ sameSource = false)
    (laid : Laid layout s) (pointed : ¬ Unpointed s) (admissible : o.Admissible enc s) :
    SafeOn Fresh tolerates (Touches s (some record.id))
    (o.Ends enc tolerates s) (replaceRecord enc sameSource record) s := by
  have own : o.touched = some record.id := by rcases is with ⟨rfl, -⟩ | ⟨rfl, -⟩ <;> rfl
  have proposes : o.proposal enc s = replacement enc s sameSource record := by
    rcases is with ⟨rfl, rfl⟩ | ⟨rfl, rfl⟩ <;> rfl
  have start : Touches s (some record.id) s := .refl laid
  refine safe_proposing laid pointed proposes fun _ _ proposes => ?_
  apply safe_inspect_bind start
  refine safe_proposing laid pointed proposes fun current _ proposes => ?_
  refine safe_proposing laid pointed proposes fun index found proposes => ?_
  refine safe_proposing laid pointed proposes fun _ _ proposed => ?_
  have publishable : Publishable enc (current.set index record) := by
    rcases is with ⟨rfl, -⟩ | ⟨rfl, -⟩ <;> exact admissible _ proposed
  refine (prepareRoot_safe (.refl laid) fun u h => h.toTouches).attempt ?_
    fun e u h => ends_tended own pointed h.1 h.2.2
  rintro _ t₁ ⟨tends₁, -, -⟩
  have redacted := publishable.redacted record (List.mem_set (position_lt found) record)
  refine (writeProfileMirror_safe tends₁ redacted fun u h => h.toTouches).attempt ?_
    fun e u h => ends_tended own pointed h.1 h.2
  rintro _ t₂ ⟨tends₂, holds⟩
  have touches₂ := tends₂.toTouches
  rw [← own] at touches₂ ⊢
  refine ends_publishRecords touches₂ publishable proposed ?_ ?_ ?_
  · rcases is with ⟨rfl, -⟩ | ⟨rfl, -⟩ <;> rfl
  · rcases is with ⟨rfl, -⟩ | ⟨rfl, -⟩ <;> rfl
  · intro t mirror
    refine ⟨mirrored_others touches₂ mirror, ?_⟩
    have now : Holds enc (look t (profilePath record.id)) record := by
      change Holds enc (look t (mirrorPath record.id.value)) record
      rw [mirror _ record.id.not_transient]
      exact holds
    rcases is with ⟨rfl, -⟩ | ⟨rfl, -⟩ <;> exact now

theorem delete_safe (laid : Laid layout s) (pointed : ¬ Unpointed s)
    (admissible : (delete id : Operation Bytes).Admissible enc s) :
    SafeOn Fresh tolerates (Touches s (some id))
    ((delete id).Ends enc tolerates s) (Profile.delete enc id) s := by
  have start : Touches s (some id) s := .refl laid
  apply safe_inspect_bind start
  refine safe_proposing laid pointed (by rfl) fun current _ proposes => ?_
  refine safe_proposing laid pointed proposes fun index _ proposed => ?_
  have publishable : Publishable enc (current.eraseIdx index) := admissible _ proposed
  have dropped : SafeOn Fresh tolerates (Touches s (some id))
      (fun result u => Tends s id u ∧ match result with
        | .ok _ => look u (profilePath id) = none
        | .error _ => Faulted tolerates u)
      (dropMirrorOf s id) s := by
    unfold dropMirrorOf
    by_cases exists_ : (look s (profilePath id)).isSome
    · rw [if_pos exists_]
      exact dropMirror_safe (.refl laid) exists_ fun u h => h.toTouches
    · rw [if_neg exists_]
      exact ⟨.refl laid, by simpa using exists_⟩
  refine dropped.attempt ?_ fun e u h => ends_tended rfl pointed h.1 h.2
  rintro _ t₁ ⟨tends₁, gone⟩
  refine ends_publishRecords tends₁.toTouches publishable proposed rfl rfl ?_
  intro t mirror
  exact ⟨mirrored_others tends₁.toTouches mirror, (mirror _ id.not_transient).trans gone⟩

/-- Up to its last call an operation only touches; then it ends as it says. -/
theorem safe (laid : Laid layout s) (pointed : ¬ Unpointed s) (admissible : o.Admissible enc s) :
    SafeOn Fresh tolerates (Touches s o.touched) (o.Ends enc tolerates s) (o.program enc) s := by
  cases o with
  | save record => exact save_safe laid pointed admissible
  | update record => exact replaceRecord_safe (.inl ⟨rfl, rfl⟩) laid pointed admissible
  | replaceSource record => exact replaceRecord_safe (.inr ⟨rfl, rfl⟩) laid pointed admissible
  | delete id => exact delete_safe laid pointed admissible
  | publishRecords records =>
    exact ends_publishRecords (.refl laid) (admissible records rfl) rfl rfl rfl
      fun t mirror => ⟨fun name plain _ => mirror name plain, trivial⟩
  | stage records =>
    refine (stageGeneration_safe admissible.2 (.refl laid) fun u h => h).attempt ?_ ?_
    · rintro staged u ⟨touches, mirror, -⟩
      exact ⟨touches.laid, ⟨fun name plain _ => mirror name plain, trivial⟩, records, rfl, nofun,
        fun _ => touches⟩
    · rintro e u ⟨touches, mirror, faulted⟩
      exact ⟨touches, .inl ⟨faulted, .inr ⟨⟨fun name plain _ => mirror name plain, trivial⟩,
        records, rfl⟩⟩⟩
  | publish staged =>
    refine (publishGeneration_safe (.refl laid) fun u h => h).attempt ?_ ?_
    · rintro id u ⟨mirror, found, read, unused, current, laid'⟩
      refine ⟨laid', ⟨fun name plain _ => mirror name plain, trivial⟩, found.profiles, ?_,
        fun _ => ⟨found.id, current⟩, nofun⟩
      rw [proposal, read, ok_bind, failIf_bind (by simp [unused])]
      rfl
    · rintro e u ⟨mirror, touches, reason⟩
      have pointed' : ¬ Unpointed u := by
        rintro ⟨absent, -⟩
        have present := admissible
        rw [Admissible, ← touches.pointer, absent] at present
        cases present
      rcases reason with faulted | refused
      · exact ⟨touches, .inl ⟨faulted, .inl pointed'⟩⟩
      · refine ⟨touches, .inr ⟨pointed', mirror, ?_⟩⟩
        rintro ⟨-, records, proposed⟩
        obtain ⟨found, read, proposed⟩ := bind_ok proposed
        obtain ⟨⟨⟩, free, -⟩ := bind_ok proposed
        have exists_ := refused found read
        rw [failIf_ok] at free
        exact free exists_

end

end Operation

end Mish.Profile
