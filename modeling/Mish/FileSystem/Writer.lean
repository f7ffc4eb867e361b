import Mish.FileSystem.Tree
import Mish.Interaction.Program

/-!
# Programs on a disk whose calls may fail

A call that cannot be done fails; a call that can be done is done as a whole, or fails
without effect where the disk `tolerates` it.
-/

namespace FileSystem

open Interaction

variable {γ : Type}

inductive Request (γ : Type) where
  | perform (call : Call γ)
  | newName
  | inspect

def Reply : Request γ → Type
  | .perform _ => Bool
  | .newName => String
  | .inspect => Disk γ

abbrev Action (γ : Type) := Program (Request γ) Reply

/-- `fresh d name`: in `d` the name may be drawn as a new one. -/
def faulty (fresh : Disk γ → String → Prop) (tolerates : Disk γ → Prop) :
    Environment (Request γ) Reply (Disk γ)
  | d, .perform call, done, t =>
    (done = true ∧ call.effect d = some t) ∨
      (done = false ∧ t = d ∧ (call.effect d = none ∨ tolerates d))
  | d, .newName, name, t => fresh d name ∧ t = d
  | d, .inspect, seen, t => seen = d ∧ t = d

/-- The calls that are done are kept, the latest first. Whether a call may fail depends on those
before it. -/
def faultyAfter (fresh : Disk γ → String → Prop) (tolerates : List (Call γ) → Prop) :
    Environment (Request γ) Reply (Disk γ × List (Call γ)) := fun s r reply t =>
  faulty fresh (fun _ => tolerates s.2) s.1 r reply t.1 ∧ t.2 =
    match r, reply with
    | .perform call, true => call :: s.2
    | _, _ => s.2

/-- What is known of the disk after the calls tells where one may fail. -/
theorem exec_faulty {α : Type} {fresh tolerates} {tolerates' : Disk γ → Prop}
    {p q : Action γ α} {s t} (known : List (Call γ) → Disk γ → Prop)
    (kept : ∀ done d call t, known done d → call.effect d = some t → known (call :: done) t)
    (sound : ∀ done d, known done d → tolerates done → tolerates' d) (h : known s.2 s.1)
    (exec : Exec (faultyAfter fresh tolerates) p s q t) :
    Exec (faulty fresh tolerates') p s.1 q t.1 := by
  induction exec with
  | stop p s => exact .stop _ _
  | @step r next s u t reply q e _ ih =>
    obtain ⟨answered, logged⟩ := e
    cases r with
    | inspect | newName =>
      refine .step answered (ih ?_)
      rw [logged, answered.2]
      exact h
    | perform call =>
      rcases answered with ⟨rfl, done⟩ | ⟨rfl, same, refused⟩
      · refine .step (.inl ⟨rfl, done⟩) (ih ?_)
        rw [logged]
        exact kept _ _ _ _ h done
      · refine .step (.inr ⟨rfl, same, refused.imp_right (sound _ _ h)⟩) (ih ?_)
        rw [logged, same]
        exact h

/-- A call, with the error it fails with. -/
def perform {ε : Type} (error : ε) (call : Call γ) : ExceptT ε (Action γ) PUnit := do
  let done : Bool ← (request (Request.perform call) : Action γ Bool)
  if done then pure ⟨⟩ else throw error

def newName {ε : Type} : ExceptT ε (Action γ) String := (request Request.newName : Action γ String)

def inspect {ε : Type} : ExceptT ε (Action γ) (Disk γ) :=
  (request Request.inspect : Action γ (Disk γ))

/-- `Safe` on such a disk, for a program that may be stopped only where `inv` holds. -/
abbrev SafeOn {ε β : Type} (fresh : Disk γ → String → Prop) (tolerates inv : Disk γ → Prop)
    (post : Except ε β → Disk γ → Prop) (p : ExceptT ε (Action γ) β) (d : Disk γ) : Prop :=
  Safe (faulty fresh tolerates) (fun d _ => inv d) post p.run d

section Rules

variable {ε : Type} {fresh : Disk γ → String → Prop} {tolerates inv : Disk γ → Prop} {d : Disk γ}
  {call : Call γ} {t : Disk γ} {β : Type} {post : Except ε β → Disk γ → Prop}

theorem safe_perform {error : ε} {post} (possible : call.effect d = some t) (here : inv d)
    (ok : post (.ok ⟨⟩) t) (failed : tolerates d → post (.error error) d) :
    SafeOn fresh tolerates inv post (perform error call) d := by
  refine ⟨here, ?_⟩
  rintro done u (⟨rfl, now⟩ | ⟨rfl, rfl, refused⟩)
  · cases possible.symm.trans now
    exact ok
  · exact failed (refused.resolve_left (possible ▸ nofun))

/-- A call, followed by what is done when it did not fail. -/
theorem safe_perform_bind {error next} (possible : call.effect d = some t) (here : inv d)
    (ok : SafeOn fresh tolerates inv post (next ⟨⟩) t) (failed : tolerates d →
    post (.error error) d) : SafeOn fresh tolerates inv post (perform error call >>= next) d := by
  refine ⟨here, ?_⟩
  rintro done u (⟨rfl, now⟩ | ⟨rfl, rfl, refused⟩)
  · cases possible.symm.trans now
    exact ok
  · exact failed (refused.resolve_left (possible ▸ nofun))

theorem safe_newName_bind {next} (here : inv d)
    (ok : ∀ name, fresh d name → SafeOn fresh tolerates inv post (next name) d) :
    SafeOn fresh tolerates inv post (newName >>= next) d := by
  refine ⟨here, ?_⟩
  rintro name u ⟨new, rfl⟩
  exact ok name new

theorem safe_inspect_bind {next} (here : inv d) (ok : SafeOn fresh tolerates inv post (next d) d) :
    SafeOn fresh tolerates inv post (inspect >>= next) d := by
  refine ⟨here, ?_⟩
  rintro seen u ⟨rfl, rfl⟩
  exact ok

end Rules

/-! ## Given runs -/

inductive Answer where
  | done
  | failed
  | named (name : String)

/-- The run in which the requests get these answers, up to the first that cannot. -/
def replay {α : Type} (isFresh : Disk γ → String → Bool) (mayFail : List (Call γ) → Bool) :
    Action γ α → List Answer → Disk γ × List (Call γ) → Action γ α × Disk γ × List (Call γ)
  | .done a, _, s => (.done a, s)
  | .call .inspect next, answers, s => replay isFresh mayFail (next s.1) answers s
  | .call (.perform call) next, .done :: answers, s =>
    match call.effect s.1 with
    | some t => replay isFresh mayFail (next true) answers (t, call :: s.2)
    | none => (.call (.perform call) next, s)
  | .call (.perform call) next, .failed :: answers, s =>
    if mayFail s.2 then replay isFresh mayFail (next false) answers s
    else (.call (.perform call) next, s)
  | .call .newName next, .named name :: answers, s =>
    if isFresh s.1 name then replay isFresh mayFail (next name) answers s
    else (.call .newName next, s)
  | p, _, s => (p, s)

theorem exec_replay {α : Type} {fresh isFresh tolerates mayFail}
    (sound : ∀ d name, isFresh d name = true → fresh d name)
    (may : ∀ done, mayFail done = true → tolerates done) (p : Action γ α) (answers : List Answer)
    (s : Disk γ × List (Call γ)) : Exec (faultyAfter fresh tolerates) p s
    (replay isFresh mayFail p answers s).1 (replay isFresh mayFail p answers s).2 := by
  induction p generalizing answers s with
  | done a => exact .stop _ _
  | call r next ih =>
    cases r with
    | inspect => exact .step ⟨⟨rfl, rfl⟩, rfl⟩ (ih s.1 answers s)
    | newName =>
      cases answers with
      | nil => exact .stop _ _
      | cons answer answers =>
        cases answer with
        | done | failed => exact .stop _ _
        | named name =>
          simp only [replay]
          split
          · rename_i new
            exact .step ⟨⟨sound s.1 name new, rfl⟩, rfl⟩ (ih name answers s)
          · exact .stop _ _
    | perform call =>
      cases answers with
      | nil => exact .stop _ _
      | cons answer answers =>
        cases answer with
        | named name => exact .stop _ _
        | failed =>
          simp only [replay]
          split
          · rename_i tolerated
            exact .step ⟨.inr ⟨rfl, rfl, .inr (may _ tolerated)⟩, rfl⟩ (ih false answers s)
          · exact .stop _ _
        | done =>
          simp only [replay]
          cases effect : call.effect s.1 with
          | none => exact .stop _ _
          | some t => exact .step ⟨.inl ⟨rfl, effect⟩, rfl⟩ (ih true answers (t, call :: s.2))

end FileSystem
