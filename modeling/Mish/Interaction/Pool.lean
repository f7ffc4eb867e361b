import Mathlib.Logic.Function.Basic
import Mathlib.Logic.Relation
import Mish.Interaction.Program

/-!
# Programs that run interleaved

A pool holds programs at work on one state. Any of them may make its next request,
start another, end, or be dropped.
-/

namespace Interaction

section
variable {Request : Type} {Reply : Request → Type} {State α β : Type}

/-- The programs at work, by number, and the number of the next one. -/
structure Pool (Request : Type) (Reply : Request → Type) (State α : Type) where
  state : State
  thread : Nat → Option (Program Request Reply α)
  next : Nat

/-- What a pool is made of: what a request does to the state, by the thread that
makes it and the number the next thread will have; the program a request starts;
the programs that are started from outside; and what is released when a thread
ends or is dropped. -/
structure Concurrent (Request : Type) (Reply : Request → Type) (State α : Type) where
  env : Nat → Nat → Environment Request Reply State
  fork : (r : Request) → Reply r → Option (Program Request Reply α)
  launches : Program Request Reply α → Prop
  leaves : Nat → Program Request Reply α → State → State → Prop

namespace Pool

def start (s : State) : Pool Request Reply State α := ⟨s, fun _ => none, 0⟩

/-- A new thread. -/
def add (pool : Pool Request Reply State α) (p : Program Request Reply α) :
    Pool Request Reply State α :=
  ⟨pool.state, Function.update pool.thread pool.next (some p), pool.next + 1⟩

def addAll (pool : Pool Request Reply State α) : Option (Program Request Reply α) →
    Pool Request Reply State α
  | none => pool
  | some p => pool.add p

/-- Thread `i` goes on as `p`, in the state `t`. -/
def set (pool : Pool Request Reply State α) (i : Nat) (p : Option (Program Request Reply α))
    (t : State) : Pool Request Reply State α :=
  ⟨t, Function.update pool.thread i p, pool.next⟩

/-- One step, with requests made only where `admits` holds of them. -/
inductive Step (c : Concurrent Request Reply State α) (admits : State → Request → Prop) :
    Pool Request Reply State α → Pool Request Reply State α → Prop where
  | launch {pool} (p : Program Request Reply α) : c.launches p → Step c admits pool (pool.add p)
  | request {pool} (i : Nat) {r next a t} :
      pool.thread i = some (.call r next) → admits pool.state r →
      c.env i pool.next pool.state r a t →
      Step c admits pool ((pool.set i (some (next a)) t).addAll (c.fork r a))
  | leave {pool} (i : Nat) {p t} :
      pool.thread i = some p → c.leaves i p pool.state t → Step c admits pool (pool.set i none t)

/-- The pools a state develops into. -/
abbrev Reach (c : Concurrent Request Reply State α) (admits : State → Request → Prop) :
    Pool Request Reply State α → Pool Request Reply State α → Prop :=
  Relation.ReflTransGen (Step c admits)

end Pool

/-- What the threads of a pool keep to: an invariant, by the number of threads so far; what
the others do to the state, as thread `i` sees it; and what thread `i` may ask. -/
structure Discipline (Request State : Type) where
  inv : Nat → State → Prop
  rely : Nat → State → State → Prop
  allowed : Nat → State → Request → Prop

/-- Every request that the program makes as thread `i` is allowed, and its result satisfies
`post`, in every state the others may have made of the one it left. -/
def Assured (c : Concurrent Request Reply State α) (d : Discipline Request State) (i : Nat)
    (post : β → State → Prop) : Program Request Reply β → State → Prop
  | .done b, s => ∀ n s', d.rely i s s' → i < n → d.inv n s' → post b s'
  | .call r next, s => ∀ n s', d.rely i s s' → i < n → d.inv n s' → d.allowed i s' r ∧
      ∀ a t, c.env i n s' r a t → Assured c d i post (next a) t

variable {c : Concurrent Request Reply State α} {d : Discipline Request State}
  {admits : State → Request → Prop} {post : β → State → Prop} {i : Nat}
  {p : Program Request Reply β} {s : State}

theorem Assured.later {s t} (trans : ∀ {a b c}, d.rely i a b → d.rely i b c → d.rely i a c)
    (h : Assured c d i post p s) (moved : d.rely i s t) : Assured c d i post p t := by
  cases p with
  | done b => exact fun n s' on => h n s' (trans moved on)
  | call r next => exact fun n s' on => h n s' (trans moved on)

theorem Assured.mono {post'} (h : Assured c d i post p s)
    (weaker : ∀ b t, post b t → post' b t) : Assured c d i post' p s := by
  induction p generalizing s with
  | done b => exact fun n s' on here holds => weaker b s' (h n s' on here holds)
  | call r next ih =>
    intro n s' on here holds
    obtain ⟨ok, later⟩ := h n s' on here holds
    exact ⟨ok, fun a t e => ih a (later a t e)⟩

/-- It is enough to be assured once the others have acted. -/
theorem Assured.of_rely (refl : ∀ s, d.rely i s s) (h : ∀ n t, d.rely i s t → i < n → d.inv n t →
    Assured c d i post p t) : Assured c d i post p s := by
  cases p with
  | done b => exact fun n t on here holds => h n t on here holds n t (refl t) here holds
  | call r next => exact fun n t on here holds => h n t on here holds n t (refl t) here holds

theorem Assured.bind {γ : Type} {mid} {post : γ → State → Prop} {f}
    (refl : ∀ s, d.rely i s s) (first : Assured c d i mid p s)
    (later : ∀ b t, mid b t → Assured c d i post (f b) t) : Assured c d i post (p >>= f) s := by
  induction p generalizing s with
  | done b => exact .of_rely refl fun n t on here holds => later b t (first n t on here holds)
  | call r next ih =>
    intro n s' on here holds
    obtain ⟨ok, goesOn⟩ := first n s' on here holds
    exact ⟨ok, fun a t e => ih a (goesOn a t e)⟩

/-- What makes the invariant hold of a pool, and the programs in it assured. -/
structure Discipline.Sound (d : Discipline Request State)
    (c : Concurrent Request Reply State α) (admits : State → Request → Prop) : Prop where
  refl : ∀ i s, d.rely i s s
  trans : ∀ {i s t u}, d.rely i s t → d.rely i t u → d.rely i s u
  grow : ∀ {n s}, d.inv n s → d.inv (n + 1) s
  request : ∀ {i n s r a t}, i < n → d.inv n s → admits s r → d.allowed i s r →
    c.env i n s r a t → d.inv n t ∧ ∀ j, j ≠ i → d.rely j s t
  leave : ∀ {i n p s t}, d.inv n s → c.leaves i p s t → d.inv n t ∧ ∀ j, j ≠ i → d.rely j s t
  launch : ∀ {n p s}, d.inv n s → c.launches p → Assured c d n (fun _ _ => True) p s
  fork : ∀ {i n s r a t p}, d.inv n s → d.allowed i s r → c.env i n s r a t →
    c.fork r a = some p → Assured c d n (fun _ _ => True) p t

/-- The invariant holds, and every thread is assured. -/
structure Pool.Upheld (c : Concurrent Request Reply State α) (d : Discipline Request State)
    (pool : Pool Request Reply State α) : Prop where
  inv : d.inv pool.next pool.state
  bound : ∀ i p, pool.thread i = some p → i < pool.next
  assured : ∀ i p, pool.thread i = some p → Assured c d i (fun _ _ => True) p pool.state

variable {pool pool' : Pool Request Reply State α}

theorem Pool.Upheld.add {p} (sound : d.Sound c admits) (h : pool.Upheld c d)
    (new : Assured c d pool.next (fun _ _ => True) p pool.state) : (pool.add p).Upheld c d := by
  have cases_ : ∀ i q, (pool.add p).thread i = some q →
      (i = pool.next ∧ q = p) ∨ pool.thread i = some q := by
    intro i q found
    by_cases same : i = pool.next
    · subst same
      simp only [Pool.add, Function.update_self, Option.some.injEq] at found
      exact .inl ⟨rfl, found.symm⟩
    · simp only [Pool.add, Function.update_of_ne same] at found
      exact .inr found
  refine ⟨sound.grow h.inv, fun i q found => ?_, fun i q found => ?_⟩
  · rcases cases_ i q found with ⟨rfl, -⟩ | old
    · exact Nat.lt_succ_self _
    · exact Nat.lt_succ_of_lt (h.bound i q old)
  · rcases cases_ i q found with ⟨rfl, rfl⟩ | old
    · exact new
    · exact h.assured i q old

theorem Pool.Upheld.set {t p i} (sound : d.Sound c admits) (h : pool.Upheld c d)
    (here : i < pool.next) (kept : d.inv pool.next t) (moved : ∀ j, j ≠ i → d.rely j pool.state t)
    (new : ∀ q, p = some q → Assured c d i (fun _ _ => True) q t) :
    (pool.set i p t).Upheld c d := by
  refine ⟨kept, fun j q found => ?_, fun j q found => ?_⟩
  · by_cases same : j = i
    · exact same ▸ here
    · simp only [Pool.set, Function.update_of_ne same] at found
      exact h.bound j q found
  · by_cases same : j = i
    · subst same
      simp only [Pool.set, Function.update_self] at found
      exact new q found
    · simp only [Pool.set, Function.update_of_ne same] at found
      exact (h.assured j q found).later sound.trans (moved j same)

theorem Pool.Step.upheld (sound : d.Sound c admits) (step : Pool.Step c admits pool pool')
    (h : pool.Upheld c d) : pool'.Upheld c d := by
  cases step with
  | launch p launched => exact h.add sound (sound.launch h.inv launched)
  | @request i r next a t found admitted e =>
    have here := h.bound i _ found
    obtain ⟨ok, later⟩ := h.assured i _ found _ pool.state (sound.refl i _) here h.inv
    obtain ⟨kept, moved⟩ := sound.request here h.inv admitted ok e
    have goesOn : (pool.set i (some (next a)) t).Upheld c d := by
      refine h.set sound here kept moved fun q same => ?_
      rw [← Option.some.inj same]
      exact later a t e
    cases forked : c.fork r a with
    | none => exact goesOn
    | some p => exact goesOn.add sound (sound.fork h.inv ok e forked)
  | leave i found left =>
    obtain ⟨kept, moved⟩ := sound.leave h.inv left
    exact h.set sound (h.bound i _ found) kept moved nofun

theorem Pool.Reach.upheld (sound : d.Sound c admits) (reach : Pool.Reach c admits pool pool')
    (h : pool.Upheld c d) : pool'.Upheld c d := by
  induction reach with
  | refl => exact h
  | tail _ step ih => exact step.upheld sound ih

/-- A thread may go on alone, with requests that are admitted. -/
theorem Pool.reach_of_admitted {p q t}
    (forks : ∀ r a, c.fork r a = none) (found : pool.thread i = some p)
    (run : Exec (fun s r a t => admits s r ∧ c.env i pool.next s r a t) p pool.state q t) :
    Pool.Reach c admits pool (pool.set i (some q) t) := by
  generalize start : pool.state = s at run
  generalize number : pool.next = n at run
  induction run generalizing pool with
  | stop p s =>
    have same : pool.set i (some p) s = pool := by
      rw [← start, Pool.set, ← found, Function.update_eq_self]
    rw [same]
  | @step r next s s' t a q e _ ih =>
    subst start number
    have first : Pool.Step c admits pool _ := .request i found e.1 e.2
    rw [forks] at first
    have found' : (pool.set i (some (next a)) s').thread i = some (next a) := by simp [Pool.set]
    have later := ih found' rfl rfl
    simp only [Pool.set, Function.update_idem] at later
    exact .head first later

theorem Pool.reach_of_exec {p q t} (forks : ∀ r a, c.fork r a = none)
    (found : pool.thread i = some p) (run : Exec (c.env i pool.next) p pool.state q t) :
    Pool.Reach c (fun _ _ => True) pool (pool.set i (some q) t) :=
  Pool.reach_of_admitted forks found (run.mono fun _ _ _ _ e => ⟨trivial, e⟩)

theorem Pool.reach_launched {p q s t n} (forks : ∀ r a, c.fork r a = none) (launched : c.launches p)
    (start : pool.state = s ∧ pool.next = n) (run : Exec (c.env n (n + 1)) p s q t) :
    ∃ pool', Pool.Reach c (fun _ _ => True) pool pool' ∧ pool'.state = t ∧ pool'.next = n + 1 := by
  obtain ⟨rfl, rfl⟩ := start
  have found : (pool.add p).thread pool.next = some p := by simp [Pool.add]
  exact ⟨_, .head (.launch p launched) (Pool.reach_of_exec forks found run), rfl, rfl⟩

theorem Pool.upheld_start (h : d.inv 0 s) :
    (Pool.start s : Pool Request Reply State α).Upheld c d :=
  ⟨h, nofun, nofun⟩

end

end Interaction
