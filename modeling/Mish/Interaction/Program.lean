import Mathlib.Data.List.Basic

/-!
# Programs that talk to an environment

A program issues requests and continues with the replies. What a reply may be,
and what it does to the state, is the environment's choice.
-/

namespace Interaction

/-- A program either has a result or waits for the reply to one request. -/
inductive Program (Request : Type) (Reply : Request → Type) (α : Type) where
  | done (result : α)
  | call (request : Request) (next : Reply request → Program Request Reply α)

section
variable {Request : Type} {Reply : Request → Type} {State α β : Type}

def Program.bind : Program Request Reply α → (α → Program Request Reply β) →
    Program Request Reply β
  | .done a, f => f a
  | .call r next, f => .call r fun a => (next a).bind f

instance : Monad (Program Request Reply) where
  pure := .done
  bind := .bind

/-- One request, whose reply is the result. -/
def request (r : Request) : Program Request Reply (Reply r) := .call r .done

/-- `env s r a t`: in state `s` the request `r` may be answered with `a`, and
the state is then `t`. -/
abbrev Environment (Request : Type) (Reply : Request → Type) (State : Type) :=
  State → (r : Request) → Reply r → State → Prop

/-- What is left of a program, and the state, after finitely many replies. -/
inductive Exec (env : Environment Request Reply State) :
    Program Request Reply α → State → Program Request Reply α → State → Prop where
  | stop (p : Program Request Reply α) (s : State) : Exec env p s p s
  | step {r next s s' t a q} :
      env s r a s' → Exec env (next a) s' q t → Exec env (.call r next) s q t

/-- Every request made is `allowed` in the state it is made in, and every
result satisfies `post`. -/
def Safe (env : Environment Request Reply State) (allowed : State → Request → Prop)
    (post : α → State → Prop) : Program Request Reply α → State → Prop
  | .done a, s => post a s
  | .call r next, s => allowed s r ∧ ∀ a t, env s r a t → Safe env allowed post (next a) t

variable {env : Environment Request Reply State} {allowed allowed' : State → Request → Prop}
  {post post' : α → State → Prop} {q : Program Request Reply α} {t s : State} {a : α}
  {p : Program Request Reply α} {f : α → Program Request Reply β} {r : Request} {inv : State → Prop}
  {respond : State → (r : Request) → Reply r × State}

theorem Exec.mono {env' p s} (exec : Exec env p s q t)
    (wider : ∀ s r a t, env s r a t → env' s r a t) : Exec env' p s q t := by
  induction exec with
  | stop p s => exact .stop p s
  | step e _ ih => exact .step (wider _ _ _ _ e) ih

@[simp] theorem safe_pure : Safe env allowed post (pure a) s ↔ post a s := Iff.rfl

@[simp] theorem safe_bind {post} : Safe env allowed post (p >>= f) s ↔
    Safe env allowed (fun a t => Safe env allowed post (f a) t) p s := by
  induction p generalizing s with
  | done a => exact Iff.rfl
  | call r next ih =>
    constructor
    · rintro ⟨ok, later⟩
      exact ⟨ok, fun a t h => (ih a).mp (later a t h)⟩
    · rintro ⟨ok, later⟩
      exact ⟨ok, fun a t h => (ih a).mpr (later a t h)⟩

/-- The rule for one request followed by the rest of the program. -/
theorem safe_request_bind {f : Reply r → Program Request Reply β} {post} :
    Safe env allowed post (request r >>= f) s ↔
    allowed s r ∧ ∀ a t, env s r a t → Safe env allowed post (f a) t := Iff.rfl

theorem Safe.mono (h : Safe env allowed post p s)
    (weaker : ∀ a t, post a t → post' a t) : Safe env allowed post' p s := by
  induction p generalizing s with
  | done a => exact weaker a s h
  | call r next ih => exact ⟨h.1, fun a t e => ih a (h.2 a t e)⟩

theorem Safe.weaken (h : Safe env allowed post p s)
    (permits : ∀ s r, allowed s r → allowed' s r) : Safe env allowed' post p s := by
  induction p generalizing s with
  | done a => exact h
  | call r next ih => exact ⟨permits s r h.1, fun a t e => ih a (h.2 a t e)⟩

theorem Safe.bind {post'} (h : Safe env allowed post p s) (next : ∀ a t, post a t →
    Safe env allowed post' (f a) t) : Safe env allowed post' (p >>= f) s :=
  safe_bind.mpr (h.mono next)

/-- An execution of a safe program leaves a safe program. -/
theorem Safe.exec {p s}
    (h : Safe env allowed post p s) (run : Exec env p s q t) : Safe env allowed post q t := by
  induction run with
  | stop => exact h
  | step e _ ih => exact ih (h.2 _ _ e)

theorem Safe.request_allowed {s next}
    (h : Safe env allowed post p s) (run : Exec env p s (.call r next) t) : allowed t r :=
  (h.exec run).1

theorem Safe.result {s}
    (h : Safe env allowed post p s) (run : Exec env p s (.done a) t) : post a t :=
  h.exec run

@[simp] theorem safe_ite {c : Prop} [Decidable c] {p} :
    Safe env allowed post (if c then p else q) s ↔
    (c → Safe env allowed post p s) ∧ (¬c → Safe env allowed post q s) := by
  by_cases h : c <;> simp [h]

/-- The states between operations. Each operation starts in the state `start`
makes of the one it finds, and may be dropped in front of any request. -/
inductive Session {Op : Type} (env : Environment Request Reply State) (start : State → State)
    (program : Op → Program Request Reply α) : State → State → Prop where
  | refl (s : State) : Session env start program s s
  | op {s t u rest} (o : Op) :
      Session env start program s t → Exec env (program o) (start t) rest u →
      Session env start program s u

/-- The states between operations that all return. Each of them is started where
`admits` holds of it. -/
inductive Run {Op : Type} (env : Environment Request Reply State) (start : State → State)
    (program : Op → Program Request Reply α) (admits : State → Op → Prop) :
    State → State → Prop where
  | refl (s : State) : Run env start program admits s s
  | op {s t u a} (o : Op) : Run env start program admits s t → admits t o →
      Exec env (program o) (start t) (.done a) u → Run env start program admits s u

theorem Run.invariant {Op : Type} {start} {program : Op → Program Request Reply α} {admits s}
    (kept : ∀ o t a u, inv t → admits t o → Exec env (program o) (start t) (.done a) u → inv u)
    (h : inv s) (run : Run env start program admits s t) : inv t := by
  induction run with
  | refl => exact h
  | op o _ admitted exec ih => exact kept o _ _ _ ih admitted exec

/-- What every allowed request keeps, an execution of a safe program keeps. -/
theorem Safe.invariant {p s} (safe : Safe env allowed post p s) (kept : ∀ s r a t, inv s →
    allowed s r → env s r a t → inv t) (h : inv s) (run : Exec env p s q t) : inv t := by
  induction run with
  | stop => exact h
  | step e _ ih => exact ih (safe.2 _ _ e) (kept _ _ _ _ h safe.1 e)

/-- What every allowed request keeps, the result of a safe program has. -/
theorem Safe.keeping (safe : Safe env allowed post p s) (kept : ∀ s r a t, inv s → allowed s r →
    env s r a t → inv t) (h : inv s) : Safe env allowed (fun a t => post a t ∧ inv t) p s := by
  induction p generalizing s with
  | done a => exact ⟨safe, h⟩
  | call r next ih => exact ⟨safe.1, fun a t e => ih a (safe.2 a t e) (kept s r a t h safe.1 e)⟩

/-- Started where `inv` holds, the program makes allowed requests only and leaves
`inv` behind. -/
def Maintains (env : Environment Request Reply State) (allowed : State → Request → Prop)
    (inv : State → Prop) (p : Program Request Reply α) : Prop :=
  ∀ s, inv s → Safe env allowed (fun _ t => inv t) p s

namespace Maintains
variable {inv : State → Prop}

theorem pure (a : α) : Maintains env allowed inv (Pure.pure a : Program Request Reply α) :=
  fun _ h => h

theorem bind {f : α → Program Request Reply β} (first : Maintains env allowed inv p)
    (later : ∀ a, Maintains env allowed inv (f a)) : Maintains env allowed inv (p >>= f) :=
  fun s h => (first s h).bind fun a t ht => later a t ht

theorem ite {c : Prop} [Decidable c] {p q : Program Request Reply α}
    (yes : Maintains env allowed inv p) (no : Maintains env allowed inv q) :
    Maintains env allowed inv (if c then p else q) := by
  by_cases h : c
  · simpa only [h, if_true] using yes
  · simpa only [h, if_false] using no

/-- A computation that may fail, followed by what is done when it does not. -/
theorem attempt {ε : Type} {x} {f : α → ExceptT ε (Program Request Reply) β}
    (first : Maintains env allowed inv x.run) (later : ∀ a, Maintains env allowed inv (f a).run) :
    Maintains env allowed inv (x >>= f).run := by
  refine first.bind fun result => ?_
  cases result with
  | error e => exact .pure _
  | ok a => exact later a

end Maintains

/-! ## Programs that may fail -/

section Failing
variable {ε : Type} {s : State} {x : ExceptT ε (Program Request Reply) α}
  {mid : Except ε α → State → Prop} {ι : Type}

/-- A program that may fail, followed by what is done when it does not. -/
theorem Safe.attempt {f : α → ExceptT ε (Program Request Reply) β} {post}
    (first : Safe env allowed mid x.run s) (ok : ∀ a t, mid (.ok a) t →
    Safe env allowed post (f a).run t) (error : ∀ e t, mid (.error e) t → post (.error e) t) :
    Safe env allowed post (x >>= f).run s := by
  refine first.bind fun result t h => ?_
  cases result with
  | ok a => exact ok a t h
  | error e => exact error e t h

/-- A program that may fail, and what is done when it does. -/
theorem Safe.rescue {handle post} (first : Safe env allowed mid x.run s)
    (ok : ∀ a t, mid (.ok a) t → post (.ok a) t) (error : ∀ e t, mid (.error e) t →
    Safe env allowed post (handle e).run t) : Safe env allowed post (tryCatch x handle).run s := by
  refine first.bind fun result t h => ?_
  cases result with
  | ok a => exact ok a t h
  | error e => exact error e t h

/-- A loop over a list keeps what it knows of the items it is done with. -/
theorem Safe.foldlM {σ : Type} {body : σ → ι → ExceptT ε (Program Request Reply) σ}
    {post} (known : List ι → σ → State → Prop) (items : List ι)
    (round : ∀ past item acc t, past ++ [item] <+: items → known past acc t →
      Safe env allowed (fun result u => match result with
        | .ok acc' => known (past ++ [item]) acc' u
        | .error e => post (.error e) u) (body acc item).run t)
    {acc} (start : known [] acc s) (finish : ∀ acc t, known items acc t → post (.ok acc) t) :
    Safe env allowed post (items.foldlM body acc).run s := by
  suffices h : ∀ past rest, past ++ rest = items → ∀ acc t, known past acc t →
      Safe env allowed post (rest.foldlM body acc).run t from h [] items rfl acc s start
  intro past rest
  induction rest generalizing past with
  | nil =>
    rintro rfl acc t h
    exact finish acc t (by simpa using h)
  | cons item rest ih =>
    rintro rfl acc t h
    refine (round past item acc t ⟨rest, by simp⟩ h).attempt (fun acc' u hu => ?_) fun e u hu => hu
    exact ih (past ++ [item]) (by simp) acc' u hu

theorem forM_eq_foldlM (body : ι → ExceptT ε (Program Request Reply) PUnit)
    (items : List ι) : items.forM body = items.foldlM (fun _ item => body item) ⟨⟩ := by
  induction items with
  | nil => rfl
  | cons item rest ih =>
    change (body item >>= fun _ => rest.forM body) = (body item >>= fun _ => rest.foldlM _ ⟨⟩)
    rw [ih]

theorem Safe.forM {body : ι → ExceptT ε (Program Request Reply) PUnit}
    {post} (known : List ι → State → Prop) (items : List ι)
    (round : ∀ past item t, past ++ [item] <+: items → known past t →
      Safe env allowed (fun result u => match result with
        | .ok _ => known (past ++ [item]) u
        | .error e => post (.error e) u) (body item).run t)
    (start : known [] s) (finish : ∀ t, known items t → post (.ok ⟨⟩) t) :
    Safe env allowed post (items.forM body).run s := by
  rw [forM_eq_foldlM]
  refine Safe.foldlM (fun past _ => known past) items ?_ start fun _ => finish
  intro past item _ t here h
  refine (round past item t here h).mono ?_
  intro result u hu
  cases result <;> exact hu

end Failing

/-- Where every request is allowed, so is every program. -/
theorem safe_of_allowed (all : ∀ s r, allowed s r) : Safe env allowed (fun _ _ => True) p s := by
  induction p generalizing s with
  | done a => exact trivial
  | call r next ih => exact ⟨all s r, fun a t _ => ih a⟩

/-- The execution in which `respond` answers, up to the first request `stop` holds of. -/
def Program.runUntil (respond : State → (r : Request) → Reply r × State)
    (stop : State → Request → Bool) :
    Program Request Reply α → State → Program Request Reply α × State
  | .done a, s => (.done a, s)
  | .call r next, s =>
    if stop s r then (.call r next, s)
    else (next (respond s r).1).runUntil respond stop (respond s r).2

/-- Only the answers in states with the invariant count, and only those to requests it goes on
with. -/
theorem exec_runUntil_within {stop} (answers : ∀ s r, inv s → stop s r = false →
    env s r (respond s r).1 (respond s r).2 ∧ inv (respond s r).2) (p : Program Request Reply α)
    (h : inv s) : Exec env p s (p.runUntil respond stop s).1 (p.runUntil respond stop s).2 ∧
    inv (p.runUntil respond stop s).2 := by
  induction p generalizing s with
  | done a => exact ⟨.stop _ _, h⟩
  | call r next ih =>
    cases stops : stop s r with
    | true =>
      simp only [Program.runUntil, stops, if_true]
      exact ⟨.stop _ _, h⟩
    | false =>
      obtain ⟨answered, kept⟩ := answers s r h stops
      simp only [Program.runUntil, stops]
      obtain ⟨later, ends⟩ := ih (respond s r).1 kept
      exact ⟨.step answered later, ends⟩

theorem exec_runUntil (answers : ∀ s r, env s r (respond s r).1 (respond s r).2)
    (stop : State → Request → Bool) (p : Program Request Reply α) (s : State) :
    Exec env p s (p.runUntil respond stop s).1 (p.runUntil respond stop s).2 := by
  have always : ∀ s r, True → stop s r = false →
      env s r (respond s r).1 (respond s r).2 ∧ True := fun s r _ _ => ⟨answers s r, trivial⟩
  exact (exec_runUntil_within always p trivial).1

/-- The execution in which `respond` answers every request. -/
def Program.run (respond : State → (r : Request) → Reply r × State) :
    Program Request Reply α → State → α × State
  | .done a, s => (a, s)
  | .call r next, s => (next (respond s r).1).run respond (respond s r).2

theorem Program.run_bind (respond : State → (r : Request) → Reply r × State)
    (p : Program Request Reply α) (f : α → Program Request Reply β) (s : State) :
    (p >>= f).run respond s = (f (p.run respond s).1).run respond (p.run respond s).2 := by
  induction p generalizing s with
  | done a => rfl
  | call r next ih => exact ih _ _

theorem exec_run
    (answers : ∀ s r, env s r (respond s r).1 (respond s r).2) (p : Program Request Reply α)
    (s : State) : Exec env p s (.done (p.run respond s).1) (p.run respond s).2 := by
  induction p generalizing s with
  | done a => exact .stop _ _
  | call r next ih => exact .step (answers s r) (ih (respond s r).1 (respond s r).2)

/-- The request a program waits for. -/
def Program.pending : Program Request Reply α → Option Request
  | .done _ => none
  | .call r _ => some r

theorem Program.eq_call_of_pending (h : p.pending = some r) : ∃ next, p = .call r next := by
  cases p with
  | done a => simp [Program.pending] at h
  | call r' next =>
    obtain rfl : r' = r := by simpa [Program.pending] using h
    exact ⟨next, rfl⟩

/-- What a program that waits for nothing returns. -/
def Program.result : Program Request Reply α → Option α
  | .done a => some a
  | .call _ _ => none

theorem Program.eq_done_of_result (h : p.result = some a) : p = .done a := by
  cases p with
  | done b =>
    obtain rfl : b = a := by simpa [Program.result] using h
    rfl
  | call r next => simp [Program.result] at h

end

end Interaction
