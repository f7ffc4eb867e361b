import Mish.Interaction.Program

/-!
# What a program may do

`Safe` is about every execution; here some execution is enough. `May env post p s`: the
replies can be such that the program returns with `post`. `Asks env target p s`: they can be
such that it comes to a request of the kind `target`.
-/

namespace Interaction

variable {Request : Type} {Reply : Request → Type} {State α β : Type}
  {env : Environment Request Reply State} {post : α → State → Prop} {target : Request → Prop}
  {s : State} {p : Program Request Reply α} {post' : α → State → Prop}
  {f : α → Program Request Reply β}

def May (env : Environment Request Reply State) (post : α → State → Prop) :
    Program Request Reply α → State → Prop
  | .done a, s => post a s
  | .call r next, s => ∃ a t, env s r a t ∧ May env post (next a) t

def Asks (env : Environment Request Reply State) (target : Request → Prop) :
    Program Request Reply α → State → Prop
  | .done _, _ => False
  | .call r next, s => target r ∨ ∃ a t, env s r a t ∧ Asks env target (next a) t

theorem Asks.exec (asks : Asks env target p s) :
    ∃ r next t, target r ∧ Exec env p s (.call r next) t := by
  induction p generalizing s with
  | done a => cases asks
  | call r next ih =>
    rcases asks with now | ⟨a, t, reply, later⟩
    · exact ⟨r, next, s, now, .stop _ _⟩
    · obtain ⟨r', next', u, is, exec⟩ := ih a later
      exact ⟨r', next', u, is, .step reply exec⟩

theorem May.mono
    (may : May env post p s) (weaker : ∀ a t, post a t → post' a t) : May env post' p s := by
  induction p generalizing s with
  | done a => exact weaker a s may
  | call r next ih =>
    obtain ⟨a, t, reply, later⟩ := may
    exact ⟨a, t, reply, ih a later⟩

/-- What every execution has, this one has. -/
theorem May.and {allowed} (may : May env post p s) (safe : Safe env allowed post' p s) :
    May env (fun a t => post a t ∧ post' a t) p s := by
  induction p generalizing s with
  | done a => exact ⟨may, safe⟩
  | call r next ih =>
    obtain ⟨a, t, reply, later⟩ := may
    exact ⟨a, t, reply, ih a later (safe.2 a t reply)⟩

theorem May.bind {post'} (first : May env (fun a t => May env post' (f a) t) p s) :
    May env post' (p >>= f) s := by
  induction p generalizing s with
  | done a => exact first
  | call r next ih =>
    obtain ⟨a, t, reply, later⟩ := first
    exact ⟨a, t, reply, ih a later⟩

theorem May.asks
    (first : May env (fun a t => Asks env target (f a) t) p s) : Asks env target (p >>= f) s := by
  induction p generalizing s with
  | done a => exact first
  | call r next ih =>
    obtain ⟨a, t, reply, later⟩ := first
    exact .inr ⟨a, t, reply, ih a later⟩

theorem Asks.bind (first : Asks env target p s) : Asks env target (p >>= f) s := by
  induction p generalizing s with
  | done a => cases first
  | call r next ih =>
    rcases first with now | ⟨a, t, reply, later⟩
    · exact .inl now
    · exact .inr ⟨a, t, reply, ih a later⟩

/-! ## Programs that may fail -/

section Failing

variable {ε : Type} {x : ExceptT ε (Program Request Reply) α}
  {f : α → ExceptT ε (Program Request Reply) β} {mid : α → State → Prop}

/-- The program may come through with a value. -/
def Succeeding (post : α → State → Prop) : Except ε α → State → Prop
  | .ok a, t => post a t
  | .error _, _ => False

theorem May.imp {mid'} (may : May env (Succeeding mid) x.run s)
    (weaker : ∀ a t, mid a t → mid' a t) : May env (Succeeding mid') x.run s := by
  refine may.mono ?_
  intro result t h
  cases result with
  | ok a => exact weaker a t h
  | error e => exact h

theorem May.attempt {post'} (first : May env (Succeeding mid) x.run s) (later : ∀ a t, mid a t →
    May env (Succeeding post') (f a).run t) : May env (Succeeding post') (x >>= f).run s := by
  refine May.bind (first.mono ?_)
  intro result t h
  cases result with
  | ok a => exact later a t h
  | error e => exact h.elim

theorem May.attempt_asks (first : May env (Succeeding mid) x.run s)
    (later : ∀ a t, mid a t → Asks env target (f a).run t) : Asks env target (x >>= f).run s := by
  refine May.asks (first.mono ?_)
  intro result t h
  cases result with
  | ok a => exact later a t h
  | error e => exact h.elim

theorem Asks.attempt (first : Asks env target x.run s) : Asks env target (x >>= f).run s :=
  Asks.bind first

/-- Each round may come through, so that the loop may. -/
theorem May.foldlM {ι σ : Type} {body : σ → ι → ExceptT ε (Program Request Reply) σ}
    (known : List ι → σ → State → Prop) (items : List ι)
    (round : ∀ past item acc t, past ++ [item] <+: items → known past acc t →
    May env (Succeeding (known (past ++ [item]))) (body acc item).run t)
    {acc} (start : known [] acc s) :
    May env (Succeeding (known items)) (items.foldlM body acc).run s := by
  suffices h : ∀ past rest, past ++ rest = items → ∀ acc t, known past acc t →
      May env (Succeeding (known items)) (rest.foldlM body acc).run t from
    h [] items rfl acc s start
  intro past rest
  induction rest generalizing past with
  | nil =>
    rintro rfl acc t h
    exact (List.append_nil past).symm ▸ h
  | cons item rest ih =>
    rintro rfl acc t h
    refine (round past item acc t ⟨rest, by simp⟩ h).attempt fun acc' u hu => ?_
    exact ih (past ++ [item]) (by simp) acc' u hu

end Failing

end Interaction
