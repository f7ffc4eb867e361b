import Mish.Interaction.Program

/-!
# Two interfaces side by side

A program of one of two interfaces runs as a program of both, and leaves the
state of the other alone (`safe_inl`, `safe_inr`).
-/

namespace Interaction

section
variable {R₁ R₂ : Type} {A₁ : R₁ → Type} {A₂ : R₂ → Type} {S₁ S₂ α : Type}

@[reducible] def SumReply (A₁ : R₁ → Type) (A₂ : R₂ → Type) : R₁ ⊕ R₂ → Type
  | .inl r => A₁ r
  | .inr r => A₂ r

def Program.inl : Program R₁ A₁ α → Program (R₁ ⊕ R₂) (SumReply A₁ A₂) α
  | .done a => .done a
  | .call r next => .call (.inl r) fun a => (next a).inl

def Program.inr : Program R₂ A₂ α → Program (R₁ ⊕ R₂) (SumReply A₁ A₂) α
  | .done a => .done a
  | .call r next => .call (.inr r) fun a => (next a).inr

def Environment.sum (env₁ : Environment R₁ A₁ S₁) (env₂ : Environment R₂ A₂ S₂) :
    Environment (R₁ ⊕ R₂) (SumReply A₁ A₂) (S₁ × S₂)
  | s, .inl r, a, t => env₁ s.1 r a t.1 ∧ t.2 = s.2
  | s, .inr r, a, t => env₂ s.2 r a t.2 ∧ t.1 = s.1

variable {env₁ : Environment R₁ A₁ S₁} {env₂ : Environment R₂ A₂ S₂}
  {allowed : S₁ × S₂ → R₁ ⊕ R₂ → Prop} {post : α → S₁ × S₂ → Prop}

theorem safe_inl {p s} : Safe (Environment.sum env₁ env₂) allowed post p.inl s ↔
    Safe env₁ (fun s₁ r => allowed (s₁, s.2) (.inl r)) (fun a s₁ => post a (s₁, s.2)) p s.1 := by
  obtain ⟨s₁, s₂⟩ := s
  induction p generalizing s₁ with
  | done a => exact Iff.rfl
  | call r next ih =>
    constructor
    · rintro ⟨ok, later⟩
      exact ⟨ok, fun a t₁ step => (ih a t₁).mp (later a (t₁, s₂) ⟨step, rfl⟩)⟩
    · rintro ⟨ok, later⟩
      refine ⟨ok, ?_⟩
      rintro a ⟨t₁, t₂⟩ ⟨step, same⟩
      obtain rfl : t₂ = s₂ := same
      exact (ih a t₁).mpr (later a t₁ step)

theorem safe_inr {p s} : Safe (Environment.sum env₁ env₂) allowed post p.inr s ↔
    Safe env₂ (fun s₂ r => allowed (s.1, s₂) (.inr r)) (fun a s₂ => post a (s.1, s₂)) p s.2 := by
  obtain ⟨s₁, s₂⟩ := s
  induction p generalizing s₂ with
  | done a => exact Iff.rfl
  | call r next ih =>
    constructor
    · rintro ⟨ok, later⟩
      exact ⟨ok, fun a t₂ step => (ih a t₂).mp (later a (s₁, t₂) ⟨step, rfl⟩)⟩
    · rintro ⟨ok, later⟩
      refine ⟨ok, ?_⟩
      rintro a ⟨t₁, t₂⟩ ⟨step, same⟩
      obtain rfl : t₁ = s₁ := same
      exact (ih a t₂).mpr (later a t₂ step)

end

end Interaction
