import Mathlib.Data.List.Basic
import Mathlib.Logic.Relation

/-!
# Cycles by depth-first search

`hasCycle` walks a finite graph depth first, with the vertices of the path that leads
to the present one and the vertices seen so far, and stops at the first child that is
on the path.
-/

namespace DepthFirst
open List Relation

variable {α : Type} [DecidableEq α] {children : α → List α} {visited visited' : List α}
  {search : α → List α → Bool × List α}

/-- One vertex after another, until a search stops. -/
def visitAll (visit : α → List α → Bool × List α) : List α → List α → Bool × List α
  | [], visited => (false, visited)
  | id :: rest, visited =>
    match visit id visited with
    | (true, visited) => (true, visited)
    | (false, visited) => visitAll visit rest visited

/-- A search without fuel stops as if it had found a cycle; `hasCycle` gives enough. -/
def visit (children : α → List α) : Nat → List α → α → List α → Bool × List α
  | 0, _, _, visited => (true, visited)
  | fuel + 1, visiting, id, visited =>
    if id ∈ visiting then (true, visited)
    else if id ∈ visited then (false, visited)
    else visitAll (visit children fuel (id :: visiting)) (children id) (id :: visited)

def hasCycle (children : α → List α) (roots : List α) : Bool :=
  (visitAll (visit children (roots.length + 1) []) roots []).1

/-- The edges, from a child to its parent. -/
abbrev Below (children : α → List α) (child parent : α) : Prop := child ∈ children parent

/-! ## A search that finds nothing -/

/-- A seen vertex is on the path or accessible. -/
def Explored (children : α → List α) (visiting visited : List α) : Prop :=
  ∀ x ∈ visited, x ∈ visiting ∨ Acc (Below children) x

omit [DecidableEq α] in
theorem visitAll_false {visiting} (one : ∀ id visited visited', Explored children visiting visited →
    search id visited = (false, visited') → Acc (Below children) id ∧
    Explored children visiting visited') {ids} (explored : Explored children visiting visited)
    (searched : visitAll search ids visited = (false, visited')) :
    (∀ id ∈ ids, Acc (Below children) id) ∧ Explored children visiting visited' := by
  induction ids generalizing visited with
  | nil =>
    cases searched
    exact ⟨by simp, explored⟩
  | cons id rest ih =>
    unfold visitAll at searched
    split at searched
    · cases searched
    · rename_i between first
      obtain ⟨accessible, explored⟩ := one id visited between explored first
      obtain ⟨others, explored⟩ := ih explored searched
      refine ⟨?_, explored⟩
      intro x mem
      rcases mem_cons.1 mem with rfl | mem
      · exact accessible
      · exact others x mem

theorem visit_false {fuel visiting id} (explored : Explored children visiting visited)
    (searched : visit children fuel visiting id visited = (false, visited')) :
    Acc (Below children) id ∧ Explored children visiting visited' := by
  induction fuel generalizing visiting visited visited' id with
  | zero => cases searched
  | succ fuel ih =>
    unfold visit at searched
    split at searched
    · cases searched
    · rename_i off
      split at searched
      · rename_i seen
        cases searched
        exact ⟨(explored id seen).resolve_left off, explored⟩
      · have entered : Explored children (id :: visiting) (id :: visited) := by
          intro x mem
          rcases mem_cons.1 mem with rfl | mem
          · exact .inl (mem_cons_self ..)
          · exact (explored x mem).imp_left (mem_cons_of_mem _)
        obtain ⟨below, explored⟩ := visitAll_false (fun _ _ _ => ih) entered searched
        have accessible : Acc (Below children) id := Acc.intro id below
        refine ⟨accessible, ?_⟩
        intro x mem
        rcases explored x mem with on | done
        · rcases mem_cons.1 on with rfl | on
          · exact .inr accessible
          · exact .inl on
        · exact .inr done

/-! ## A search that stops -/

omit [DecidableEq α] in
theorem subset_visitAll (one : ∀ id visited, visited ⊆ (search id visited).2)
    (ids visited : List α) : visited ⊆ (visitAll search ids visited).2 := by
  induction ids generalizing visited with
  | nil => exact Subset.refl _
  | cons id rest ih =>
    have grown := one id visited
    unfold visitAll
    split <;> rename_i between first <;> rw [first] at grown
    · exact grown
    · exact Subset.trans grown (ih between)

theorem subset_visit (fuel : Nat) (visiting : List α) (id : α) (visited : List α) :
    visited ⊆ (visit children fuel visiting id visited).2 := by
  induction fuel generalizing visiting visited id with
  | zero => exact Subset.refl _
  | succ fuel ih =>
    unfold visit
    split
    · exact Subset.refl _
    · split
      · exact Subset.refl _
      · exact Subset.trans (subset_cons_self ..)
          (subset_visitAll (fun child visited => ih _ child visited) _ _)

/-- The vertices not seen yet. -/
def unseen (vertices visited : List α) : Nat := vertices.countP (· ∉ visited)

theorem unseen_anti (vertices : List α) (grown : visited ⊆ visited') :
    unseen vertices visited' ≤ unseen vertices visited := by
  apply countP_mono_left
  intro x _ fresh
  simp only [decide_eq_true_eq] at fresh ⊢
  exact fun seen => fresh (grown seen)

theorem unseen_cons_lt {vertices id} (vertex : id ∈ vertices)
    (fresh : id ∉ visited) : unseen vertices (id :: visited) < unseen vertices visited := by
  unfold unseen
  induction vertices with
  | nil => cases vertex
  | cons x rest ih =>
    have le : rest.countP (· ∉ id :: visited) ≤ rest.countP (· ∉ visited) :=
      unseen_anti rest (subset_cons_self id visited)
    by_cases here : x = id
    · subst here
      simp only [countP_cons, mem_cons_self, fresh, not_true_eq_false,
        not_false_eq_true, decide_true, decide_false]
      simp only [Bool.false_eq_true, ↓reduceIte]
      omega
    · have lt := ih ((mem_cons.1 vertex).resolve_left (Ne.symm here))
      by_cases seen : x ∈ visited <;>
        simp only [countP_cons, mem_cons, here, seen, or_true, or_false,
          not_true_eq_false, not_false_eq_true, decide_true, decide_false]
      · simpa using lt
      · simpa using lt

/-- There is a way from `parent` down to `child`. -/
abbrev Reaches (children : α → List α) (parent child : α) : Prop :=
  TransGen (fun a b => b ∈ children a) parent child

section Stops

variable {vertices : List α} (closed : ∀ x ∈ vertices, ∀ y ∈ children x, y ∈ vertices)

theorem visitAll_true {fuel search ids visited}
    (grows : ∀ id visited, visited ⊆ (search id visited).2)
    (one : ∀ id ∈ ids, ∀ visited, unseen vertices visited < fuel → (search id visited).1 = true →
    ∃ x ∈ vertices, Reaches children x x) (enough : unseen vertices visited < fuel)
    (stopped : (visitAll search ids visited).1 = true) : ∃ x ∈ vertices, Reaches children x x := by
  induction ids generalizing visited with
  | nil => cases stopped
  | cons id rest ih =>
    unfold visitAll at stopped
    split at stopped
    · rename_i first
      exact one id (mem_cons_self ..) visited enough (by rw [first])
    · rename_i between first
      have grown := grows id visited
      rw [first] at grown
      exact ih (fun x mem => one x (mem_cons_of_mem _ mem))
        (Nat.lt_of_le_of_lt (unseen_anti vertices grown) enough) stopped

include closed in
theorem visit_true {fuel visiting visited id} (vertex : id ∈ vertices)
    (path : ∀ x ∈ visiting, Reaches children x id) (enough : unseen vertices visited < fuel)
    (stopped : (visit children fuel visiting id visited).1 = true) :
    ∃ x ∈ vertices, Reaches children x x := by
  induction fuel generalizing visiting visited id with
  | zero => omega
  | succ fuel ih =>
    unfold visit at stopped
    split at stopped
    · rename_i on
      exact ⟨id, vertex, path id on⟩
    · split at stopped
      · cases stopped
      · rename_i fresh
        have fewer := unseen_cons_lt vertex fresh
        have enough : unseen vertices (id :: visited) < fuel := by omega
        refine visitAll_true (fun child visited => subset_visit _ _ child visited) ?_ enough stopped
        intro child mem visited enough stopped
        refine ih (closed id vertex child mem) ?_ enough stopped
        intro x on
        rcases mem_cons.1 on with rfl | on
        · exact .single mem
        · exact (path x on).tail mem

end Stops

/-! ## The search decides -/

omit [DecidableEq α] in
theorem not_reaches_of_acc {x} (accessible : Acc (Below children) x) : ¬ Reaches children x x := by
  intro cycle
  have below : TransGen (Below children) x x := transGen_swap.1 cycle
  replace accessible := accessible.transGen
  clear cycle
  induction accessible with
  | intro x _ ih => exact ih x below below

theorem hasCycle_iff {roots} (closed : ∀ x ∈ roots, ∀ y ∈ children x, y ∈ roots) :
    hasCycle children roots = true ↔ ∃ x ∈ roots, Reaches children x x := by
  constructor
  · intro stopped
    have enough : unseen roots [] < roots.length + 1 :=
      Nat.lt_succ_of_le countP_le_length
    exact visitAll_true (fun id visited => subset_visit _ _ id visited)
      (fun id vertex visited enough => visit_true closed vertex (by simp) enough) enough stopped
  · rintro ⟨x, vertex, cycle⟩
    by_contra quiet
    have searched : visitAll (visit children (roots.length + 1) []) roots [] = (false, _) :=
      Prod.ext (Bool.eq_false_iff.2 quiet) rfl
    have accessible := (visitAll_false (fun _ _ _ => visit_false) (by simp [Explored]) searched).1
    exact not_reaches_of_acc (accessible x vertex) cycle

/-! ## Cycles -/

/-- A cycle runs through vertices that are on a cycle. -/
theorem transGen_on_cycles {β : Type} {r : β → β → Prop} {a b}
    (path : TransGen r a b) (back : ReflTransGen r b a) :
    TransGen (fun x y => r x y ∧ TransGen r x x ∧ TransGen r y y) a b := by
  induction path with
  | single edge =>
    exact .single ⟨edge, .trans_left (.single edge) back, .trans_right back (.single edge)⟩
  | @tail b c path edge ih =>
    have back' : ReflTransGen r b a := .head edge back
    refine .tail (ih back') ⟨edge, ?_, ?_⟩
    · exact .trans_right back' path
    · exact .trans_right back (path.tail edge)

end DepthFirst
