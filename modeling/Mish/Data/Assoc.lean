import Mathlib.Data.List.Nodup

/-!
# Association lists

`insert` and `remove` on lists of pairs, by what `List.lookup` finds afterwards.
-/

namespace Assoc
open List

variable {κ β : Type} [DecidableEq κ] {key : κ} {value : β} {table : List (κ × β)}

/-- An entry that exists keeps its place. -/
def insert (key : κ) (value : β) : List (κ × β) → List (κ × β)
  | [] => [(key, value)]
  | (k, v) :: rest => if k = key then (key, value) :: rest else (k, v) :: insert key value rest

def remove (key : κ) (entries : List (κ × β)) : List (κ × β) := entries.filter (·.1 ≠ key)

theorem lookup_cons (k key : κ) (v : β) (rest : List (κ × β)) :
    lookup key ((k, v) :: rest) = if key = k then some v else lookup key rest := by
  by_cases same : key = k
  · subst same
    simp
  · have differ : (key == k) = false := beq_false_of_ne same
    rw [List.lookup_cons, differ, if_neg same]

theorem lookup_insert (entries : List (κ × β)) (k key : κ) (v : β) :
    (insert k v entries).lookup key = if key = k then some v else entries.lookup key := by
  induction entries with
  | nil => simp [insert, lookup_cons]
  | cons entry rest ih =>
    obtain ⟨k', v'⟩ := entry
    simp only [insert]
    split
    · rename_i same
      subst same
      simp only [lookup_cons]
      split <;> rfl
    · rename_i other
      simp only [lookup_cons, ih]
      by_cases here : key = k'
      · subst here
        simp [other]
      · simp [here]

theorem lookup_remove (entries : List (κ × β)) (k key : κ) :
    (remove k entries).lookup key = if key = k then none else entries.lookup key := by
  induction entries with
  | nil => simp [remove]
  | cons entry rest ih =>
    obtain ⟨k', v'⟩ := entry
    unfold remove at ih ⊢
    by_cases same : k' = k
    · subst same
      rw [filter_cons_of_neg (by simp), ih, lookup_cons]
      split <;> rfl
    · rw [filter_cons_of_pos (by simpa using same), lookup_cons, lookup_cons, ih]
      by_cases here : key = k'
      · subst here
        simp [same]
      · simp [here]

theorem mem_insert {entries entry}
    (mem : entry ∈ insert key value entries) : entry = (key, value) ∨ entry ∈ entries := by
  induction entries with
  | nil => exact .inl (mem_singleton.1 mem)
  | cons first rest ih =>
    simp only [insert] at mem
    split at mem
    · exact (mem_cons.1 mem).imp_right (mem_cons_of_mem _)
    · rcases mem_cons.1 mem with rfl | mem
      · exact .inr (by simp)
      · exact (ih mem).imp_right (mem_cons_of_mem _)

theorem remove_insert_sublist (entries : List (κ × β)) (key : κ) (value : β) :
    (remove key (insert key value entries)).Sublist entries := by
  induction entries with
  | nil => simp [insert, remove]
  | cons entry rest ih =>
    unfold remove at ih ⊢
    simp only [insert]
    split
    · rw [filter_cons_of_neg (by simp)]
      exact filter_sublist.cons _
    · rename_i other
      rw [filter_cons_of_pos (by simpa using other)]
      exact ih.cons_cons _

theorem lookup_eq_some_of_mem (distinct : (table.map Prod.fst).Nodup)
    (mem : (key, value) ∈ table) : table.lookup key = some value := by
  induction table with
  | nil => cases mem
  | cons pair rest ih =>
    obtain ⟨k, v⟩ := pair
    rw [map_cons, nodup_cons] at distinct
    rcases mem_cons.1 mem with same | later
    · cases same
      simp
    · have other : key ≠ k := by
        rintro rfl
        exact distinct.1 (mem_map.2 ⟨_, later, rfl⟩)
      rw [lookup_cons, if_neg other]
      exact ih distinct.2 later

theorem mem_of_lookup_eq_some (found : table.lookup key = some value) : (key, value) ∈ table := by
  induction table with
  | nil => cases found
  | cons pair rest ih =>
    rw [lookup_cons] at found
    split at found
    · rename_i same
      cases found
      simp [same]
    · exact mem_cons_of_mem _ (ih found)

theorem mem_keys : key ∈ table.map Prod.fst ↔ ∃ value, table.lookup key = some value := by
  induction table with
  | nil => simp
  | cons pair rest ih =>
    obtain ⟨k, v⟩ := pair
    rw [lookup_cons, map_cons, mem_cons, ih]
    by_cases same : key = k <;> simp [same]

end Assoc
