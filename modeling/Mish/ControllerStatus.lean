import Mathlib.Algebra.Group.Nat.Defs
import Mathlib.Data.Finset.Basic
import Mathlib.Data.List.DropRight
import Mathlib.Data.List.Nodup

/-!
# Group usage

`ControllerStatusMapper`: how many connections each policy group has been seen to carry, from the
connections the controller lists again and again.
-/

namespace Mish.ControllerStatus

structure Connection where
  id : String
  chains : List String

/-- The groups of a catalog. `map_catalog` refuses one in which two labels have the same id. -/
structure MappedCatalog where
  groupIdsByLabel : String → Option String
  distinct : ∀ first second id,
    groupIdsByLabel first = some id → groupIdsByLabel second = some id → first = second

/-- What a batch tells about groups, and whether `map_catalog`, `map_traffic_value` and
`map_connection` accept its values. -/
structure ControllerObservationBatch where
  catalog : Option MappedCatalog
  connections : List Connection
  accepted : Bool

structure ControllerStatusMapper where
  maxSeenConnectionIds : Nat
  catalog : Option MappedCatalog
  groupCountsById : String → Nat
  seenConnectionIds : Finset String
  seenConnectionOrder : List String

/-- The oldest ids are forgotten while there are more than `limit`. -/
def forget (limit : Nat) (seen : Finset String) : List String → Finset String × List String
  | [] => (seen, [])
  | id :: order =>
    if limit < order.length + 1 then forget limit (seen.erase id) order else (seen, id :: order)

namespace ControllerStatusMapper
variable (m : ControllerStatusMapper)

def withRetention (limit : Nat) : ControllerStatusMapper := ⟨limit, none, fun _ => 0, ∅, []⟩

def rememberConnection (id : String) : ControllerStatusMapper :=
  let kept := forget m.maxSeenConnectionIds (insert id m.seenConnectionIds)
    (m.seenConnectionOrder ++ [id])
  { m with seenConnectionIds := kept.1, seenConnectionOrder := kept.2 }

def observeConnection (catalog : MappedCatalog) (connection : Connection) :
    ControllerStatusMapper :=
  if connection.id ∈ m.seenConnectionIds then m
  else
    let traversed := connection.chains.filterMap catalog.groupIdsByLabel
    let counts id :=
      if id ∈ traversed then min (2 ^ 64 - 1) (m.groupCountsById id + 1) else m.groupCountsById id
    { m with groupCountsById := counts }.rememberConnection connection.id

def observeGroupUsage (connections : List Connection) : ControllerStatusMapper :=
  match m.catalog with
  | none => m
  | some catalog => connections.foldl (observeConnection · catalog) m

/-- A batch that is refused leaves the mapper as it was. -/
def apply (observations : ControllerObservationBatch) : ControllerStatusMapper :=
  if observations.accepted then
    { m with catalog := observations.catalog.or m.catalog }.observeGroupUsage
      observations.connections
  else m

end ControllerStatusMapper
open ControllerStatusMapper

/-! ## What a run lists -/

def listed (batches : List ControllerObservationBatch) : List Connection :=
  (batches.filter (·.accepted)).flatMap (·.connections)

/-- The first listing of each connection. -/
def firstListed (listed : List Connection) : List Connection :=
  listed.foldl (fun first c => if c.id ∈ first.map (·.id) then first else first ++ [c]) []

def idsListed (listed : List Connection) : List String := (firstListed listed).map (·.id)

/-- A connection that is listed again is among the last `limit` that were new. -/
def retained (limit : Nat) (before : List Connection) : List Connection → Bool
  | [] => true
  | c :: rest => decide (c.id ∈ idsListed before → c.id ∈ (idsListed before).rtake limit) &&
      retained limit (before ++ [c]) rest

/-- The mapper knows the group, and has counted each connection of its label once, up to the
largest count. -/
structure Counted (limit : Nat) (label id : String) (before : List Connection)
    (m : ControllerStatusMapper) : Prop where
  limited : m.maxSeenConnectionIds = limit
  known : ∃ catalog, m.catalog = some catalog ∧ catalog.groupIdsByLabel label = some id
  order : m.seenConnectionOrder = (idsListed before).rtake limit
  seen : m.seenConnectionIds = m.seenConnectionOrder.toFinset
  count : m.groupCountsById id =
    min (2 ^ 64 - 1) ((firstListed before).countP fun c => decide (label ∈ c.chains))

section
variable {limit : Nat} {before more : List Connection} {c : Connection} {label id : String}
  {m : ControllerStatusMapper} {catalog : MappedCatalog} {batch : ControllerObservationBatch}
  {batches : List ControllerObservationBatch}

theorem firstListed_snoc : firstListed (before ++ [c]) =
    if c.id ∈ idsListed before then firstListed before else firstListed before ++ [c] := by
  simp [firstListed, idsListed]

theorem idsListed_snoc (new : c.id ∉ idsListed before) :
    idsListed (before ++ [c]) = idsListed before ++ [c.id] := by
  rw [idsListed, firstListed_snoc, if_neg new, List.map_append]
  rfl

theorem idsListed_nodup : (idsListed before).Nodup := by
  induction before using List.reverseRecOn with
  | nil => exact List.nodup_nil
  | append_singleton before c ih =>
    by_cases new : c.id ∈ idsListed before
    · rwa [idsListed, firstListed_snoc, if_pos new]
    · rw [idsListed_snoc new]
      exact ih.append (List.nodup_singleton _) (by simpa using new)

theorem retained_append : retained limit before (more ++ rest) =
    (retained limit before more && retained limit (before ++ more) rest) := by
  induction more generalizing before with
  | nil => simp [retained]
  | cons c more ih => simp [retained, ih, Bool.and_assoc]

theorem rtake_concat (ids : List String) :
    (ids.rtake limit ++ [id]).rtake limit = (ids ++ [id]).rtake limit := by
  cases limit with
  | zero => simp
  | succ limit => simp [List.rtake_eq_reverse_take_reverse, List.take_take]

theorem forget_spec {order : List String} (distinct : order.Nodup) :
    forget limit order.toFinset order = ((order.rtake limit).toFinset, order.rtake limit) := by
  induction order with
  | nil => simp [forget]
  | cons id order ih =>
    rw [List.nodup_cons] at distinct
    rw [forget]
    split
    · rename_i long
      have erased : (id :: order).toFinset.erase id = order.toFinset := by simp [distinct.1]
      have dropped : (id :: order).rtake limit = order.rtake limit := by
        rw [List.rtake, List.length_cons, Nat.sub_add_comm (by omega), List.drop_succ_cons,
          List.rtake]
      rw [erased, ih distinct.2, dropped]
    · rename_i short
      rw [List.rtake, Nat.sub_eq_zero_of_le (by simpa using short), List.drop_zero]

theorem Counted.connection (h : Counted limit label id before m) (known : m.catalog = some catalog)
    (kept : c.id ∈ idsListed before → c.id ∈ (idsListed before).rtake limit) :
    Counted limit label id (before ++ [c]) (m.observeConnection catalog c) := by
  by_cases old : c.id ∈ m.seenConnectionIds
  · have again : c.id ∈ idsListed before := by
      rw [h.seen, h.order, List.mem_toFinset] at old
      exact List.mem_of_mem_drop old
    have same : firstListed (before ++ [c]) = firstListed before := by
      rw [firstListed_snoc, if_pos again]
    rw [observeConnection, if_pos old]
    exact ⟨h.limited, h.known, by rw [idsListed, same]; exact h.order, h.seen, by rw [same, h.count]⟩
  · have new : c.id ∉ idsListed before := fun again => old (by simpa [h.seen, h.order] using kept again)
    have through : id ∈ c.chains.filterMap catalog.groupIdsByLabel ↔ label ∈ c.chains := by
      obtain ⟨_, is, found⟩ := h.known
      cases is.symm.trans known
      rw [List.mem_filterMap]
      constructor
      · rintro ⟨other, chained, is⟩
        rwa [catalog.distinct label other id found is]
      · exact fun chained => ⟨label, chained, found⟩
    have distinct : (m.seenConnectionOrder ++ [c.id]).Nodup := by
      have suffix : m.seenConnectionOrder ++ [c.id] <:+ idsListed (before ++ [c]) := by
        rw [h.order, idsListed_snoc new]
        exact List.suffix_append_self_iff.2 (List.drop_suffix _ _)
      exact idsListed_nodup.sublist suffix.sublist
    have remembered : insert c.id m.seenConnectionIds =
        (m.seenConnectionOrder ++ [c.id]).toFinset := by
      ext other
      rw [Finset.mem_insert, h.seen, List.mem_toFinset, List.mem_toFinset, List.mem_append,
        List.mem_singleton, or_comm]
    rw [observeConnection, if_neg old, rememberConnection, remembered, forget_spec distinct, h.order,
      h.limited, rtake_concat, ← idsListed_snoc new]
    refine ⟨rfl, h.known, rfl, rfl, ?_⟩
    simp only [through, firstListed_snoc, if_neg new, List.countP_append, List.countP_singleton,
      decide_eq_true_eq, h.count]
    split <;> omega

theorem Counted.observes (h : Counted limit label id before m)
    (kept : retained limit before more = true) :
    Counted limit label id (before ++ more) (m.observeGroupUsage more) := by
  obtain ⟨catalog, known, -⟩ := h.known
  rw [observeGroupUsage, known]
  induction more generalizing before m with
  | nil => simpa using h
  | cons c more ih =>
    simp only [retained, Bool.and_eq_true, decide_eq_true_eq] at kept
    have same : (m.observeConnection catalog c).catalog = some catalog := by
      unfold observeConnection
      split <;> exact known
    have counted := ih (h.connection known kept.1) kept.2 same
    rwa [List.append_assoc] at counted

theorem Counted.run (h : Counted limit label id before m)
    (lists : ∀ batch ∈ batches, ∀ catalog, batch.catalog = some catalog →
    catalog.groupIdsByLabel label = some id)
    (kept : retained limit before (listed batches) = true) :
    Counted limit label id (before ++ listed batches) (batches.foldl apply m) := by
  induction batches generalizing before m with
  | nil => simpa [listed] using h
  | cons batch batches ih =>
    have later := fun batch mem => lists batch (List.mem_cons_of_mem _ mem)
    cases accepted : batch.accepted with
    | false =>
      have same : listed (batch :: batches) = listed batches := by simp [listed, accepted]
      rw [same] at kept ⊢
      simpa [apply, accepted] using ih h later kept
    | true =>
      have split : listed (batch :: batches) = batch.connections ++ listed batches := by
        simp [listed, accepted]
      rw [split, retained_append, Bool.and_eq_true] at kept
      have told : Counted limit label id before
          { m with catalog := batch.catalog.or m.catalog } := by
        refine ⟨h.limited, ?_, h.order, h.seen, h.count⟩
        cases is : batch.catalog with
        | none => exact h.known
        | some catalog => exact ⟨catalog, rfl, lists batch List.mem_cons_self catalog is⟩
      rw [split, ← List.append_assoc, List.foldl_cons, apply, if_pos accepted]
      exact ih (told.observes kept.1) later kept.2

end

/-- Where a connection is listed again only while it is among the last `limit` new ones, each
connection is counted once. -/
theorem group_usage_counts_once (limit : Nat) (catalog : MappedCatalog) (label id : String)
    (batches : List ControllerObservationBatch)
    (found : catalog.groupIdsByLabel label = some id)
    (lists : ∀ batch ∈ batches, ∀ catalog, batch.catalog = some catalog →
      catalog.groupIdsByLabel label = some id)
    (kept : retained limit [] (listed batches) = true) :
    ((⟨some catalog, [], true⟩ :: batches).foldl apply (withRetention limit)).groupCountsById id =
      min (2 ^ 64 - 1)
        ((firstListed (listed batches)).countP fun c => decide (label ∈ c.chains)) := by
  have start : Counted limit label id [] ((withRetention limit).apply ⟨some catalog, [], true⟩) :=
    ⟨rfl, ⟨catalog, rfl, found⟩, by simp [idsListed, firstListed]; rfl, rfl, rfl⟩
  exact (start.run lists kept).count

def proxyOnly : MappedCatalog where
  groupIdsByLabel label := if label = "Proxy" then some "group" else none
  distinct := by simp +contextual

/-- The first connection goes through the group, the others do not. -/
def lists (ids : List String) : ControllerObservationBatch :=
  ⟨none, ids.map fun id => ⟨id, if id = "a" then ["Proxy"] else []⟩, true⟩

theorem short_lived_counted_once :
    ([⟨some proxyOnly, [], true⟩, lists ["a"], lists ["a", "b"]].foldl apply
      (withRetention 2)).groupCountsById "group" = 1 :=
  group_usage_counts_once 2 proxyOnly "Proxy" "group" _ rfl (by simp [lists]) (by decide)

/-- A connection that lasts while two others come and go. -/
def lasting : List ControllerObservationBatch :=
  [lists ["a"], lists ["a", "b"], lists ["a", "c"], lists ["a", "c"]]

theorem lasting_counted_twice :
    (∀ batch ∈ lasting, batch.connections.length ≤ 2) ∧
    -- each connection is listed in consecutive batches only
    (∀ i j k : Fin 4, i ≤ j → j ≤ k → ∀ c ∈ lasting[i].connections,
      c.id ∈ lasting[k].connections.map (·.id) → c.id ∈ lasting[j].connections.map (·.id)) ∧
    (firstListed (listed lasting)).countP (fun c => decide ("Proxy" ∈ c.chains)) = 1 ∧
    ((⟨some proxyOnly, [], true⟩ :: lasting).foldl apply
      (withRetention 2)).groupCountsById "group" = 2 := by
  decide

end Mish.ControllerStatus
