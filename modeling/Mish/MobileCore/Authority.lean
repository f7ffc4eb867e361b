import Mathlib.Algebra.Group.Nat.Defs
import Mathlib.Data.List.Basic
import Mathlib.Logic.Relation

/-!
# Lifecycle requests of the mobile core

A lifecycle machine numbers the starts and stops it issues. On their way to the core they may
be lost, delayed and repeated; the core accepts a successor of what it accepted last.
-/

namespace Mish.MobileCore

structure LifecycleAuthority where
  machineAuthority : String
  scopeEpoch : Nat
  operationId : String
  admittedRevision : Nat
  /-- The number that is sent as decimal text. -/
  effectIdentity : Nat
  deriving DecidableEq

/-- A start or a stop; `valid` if its fields pass their checks. -/
structure Request where
  (stops valid : Bool)
  session : String
  authority : LifecycleAuthority

def lifecycleSuccessor (candidate : LifecycleAuthority) : Option LifecycleAuthority → Bool
  | none => true
  | some current =>
    if candidate.machineAuthority ≠ current.machineAuthority then false
    else if candidate.scopeEpoch ≠ current.scopeEpoch then current.scopeEpoch < candidate.scopeEpoch
    else if candidate.admittedRevision ≠ current.admittedRevision then
      current.admittedRevision < candidate.admittedRevision
    else if current.effectIdentity = 2 ^ 64 - 1 then false
    else candidate.operationId = current.operationId &&
      candidate.effectIdentity = current.effectIdentity + 1

/-! ## The core -/

structure Core where
  (initialized loaded running : Bool)
  session : String
  lifecycle : Option LifecycleAuthority

inductive Answer where
  | invalidArgument | notInitialized | notLoaded | conflict | stale | repeated | accepted
  deriving DecidableEq

namespace Core
variable (core : Core) (request : Request)

/-- An accepted start can still fail to establish the TUN. -/
def start (established : Bool) : Answer × Core :=
  if !request.valid then (.invalidArgument, core)
  else if !core.initialized then (.notInitialized, core)
  else if !core.loaded then (.notLoaded, core)
  else if core.running then
    if core.session = request.session ∧ core.lifecycle = some request.authority then
      (.repeated, core)
    else (.conflict, core)
  else if !lifecycleSuccessor request.authority core.lifecycle then (.stale, core)
  else if established then
    (.accepted, { core with
      running := true, session := request.session, lifecycle := some request.authority })
  else (.accepted, { core with lifecycle := some request.authority })

def stop : Answer × Core :=
  if !request.valid then (.invalidArgument, core)
  else if !core.initialized then (.notInitialized, core)
  else if !core.running ∧ core.lifecycle = some request.authority then (.repeated, core)
  else if core.running ∧ request.session ≠ "" ∧ request.session ≠ core.session then
    (.conflict, core)
  else if !lifecycleSuccessor request.authority core.lifecycle then (.stale, core)
  else if core.running then
    (.accepted, { core with running := false, session := "", lifecycle := some request.authority })
  else (.accepted, { core with lifecycle := some request.authority })

def receive (established : Bool) : Answer × Core :=
  if request.stops then core.stop request else core.start request established

end Core

/-! ## The machines that issue -/

/-- What of a lifecycle machine its requests are numbered by. -/
structure Machine where
  authorityId : String
  (scopeEpoch revision : Nat)

/-- `LifecycleState::initial`, by the valid lifecycle authority of the facts. -/
def Machine.initial (authorityId : String) (recovered : Option LifecycleAuthority) : Machine where
  authorityId := (recovered.map (·.machineAuthority)).getD authorityId
  scopeEpoch := (recovered.map (·.scopeEpoch)).getD 1
  revision := (recovered.map fun a => max a.admittedRevision 1).getD 1

/-- The order in which a machine issues: by operation, and by effect within one. -/
def LifecycleAuthority.Precedes (a b : LifecycleAuthority) : Prop :=
  a.machineAuthority = b.machineAuthority ∧ a.scopeEpoch = b.scopeEpoch ∧
    (a.admittedRevision < b.admittedRevision ∨ a.admittedRevision = b.admittedRevision ∧
      a.operationId = b.operationId ∧ a.effectIdentity < b.effectIdentity)

structure Machine.Issues (m : Machine) (requests : List Request) : Prop where
  own : ∀ r ∈ requests, r.authority.machineAuthority = m.authorityId ∧
    r.authority.scopeEpoch = m.scopeEpoch ∧ m.revision < r.authority.admittedRevision ∧
    r.authority.effectIdentity < 2 ^ 64
  rising : requests.Pairwise (·.authority.Precedes ·.authority)

/-- What successive machines issue, each built with a fresh id. -/
inductive Issued : List Request → Prop where
  | nothing : Issued []
  | machine {earlier requests} (id : String) (recovered : Option LifecycleAuthority) :
      Issued earlier → (∀ r ∈ earlier, r.authority.machineAuthority ≠ id) →
      (Machine.initial id recovered).Issues requests → Issued (earlier ++ requests)

/-! ## What the core gets -/

/-- The core, and the places in the history of what it accepted. -/
structure Delivery where
  core : Core
  accepted : List Nat

/-- Any request of the history may come at any time, or never. -/
inductive Delivered (issued : List Request) : Delivery → Prop where
  | opening : Delivered issued ⟨⟨false, false, false, "", none⟩, []⟩
  | prepared {d} (initialized loaded : Bool) : Delivered issued d →
      Delivered issued { d with core := { d.core with initialized, loaded } }
  | received {d i request} (established : Bool) : Delivered issued d → issued[i]? = some request →
      Delivered issued
        ⟨(d.core.receive request established).2,
          if (d.core.receive request established).1 = .accepted then i :: d.accepted
          else d.accepted⟩

/-- The request goes on with the operation the core accepted last, past an effect of it. -/
def Skips (core : Core) (request : Request) : Prop :=
  ∃ current, core.lifecycle = some current ∧
    current.admittedRevision = request.authority.admittedRevision ∧
    current.effectIdentity + 1 < request.authority.effectIdentity

variable {issued : List Request} {d : Delivery} {core : Core} {request r c : Request} {m : Machine}
  {a b : LifecycleAuthority} {established : Bool} {i k : Nat}

theorem not_successor_of_precedes (h : a.Precedes b) : lifecycleSuccessor a (some b) = false := by
  obtain ⟨machine, scope, before⟩ := h
  simp only [lifecycleSuccessor, machine, scope]
  grind

theorem successor_of_precedes (h : a.Precedes b) (bounded : b.effectIdentity < 2 ^ 64) :
    lifecycleSuccessor b (some a) = true ↔
    (a.admittedRevision = b.admittedRevision → b.effectIdentity = a.effectIdentity + 1) := by
  obtain ⟨machine, scope, before⟩ := h
  simp only [lifecycleSuccessor, machine, scope]
  grind

/-- What each answer says of the request and of the core after it. -/
theorem receive_spec (core : Core) (request : Request) (established : Bool) :
    ((core.receive request established).1 = .accepted →
    lifecycleSuccessor request.authority core.lifecycle = true ∧
    (core.receive request established).2.lifecycle = some request.authority) ∧
    ((core.receive request established).1 = .stale →
    lifecycleSuccessor request.authority core.lifecycle = false) ∧
    ((core.receive request established).1 ≠ .accepted →
    (core.receive request established).2 = core) := by
  unfold Core.receive Core.start Core.stop
  cases lifecycleSuccessor request.authority core.lifecycle with
  | false =>
    simp only [Bool.not_false, if_true]
    split_ifs <;> simp
  | true =>
    simp only [Bool.not_true, Bool.false_eq_true, if_false]
    split_ifs <;> simp

theorem Machine.Issues.precedes (h : m.Issues issued) (at_i : issued[i]? = some r)
    (at_k : issued[k]? = some c) (before : i < k) : r.authority.Precedes c.authority := by
  obtain ⟨hi, rfl⟩ := List.getElem?_eq_some_iff.1 at_i
  obtain ⟨hk, rfl⟩ := List.getElem?_eq_some_iff.1 at_k
  exact List.pairwise_iff_getElem.1 h.rising i k hi hk before

theorem Machine.Issues.late (h : m.Issues issued) (at_i : issued[i]? = some r)
    (at_k : issued[k]? = some c) (late : i ≤ k) : r = c ∨ r.authority.Precedes c.authority := by
  rcases Nat.eq_or_lt_of_le late with rfl | before
  · exact .inl (Option.some.inj (at_i.symm.trans at_k))
  · exact .inr (h.precedes at_i at_k before)

/-- The core holds the newest of what it accepted. -/
def Newest (issued : List Request) (d : Delivery) : Option LifecycleAuthority → Prop
  | none => d.accepted = []
  | some current => ∃ k ∈ d.accepted, ∃ c, issued[k]? = some c ∧ c.authority = current ∧
      ∀ j ∈ d.accepted, j ≤ k

theorem Newest.accepted_lt (h : Newest issued d d.core.lifecycle) (of : m.Issues issued)
    (at_i : issued[i]? = some request)
    (accepted : (d.core.receive request established).1 = .accepted) : ∀ j ∈ d.accepted, j < i := by
  intro j mem
  have succeeds := ((receive_spec _ _ _).1 accepted).1
  cases held : d.core.lifecycle with
  | none =>
    rw [held] at h
    rw [show d.accepted = [] from h] at mem
    cases mem
  | some current =>
    rw [held] at h succeeds
    obtain ⟨k, -, c, at_k, rfl, newest⟩ := h
    refine Nat.lt_of_le_of_lt (newest j mem) (Nat.lt_of_not_le fun late => ?_)
    rcases of.late at_i at_k late with rfl | before
    · simp [lifecycleSuccessor] at succeeds
    · simp [not_successor_of_precedes before] at succeeds

theorem newest_of_delivered (of : m.Issues issued) (h : Delivered issued d) :
    Newest issued d d.core.lifecycle := by
  induction h with
  | opening => rfl
  | prepared _ _ _ ih => exact ih
  | @received d i request established _ at_i ih =>
    by_cases accepted : (d.core.receive request established).1 = .accepted
    · rw [if_pos accepted, ((receive_spec _ _ _).1 accepted).2]
      refine ⟨i, .head _, request, at_i, rfl, fun j mem => ?_⟩
      rcases List.mem_cons.1 mem with rfl | mem
      · exact Nat.le_refl _
      · exact Nat.le_of_lt (ih.accepted_lt of at_i accepted j mem)
    · rw [if_neg accepted, (receive_spec _ _ _).2.2 accepted]
      exact ih

/-- What the core accepts of one machine is newer than all it accepted before, and a newer
request is refused as stale only if it skips an effect. -/
theorem one_machine_ordered (of : m.Issues issued) (h : Delivered issued d)
    (at_i : issued[i]? = some request) (established : Bool) :
    ((d.core.receive request established).1 = .accepted → ∀ j ∈ d.accepted, j < i) ∧
    ((d.core.receive request established).1 = .stale →
      ((∀ j ∈ d.accepted, j < i) ↔ Skips d.core request)) := by
  have inv := newest_of_delivered of h
  refine ⟨inv.accepted_lt of at_i, fun stale => ?_⟩
  have refused := (receive_spec _ _ _).2.1 stale
  cases held : d.core.lifecycle with
  | none => simp [held, lifecycleSuccessor] at refused
  | some current =>
    rw [held] at inv refused
    obtain ⟨k, mem, c, at_k, rfl, newest⟩ := inv
    simp only [Skips, held, Option.some.injEq, exists_eq_left']
    constructor
    · intro newer
      have precedes := of.precedes at_k at_i (newer k mem)
      have bounded := (of.own request (List.mem_of_getElem? at_i)).2.2.2
      have gap := mt (successor_of_precedes precedes bounded).2 (by simp [refused])
      obtain ⟨-, -, before⟩ := precedes
      omega
    · rintro ⟨revision, skips⟩ j memj
      refine Nat.lt_of_le_of_lt (newest j memj) (Nat.lt_of_not_le fun late => ?_)
      rcases of.late at_i at_k late with rfl | ⟨-, -, before⟩ <;> omega

/-! ## Successive machines -/

/-- What the core has accepted is of the machine whose authority it holds. -/
theorem accepted_of_held (h : Delivered issued d) : ∀ j ∈ d.accepted, ∃ current,
    d.core.lifecycle = some current ∧
    ∀ c, issued[j]? = some c → c.authority.machineAuthority = current.machineAuthority := by
  induction h with
  | opening => simp
  | prepared _ _ _ ih => exact ih
  | @received d i request established _ at_i ih =>
    by_cases accepted : (d.core.receive request established).1 = .accepted
    · obtain ⟨succeeds, held⟩ := (receive_spec _ _ _).1 accepted
      rw [if_pos accepted, held]
      intro j mem
      refine ⟨_, rfl, fun c at_j => ?_⟩
      rcases List.mem_cons.1 mem with rfl | mem
      · rw [Option.some.inj (at_j.symm.trans at_i)]
      · obtain ⟨current, last, same⟩ := ih j mem
        rw [last, lifecycleSuccessor] at succeeds
        split at succeeds
        · cases succeeds
        · rename_i unchanged
          exact (same c at_j).trans (not_not.1 unchanged).symm
    · rw [if_neg accepted, (receive_spec _ _ _).2.2 accepted]
      exact ih

/-- Once the core has accepted a request of an earlier machine, it accepts none of a machine that
is built later with a fresh id and nothing recovered. -/
theorem fresh_machine_never_accepted {earlier requests : List Request} {id : String} {j : Nat}
    (fresh : ∀ r ∈ earlier, r.authority.machineAuthority ≠ id)
    (of : (Machine.initial id none).Issues requests) (h : Delivered (earlier ++ requests) d)
    (mem : j ∈ d.accepted) (before : j < earlier.length) (request_mem : request ∈ requests) :
    (d.core.receive request established).1 ≠ .accepted := by
  intro accepted
  have succeeds := ((receive_spec _ _ _).1 accepted).1
  obtain ⟨current, held, same⟩ := accepted_of_held h j mem
  have first : (earlier ++ requests)[j]? = some (earlier[j]) := by
    rw [List.getElem?_append_left before, List.getElem?_eq_getElem before]
  have other : request.authority.machineAuthority ≠ current.machineAuthority := by
    rw [← same _ first, (of.own request request_mem).1]
    exact (fresh _ (List.getElem_mem before)).symm
  rw [held, lifecycleSuccessor, if_pos other] at succeeds
  cases succeeds

def sampleRequest (machineAuthority : String) (stops : Bool) (revision : Nat) : Request :=
  ⟨stops, true, "session", machineAuthority, 1, toString revision, revision, 1⟩

def firstRequests : List Request := [sampleRequest "first" false 2, sampleRequest "first" true 3]

theorem issues_firstRequests : (Machine.initial "first" none).Issues firstRequests :=
  ⟨by decide, by simp [firstRequests, sampleRequest, LifecycleAuthority.Precedes]⟩

theorem one_machine_ordered_stop : ∃ d, Delivered firstRequests d ∧ d.accepted = [0] ∧
    (d.core.receive (sampleRequest "first" true 3) true).1 = .accepted ∧ ∀ j ∈ d.accepted, j < 1 := by
  have run : Delivered firstRequests _ := .received (i := 0) true (.prepared true true .opening) rfl
  exact ⟨_, run, rfl, by decide,
    (one_machine_ordered issues_firstRequests run (i := 1) rfl true).1 (by decide)⟩

/-- Started and stopped by one machine, the core refuses the next one. -/
theorem new_machine_refused : ∃ history d, Issued history ∧ Delivered history d ∧
    d.accepted = [1, 0] ∧ ∃ request, history[2]? = some request ∧
      (d.core.receive request true).1 = .stale := by
  refine ⟨firstRequests ++ [sampleRequest "second" false 2], _, ?_, .received true
    (.received true (.prepared true true .opening) (i := 0) rfl) (i := 1) rfl, ?_, _, rfl, ?_⟩
  · exact .machine "second" none (.machine "first" none .nothing (by simp) issues_firstRequests)
      (by decide) ⟨by decide, by simp⟩
  · decide
  · decide

end Mish.MobileCore
