import Mathlib.Algebra.Group.Nat.Defs
import Mathlib.Data.List.Chain

/-!
# The client's session authority

`RpcSessionAuthority` without `clear` and `dispose`: which of the delivered snapshots the client
takes, over every sequence of connects, disconnects, tickets and deliveries.
-/

namespace Mish.RpcClient

def maxSafeInteger : Nat := 2 ^ 53 - 1

/-- Throws when the numbers are exhausted. -/
def increment (value : Nat) : Option Nat :=
  if value < maxSafeInteger then some (value + 1) else none

structure ApplicationSnapshotOrder where
  authorityId : String
  (epoch order : Nat)
  deriving DecidableEq

def ApplicationSnapshotOrder.Below (o other : ApplicationSnapshotOrder) : Prop :=
  o.epoch < other.epoch ∨ o.epoch = other.epoch ∧ o.order < other.order

structure RpcSessionSnapshot (Content : Type) where
  applicationOrder : ApplicationSnapshotOrder
  content : Content
  deriving DecidableEq

inductive Delivery where
  | baseline | update | command | request
  deriving DecidableEq

inductive TicketKind where
  | request | subscription

structure RpcSessionTicket where
  kind : TicketKind
  sequence : Nat
  generation : Option Nat

inductive Acceptance where
  | accepted | duplicate | stale | conflict

/-- The sets of tickets hold their sequences. -/
structure RpcSessionAuthority (Content : Type) where
  connected : Bool := false
  current : Option (RpcSessionSnapshot Content) := none
  baselinePending : Bool := true
  reconnectPending : Bool := false
  transportGeneration : Nat := 0
  nextTicketSequence : Nat := 1
  pendingTickets : List Nat := []
  ticketGenerations : Nat → Option Nat := fun _ => none

variable {Content : Type}

namespace RpcSessionAuthority
variable (s : RpcSessionAuthority Content)

def observeTransport (connected : Bool) : RpcSessionAuthority Content :=
  if connected = s.connected then s
  else if connected then
    match increment s.transportGeneration with
    -- the exception leaves the rest undone
    | none => { s with connected := true }
    | some generation =>
      { s with
        connected := true
        transportGeneration := generation
        ticketGenerations := fun ticket =>
          if ticket ∈ s.pendingTickets then some generation else s.ticketGenerations ticket
        pendingTickets := []
        baselinePending := true
        reconnectPending := s.current.isSome }
  else
    { s with connected := false, baselinePending := true, reconnectPending := s.current.isSome }

def beginTicket (kind : TicketKind) : Option RpcSessionTicket × RpcSessionAuthority Content :=
  match increment s.nextTicketSequence with
  | none => (none, s)
  | some next =>
    (some ⟨kind, s.nextTicketSequence, if s.connected then some s.transportGeneration else none⟩,
      { s with
        nextTicketSequence := next
        pendingTickets :=
          if s.connected then s.pendingTickets else s.nextTicketSequence :: s.pendingTickets })

def beginRequest (bootstrap : Bool) : Option RpcSessionTicket × RpcSessionAuthority Content :=
  (if bootstrap && !s.connected && s.transportGeneration = 0 then s.observeTransport true
    else s).beginTicket .request

def beginSubscription : Option RpcSessionTicket × RpcSessionAuthority Content :=
  s.beginTicket .subscription

/-- The generation a ticket is bound to, from now on if from no earlier moment. -/
def generationOf (ticket : RpcSessionTicket) : Option Nat :=
  (s.ticketGenerations ticket.sequence).or <| ticket.generation.or <|
    if !s.connected || s.transportGeneration = 0 then none else some s.transportGeneration

def resolveGeneration (ticket : RpcSessionTicket) : RpcSessionAuthority Content :=
  { s with ticketGenerations := fun other =>
      if other = ticket.sequence then s.generationOf ticket else s.ticketGenerations other }

def confirmBaseline : RpcSessionAuthority Content :=
  { s with baselinePending := false, reconnectPending := false }

def isStale : Bool := !s.connected || s.baselinePending

variable [DecidableEq Content]

/-- What `accept` makes of a snapshot that came with a ticket of the generation. -/
def judge (next : RpcSessionSnapshot Content) (delivery : Delivery) : Acceptance :=
  match s.current with
  | none => if delivery = .update then .stale else .accepted
  | some current =>
    let incoming := next.applicationOrder
    let accepted := current.applicationOrder
    if s.baselinePending ∧ delivery = .update then .stale
    else if incoming.authorityId ≠ accepted.authorityId then
      if delivery ≠ .baseline ∧
          ¬(s.reconnectPending ∧ (delivery = .command ∨ delivery = .request)) then .stale
      else .accepted
    else if incoming.epoch < accepted.epoch then .stale
    else if accepted.epoch < incoming.epoch then .accepted
    else if incoming.order < accepted.order then .stale
    else if accepted.order < incoming.order then .accepted
    else if current = next then .duplicate
    else .conflict

def accept (ticket : RpcSessionTicket) (next : RpcSessionSnapshot Content) (delivery : Delivery) :
    Acceptance × RpcSessionAuthority Content :=
  let resolved := s.resolveGeneration ticket
  if s.connected ∧ s.generationOf ticket = some s.transportGeneration then
    match s.judge next delivery with
    | .accepted => (.accepted, { resolved with current := some next }.confirmBaseline)
    | .duplicate => (.duplicate, resolved.confirmBaseline)
    | kind => (kind, resolved)
  else (.stale, resolved)

end RpcSessionAuthority

/-! ## Runs -/

open RpcSessionAuthority

inductive Event (Content : Type) where
  | observeTransport (connected : Bool)
  | beginRequest (bootstrap : Bool)
  | beginSubscription
  | deliver (ticket : RpcSessionTicket) (next : RpcSessionSnapshot Content) (delivery : Delivery)

/-- The session, the snapshots it has accepted, the last one first, and whether a baseline, command
or request snapshot was accepted or confirmed as a duplicate since the last connect or disconnect. -/
structure Run (Content : Type) where
  session : RpcSessionAuthority Content
  accepted : List ApplicationSnapshotOrder
  confirmed : Bool

def Run.start : Run Content := ⟨{}, [], false⟩

section
variable [DecidableEq Content]

def Run.next (r : Run Content) : Event Content → Run Content
  | .observeTransport connected =>
    { r with
      session := r.session.observeTransport connected
      confirmed := r.confirmed && connected = r.session.connected }
  | .beginRequest bootstrap => { r with session := (r.session.beginRequest bootstrap).2 }
  | .beginSubscription => { r with session := r.session.beginSubscription.2 }
  | .deliver ticket next delivery =>
    match r.session.accept ticket next delivery with
    | (.accepted, session) =>
      ⟨session, next.applicationOrder :: r.accepted, r.confirmed || delivery ≠ .update⟩
    | (.duplicate, session) => { r with session, confirmed := r.confirmed || delivery ≠ .update }
    | (_, session) => { r with session }

/-! ## What is accepted -/

section
variable {s : RpcSessionAuthority Content} {next : RpcSessionSnapshot Content} {delivery : Delivery}

/-- An update comes after a confirmation, and a snapshot of the same authority is above the current
one. Another authority comes with a baseline or after a reconnect. -/
structure Admissible (s : RpcSessionAuthority Content) (next : RpcSessionSnapshot Content)
    (delivery : Delivery) : Prop where
  update : delivery = .update → s.baselinePending = false
  above : ∀ current, s.current = some current →
    next.applicationOrder.authorityId = current.applicationOrder.authorityId →
    current.applicationOrder.Below next.applicationOrder
  switched : ∀ current, s.current = some current →
    next.applicationOrder.authorityId ≠ current.applicationOrder.authorityId →
    delivery = .baseline ∨ s.reconnectPending = true ∧ (delivery = .command ∨ delivery = .request)

theorem judge_accepted (accepted : s.judge next delivery = .accepted) :
    Admissible s next delivery := by
  unfold judge at accepted
  cases current : s.current with
  | none =>
    simp only [current] at accepted
    split_ifs at accepted with update
    exact ⟨fun is => absurd is update, fun _ is => (nomatch current.symm.trans is),
      fun _ is => (nomatch current.symm.trans is)⟩
  | some shown =>
    constructor <;> grind [ApplicationSnapshotOrder.Below]

theorem judge_duplicate (duplicate : s.judge next delivery = .duplicate)
    (update : delivery = .update) : s.baselinePending = false := by
  unfold judge at duplicate
  grind

end
end

structure Kept (r : Run Content) : Prop where
  confirmed : r.confirmed = !r.session.isStale
  reconnect : r.session.reconnectPending = true → r.session.baselinePending = true
  resting : r.session.connected = false → r.session.baselinePending = true
  latest : r.accepted.head? = r.session.current.map (·.applicationOrder)
  rising : r.accepted.IsChain fun later earlier =>
    later.authorityId = earlier.authorityId → earlier.Below later

theorem Kept.beginTicket {r : Run Content} (h : Kept r) (kind : TicketKind) :
    Kept { r with session := (r.session.beginTicket kind).2 } := by
  unfold RpcSessionAuthority.beginTicket
  split
  · exact h
  · exact ⟨h.confirmed, h.reconnect, h.resting, h.latest, h.rising⟩

variable [DecidableEq Content]

theorem Kept.observeTransport {r : Run Content} (h : Kept r) (connected : Bool) :
    Kept (r.next (.observeTransport connected)) := by
  obtain ⟨confirmed, reconnect, resting, latest, rising⟩ := h
  simp only [Run.next, RpcSessionAuthority.observeTransport]
  split_ifs with same connects
  · exact ⟨by simp [same, confirmed], reconnect, resting, latest, rising⟩
  · have was : r.session.connected = false := by grind
    split
    · exact ⟨by simp [was, connects, confirmed, isStale, resting was], reconnect, nofun, latest,
        rising⟩
    · exact ⟨by simp [was, connects, isStale], fun _ => rfl, nofun, latest, rising⟩
  · exact ⟨by simp [same, isStale], fun _ => rfl, fun _ => rfl, latest, rising⟩

theorem Kept.next {r : Run Content} (h : Kept r) (event : Event Content) : Kept (r.next event) := by
  cases event with
  | observeTransport connected => exact h.observeTransport connected
  | beginSubscription => exact h.beginTicket .subscription
  | beginRequest bootstrap =>
    simp only [Run.next, beginRequest]
    split_ifs with bootstraps
    · have connects := (h.observeTransport true).beginTicket .request
      have unconfirmed : r.confirmed = false := by simp_all [h.confirmed, isStale]
      simpa [Run.next, unconfirmed] using connects
    · exact h.beginTicket .request
  | deliver ticket next delivery =>
    simp only [Run.next, accept]
    split_ifs with current
    · have fresh (update : delivery = .update → r.session.baselinePending = false) :
          (r.confirmed || decide (delivery ≠ .update)) = true := by
        by_cases is : delivery = .update
        · simp [h.confirmed, isStale, current.1, update is]
        · simp [is]
      cases judged : r.session.judge next delivery with
      | accepted =>
        have admissible := judge_accepted judged
        refine ⟨?_, nofun, fun off => absurd (current.1.symm.trans off) nofun, rfl,
          List.isChain_cons.2 ⟨fun earlier head same => ?_, h.rising⟩⟩
        · exact (fresh admissible.update).trans
            (by simp [isStale, confirmBaseline, resolveGeneration, current.1])
        · rw [h.latest] at head
          obtain ⟨shown, is, rfl⟩ := Option.map_eq_some_iff.1 head
          exact admissible.above shown is same
      | duplicate =>
        refine ⟨?_, nofun, fun off => absurd (current.1.symm.trans off) nofun, h.latest, h.rising⟩
        exact (fresh (judge_duplicate judged)).trans
          (by simp [isStale, confirmBaseline, resolveGeneration, current.1])
      | stale | conflict => exact ⟨h.confirmed, h.reconnect, h.resting, h.latest, h.rising⟩
    · exact ⟨h.confirmed, h.reconnect, h.resting, h.latest, h.rising⟩

theorem kept_run (events : List (Event Content)) : Kept (events.foldl Run.next .start) := by
  refine List.foldlRecOn (motive := Kept) events _ ?_ fun _ h event _ => h.next event
  exact ⟨rfl, nofun, fun _ => rfl, rfl, .nil⟩

/-- An accepted delivery came with a ticket of the connected generation. The accepted snapshots of
one authority rise while it is the current one, which only a baseline replaces, or the first command
or request snapshot after a reconnect. No update is accepted before a confirmation, and the session
is stale unless it was confirmed. -/
theorem session_never_goes_back (events : List (Event Content)) :
    let r := events.foldl Run.next Run.start
    (∀ ticket next delivery, (r.session.accept ticket next delivery).1 = .accepted →
      r.session.connected = true ∧
      r.session.generationOf ticket = some r.session.transportGeneration ∧
      (∀ current, r.session.current = some current →
        next.applicationOrder.authorityId ≠ current.applicationOrder.authorityId →
        delivery = .baseline ∨ r.confirmed = false ∧ (delivery = .command ∨ delivery = .request)) ∧
      (delivery = .update → r.confirmed = true)) ∧
    (r.accepted.IsChain fun later earlier =>
      later.authorityId = earlier.authorityId → earlier.Below later) ∧
    (r.session.isStale = false ↔ r.confirmed = true) := by
  intro r
  have h : Kept r := kept_run events
  refine ⟨fun ticket next delivery taken => ?_, h.rising, by simp [h.confirmed]⟩
  unfold accept at taken
  split_ifs at taken with current
  have judged : r.session.judge next delivery = .accepted := by
    revert taken
    cases r.session.judge next delivery <;> simp
  have admissible := judge_accepted judged
  refine ⟨current.1, current.2, fun shown is other => ?_, fun update => ?_⟩
  · refine (admissible.switched shown is other).imp_right fun pending => ⟨?_, pending.2⟩
    simp [h.confirmed, isStale, h.reconnect pending.1]
  · simp [h.confirmed, isStale, current.1, admissible.update update]

end Mish.RpcClient
