import Mathlib.Algebra.Group.Nat.Defs
import Mathlib.Data.List.Nodup
import Mathlib.Logic.Function.Basic
import Mish.Data.Code

/-!
# The helper's request gate

`ServiceRequestGate` and the handlers of the connections, any number of them interleaved at every
use of the gate, with clients that send anything or disconnect anywhere. A client signs the bytes of
a transcript, and these bind every field of it.
-/

namespace Mish.TunService.RequestGate
open Function

inductive ServiceDiagnosticCode where
  | authenticationRejected
  | challengeExpired
  | invalidRequest
  | replayRejected

def maxOutstandingChallenges : Nat := 64
def challengeLifetimeMilliseconds : UInt64 := 5000
def requestMaxAgeMilliseconds : UInt64 := 10000
def requestFutureSkewMilliseconds : UInt64 := 1000
def replayWindow : Nat := 256
def keyAlgorithm : String := "p256-sha256"
def keyTranscriptVersion : UInt16 := 1
def helperProtocolVersion : UInt16 := 3

def saturatingAdd (a b : UInt64) : UInt64 := if a ≤ a + b then a + b else -1
def saturatingSub (a b : UInt64) : UInt64 := if b ≤ a then a - b else 0

structure PeerIdentity where
  (pid uid : UInt32)

/-- A nonce or a digest. -/
abbrev Bytes32 := Vector UInt8 32

/-! ## The transcript -/

@[ext] structure AuthenticationTranscript where
  (clientNonce commandDigest helperNonce : Bytes32)
  (helperInstallationId keyId operation requestId : String)
  (expiresAt issuedAt keyGeneration : UInt64)
  (peerPid peerUid : UInt32)
  protocolVersion : UInt16

def pushString (bytes : List UInt8) (value : String) : Option (List UInt8) :=
  if (utf8 value).length < 2 ^ 32 then some (bytes ++ encodeString value) else none

namespace AuthenticationTranscript

def canonicalBytes (t : AuthenticationTranscript) : Option (List UInt8) := do
  let bytes := utf8 "MISH-TUN-INSTALLATION-PROOF\x00"
  let bytes := bytes ++ encodeU16 keyTranscriptVersion
  let bytes := bytes ++ encodeU16 t.protocolVersion
  let bytes ← pushString bytes t.helperInstallationId
  let bytes := bytes ++ encodeU64 t.keyGeneration
  let bytes ← pushString bytes t.keyId
  let bytes := bytes ++ t.helperNonce.toList ++ t.clientNonce.toList
  let bytes := bytes ++ encodeU32 t.peerUid ++ encodeU32 t.peerPid
  let bytes ← pushString bytes t.operation
  let bytes ← pushString bytes t.requestId
  let bytes := bytes ++ t.commandDigest.toList
  return bytes ++ encodeU64 t.issuedAt ++ encodeU64 t.expiresAt

/-- The bytes bind every field. -/
theorem canonicalBytes_injective {t u : AuthenticationTranscript} {bytes : List UInt8}
    (left : t.canonicalBytes = some bytes) (right : u.canonicalBytes = some bytes) : t = u := by
  simp only [canonicalBytes, pushString, Option.bind_eq_bind, Option.bind_eq_some_iff,
    Option.ite_none_right_eq_some, Option.pure_def, Option.some.injEq] at left right
  obtain ⟨_, ⟨id, rfl⟩, _, ⟨key, rfl⟩, _, ⟨operation, rfl⟩, _, ⟨request, rfl⟩, rfl⟩ := left
  obtain ⟨_, ⟨id', rfl⟩, _, ⟨key', rfl⟩, _, ⟨operation', rfl⟩, _, ⟨request', rfl⟩, same⟩ := right
  simp only [List.append_assoc, List.append_cancel_left_eq, isCode_u16 _ _ _ _, isCode_u32 _ _ _ _,
    isCode_u64 _ _ _ _, isCode_vector _ _ _ _, encodeString_append id' id,
    encodeString_append key' key, encodeString_append operation' operation,
    encodeString_append request' request, isCode_u64.injective.eq_iff,
    true_and] at same
  ext1 <;> simp only [same]

end AuthenticationTranscript

/-! ## The gate -/

/-- A command as the gate sees it: its operation and its serialised form. -/
structure ServiceCommand where
  operation : String
  json : List UInt8

structure InstallationEnrollmentRecord where
  (algorithm helperInstallationId keyId : String)
  generation : UInt64

structure ServiceChallenge where
  (algorithm challengeId clientNonce commandDigest helperNonce installationId keyId operation
    requestId : String)
  (expiresAt generation issuedAt : UInt64)
  (peerPid peerUid : UInt32)
  (protocolVersion transcriptVersion : UInt16)

structure OutstandingChallenge where
  challenge : ServiceChallenge
  clientNonce : Bytes32
  command : ServiceCommand
  commandDigest : Bytes32
  helperNonce : Bytes32

structure ServiceProof where
  (challengeId signature : String)
  transcriptVersion : UInt16

structure ServiceRequestGate where
  outstanding : List OutstandingChallenge
  recent : List String

/-- What the handlers use. `encode` is BASE64, and `verify` decodes a signature and checks it over
some bytes against the enrolled key. -/
structure ServiceContext where
  enrollment : InstallationEnrollmentRecord
  validToken : String → Bool
  digest : ServiceCommand → Option Bytes32
  encode : Bytes32 → String
  verify : List UInt8 → String → Bool

namespace OutstandingChallenge
variable (o : OutstandingChallenge)

def id : String := o.challenge.challengeId

/-- The nonces and the digest are the stored ones, the rest is the challenge's. -/
def transcript : AuthenticationTranscript :=
  { o, o.challenge with
    helperInstallationId := o.challenge.installationId
    keyGeneration := o.challenge.generation }

end OutstandingChallenge

variable (c : ServiceContext)

def verifyChallengeProof (o : OutstandingChallenge) (proof : ServiceProof) (peer : PeerIdentity)
    (now : UInt64) : Except ServiceDiagnosticCode Unit :=
  let challenge := o.challenge
  if proof.transcriptVersion ≠ keyTranscriptVersion ∨
      challenge.transcriptVersion ≠ keyTranscriptVersion ∨
      challenge.protocolVersion ≠ helperProtocolVersion ∨ challenge.algorithm ≠ keyAlgorithm ∨
      challenge.installationId ≠ c.enrollment.helperInstallationId ∨
      challenge.keyId ≠ c.enrollment.keyId ∨ challenge.generation ≠ c.enrollment.generation ∨
      challenge.peerUid ≠ peer.uid ∨ challenge.peerPid ≠ peer.pid ∨
      challenge.clientNonce ≠ c.encode o.clientNonce ∨
      challenge.helperNonce ≠ c.encode o.helperNonce ∨
      challenge.commandDigest ≠ c.encode o.commandDigest ∨
      challenge.operation ≠ o.command.operation then
    .error .authenticationRejected
  else if saturatingAdd now requestFutureSkewMilliseconds < challenge.issuedAt ∨
      requestMaxAgeMilliseconds < saturatingSub now challenge.issuedAt ∨
      challenge.expiresAt ≤ challenge.issuedAt ∨
      challengeLifetimeMilliseconds < saturatingSub challenge.expiresAt challenge.issuedAt ∨
      challenge.expiresAt < now then
    .error .challengeExpired
  else
    match o.transcript.canonicalBytes with
    | none => .error .authenticationRejected
    | some bytes =>
      if c.verify bytes proof.signature then .ok () else .error .authenticationRejected

namespace ServiceRequestGate
variable (gate : ServiceRequestGate)

def begin (command : ServiceCommand) (clientNonce : Bytes32) (peer : PeerIdentity)
    (requestId : String) (now : UInt64) (helperNonce : Bytes32) (challengeId : String) :
    Except ServiceDiagnosticCode ServiceRequestGate :=
  if !c.validToken requestId then .error .invalidRequest
  else if requestId ∈ gate.recent ∨ ∃ o ∈ gate.outstanding, o.challenge.requestId = requestId then
    .error .replayRejected
  else if maxOutstandingChallenges ≤ gate.outstanding.length then .error .authenticationRejected
  else
    match c.digest command with
    | none => .error .invalidRequest
    | some commandDigest =>
      let challenge : ServiceChallenge := { c.enrollment with
        challengeId, requestId
        clientNonce := c.encode clientNonce
        commandDigest := c.encode commandDigest
        helperNonce := c.encode helperNonce
        installationId := c.enrollment.helperInstallationId
        operation := command.operation
        expiresAt := saturatingAdd now challengeLifetimeMilliseconds
        issuedAt := now
        peerPid := peer.pid
        peerUid := peer.uid
        protocolVersion := helperProtocolVersion
        transcriptVersion := keyTranscriptVersion }
      let recent := gate.recent ++ [requestId]
      .ok {
        outstanding :=
          ⟨challenge, clientNonce, command, commandDigest, helperNonce⟩ :: gate.outstanding
        recent := recent.drop (recent.length - replayWindow) }

/-- `take` and `cancel`. -/
def remove (challengeId : String) : ServiceRequestGate :=
  { gate with outstanding := gate.outstanding.filter (·.id ≠ challengeId) }

end ServiceRequestGate

/-! ## The handlers -/

inductive Connection where
  | closed
  | reading (peer : PeerIdentity)
  | writing (peer : PeerIdentity) (challengeId : String)
  | proving (peer : PeerIdentity) (challengeId : String)
  -- the challenge could not be written, and the handler has returned
  | broken (challengeId : String)

namespace Connection

def challenge : Connection → Option String
  | writing _ id | proving _ id | broken id => some id
  | closed | reading _ => none

def handled : Connection → Bool
  | reading _ | writing .. | proving .. => true
  | closed | broken _ => false

end Connection

structure Execution where
  outstanding : OutstandingChallenge
  proof : ServiceProof
  peer : PeerIdentity
  now : UInt64

structure Service where
  gate : ServiceRequestGate
  connections : Nat → Connection
  issued : List String
  executions : List Execution

/-- `close` is every return before a challenge, `cancel` one without a proof. -/
inductive Action where
  | accept (peer : PeerIdentity)
  | close
  | begin (command : ServiceCommand) (clientNonce : Bytes32) (requestId : String) (now : UInt64)
      (helperNonce : Bytes32) (challengeId : String)
  | write (succeeds : Bool)
  | cancel
  | prove (proof : ServiceProof) (now : UInt64)

namespace Service

def start : Service := ⟨⟨[], []⟩, fun _ => .closed, [], []⟩

variable (s : Service) (i : Nat)

def set (connection : Connection) : Service :=
  { s with connections := update s.connections i connection }

/-- The challenge leaves the gate, and its handler is done with it. -/
def release (id : String) : Service := { s.set i .closed with gate := s.gate.remove id }

def prove (peer : PeerIdentity) (id : String) (proof : ServiceProof) (now : UInt64) : Service :=
  match s.gate.outstanding.find? (·.id = id) with
  | none => s.release i id
  | some o =>
    match verifyChallengeProof c o proof peer now with
    | .ok () => { s.release i id with executions := ⟨o, proof, peer, now⟩ :: s.executions }
    | .error _ => s.release i id

/-- What a handler does next. No challenge id is drawn twice. -/
def act (action : Action) : Service :=
  match s.connections i, action with
  | .closed, .accept peer => s.set i (.reading peer)
  | .reading _, .close => s.set i .closed
  | .reading peer, .begin command clientNonce requestId now helperNonce id =>
    if id ∈ s.issued then s
    else
      match s.gate.begin c command clientNonce peer requestId now helperNonce id with
      | .ok gate => { s.set i (.writing peer id) with gate := gate, issued := id :: s.issued }
      | .error _ => s.set i .closed
  | .writing peer id, .write succeeds =>
    s.set i (if succeeds then .proving peer id else .broken id)
  | .proving _ id, .cancel => s.release i id
  | .proving peer id, .prove proof now =>
    if proof.challengeId = id then s.prove c i peer id proof now else s.release i id
  | _, _ => s

def run (actions : List (Nat × Action)) : Service :=
  actions.foldl (fun s (i, action) => s.act c i action) start

def ids : List String := s.gate.outstanding.map (·.id)

/-- Every outstanding challenge belongs to a connection that is still being handled. -/
def Owned : Prop :=
  ∀ id ∈ s.ids, ∃ i, (s.connections i).challenge = some id ∧ (s.connections i).handled

def Unbroken : Prop := ∀ i id, s.connections i ≠ .broken id

end Service

/-! ## What is kept -/

def Execution.transcript (e : Execution) : AuthenticationTranscript := e.outstanding.transcript

/-- The proof was verified over the bytes of a transcript of this command, peer and challenge, and
of no other transcript, in time. -/
structure Authorised (e : Execution) : Prop where
  digest : c.digest e.outstanding.command = some e.transcript.commandDigest
  operation : e.transcript.operation = e.outstanding.command.operation
  peer : e.transcript.peerUid = e.peer.uid ∧ e.transcript.peerPid = e.peer.pid
  nonces : e.outstanding.challenge.clientNonce = c.encode e.transcript.clientNonce ∧
    e.outstanding.challenge.helperNonce = c.encode e.transcript.helperNonce
  window : e.transcript.issuedAt.toNat ≤ e.now.toNat + requestFutureSkewMilliseconds.toNat ∧
    e.now ≤ e.transcript.expiresAt
  verified : ∃ bytes, e.transcript.canonicalBytes = some bytes ∧
    c.verify bytes e.proof.signature = true ∧
    ∀ other : AuthenticationTranscript, other.canonicalBytes = some bytes → other = e.transcript

structure Sound (s : Service) : Prop where
  outstanding : ∀ o ∈ s.gate.outstanding,
    o.id ∈ s.issued ∧ c.digest o.command = some o.commandDigest
  held : ∃ holder : String → Nat, ∀ i id,
    (s.connections i).challenge = some id ↔ id ∈ s.ids ∧ holder id = i
  executed : ∀ e ∈ s.executions,
    Authorised c e ∧ e.outstanding.id ∈ s.issued ∧ e.outstanding.id ∉ s.ids
  once : (s.executions.map (·.outstanding.id)).Nodup

section
variable {c} {s : Service} {i : Nat} {id : String} {o : OutstandingChallenge} {peer : PeerIdentity}
  {now : UInt64}

theorem saturatingAdd_le (a b : UInt64) : (saturatingAdd a b).toNat ≤ a.toNat + b.toNat := by
  have sum := UInt64.toNat_add a b
  unfold saturatingAdd
  split_ifs with fits
  · omega
  · have greatest : (-1 : UInt64).toNat = 2 ^ 64 - 1 := rfl
    have := a.toNat_lt
    rw [UInt64.le_iff_toNat_le] at fits
    omega

theorem authorised {proof : ServiceProof}
    (verified : verifyChallengeProof c o proof peer now = .ok ())
    (digest : c.digest o.command = some o.commandDigest) : Authorised c ⟨o, proof, peer, now⟩ := by
  unfold verifyChallengeProof at verified
  dsimp only at verified
  split_ifs at verified with differs late
  split at verified
  · cases verified
  · rename_i bytes canonical
    split_ifs at verified with signed
    simp only [not_or, not_not, UInt64.not_lt] at differs late
    obtain ⟨_, _, _, _, _, _, _, uid, pid, client, helper, _, operation⟩ := differs
    have begun := Nat.le_trans (UInt64.le_iff_toNat_le.1 late.1) (saturatingAdd_le ..)
    exact ⟨digest, operation, ⟨uid, pid⟩, ⟨client, helper⟩, ⟨begun, late.2.2.2.2⟩, bytes, canonical,
      signed, fun _ same => AuthenticationTranscript.canonicalBytes_injective same canonical⟩

theorem begin_ok {gate : ServiceRequestGate} {command : ServiceCommand}
    {clientNonce helperNonce : Bytes32} {requestId : String}
    (begun : s.gate.begin c command clientNonce peer requestId now helperNonce id = .ok gate) :
    ∃ o, gate.outstanding = o :: s.gate.outstanding ∧ o.id = id ∧
    c.digest o.command = some o.commandDigest := by
  unfold ServiceRequestGate.begin at begun
  split_ifs at begun
  split at begun
  · cases begun
  · rename_i digest
    cases begun
    exact ⟨_, rfl, rfl, digest⟩

/-- A handler that keeps its challenge, or still has none, moves on. -/
theorem Sound.set (h : Sound c s) {connection : Connection}
    (same : connection.challenge = (s.connections i).challenge) : Sound c (s.set i connection) := by
  have kept (j : Nat) :
      ((s.set i connection).connections j).challenge = (s.connections j).challenge := by
    by_cases here : j = i
    · simp [Service.set, here, same]
    · simp [Service.set, here]
  obtain ⟨holder, held⟩ := h.held
  exact ⟨h.outstanding, ⟨holder, fun j id => (kept j).symm ▸ held j id⟩, h.executed, h.once⟩

theorem Sound.begins (h : Sound c s) (idle : (s.connections i).challenge = none)
    (new : id ∉ s.issued) {gate : ServiceRequestGate}
    (added : gate.outstanding = o :: s.gate.outstanding) (named : o.id = id)
    (digest : c.digest o.command = some o.commandDigest) :
    Sound c { s.set i (.writing peer id) with gate := gate, issued := id :: s.issued } := by
  have ids (other : String) : other ∈ gate.outstanding.map (·.id) ↔ other = id ∨ other ∈ s.ids := by
    simp [added, named, Service.ids]
  have unheld : id ∉ s.ids := fun listed => by
    obtain ⟨earlier, mem, rfl⟩ := List.mem_map.1 listed
    exact new (h.outstanding earlier mem).1
  obtain ⟨holder, held⟩ := h.held
  refine ⟨fun o' mem => ?_, ⟨update holder id i, fun j other => ?_⟩, fun e mem => ?_, h.once⟩
  · rw [added] at mem
    rcases List.mem_cons.1 mem with rfl | mem
    · exact ⟨by simp [named], digest⟩
    · exact ⟨.tail _ (h.outstanding o' mem).1, (h.outstanding o' mem).2⟩
  · simp only [Service.set, Service.ids, ids, update_apply]
    grind [Connection.challenge]
  · obtain ⟨allowed, issued, gone⟩ := h.executed e mem
    refine ⟨allowed, .tail _ issued, fun still => ?_⟩
    rcases (ids _).1 still with same | still
    · exact new (same ▸ issued)
    · exact gone still

theorem mem_ids_release {other : String} :
    other ∈ (s.release i id).ids ↔ other ∈ s.ids ∧ other ≠ id := by
  simp only [Service.ids, Service.release, ServiceRequestGate.remove, List.mem_map, List.mem_filter]
  grind

theorem Sound.release (h : Sound c s) (holds : (s.connections i).challenge = some id) :
    Sound c (s.release i id) := by
  obtain ⟨holder, held⟩ := h.held
  refine ⟨fun o mem => h.outstanding o (List.mem_of_mem_filter mem), ⟨holder, fun j other => ?_⟩,
    fun e mem => ?_, h.once⟩
  · simp only [mem_ids_release]
    simp only [Service.release, Service.set, update_apply]
    grind [Connection.challenge]
  · obtain ⟨allowed, issued, gone⟩ := h.executed e mem
    exact ⟨allowed, issued, fun still => gone (mem_ids_release.1 still).1⟩

theorem Sound.prove (h : Sound c s) (holds : (s.connections i).challenge = some id)
    (proof : ServiceProof) : Sound c (s.prove c i peer id proof now) := by
  unfold Service.prove
  split
  · exact h.release holds
  · rename_i o found
    split
    · rename_i verified
      have mem := List.mem_of_find?_eq_some found
      have named : o.id = id := by simpa using List.find?_some found
      have listed : o.id ∈ s.ids := List.mem_map_of_mem mem
      have released := h.release holds
      refine ⟨released.outstanding, released.held, ?_, List.nodup_cons.2 ⟨fun again => ?_, h.once⟩⟩
      · rintro e (_ | ⟨_, earlier⟩)
        · exact ⟨authorised verified (h.outstanding o mem).2, (h.outstanding o mem).1,
            fun still => ((mem_ids_release (i := i)).1 still).2 named⟩
        · exact released.executed e earlier
      · obtain ⟨e, earlier, same⟩ := List.mem_map.1 again
        exact (h.executed e earlier).2.2 (same ▸ listed)
    · exact h.release holds

theorem Sound.act (h : Sound c s) (action : Action) : Sound c (s.act c i action) := by
  unfold Service.act
  split
  · exact h.set (by simp [*, Connection.challenge])
  · exact h.set (by simp [*, Connection.challenge])
  · rename_i idle
    split_ifs with drawn
    · exact h
    · split
      · rename_i begun
        obtain ⟨o, added, named, digest⟩ := begin_ok begun
        exact h.begins (by rw [idle]; rfl) drawn added named digest
      · exact h.set (by rw [idle]; rfl)
  · rename_i succeeds writing
    exact h.set (by rw [writing]; cases succeeds <;> rfl)
  · rename_i proving
    exact h.release (by rw [proving]; rfl)
  · rename_i proving
    split_ifs
    · exact h.prove (by rw [proving]; rfl) _
    · exact h.release (by rw [proving]; rfl)
  · exact h

theorem Sound.owned_iff (h : Sound c s) : s.Owned ↔ s.Unbroken := by
  obtain ⟨holder, held⟩ := h.held
  constructor
  · intro owned i id broken
    obtain ⟨listed, owner⟩ := (held i id).1 (by rw [broken]; rfl)
    obtain ⟨j, holds, handled⟩ := owned id listed
    rw [← ((held j id).1 holds).2, owner, broken] at handled
    cases handled
  · intro unbroken id listed
    have holds := (held _ id).2 ⟨listed, rfl⟩
    refine ⟨_, holds, ?_⟩
    cases is : s.connections (holder id) with
    | closed | reading => simp [is, Connection.challenge] at holds
    | writing | proving => rfl
    | broken other => exact absurd is (unbroken _ other)

theorem Service.owned_iff_empty (idle : ∀ i, ¬(s.connections i).handled) :
    s.Owned ↔ s.gate.outstanding = [] := by
  constructor
  · intro owned
    refine List.eq_nil_iff_forall_not_mem.2 fun o mem => ?_
    obtain ⟨i, _, handled⟩ := owned o.id (List.mem_map_of_mem mem)
    exact idle i handled
  · intro empty id listed
    simp [ids, empty] at listed

theorem begin_of_room (room : s.gate.outstanding.length < maxOutstandingChallenges)
    {command : ServiceCommand} {clientNonce helperNonce : Bytes32} {requestId : String} :
    s.gate.begin c command clientNonce peer requestId now helperNonce id ≠
    .error .authenticationRejected := by
  unfold ServiceRequestGate.begin
  rw [if_neg (Nat.not_le.2 room)]
  split_ifs
  · nofun
  · nofun
  · split <;> nofun

theorem sound_run (actions : List (Nat × Action)) : Sound c (.run c actions) := by
  refine List.foldlRecOn (motive := Sound c) actions _ ?_ fun s h a _ => h.act a.2
  exact ⟨nofun, ⟨fun _ => 0, fun _ _ => ⟨nofun, nofun⟩⟩, nofun, .nil⟩

end

/-- What is executed was authorised, once per challenge. The gate lets go of every challenge just
when none failed to be written, and then refuses no request for lack of room. -/
theorem authorised_and_released_iff (actions : List (Nat × Action)) : let s := Service.run c actions
    (∀ e ∈ s.executions, Authorised c e) ∧ (s.executions.map (·.outstanding.id)).Nodup ∧
      (s.Owned ↔ s.Unbroken) ∧
      ((∀ i, ¬(s.connections i).handled) → (s.gate.outstanding = [] ↔ s.Unbroken) ∧
        (s.Unbroken → ∀ command clientNonce peer requestId now helperNonce id,
          s.gate.begin c command clientNonce peer requestId now helperNonce id ≠
            .error .authenticationRejected)) := by
  have h : Sound c (.run c actions) := sound_run actions
  refine ⟨fun e mem => (h.executed e mem).1, h.once, h.owned_iff, fun idle => ?_⟩
  have empty_iff := (Service.owned_iff_empty idle).symm.trans h.owned_iff
  refine ⟨empty_iff, fun unbroken _ _ _ _ _ _ _ => begin_of_room ?_⟩
  rw [empty_iff.2 unbroken]
  decide

def lenient : ServiceContext :=
  ⟨⟨keyAlgorithm, "", "", 0⟩, fun _ => true, fun _ => some (.replicate 32 0), fun _ => "",
    fun _ _ => true⟩

/-- Clients that disconnect before they have read their challenge. -/
def disconnecting : List (Nat × Action) :=
  (List.range maxOutstandingChallenges).flatMap fun i =>
    [(i, .accept ⟨0, 0⟩),
      (i, .begin ⟨"", []⟩ (.replicate 32 0) (toString i) 0 (.replicate 32 0) (toString i)),
      (i, .write false)]

/-- Nothing is handled any more, and every further request is refused. -/
theorem gate_locked_out : let s := Service.run lenient disconnecting
    (∀ i < maxOutstandingChallenges, ¬(s.connections i).handled) ∧
      ∀ command clientNonce peer requestId now helperNonce id, ∃ code,
        s.gate.begin lenient command clientNonce peer requestId now helperNonce id =
          .error code := by
  have full : (Service.run lenient disconnecting).gate.outstanding.length =
      maxOutstandingChallenges := by decide +kernel
  refine ⟨by decide +kernel, fun command clientNonce peer requestId now helperNonce id => ?_⟩
  unfold ServiceRequestGate.begin
  split_ifs with invalid seen room
  · exact ⟨_, rfl⟩
  · exact ⟨_, rfl⟩
  · exact ⟨_, rfl⟩
  · exact absurd (Nat.le_of_eq full.symm) room

end Mish.TunService.RequestGate
