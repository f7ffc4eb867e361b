import Mish.Interaction.Program
import Mish.Updater.Candidate

/-!
# The download effect

`download_artifact_inner` as a program: a prologue up to the opened payload file, and one round
per piece of the response body. The effect counts its progress reports itself, in the correlation
it was given, and returns that correlation with its result.
-/

namespace Mish.Updater.Download
open Interaction

def strongEtagMaxBytes : Nat := 256

/-- The parts of a response the effect reads. A header is absent also when it is not text, and
the length also when it does not parse. -/
structure Response where
  status : Nat
  contentEncoding : Option String
  contentLength : Option Nat
  (contentRange etag : Option String)

def Response.isRedirection (response : Response) : Bool :=
  300 ≤ response.status && response.status < 400

def ensureIdentityEncoding (response : Response) : Except UpdateOperationError Unit :=
  if response.contentEncoding.any (· ≠ "identity") then throw .invalidResponse else return ()

/-- The offset the body starts at, and whether it continues the partial file. -/
def classifyDownloadResponse (response : Response) (partialInfo : PartialInfo)
    (expectedSize : Nat) : Except UpdateOperationError (Nat × Bool) :=
  if response.status = 200 then
    if response.contentLength.any (· ≠ expectedSize) then throw .invalidResponse
    else return (0, false)
  else if response.status = 206 ∧ 0 < partialInfo.size then
    let expected := "bytes " ++ toString partialInfo.size ++ "-" ++ toString (expectedSize - 1) ++
      "/" ++ toString expectedSize
    if response.contentRange ≠ some expected then throw .rangeMismatch
    else if response.contentLength.any (· ≠ expectedSize - partialInfo.size) then
      throw .rangeMismatch
    else return (partialInfo.size, true)
  else if response.isRedirection then throw .redirectRejected
  else throw .invalidResponse

def strongEtag (response : Response) : Option String :=
  response.etag.filter fun value =>
    value.utf8ByteSize ≤ strongEtagMaxBytes && value.startsWith "\"" && value.endsWith "\"" &&
      !value.startsWith "W/"

/-! ## The program -/

/-- How the request is answered. -/
inductive Sent where
  | cancelled
  | failed (error : UpdateOperationError)
  | response (response : Response)

/-- What the body stream gives next. -/
inductive Piece where
  | cancelled
  | idle
  | ended
  | failed (error : UpdateOperationError)
  | chunk (length : Nat)

inductive Request where
  | preparePartial
  | requestUrl
  | resetPartial
  | send (range : Option (Nat × String))
  | setPartialEtag (etag : Option String)
  | openPayload (append : Bool)
  | nextPiece
  | writeAll (length : Nat)
  -- `flush` and `sync_all`
  | syncPayload
  -- the effect adds one to the sequence of its own correlation
  | count
  | recordPartialCommit (offset : Nat)
  -- `admit(PartialCommitted)` on the runner
  | admitPartial (offset : Nat)

@[reducible] def Reply : Request → Type
  | .preparePartial => Except UpdateOperationError PartialInfo
  | .requestUrl | .resetPartial | .setPartialEtag _ | .recordPartialCommit _ | .admitPartial _ =>
    Except UpdateOperationError Unit
  | .send _ => Sent
  | .openPayload _ | .writeAll _ | .syncPayload => Bool
  | .nextPiece => Piece
  | .count => Unit

/-- The requests at which the deadline of the whole effect can pass. -/
def Request.awaits : Request → Bool
  | .send _ | .openPayload _ | .nextPiece | .writeAll _ | .syncPayload | .admitPartial _ => true
  | _ => false

abbrev Transfer (α : Type) := ExceptT UpdateOperationError (Program Request Reply) α

def ask (r : Request) : Transfer (Reply r) := ExceptT.lift (request r)

def lift {α : Type} (result : Except UpdateOperationError α) : Transfer α :=
  ExceptT.mk (pure result)

/-- A call of the store or of the runner. -/
def attempt {α : Type} (r : Request) (result : Reply r → Except UpdateOperationError α) :
    Transfer α := do
  let reply ← ask r
  lift (result reply)

/-- An operation on the payload file. -/
def file (r : Request) (result : Reply r → Bool) : Transfer Unit :=
  attempt r fun reply => if result reply then .ok () else .error .storeIo

/-- The response to the request, and what the partial file is worth to it. -/
def openResponse (partialInfo : PartialInfo) (expectedSize : Nat) : Transfer (Option Nat) := do
  let sent ← ask (.send
    (if 0 < partialInfo.size then partialInfo.etag.map (partialInfo.size, ·) else none))
  match sent with
  | .cancelled => throw .cancelled
  | .failed error => throw error
  | .response response =>
    if response.isRedirection then throw .redirectRejected
    lift (ensureIdentityEncoding response)
    let (offset, append) ← lift (classifyDownloadResponse response partialInfo expectedSize)
    let etag := strongEtag response
    if append then
      if etag ≠ partialInfo.etag then throw .rangeMismatch
      file (.openPayload true) id
      return some offset
    else
      attempt .resetPartial id
      attempt (.setPartialEtag etag) id
      file (.openPayload false) id
      return some 0

/-- Up to the opened payload file: the offset the first chunk is written at, or nothing when the
partial file is complete. -/
def prologue (expectedSize : Nat) : Transfer (Option Nat) := do
  let partialInfo ← attempt .preparePartial id
  if partialInfo.size = expectedSize then return none
  attempt .requestUrl id
  if 0 < partialInfo.size ∧ partialInfo.etag = none then
    attempt .resetPartial id
    openResponse .default expectedSize
  else openResponse partialInfo expectedSize

/-- One turn of the loop: the offset the next one starts at, or nothing when the body has ended
and the file is complete. -/
def round (expectedSize maxArtifactBytes offset : Nat) : Transfer (Option Nat) := do
  match ← ask .nextPiece with
  | .cancelled =>
    file .syncPayload id
    throw .cancelled
  | .idle => throw .timeout
  | .failed error => throw error
  | .ended =>
    file .syncPayload id
    if offset ≠ expectedSize then throw (.verification .artifactSizeMismatch)
    return none
  | .chunk length =>
    if 2 ^ 64 ≤ offset + length then throw .oversizedPayload
    if expectedSize < offset + length ∨ maxArtifactBytes < offset + length then
      throw .oversizedPayload
    file (.writeAll length) id
    file .syncPayload id
    ask .count
    attempt (.recordPartialCommit (offset + length)) id
    attempt (.admitPartial (offset + length)) id
    return some (offset + length)

/-! ## The count -/

/-- How many reports the effect has counted, and the last one the machine has handled. -/
structure Tally where
  (counted handled : Nat)

/-- Every counted report is recorded and then handled. -/
def faithful : Environment Request Reply Tally := fun s r reply t =>
  match r with
  | .count => t = { s with counted := saturatingSucc s.counted }
  | .recordPartialCommit _ => reply = .ok () ∧ t = s
  | .admitPartial _ => reply = .ok () ∧ t = { s with handled := saturatingSucc s.handled }
  | _ => t = s

/-- A report carries the next number and stays within the artifact. Everywhere else the effect can
be left, nothing that was counted is outstanding. -/
def inTime (expectedSize : Nat) (s : Tally) : Request → Prop
  | .recordPartialCommit _ => True
  | .admitPartial offset => s.counted = saturatingSucc s.handled ∧ offset ≤ expectedSize
  | _ => s.counted = s.handled

section
variable {expectedSize : Nat} {s : Tally} {α β : Type}

def Counts (expectedSize : Nat) (p : Program Request Reply α) (s : Tally) : Prop :=
  Safe faithful (inTime expectedSize) (fun _ t => t.counted = t.handled) p s

/-- The requests that have nothing to do with the count. -/
def Request.plain : Request → Bool
  | .count | .recordPartialCommit _ | .admitPartial _ => false
  | _ => true

variable {r : Request}

theorem faithful_plain (plain : r.plain = true) {reply t} : faithful s r reply t ↔ t = s := by
  cases r <;> first | exact Iff.rfl | cases plain

theorem inTime_plain (plain : r.plain = true) :
    inTime expectedSize s r ↔ s.counted = s.handled := by
  cases r <;> first | exact Iff.rfl | cases plain

theorem counts_ask (plain : r.plain = true) (even : s.counted = s.handled)
    {f : Reply r → Transfer β} (next : ∀ reply, Counts expectedSize (f reply).run s) :
    Counts expectedSize (ask r >>= f).run s := by
  refine ⟨(inTime_plain plain).2 even, fun reply t answered => ?_⟩
  rw [(faithful_plain plain).1 answered]
  exact next reply

theorem counts_lift (result : Except UpdateOperationError α) (even : s.counted = s.handled)
    {f : α → Transfer β} (next : ∀ a, Counts expectedSize (f a).run s) :
    Counts expectedSize (lift result >>= f).run s := by
  cases result with
  | error e => exact even
  | ok a => exact next a

theorem counts_attempt {result} (plain : r.plain = true) (even : s.counted = s.handled)
    {f : α → Transfer β} (next : ∀ a, Counts expectedSize (f a).run s) :
    Counts expectedSize (attempt r result >>= f).run s := by
  refine ⟨(inTime_plain plain).2 even, fun reply t answered => ?_⟩
  rw [(faithful_plain plain).1 answered]
  exact counts_lift (result reply) even next

theorem counts_openResponse {partialInfo} (even : s.counted = s.handled) :
    Counts expectedSize (openResponse partialInfo expectedSize).run s := by
  refine counts_ask rfl even fun sent => ?_
  cases sent with
  | cancelled => exact even
  | failed error => exact even
  | response response =>
    dsimp only
    split
    · exact even
    · refine counts_lift _ even fun _ => counts_lift _ even fun (offset, append) => ?_
      cases append with
      | true =>
        rw [if_pos rfl]
        split
        · exact even
        · exact counts_attempt rfl even fun _ => even
      | false =>
        refine counts_attempt rfl even fun _ => counts_attempt rfl even fun _ => ?_
        exact counts_attempt rfl even fun _ => even

theorem counts_prologue (even : s.counted = s.handled) :
    Counts expectedSize (prologue expectedSize).run s := by
  refine counts_attempt rfl even fun partialInfo => ?_
  split
  · exact even
  · refine counts_attempt rfl even fun _ => ?_
    split
    · exact counts_attempt rfl even fun _ => counts_openResponse even
    · exact counts_openResponse even

/-- A chunk is written and counted, and its report carries the number that is due. -/
theorem counts_round {maxArtifactBytes offset} (even : s.counted = s.handled) :
    Counts expectedSize (round expectedSize maxArtifactBytes offset).run s := by
  refine counts_ask rfl even fun piece => ?_
  cases piece with
  | cancelled => exact counts_attempt rfl even fun _ => even
  | idle => exact even
  | failed error => exact even
  | ended =>
    refine counts_attempt rfl even fun _ => ?_
    split
    · exact even
    · exact even
  | chunk length =>
    dsimp only
    split
    · exact even
    · split
      · exact even
      · refine counts_attempt rfl even fun _ => counts_attempt rfl even fun _ => ?_
        refine ⟨even, fun _ t counted => ?_⟩
        refine ⟨trivial, fun recorded u same => ?_⟩
        obtain ⟨rfl, rfl⟩ := same
        have due : u.counted = saturatingSucc u.handled := by
          rw [show u = _ from counted, even]
        refine ⟨⟨due, by omega⟩, fun handled v reported => ?_⟩
        obtain ⟨rfl, rfl⟩ := reported
        exact due

end

end Mish.Updater.Download
