import Mish.Capture.Reconciler

/-!
# What an operation runs against

The journal store is atomic: a call that fails leaves it as it was, and a
successful load returns what is stored. How the network services answer, and
what becomes of them, is a parameter: a state of type `σ` and a `Behaviour`.
-/

namespace Mish.Capture.SystemProxy
open Interaction

abbrev Event := (r : Request) × Reply r

/-- `behaves s r a s'`: with the services in state `s` the request `r` may be
answered `a`, which leaves them in state `s'`. -/
abbrev Behaviour (σ : Type) := Environment Request Reply σ

/-- The platform of which nothing is assumed. -/
def anything : Behaviour Unit := fun _ _ _ _ => True

/-- The platform of which only the capability is known. -/
def alwaysSupported : Behaviour Unit
  | _, .availability, availability, _ => availability = .supported
  | _, _, _, _ => True

/-- The stored journal, the status cell, the network services, and the requests
made with their replies, newest first: those of the current operation in `trace`
and those of the operations before it in `earlier`. -/
structure World (σ : Type) where
  journal : Option CaptureJournal
  status : CaptureRuntimeStatus
  services : σ
  (trace earlier : List Event)

def journalAfter (journal : Option CaptureJournal) : (r : Request) → Reply r → Option CaptureJournal
  | .saveJournal saved, .ok () => some saved
  | .clearJournal, .ok () => none
  | _, _ => journal

def statusAfter (status : CaptureRuntimeStatus) : Request → CaptureRuntimeStatus
  | .writeStatus written => written
  | _ => status

/-- The replies the status cell and the store allow. The takeover policy has a
cell of its own that other tasks may set at any time, so its value is free. -/
def Answers {σ : Type} (w : World σ) : (r : Request) → Reply r → Prop
  | .readStatus, status => status = w.status
  | .loadJournal, .ok stored => stored = w.journal
  | _, _ => True

section
variable {σ : Type}

def World.after (w : World σ) (r : Request) (a : Reply r) (services : σ) : World σ where
  journal := journalAfter w.journal r a
  status := statusAfter w.status r
  services := services
  trace := ⟨r, a⟩ :: w.trace
  earlier := w.earlier

def platform (behaves : Behaviour σ) : Environment Request Reply (World σ) :=
  fun w r a t => Answers w r a ∧ behaves w.services r a t.services ∧ t = w.after r a t.services

/-- An operation starts with an empty trace. -/
def World.begin (w : World σ) : World σ :=
  { w with trace := [], earlier := w.trace ++ w.earlier }

@[simp] theorem after_trace (w : World σ) (r : Request) (a : Reply r) (s : σ) :
    (w.after r a s).trace = ⟨r, a⟩ :: w.trace := rfl

@[simp] theorem after_journal (w : World σ) (r : Request) (a : Reply r) (s : σ) :
    (w.after r a s).journal = journalAfter w.journal r a := rfl

@[simp] theorem after_status (w : World σ) (r : Request) (a : Reply r) (s : σ) :
    (w.after r a s).status = statusAfter w.status r := rfl

theorem after_services (w : World σ) (r : Request) (a : Reply r) (s : σ) :
    (w.after r a s).services = s := rfl

end

inductive Op where
  | reconcile (req : CaptureRequest) (coreHealthy : Bool)
  | reconcileWithPreflight (req : CaptureRequest) (coreHealthy : Bool)
      (preflight : Option SystemProxyPreflight)
  | reconcileRuntimeTransition (ownTransition : Bool) (req : CaptureRequest) (coreHealthy : Bool)
  | audit (reason : CaptureAuditReason) (coreHealthy : Bool)
  | recover (action : CaptureRecoveryAction) (coreHealthy : Bool)

def Op.program (endpoint : LoopbackProxyEndpoint) : Op → Operation (Fallible CaptureRuntimeStatus)
  | .reconcile req healthy => SystemProxy.reconcile endpoint req healthy
  | .reconcileWithPreflight req healthy preflight =>
      SystemProxy.reconcileWithPreflight endpoint req healthy preflight
  | .reconcileRuntimeTransition own req healthy =>
      SystemProxy.reconcileRuntimeTransition endpoint own req healthy
  | .audit reason healthy => SystemProxy.audit endpoint reason healthy
  | .recover action healthy => SystemProxy.recover endpoint action healthy

/-- In some sequence of operations from `start`, any of them dropped in front of
any request, an operation is about to make the request `r` in the world `w`. -/
def Reaches {σ : Type} (behaves : Behaviour σ) (endpoint : LoopbackProxyEndpoint)
    (start : World σ) (r : Request) (w : World σ) : Prop :=
  ∃ (found : World σ) (op : Op) (next : Reply r → Operation (Fallible CaptureRuntimeStatus)),
    Session (platform behaves) World.begin (Op.program endpoint) start found ∧
      Exec (platform behaves) (op.program endpoint) found.begin (.call r next) w

/-! ## One rule per request -/

section
variable {σ : Type} {behaves : Behaviour σ} {allowed : World σ → Request → Prop} {w : World σ}
  {post : Fallible Unit → World σ → Prop}

theorem safe_call {r post} : Safe (platform behaves) allowed post (call r) w ↔ allowed w r ∧
    ∀ a, Answers w r a → ∀ s, behaves w.services r a s → post a (w.after r a s) := by
  constructor
  · rintro ⟨ok, later⟩
    exact ⟨ok, fun a answers s b => later a _ ⟨answers, b, rfl⟩⟩
  · rintro ⟨ok, later⟩
    refine ⟨ok, fun a t ⟨answers, b, same⟩ => ?_⟩
    rw [same]
    exact later a answers _ b

theorem forall_fallible {α : Type} {p : Fallible α → Prop} :
    (∀ x, p x) ↔ (∀ e, p (.error e)) ∧ ∀ a, p (.ok a) := by
  refine ⟨fun h => ⟨fun e => h _, fun a => h _⟩, fun h x => ?_⟩
  cases x with
  | error e => exact h.1 e
  | ok a => exact h.2 a

/-- The world itself puts no constraint on the reply, which says something. -/
abbrev Request.isFree : Request → Bool
  | .lockOperation | .readStatus | .writeStatus _ | .loadJournal | .sleepRetryInterval => false
  | _ => true

@[simp] theorem safe_free {r} {post : no_index (Reply r) → World σ → Prop}
    (free : r.isFree = true) : Safe (platform behaves) allowed post (call r) w ↔ allowed w r ∧
    ∀ a s, behaves w.services r a s → post a (w.after r a s) := by
  refine safe_call.trans (and_congr_right fun _ => forall_congr' fun a => ?_)
  have answers : Answers w r a := by cases r <;> trivial
  exact ⟨fun h => h answers, fun h _ => h⟩

@[simp] theorem safe_observeActive {post : Fallible NetworkServiceProxyState → World σ → Prop} :
    Safe (platform behaves) allowed post (call .observeActive) w ↔ allowed w .observeActive ∧
    ∀ a s, behaves w.services .observeActive a s → post a (w.after .observeActive a s) :=
  safe_free rfl

@[simp] theorem safe_observeService {serviceId} {post : Fallible NetworkServiceProxyState →
    World σ → Prop} : Safe (platform behaves) allowed post (call (.observeService serviceId)) w ↔
    allowed w (.observeService serviceId) ∧
    ∀ a s, behaves w.services (.observeService serviceId) a s →
    post a (w.after (.observeService serviceId) a s) :=
  safe_free rfl

@[simp] theorem safe_lockOperation {post : Unit → World σ → Prop} :
    Safe (platform behaves) allowed post (call .lockOperation) w ↔ allowed w .lockOperation ∧
    ∀ s, behaves w.services .lockOperation () s → post () (w.after .lockOperation () s) :=
  safe_call.trans (and_congr_right fun _ => ⟨fun h => h () trivial, fun h _ _ => h⟩)

@[simp] theorem safe_readStatus {post : CaptureRuntimeStatus → World σ → Prop} :
    Safe (platform behaves) allowed post (call .readStatus) w ↔ allowed w .readStatus ∧
    ∀ s, behaves w.services .readStatus w.status s →
    post w.status (w.after .readStatus w.status s) := by
  refine safe_call.trans (and_congr_right fun _ => ⟨fun h => h _ rfl, fun h a same => ?_⟩)
  obtain rfl : a = w.status := same
  exact h

@[simp] theorem safe_writeStatus {status} {post : Unit → World σ → Prop} :
    Safe (platform behaves) allowed post (call (.writeStatus status)) w ↔
    allowed w (.writeStatus status) ∧ ∀ s, behaves w.services (.writeStatus status) () s →
    post () (w.after (.writeStatus status) () s) :=
  safe_call.trans (and_congr_right fun _ => ⟨fun h => h () trivial, fun h _ _ => h⟩)

@[simp] theorem safe_loadJournal {post : Fallible (Option CaptureJournal) → World σ → Prop} :
    Safe (platform behaves) allowed post (call .loadJournal) w ↔ allowed w .loadJournal ∧
    (∀ e s, behaves w.services .loadJournal (.error e) s →
    post (.error e) (w.after .loadJournal (.error e) s)) ∧
    ∀ s, behaves w.services .loadJournal (.ok w.journal) s →
    post (.ok w.journal) (w.after .loadJournal (.ok w.journal) s) := by
  refine safe_call.trans (and_congr_right fun _ => ?_)
  refine forall_fallible.trans (and_congr ⟨fun h e => h e trivial, fun h e _ => h e⟩ ?_)
  refine ⟨fun h => h _ rfl, fun h a same => ?_⟩
  obtain rfl : a = w.journal := same
  exact h

@[simp] theorem safe_sleepRetryInterval {post : Unit → World σ → Prop} :
    Safe (platform behaves) allowed post (call .sleepRetryInterval) w ↔
    allowed w .sleepRetryInterval ∧ ∀ s, behaves w.services .sleepRetryInterval () s →
    post () (w.after .sleepRetryInterval () s) :=
  safe_call.trans (and_congr_right fun _ => ⟨fun h => h () trivial, fun h _ _ => h⟩)

/-- A load fails, or returns the stored journal, which is then valid. -/
theorem loadValidatedJournal_safe {post : Fallible (Option CaptureJournal) → World σ → Prop}
    (permitted : allowed w .loadJournal)
    (failed : ∀ error a s, behaves w.services .loadJournal a s →
    post (.error error) (w.after .loadJournal a s))
    (loaded : ∀ s, behaves w.services .loadJournal (.ok w.journal) s →
    (∀ journal, w.journal = some journal → journal.isValidRecoveryState = true) →
    post (.ok w.journal) (w.after .loadJournal (.ok w.journal) s)) :
    Safe (platform behaves) allowed post loadValidatedJournal w := by
  unfold loadValidatedJournal
  simp only [safe_bind, safe_loadJournal, safe_pure]
  refine ⟨permitted, fun e s b => failed _ _ s b, fun s b => ?_⟩
  cases stored : w.journal with
  | none =>
    rw [stored] at b loaded
    exact loaded s b (by simp)
  | some journal =>
    rw [stored] at b loaded
    simp only [safe_ite, safe_pure]
    refine ⟨fun valid => loaded s b ?_, fun _ => failed _ _ s b⟩
    rintro _ ⟨⟩
    exact valid

end

/-! ## Concrete platforms -/

/-- A platform given by its answers, for running operations on concrete inputs. -/
structure Script where
  policy : SystemProxyTakeoverPolicy := .protectExisting
  listener : Fallible Unit := .ok ()
  active : World Unit → Fallible NetworkServiceProxyState
  service : World Unit → String → Fallible NetworkServiceProxyState
  apply : World Unit → NetworkServiceProxyState → Fallible Unit := fun _ _ => .ok ()

def Script.reply (script : Script) (w : World Unit) : (r : Request) → Reply r
  | .lockOperation | .writeStatus _ | .sleepRetryInterval => ()
  | .runtimeTransition | .deadlinePassed => false
  | .availability => .supported
  | .takeoverPolicy => script.policy
  | .readStatus => w.status
  | .loadJournal => .ok w.journal
  | .saveJournal _ | .clearJournal => .ok ()
  | .confirmProxyListener => script.listener
  | .preflightObserveActive | .observeActive => script.active w
  | .observeService serviceId => script.service w serviceId
  | .applyService target => script.apply w target
  | .confirmationWindow => ⟨0, 1, 0⟩

def Script.respond (script : Script) (w : World Unit) (r : Request) : Reply r × World Unit :=
  (script.reply w r, w.after r (script.reply w r) ())

variable {script : Script} {behaves : Behaviour Unit}

theorem Script.platform_respond (gives : ∀ w r, behaves () r (script.reply w r) ()) (w : World Unit)
    (r : Request) : platform behaves w r (script.respond w r).1 (script.respond w r).2 := by
  refine ⟨?_, gives w r, rfl⟩
  cases r <;> trivial

/-- The operation run from `w` up to the first request `stop` holds of. -/
def Script.run (script : Script) (endpoint : LoopbackProxyEndpoint) (op : Op) (w : World Unit)
    (stop : Request → Bool) :
    Operation (Fallible CaptureRuntimeStatus) × World Unit :=
  (op.program endpoint).runUntil script.respond (fun _ => stop) w.begin

theorem Script.exec_run (gives : ∀ w r, behaves () r (script.reply w r) ())
    (endpoint : LoopbackProxyEndpoint) (op : Op) (w : World Unit) (stop : Request → Bool) :
    Exec (platform behaves) (op.program endpoint) w.begin (script.run endpoint op w stop).1
    (script.run endpoint op w stop).2 :=
  exec_runUntil (Script.platform_respond gives) _ _ _

theorem Script.reaches {endpoint op start w stop r}
    (before : Session (platform anything) World.begin (Op.program endpoint) start w)
    (h : (script.run endpoint op w stop).1.pending = some r) :
    Reaches anything endpoint start r (script.run endpoint op w stop).2 := by
  obtain ⟨next, waiting⟩ := Program.eq_call_of_pending h
  exact ⟨w, op, next, before, waiting ▸ Script.exec_run (fun _ _ => trivial) endpoint op w stop⟩

/-- A service without proxies. -/
def directService : NetworkServiceProxyState where
  autoDiscoveryEnabled := false
  bypassDomains := []
  http := .disabled
  https := .disabled
  pacEnabled := false
  pacUrl := "(null)"
  serviceId := "Wi-Fi"
  socks := .disabled

/-- Nothing journaled and nothing published. -/
def World.fresh : World Unit := ⟨none, .off, (), [], []⟩

/-- The user turns System Proxy on while the core is healthy. -/
def Op.turnOn : Op := .reconcile ⟨true, ⟨true, false⟩⟩ true

def Request.isApply : Request → Bool
  | .applyService _ => true
  | _ => false

def Request.isSave : Request → Bool
  | .saveJournal _ => true
  | _ => false

end Mish.Capture.SystemProxy
