import Mish.Capture.PublishedPhase

/-!
# The user's own configuration

Follow one network service that only Mish writes. What the user had configured
there is in the service or in the journal, request by request, as long as no
Repair starts over a service that holds Mish's configuration: a Repair takes
what it observes for the user's and overwrites the journal with it.
-/

namespace Mish.Capture.SystemProxy
open Interaction

def ManualProxyMix (old target new : ManualProxyState) : Prop :=
  (new.authenticated = old.authenticated ∨ new.authenticated = target.authenticated) ∧
  (new.enabled = old.enabled ∨ new.enabled = target.enabled) ∧
  (new.host = old.host ∨ new.host = target.host) ∧
  (new.port = old.port ∨ new.port = target.port)

/-- Every field of `new` is that of `old` or that of `target`. -/
def FieldwiseMix (old target new : NetworkServiceProxyState) : Prop :=
  (new.autoDiscoveryEnabled = old.autoDiscoveryEnabled ∨
    new.autoDiscoveryEnabled = target.autoDiscoveryEnabled) ∧
  (new.bypassDomains = old.bypassDomains ∨ new.bypassDomains = target.bypassDomains) ∧
  ManualProxyMix old.http target.http new.http ∧
  ManualProxyMix old.https target.https new.https ∧
  (new.pacEnabled = old.pacEnabled ∨ new.pacEnabled = target.pacEnabled) ∧
  (new.pacUrl = old.pacUrl ∨ new.pacUrl = target.pacUrl) ∧
  new.serviceId = old.serviceId ∧
  ManualProxyMix old.socks target.socks new.socks

/-- The service `serviceId`, whose state is the one followed, is changed only by
writes to it: a successful one sets it, a failed one leaves any field-wise mix.
Observations of it may fail and are true when they do not. -/
def truthful (serviceId : String) : Behaviour NetworkServiceProxyState
  | held, .observeActive, .ok observed, after =>
    (observed.serviceId = serviceId → observed = held) ∧ after = held
  | held, .preflightObserveActive, .ok observed, after =>
    (observed.serviceId = serviceId → observed = held) ∧ after = held
  | held, .observeService asked, .ok observed, after =>
    (asked = serviceId → observed = held) ∧ after = held
  | held, .applyService target, .ok (), after =>
    after = if target.serviceId = serviceId then target else held
  | held, .applyService target, .error _, after =>
    if target.serviceId = serviceId then FieldwiseMix held target after else after = held
  | held, _, _, after => after = held

/-- The journal names the service. -/
def Names (serviceId : String) (journal : Option CaptureJournal) : Prop :=
  ∃ prior : NetworkServiceProxyState, journal = some ⟨prior⟩ ∧ prior.serviceId = serviceId

/-- The user's configuration `user` is what the journal would put back, or it is
in the service. -/
structure Kept (user : NetworkServiceProxyState) (w : World NetworkServiceProxyState) : Prop where
  journaled : ∀ prior, w.journal = some ⟨prior⟩ → prior.serviceId = user.serviceId →
    prior.semanticallyMatches user = true
  held : ¬Names user.serviceId w.journal → w.services.semanticallyMatches user = true

/-- `Kept`, with what an operation under way knows: what it has seen of the
service is still there, and a Repair that has changed nothing yet still finds
the user's configuration. -/
structure Following (user : NetworkServiceProxyState) (op : Op)
    (w : World NetworkServiceProxyState) : Prop extends Kept user w where
  seen : ∀ state, state.serviceId = user.serviceId → SeenSince state w.trace → state = w.services
  found : ∀ state rest, w.trace = ⟨.observeService user.serviceId, .ok state⟩ :: rest →
    state = w.services
  untouched : op.repairs = true → (∀ event ∈ w.trace, mutates event = false) →
    Names user.serviceId w.journal → w.services.semanticallyMatches user = true

/-- A Repair starts only where the journal does not name the service or the
service matches what is journaled; the user does not ask to leave things as is. -/
def Admits (user : NetworkServiceProxyState) (w : World NetworkServiceProxyState) (op : Op) :
    Prop :=
  op.relinquishes = false ∧ (op.repairs = true → ∀ prior, w.journal = some ⟨prior⟩ →
    prior.serviceId = user.serviceId → w.services.semanticallyMatches prior = true)

section
variable {user : NetworkServiceProxyState} {op : Op} {endpoint : LoopbackProxyEndpoint}
  {w t : World NetworkServiceProxyState}

theorem Kept.begin (h : Kept user w) (admits : Admits user w op) : Following user op w.begin where
  journaled := h.journaled
  held := h.held
  seen _ _ impossible := impossible.elim
  found _ _ impossible := nomatch impossible
  untouched := by
    rintro repairs - ⟨prior, stored, named⟩
    exact NetworkServiceProxyState.semanticallyMatches_trans
      (admits.2 repairs prior stored named) (h.journaled prior stored named)

/-- A request that changes neither the journal nor the service, and shows at most
the true state of the service. -/
theorem Following.observe {r a} (h : Following user op w)
    (stored : journalAfter w.journal r a = w.journal)
    (active : ∀ state, (⟨r, a⟩ : Event) = ⟨.observeActive, .ok state⟩ →
    state.serviceId = user.serviceId → state = w.services)
    (asked : ∀ state, (⟨r, a⟩ : Event) = ⟨.observeService user.serviceId, .ok state⟩ →
    state = w.services) : Following user op (w.after r a w.services) where
  journaled := by rw [after_journal, stored]; exact h.journaled
  held := by rw [after_journal, stored]; exact h.held
  seen state named before := by
    rcases before with now | ⟨-, before⟩
    · exact active state now named
    · exact h.seen state named before
  found state rest latest := by
    exact asked state (List.cons.inj latest).1
  untouched repairs calm := by
    rw [after_journal, stored]
    exact h.untouched repairs fun event mem => calm event (List.mem_cons_of_mem _ mem)

theorem SeenSince.policy {state} {policy : SystemProxyTakeoverPolicy}
    {rest} (h : SeenSince state rest) :
    SeenSince state (⟨.takeoverPolicy, policy⟩ :: rest) := .inr ⟨rfl, h⟩

/-- What may be journaled is not Mish's configuration of the service. -/
theorem Following.matches_of_journalable {journal} (h : Following user op w)
    (journalable : Journalable endpoint op w journal) :
    w.services.semanticallyMatches user = true := by
  by_cases named : Names user.serviceId w.journal
  · rcases journalable.vacant with empty | ⟨repairs, calm⟩
    · obtain ⟨prior, stored, -⟩ := named
      simp [empty] at stored
    · exact h.untouched repairs calm named
  · exact h.held named

theorem Following.save {journal} (h : Following user op w)
    (journalable : Journalable endpoint op w journal) :
    Following user op (w.after (.saveJournal journal) (.ok ()) w.services) where
  journaled := by
    rintro prior stored named
    obtain rfl : journal = ⟨prior⟩ := Option.some.inj stored
    obtain ⟨policy, rest, read, -, seen⟩ := journalable.accepted
    have same : prior = w.services := h.seen prior named (read ▸ seen.policy)
    rw [same]
    exact h.matches_of_journalable journalable
  held _ := h.matches_of_journalable journalable
  seen state named before := by
    rcases before with now | ⟨-, before⟩
    · cases now
    · exact h.seen state named before
  found state rest latest := by simp at latest
  untouched _ calm := absurd (calm _ List.mem_cons_self) (by simp [mutates])

theorem Following.clear (h : Following user op w)
    (lawful : ∀ journal, w.journal = some journal → JustRestored w journal.prior) :
    Following user op (w.after .clearJournal (.ok ()) w.services) where
  journaled _ impossible := nomatch impossible
  held _ := by
    by_cases named : Names user.serviceId w.journal
    · obtain ⟨prior, stored, named⟩ := named
      obtain ⟨found, rest, latest, same⟩ := lawful _ stored
      have restored : found = w.services := h.found found rest (named ▸ latest)
      exact NetworkServiceProxyState.semanticallyMatches_trans (restored ▸ same)
        (h.journaled prior stored named)
    · exact h.held named
  seen state named before := by
    rcases before with now | ⟨-, before⟩
    · cases now
    · exact h.seen state named before
  found state rest latest := by simp at latest
  untouched _ calm := absurd (calm _ List.mem_cons_self) (by simp [mutates])

/-- The service is written only while the journal names it. -/
theorem Following.write {target after} {a : Fallible Unit} (h : Following user op w)
    (lawful : WriteAhead endpoint w target) (own : target.serviceId = user.serviceId) :
    Following user op (w.after (.applyService target) a after) := by
  obtain ⟨prior, stored, form⟩ := lawful
  have named : prior.serviceId = user.serviceId := by
    rcases form with ⟨rfl, -⟩ | ⟨rfl, -⟩
    · exact own
    · exact own
  have same : (w.after (.applyService target) a after).journal = w.journal := by
    cases a <;> rfl
  refine ⟨⟨?_, ?_⟩, ?_, ?_, ?_⟩
  · exact h.journaled
  · exact fun unnamed => absurd ⟨prior, stored, named⟩ unnamed
  · rintro state stateNamed (now | ⟨elsewhere, -⟩)
    · cases now
    · simp [appliesTo, own, stateNamed] at elsewhere
  · intro state rest latest
    simp at latest
  · intro _ calm
    exact absurd (calm _ List.mem_cons_self) (by simp [mutates])

theorem following_step {r a} (h : Following user op w)
    (keeps : op.relinquishes = false) (lawful : Lawful endpoint op w r)
    (step : platform (truthful user.serviceId) w r a t) : Following user op t := by
  obtain ⟨-, behaved, same⟩ := step
  rw [same]
  generalize t.services = after at behaved
  cases r
  case saveJournal journal =>
    obtain rfl : after = w.services := behaved
    cases a with
    | error e => exact h.observe rfl (by simp) (by simp)
    | ok _ => exact h.save lawful
  case clearJournal =>
    obtain rfl : after = w.services := behaved
    cases a with
    | error e => exact h.observe rfl (by simp) (by simp)
    | ok _ => exact h.clear (lawful.resolve_left (by simp [keeps]))
  case applyService target =>
    by_cases own : target.serviceId = user.serviceId
    · exact h.write lawful own
    · obtain rfl : after = w.services := by
        cases a <;> simpa [truthful, own] using behaved
      exact h.observe (by cases a <;> rfl) (by simp) (by simp)
  case observeActive =>
    cases a with
    | error e =>
      obtain rfl : after = w.services := behaved
      exact h.observe rfl (by simp) (by simp)
    | ok observed =>
      obtain ⟨truly, rfl⟩ := behaved
      refine h.observe rfl ?_ (by simp)
      rintro state ⟨⟩
      exact truly
  case observeService asked =>
    cases a with
    | error e =>
      obtain rfl : after = w.services := behaved
      exact h.observe rfl (by simp) (by simp)
    | ok observed =>
      obtain ⟨truly, rfl⟩ := behaved
      refine h.observe rfl (by simp) ?_
      rintro state ⟨⟩
      exact truly rfl
  case preflightObserveActive =>
    obtain rfl : after = w.services := by
      cases a with
      | error e => exact behaved
      | ok observed => exact behaved.2
    exact h.observe rfl (by simp) (by simp)
  all_goals
    obtain rfl : after = w.services := behaved
    exact h.observe rfl (by simp) (by simp)

theorem Kept.exec {rest : Operation (Fallible CaptureRuntimeStatus)} (h : Kept user w)
    (admits : Admits user w op)
    (exec : Exec (platform (truthful user.serviceId)) (op.program endpoint) w.begin rest t) :
    Kept user t :=
  (Safe.invariant (program_obeys op (opening_begin w))
    (fun _ _ _ _ following lawful step => following_step following admits.1 lawful step)
    (h.begin admits) exec).toKept

end

/-- From an empty journal and a service that holds `user`, through operations
that are all admitted: an operation that returns a status with phase Off leaves
the service matching `user` again. -/
theorem user_configuration_returns (endpoint : LoopbackProxyEndpoint)
    (user : NetworkServiceProxyState) (start w t : World NetworkServiceProxyState) (op : Op)
    (status : CaptureRuntimeStatus)
    (empty : start.journal = none) (initial : start.status = .off) (holds : start.services = user)
    (run : Run (platform (truthful user.serviceId)) World.begin (Op.program endpoint)
      (Admits user) start w) (admits : Admits user w op)
    (exec : Exec (platform (truthful user.serviceId)) (op.program endpoint) w.begin
      (.done (.ok status)) t)
    (off : status.systemProxy.phase = .off) : t.services.semanticallyMatches user = true := by
  have first : Kept user start := by
    refine ⟨by simp [empty], fun _ => ?_⟩
    rw [holds]
    exact NetworkServiceProxyState.semanticallyMatches_refl user
  have step : ∀ (op : Op) t (result : Fallible CaptureRuntimeStatus) u, Kept user t →
      Admits user t op → Exec (platform (truthful user.serviceId)) (op.program endpoint) t.begin
        (.done result) u → Kept user u := fun op t result u h admits exec => h.exec admits exec
  have kept : Kept user w := run.invariant step first
  have published : Published False endpoint w :=
    run_published False.elim (published_initial empty initial) run
  obtain ⟨agrees, shown⟩ := (program_settles False.elim op published).result exec
  have vacant : t.journal = none := by
    have phase : t.status.systemProxy.phase = .off := by rw [shown status rfl, off]
    simp only [Published, Agrees, phase] at agrees
    exact agrees.1
  refine (kept.exec admits exec).held ?_
  rintro ⟨prior, stored, -⟩
  simp [vacant] at stored

/-! ## A Repair that loses the configuration -/

/-- A platform with one service, whose observations all succeed or, when `blind`,
whose observations of the active service all fail. -/
def honestReply (blind : Bool) (w : World NetworkServiceProxyState) : (r : Request) → Reply r
  | .lockOperation | .writeStatus _ | .sleepRetryInterval => ()
  | .runtimeTransition | .deadlinePassed => false
  | .availability => .supported
  | .takeoverPolicy => .protectExisting
  | .readStatus => w.status
  | .loadJournal => .ok w.journal
  | .saveJournal _ | .clearJournal | .confirmProxyListener | .applyService _ => .ok ()
  | .preflightObserveActive | .observeActive =>
    if blind then .error ⟨.observationFailed, "The active service could not be read", none, none⟩
    else .ok w.services
  | .observeService _ => .ok w.services
  | .confirmationWindow => ⟨0, 1, 0⟩

def honestServices (w : World NetworkServiceProxyState) : Request → NetworkServiceProxyState
  | .applyService target =>
    if target.serviceId = directService.serviceId then target else w.services
  | _ => w.services

def honestRun (blind : Bool) (op : Op) (w : World NetworkServiceProxyState) :
    Operation (Fallible CaptureRuntimeStatus) × World NetworkServiceProxyState :=
  (op.program .managed).runUntil
    (fun w r => (honestReply blind w r, w.after r (honestReply blind w r) (honestServices w r)))
    (fun _ _ => false) w.begin

theorem honestRun_exec (blind : Bool) (op : Op) (w : World NetworkServiceProxyState) :
    Exec (platform (truthful directService.serviceId)) (op.program .managed) w.begin
    (honestRun blind op w).1 (honestRun blind op w).2 := by
  refine exec_runUntil (fun w r => ⟨?_, ?_, rfl⟩) _ _ _
  · cases r <;> trivial
  · cases r <;> cases blind <;> simp [truthful, honestReply, honestServices, after_services]

theorem honestRun_op {start w admits blind op}
    (before : Run (platform (truthful directService.serviceId)) World.begin
    (Op.program .managed) admits start w) (admitted : admits w op)
    (returns : (honestRun blind op w).1.result.isSome = true) :
    Run (platform (truthful directService.serviceId)) World.begin (Op.program .managed) admits
    start (honestRun blind op w).2 := by
  obtain ⟨result, returned⟩ := Option.isSome_iff_exists.mp returns
  exact .op op before admitted (Program.eq_done_of_result returned ▸ honestRun_exec blind op w)

/-- The user's service before Mish touches it. -/
def untouchedService : World NetworkServiceProxyState := ⟨none, .off, directService, [], []⟩

def turnedOn : World NetworkServiceProxyState := (honestRun false .turnOn untouchedService).2

/-- An audit that cannot read the active service publishes drift. -/
def blindAudited : World NetworkServiceProxyState :=
  (honestRun true (.audit .periodic true) turnedOn).2

def repaired : World NetworkServiceProxyState :=
  (honestRun false (.recover .repair true) blindAudited).2

/-- The user turns System Proxy off. -/
def turnOff : Op := .reconcile ⟨false, ⟨true, false⟩⟩ true

def turnedOff : Operation (Fallible CaptureRuntimeStatus) × World NetworkServiceProxyState :=
  honestRun false turnOff repaired

theorem turnedOff_returned : turnedOff.1 = .done (.ok turnedOff.2.status) :=
  Program.eq_done_of_result (by decide +kernel)

/-- Turning System Proxy on, an audit that fails to observe, the offered Repair,
and turning System Proxy off: the phase is Off, nothing is journaled, and the
service keeps Mish's endpoint instead of the user's configuration. -/
theorem repair_loses_user_configuration : ∃ w t status,
    Run (platform (truthful directService.serviceId)) World.begin (Op.program .managed)
      (fun _ op => op.relinquishes = false) untouchedService w ∧
    Exec (platform (truthful directService.serviceId)) (turnOff.program .managed) w.begin
      (.done (.ok status)) t ∧
    directService.hasMatchingManualProxyEndpoint .managed = false ∧
    status.systemProxy.phase = .off ∧
    t.services.semanticallyMatches directService = false ∧ t.journal = none := by
  refine ⟨repaired, turnedOff.2, turnedOff.2.status, ?_, turnedOff_returned ▸ honestRun_exec _ _ _,
    by decide +kernel⟩
  have on : Run (platform (truthful directService.serviceId)) World.begin (Op.program .managed)
      (fun _ op => op.relinquishes = false) untouchedService turnedOn :=
    honestRun_op (.refl _) rfl (by decide +kernel)
  have audited : Run (platform (truthful directService.serviceId)) World.begin
      (Op.program .managed) (fun _ op => op.relinquishes = false) untouchedService blindAudited :=
    honestRun_op on rfl (by decide +kernel)
  exact honestRun_op audited rfl (by decide +kernel)

/-- Turned off without the Repair. -/
def returned : Operation (Fallible CaptureRuntimeStatus) × World NetworkServiceProxyState :=
  honestRun false turnOff turnedOn

/-- Without the Repair the same service gets its configuration back. -/
theorem turn_off_returns_user_configuration :
    returned.2.services.semanticallyMatches directService = true := by
  have admits : ∀ (w : World NetworkServiceProxyState) (op : Op), op.relinquishes = false →
      op.repairs = false → Admits directService w op :=
    fun w op keeps calm => ⟨keeps, fun repairs => absurd repairs (by simp [calm])⟩
  have on : Run (platform (truthful directService.serviceId)) World.begin (Op.program .managed)
      (Admits directService) untouchedService turnedOn :=
    honestRun_op (.refl _) (admits _ _ rfl rfl) (by decide +kernel)
  have off : returned.1 = .done (.ok returned.2.status) :=
    Program.eq_done_of_result (by decide +kernel)
  exact user_configuration_returns .managed directService untouchedService turnedOn returned.2
    turnOff returned.2.status rfl rfl rfl on (admits _ _ rfl rfl)
    (off ▸ honestRun_exec false turnOff turnedOn) (by decide +kernel)

end Mish.Capture.SystemProxy
