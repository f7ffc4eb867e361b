import Mish.Capture.World

/-! The confirmation loop, once and for all: it keeps whatever its own requests
keep, and a state it returns is the one it observed last. -/

namespace Mish.Capture.SystemProxy
open Interaction

/-- The request behind one observation of the loop. -/
def observationRequest : Option String → Request
  | some serviceId => .observeService serviceId
  | none => .observeActive

section
variable {σ : Type} {behaves : Behaviour σ} {allowed : World σ → Request → Prop}
  {inv : World σ → Prop} {serviceId : Option String} {w : World σ}

/-- Where `inv` holds the request may be made, and `inv` holds afterwards. -/
def Keeps (behaves : Behaviour σ) (allowed : World σ → Request → Prop) (inv : World σ → Prop)
    (r : Request) : Prop :=
  ∀ w, inv w → allowed w r ∧ ∀ a s, behaves w.services r a s → inv (w.after r a s)

/-- Every request the loop can make keeps `inv`. -/
structure KeptByLoop (behaves : Behaviour σ) (allowed : World σ → Request → Prop)
    (inv : World σ → Prop) (serviceId : Option String) : Prop where
  window : Keeps behaves allowed inv .confirmationWindow
  deadline : Keeps behaves allowed inv .deadlinePassed
  sleep : Keeps behaves allowed inv .sleepRetryInterval
  observe : Keeps behaves allowed inv (observationRequest serviceId)

/-- `observed` is what the latest request, an observation of the loop, returned. -/
def LatestObserved (serviceId : Option String) (w : World σ)
    (observed : NetworkServiceProxyState) : Prop :=
  match serviceId with
  | some serviceId => ∃ rest, w.trace = ⟨.observeService serviceId, .ok observed⟩ :: rest
  | none => ∃ rest, w.trace = ⟨.observeActive, .ok observed⟩ :: rest

/-- `inv` holds, and a returned state matches and was observed just now. -/
def Confirmed (inv : World σ → Prop) (expected : NetworkServiceProxyState)
    (serviceId : Option String) (result : Fallible NetworkServiceProxyState) (w : World σ) : Prop :=
  inv w ∧ ∀ observed, result = .ok observed →
    observed.semanticallyMatches expected = true ∧ LatestObserved serviceId w observed

theorem confirmed_error {expected error}
    (h : inv w) : Confirmed inv expected serviceId (.error error) w :=
  ⟨h, fun _ impossible => nomatch impossible⟩

theorem safe_observation {post} (observe : Keeps behaves allowed inv (observationRequest serviceId))
    (h : inv w) (failed : ∀ error t, inv t → post (.error error) t)
    (seen : ∀ observed t, inv t → LatestObserved serviceId t observed → post (.ok observed) t) :
    Safe (platform behaves) allowed post (observation serviceId) w := by
  obtain ⟨permitted, kept⟩ := observe w h
  cases serviceId with
  | none | some =>
    refine (safe_free rfl).2 ⟨permitted, forall_fallible.2 ⟨fun e s b => ?_, fun observed s b => ?_⟩⟩
    · exact failed e _ (kept _ s b)
    · exact seen observed _ (kept _ s b) ⟨_, rfl⟩

/-- The verdict on one observation, with or without a deadline: only `rest`
looks again. -/
theorem judged_safe {expected observed drift foreign last} {moved lost exhausted : Prop}
    [Decidable moved] [Decidable lost] [Decidable exhausted]
    {rest : Operation (Fallible NetworkServiceProxyState)}
    (h : inv w) (latest : LatestObserved serviceId w observed)
    (next : Safe (platform behaves) allowed (Confirmed inv expected serviceId) rest w) :
    Safe (platform behaves) allowed (Confirmed inv expected serviceId)
    (if observed.semanticallyMatches expected = true then pure (.ok observed)
    else if moved then pure (.error drift)
    else if lost then pure (.error foreign)
    else if exhausted then pure (.error last)
    else rest) w := by
  simp only [safe_ite, safe_pure]
  refine ⟨fun same => ⟨h, ?_⟩, fun _ => ⟨fun _ => confirmed_error h, fun _ =>
    ⟨fun _ => confirmed_error h, fun _ => ⟨fun _ => confirmed_error h, fun _ => next⟩⟩⟩⟩
  rintro _ ⟨⟩
  exact ⟨same, latest⟩

theorem confirmAttempts_safe (kept : KeptByLoop behaves allowed inv serviceId)
    {prior transactionTarget expected deadline retries attempts} (h : inv w) :
    Safe (platform behaves) allowed (Confirmed inv expected serviceId)
    (confirmAttempts prior transactionTarget expected serviceId deadline retries attempts) w := by
  induction attempts generalizing w with
  | zero => exact confirmed_error h
  | succ attempts ih =>
    unfold confirmAttempts
    cases deadline with
    | false =>
      simp only [Bool.false_eq_true, if_false, safe_bind]
      refine safe_observation kept.observe h (fun e t ht => confirmed_error ht) ?_
      intro observed t ht latest
      refine judged_safe ht latest ?_
      simp only [safe_ite, safe_bind, safe_sleepRetryInterval]
      obtain ⟨permitted, after⟩ := kept.sleep t ht
      exact ⟨fun _ => ⟨permitted, fun s b => ih (after () s b)⟩, fun _ => ih ht⟩
    | true =>
      simp only [if_true, safe_bind, safe_free, safe_ite]
      obtain ⟨permitted, after⟩ := kept.deadline w h
      refine ⟨permitted, fun a s b => ⟨fun _ => confirmed_error (after a s b), fun _ => ?_⟩⟩
      refine safe_observation kept.observe (after a s b) (fun e t ht => confirmed_error ht) ?_
      intro observed t ht latest
      refine judged_safe ht latest ?_
      simp only [safe_ite, safe_bind, safe_free]
      obtain ⟨permitted, after⟩ := kept.deadline t ht
      exact ⟨fun _ => ⟨permitted, fun a s b => ⟨fun _ => confirmed_error (after a s b),
        fun _ => ih (after a s b)⟩⟩, fun _ => ih ht⟩

theorem confirmTarget_safe (kept : KeptByLoop behaves allowed inv serviceId)
    {prior transactionTarget expected} (h : inv w) :
    Safe (platform behaves) allowed (Confirmed inv expected serviceId)
    (confirmTarget prior transactionTarget expected serviceId) w := by
  unfold confirmTarget
  simp only [safe_bind, safe_free]
  obtain ⟨permitted, after⟩ := kept.window w h
  exact ⟨permitted, fun a s b => confirmAttempts_safe kept (after a s b)⟩

end

end Mish.Capture.SystemProxy
