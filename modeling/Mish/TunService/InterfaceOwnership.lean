import Mish.TunService.NetworkOwnership

/-!
# Ownership of the TUN interface

`tun_observation` reports the state of the network and, while the core runs, takes ownership of the
interface the core holds the socket of, and of its routes.
-/

namespace Mish.TunService.Interface

structure ServiceTunOwnership where
  baselineInterfaces : List String
  dnsApplied : Bool
  interface : Option TunSystemInterface
  routes : Option (List TunSystemRoute)

structure ServiceState where
  process : Bool
  tun : Option ServiceTunOwnership

structure Observation where
  (core interface routes dns : ComponentState)

/-- The interfaces of the utun sockets the core holds, if it is asked and answers. -/
abbrev Correlation := Option (Except Unit (List String))

/-- What other functions read off an address or a snapshot. -/
structure Readings where
  isIpv4 : String → Bool
  requiredRouteCount : TunSystemSnapshot → String → Bool → Nat
  managedRouteFingerprint :
    TunSystemSnapshot → String → Bool → Except Unit (Option (List TunSystemRoute))
  dnsObservationState : TunSystemSnapshot → String → ComponentState

def isUtun (value : String) : Bool :=
  value.startsWith "utun" && value.toList.drop 4 != [] && (value.toList.drop 4).all Char.isDigit

def ipv6Required (owned : TunSystemInterface) : Bool :=
  owned.addresses.any fun address => address.contains ':' && !address.startsWith "fe80:"

def uniform (core state : ComponentState) : Observation := ⟨core, state, state, state⟩

def foreignIf (present : Bool) : ComponentState := if present then .foreign else .absent

section
variable (read : Readings) (core : ComponentState) (system : TunSystemSnapshot)
  (o : ServiceTunOwnership) (sockets : Correlation)

def untracked : Observation :=
  let found := system.interfaces.filter fun i => isUtun i.name && i.addresses.any read.isIpv4
  if found.isEmpty then uniform core .absent
  else
    ⟨core, .foreign, foreignIf (found.any fun i => 0 < read.requiredRouteCount system i.name false),
      foreignIf (found.any fun i => read.dnsObservationState system i.name ≠ .absent)⟩

def candidates : List TunSystemInterface :=
  system.interfaces.filter fun i => isUtun i.name && !o.baselineInterfaces.contains i.name

/-- The core no longer holds the socket of the owned interface. -/
def lost (owned : TunSystemInterface) : Observation where
  core := core
  interface := foreignIf (system.interfaces.any (·.name = owned.name))
  routes := foreignIf (0 < read.requiredRouteCount system owned.name (ipv6Required owned))
  dns := foreignIf (read.dnsObservationState system owned.name ≠ .absent)

/-- What is done while the core runs: an early answer, or the ownership to go on with. -/
def correlate : Except Observation ServiceTunOwnership :=
  match sockets with
  | some (.ok sockets) =>
    if ¬(sockets.length ≤ 4 ∧ sockets.all isUtun ∧ sockets.Nodup) then .error (uniform core .unknown)
    else
      match sockets, o.interface with
      | _ :: _ :: _, _ => .error (uniform core .partially)
      | [], some owned => .error (lost read core system owned)
      | [name], some owned =>
        if name = owned.name then .ok o else .error (lost read core system owned)
      | [], none => .error (uniform core (foreignIf (!(candidates system o).isEmpty)))
      | [name], none =>
        if o.baselineInterfaces.contains name then .error (uniform core .foreign)
        else
          match (candidates system o).find? (·.name = name) with
          | none => .error (uniform core .partially)
          | some current =>
            if current.addresses.isEmpty then .error (uniform core .partially)
            else .ok { o with interface := some current }
  | _ => .error (uniform core .unknown)

def observeRoutes (owned : TunSystemInterface) : ComponentState × Option (List TunSystemRoute) :=
  match read.managedRouteFingerprint system owned.name (ipv6Required owned), o.routes with
  | .ok none, routes => (.absent, routes)
  | .ok (some current), none => (.confirmed, some current)
  | .ok (some current), some expected =>
    (if expected = current then .confirmed else .foreign, some expected)
  | .error _, routes => (.partially, routes)

def report : Observation × ServiceTunOwnership :=
  match o.interface with
  | none => (uniform core (foreignIf (!(candidates system o).isEmpty)), o)
  | some owned =>
    let current := system.interfaces.find? (·.name = owned.name)
    let interface := match current with
      | some current => if current.addresses = owned.addresses then .confirmed else .foreign
      | none => .absent
    let dns := if o.dnsApplied && current.isNone then .partially
      else read.dnsObservationState system owned.name
    (⟨core, interface, (observeRoutes read system o owned).1, dns⟩,
      { o with routes := (observeRoutes read system o owned).2 })

def ServiceState.tunObservation (s : ServiceState) : Observation × ServiceState :=
  let core : ComponentState := if s.process && s.tun.isSome then .confirmed else .absent
  match s.tun with
  | none => (untracked read core system, s)
  | some o =>
    match if s.process then correlate read core system o sockets else .ok o with
    | .error observation => (observation, s)
    | .ok o => ((report read core system o).1, { s with tun := some (report read core system o).2 })

end

/-- What may happen after a start. Other commands and an exit of the core change the DNS flag. -/
inductive Event where
  | observe (system : TunSystemSnapshot) (sockets : Correlation)
  | exit
  | dns (applied : Bool)
  | drop

def ServiceState.next (read : Readings) (s : ServiceState) : Event → ServiceState
  | .observe system sockets => (s.tunObservation read system sockets).2
  | .exit => { s with process := false }
  | .dns applied => { s with tun := s.tun.map fun o => { o with dnsApplied := applied } }
  | .drop => { s with tun := none }

def started (baseline : TunSystemSnapshot) : ServiceState where
  process := true
  tun := some ⟨(baseline.interfaces.map (·.name)).filter isUtun, false, none, none⟩

/-! ## One observation -/

/-- What may become the owned interface: a new utun with addresses, the only one whose socket the
core holds. -/
structure Fresh (baseline : List String) (system : TunSystemSnapshot) (sockets : Correlation)
    (owned : TunSystemInterface) : Prop where
  utun : isUtun owned.name = true
  outside : owned.name ∉ baseline
  addressed : owned.addresses ≠ []
  present : owned ∈ system.interfaces
  sole : sockets = some (.ok [owned.name])

section
variable {read : Readings} {core : ComponentState} {system : TunSystemSnapshot}
  {o o' : ServiceTunOwnership} {sockets : Correlation}

theorem foreignIf_ne_confirmed {present} : foreignIf present ≠ .confirmed := by
  cases present <;> nofun

theorem correlate_error {observation}
    (early : correlate read core system o sockets = .error observation) :
    observation.interface ≠ .confirmed := by
  unfold correlate at early
  repeat' split at early
  all_goals cases early
  all_goals first | exact foreignIf_ne_confirmed | simp [uniform]

theorem correlate_ok (goesOn : correlate read core system o sockets = .ok o') :
    ∃ owned, o' = { o with interface := some owned } ∧ sockets = some (.ok [owned.name]) ∧
    (o.interface = some owned ∨
    o.interface = none ∧ Fresh o.baselineInterfaces system sockets owned) := by
  unfold correlate at goesOn
  repeat' split at goesOn
  all_goals cases goesOn
  · rename_i owned has _ same
    exact ⟨owned, by rw [← has], by rw [same], .inl has⟩
  · rename_i name absent _ outside _ current found addressed
    obtain rfl : current.name = name := by simpa using List.find?_some found
    have listed := List.mem_filter.1 (List.mem_of_find?_eq_some found)
    exact ⟨current, rfl, rfl, .inr ⟨absent, by simp_all, by simpa using outside,
      by simpa using addressed, listed.1, rfl⟩⟩

theorem report_owns : ∃ routes, (report read core system o).2 = { o with routes } ∧
    (o.routes ≠ none → routes = o.routes) := by
  unfold report
  split
  · exact ⟨o.routes, rfl, fun _ => rfl⟩
  · refine ⟨_, rfl, fun owns => ?_⟩
    unfold observeRoutes
    split <;> simp_all

theorem report_confirmed (confirmed : (report read core system o).1.interface = .confirmed) :
    ∃ owned, o.interface = some owned ∧ owned ∈ system.interfaces := by
  unfold report at confirmed
  split at confirmed
  · exact absurd confirmed foreignIf_ne_confirmed
  · rename_i owned has
    refine ⟨owned, has, ?_⟩
    dsimp only at confirmed
    repeat' split at confirmed
    all_goals cases confirmed
    rename_i current found same
    have named : current.name = owned.name := by simpa using List.find?_some found
    obtain rfl : current = owned := by
      cases current
      simp_all
    exact List.mem_of_find?_eq_some found

/-- What an observation may do to an ownership, and when it confirms the interface. -/
structure Observes (s : ServiceState) (system : TunSystemSnapshot) (sockets : Correlation)
    (o o' : ServiceTunOwnership) (confirmed : Prop) : Prop where
  baseline : o'.baselineInterfaces = o.baselineInterfaces
  interface : o'.interface = o.interface ∨ o.interface = none ∧
    ∃ owned, o'.interface = some owned ∧ Fresh o.baselineInterfaces system sockets owned
  routes : o.routes ≠ none → o'.routes = o.routes
  confirms : confirmed → ∃ owned, o'.interface = some owned ∧ owned ∈ system.interfaces ∧
    (s.process = true → sockets = some (.ok [owned.name]))

theorem tunObservation_observes (read : Readings) {s} (has : s.tun = some o) :
    ∃ o', (s.tunObservation read system sockets).2.tun = some o' ∧
    Observes s system sockets o o'
    ((s.tunObservation read system sockets).1.interface = .confirmed) := by
  unfold ServiceState.tunObservation
  simp only [has]
  split
  · rename_i early
    refine ⟨o, has, rfl, .inl rfl, fun _ => rfl, fun confirmed => ?_⟩
    split at early
    · exact absurd confirmed (correlate_error early)
    · cases early
  · rename_i o₁ goesOn
    obtain ⟨routes, reported, kept⟩ := @report_owns read _ system o₁
    rw [reported]
    refine ⟨_, rfl, ?_⟩
    split at goesOn
    · obtain ⟨owned, rfl, sole, before⟩ := correlate_ok goesOn
      refine ⟨rfl, ?_, kept, fun confirmed => ?_⟩
      · exact before.imp Eq.symm fun ⟨absent, fresh⟩ => ⟨absent, owned, rfl, fresh⟩
      · obtain ⟨_, ⟨⟩, present⟩ := report_confirmed confirmed
        exact ⟨owned, rfl, present, fun _ => sole⟩
    · rename_i exited
      cases goesOn
      refine ⟨rfl, .inl rfl, kept, fun confirmed => ?_⟩
      obtain ⟨owned, holds, present⟩ := report_confirmed confirmed
      exact ⟨owned, holds, present, fun runs => absurd runs exited⟩

end

/-! ## Histories -/

/-- The later ownership, if there is one, is the earlier one with what it owned. -/
def Kept (s t : ServiceState) : Prop :=
  ∀ o', t.tun = some o' → ∃ o, s.tun = some o ∧ o'.baselineInterfaces = o.baselineInterfaces ∧
    (o.interface ≠ none → o'.interface = o.interface) ∧ (o.routes ≠ none → o'.routes = o.routes)

/-- What an observation in the state `s` may take over and may confirm. -/
structure Honest (baseline : TunSystemSnapshot) (s : ServiceState) (system : TunSystemSnapshot)
    (sockets : Correlation) (result : Observation × ServiceState) : Prop where
  takes : ∀ o o' owned, s.tun = some o → result.2.tun = some o' → o.interface = none →
    o'.interface = some owned → Fresh (baseline.interfaces.map (·.name)) system sockets owned
  confirms : result.1.interface = .confirmed → ∃ o owned, result.2.tun = some o ∧
    o.interface = some owned ∧ owned ∈ system.interfaces ∧
      (s.process = true → sockets = some (.ok [owned.name]))

section
variable {read : Readings} {s t : ServiceState} {system : TunSystemSnapshot} {sockets : Correlation}

theorem Kept.refl (s : ServiceState) : Kept s s := fun o has =>
  ⟨o, has, rfl, fun _ => rfl, fun _ => rfl⟩

theorem Kept.trans {u} (first : Kept s t) (second : Kept t u) : Kept s u := by
  intro o has
  obtain ⟨o₁, has, baseline₁, interface₁, routes₁⟩ := second o has
  obtain ⟨o₂, has, baseline₂, interface₂, routes₂⟩ := first o₁ has
  refine ⟨o₂, has, baseline₁.trans baseline₂, fun owns => ?_, fun owns => ?_⟩
  · have same := interface₂ owns
    exact (interface₁ (same ▸ owns)).trans same
  · have same := routes₂ owns
    exact (routes₁ (same ▸ owns)).trans same

theorem tunObservation_untracked (none : s.tun = none) : (s.tunObservation read system sockets).2 =
    s ∧ (s.tunObservation read system sockets).1.interface ≠ .confirmed := by
  simp only [ServiceState.tunObservation, none, untracked]
  split <;> simp [uniform]

theorem kept_next (event : Event) : Kept s (s.next read event) := by
  cases event with
  | observe system sockets =>
    intro o' later
    cases has : s.tun with
    | none =>
      rw [ServiceState.next, (tunObservation_untracked has).1, has] at later
      cases later
    | some o =>
      obtain ⟨_, is, observes⟩ := tunObservation_observes read has
      cases is.symm.trans later
      refine ⟨o, rfl, observes.baseline, fun owns => ?_, observes.routes⟩
      exact observes.interface.resolve_right fun h => owns h.1
  | exit => exact .refl s
  | drop => exact nofun
  | dns applied =>
    intro o' later
    obtain ⟨o, has, rfl⟩ := Option.map_eq_some_iff.1 later
    exact ⟨o, has, rfl, fun _ => rfl, fun _ => rfl⟩

theorem kept_run (events : List Event) : Kept s (events.foldl (·.next read) s) := by
  induction events generalizing s with
  | nil => exact .refl s
  | cons event events ih => exact (kept_next event).trans ih

theorem honest_observe {baseline} (since : Kept (started baseline) s) :
    Honest baseline s system sockets (s.tunObservation read system sockets) := by
  cases has : s.tun with
  | none =>
    refine ⟨fun _ _ _ holds => ?_, fun is => absurd is (tunObservation_untracked has).2⟩
    cases has.symm.trans holds
  | some o =>
    obtain ⟨o', is, observes⟩ := tunObservation_observes read has
    refine ⟨fun _ _ owned has₁ is₁ none owns => ?_, fun confirmed => ?_⟩
    · cases has.symm.trans has₁
      cases is.symm.trans is₁
      obtain same | ⟨_, _, owns₁, fresh⟩ := observes.interface
      · cases (none.symm.trans same.symm).trans owns
      · cases owns.symm.trans owns₁
        obtain ⟨_, ⟨⟩, named, _⟩ := since o has
        refine { fresh with outside := fun listed => fresh.outside ?_ }
        rw [named]
        exact List.mem_filter.2 ⟨listed, fresh.utun⟩
    · obtain ⟨owned, owns, rest⟩ := observes.confirms confirmed
      exact ⟨o', owned, is, owns, rest⟩

end

/-- In every history after a start, what is owned stays what it is, and every observation takes over
and confirms only what it may. -/
theorem interface_never_retargeted (read : Readings) (baseline system : TunSystemSnapshot)
    (before after : List Event) (sockets : Correlation) :
    let s := before.foldl (·.next read) (started baseline)
    Kept s (after.foldl (·.next read) s) ∧
      Honest baseline s system sockets (s.tunObservation read system sockets) :=
  ⟨kept_run after, honest_observe (kept_run before)⟩

end Mish.TunService.Interface
