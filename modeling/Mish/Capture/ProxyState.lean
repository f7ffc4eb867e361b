import Mathlib.Logic.Basic
import Mish.Data.Text

/-! The System Proxy configuration of one network service, and the field-wise
comparisons that decide whether a configuration is Mish's to change. -/

namespace Mish.Capture

inductive SystemProxyTakeoverPolicy where
  | protectExisting | replaceReversiblePacOrAutoDiscovery
  deriving DecidableEq

inductive SystemProxyTakeoverRejection where
  | authenticatedProxy | incompleteObservation | invalidState | protectedAutoDiscovery
  | protectedPac | unrecoverableState
  deriving DecidableEq

/-- The managed listener. The host is the display text of the loopback address. -/
structure LoopbackProxyEndpoint where
  host : String
  port : UInt16

def LoopbackProxyEndpoint.managed : LoopbackProxyEndpoint := ⟨"127.0.0.1", 7890⟩

structure ManualProxyState where
  (authenticated enabled : Bool)
  host : String
  port : UInt16
  deriving DecidableEq

namespace ManualProxyState

def disabled : ManualProxyState := ⟨false, false, "", 0⟩

def forEndpoint (endpoint : LoopbackProxyEndpoint) : ManualProxyState :=
  ⟨false, true, endpoint.host, endpoint.port⟩

def takeoverRejection (m : ManualProxyState) : Option SystemProxyTakeoverRejection :=
  if m.authenticated then some .authenticatedProxy
  else if hasControl m.host then some .invalidState
  else if m.enabled && (isBlank m.host || m.port == 0) then some .incompleteObservation
  else none

/-- The address of a disabled proxy is not compared. -/
def semanticallyMatches (m expected : ManualProxyState) : Bool :=
  m.authenticated == expected.authenticated && m.enabled == expected.enabled &&
    (!m.enabled || (m.host == expected.host && m.port == expected.port))

def isTransactionOwnedBetween (m prior target : ManualProxyState) : Bool :=
  (m.authenticated == prior.authenticated || m.authenticated == target.authenticated) &&
    (m.enabled == prior.enabled || m.enabled == target.enabled) &&
    (!m.enabled || ((m.host == prior.host || m.host == target.host) &&
      (m.port == prior.port || m.port == target.port)))

theorem semanticallyMatches_refl (m : ManualProxyState) : m.semanticallyMatches m = true := by
  simp [semanticallyMatches]

theorem semanticallyMatches_trans {a b c : ManualProxyState} (h : a.semanticallyMatches b = true)
    (h' : b.semanticallyMatches c = true) : a.semanticallyMatches c = true := by
  simp only [semanticallyMatches, Bool.and_eq_true, beq_iff_eq, Bool.or_eq_true,
    Bool.not_eq_true'] at h h' ⊢
  obtain ⟨⟨ha, he⟩, hn⟩ := h
  obtain ⟨⟨ha', he'⟩, hn'⟩ := h'
  refine ⟨⟨ha.trans ha', he.trans he'⟩, ?_⟩
  rcases hn with off | ⟨host, port⟩
  · exact .inl off
  · rcases hn' with off | ⟨host', port'⟩
    · exact .inl (he.trans off)
    · exact .inr ⟨host.trans host', port.trans port'⟩

end ManualProxyState

structure NetworkServiceProxyState where
  autoDiscoveryEnabled : Bool
  bypassDomains : List String
  (http https : ManualProxyState)
  pacEnabled : Bool
  (pacUrl serviceId : String)
  socks : ManualProxyState
  deriving DecidableEq

def managedLocalBypassDomains : List String :=
  ["localhost", "*.localhost", "*.local", "*.local.", "*.home.arpa", "*.home.arpa."]

def maxBypassDomains : Nat := 64

def maxBypassDomainLength : Nat := 253

/-- `eq_ignore_ascii_case`; `Char.toLower` maps the ASCII letters only. -/
def bypassDomainEquivalent (left right : String) : Bool :=
  left.toList.map Char.toLower == right.toList.map Char.toLower

def mergedManagedLocalBypassDomains (existing : List String) : List String :=
  managedLocalBypassDomains.foldl
    (fun merged required =>
      if merged.any (bypassDomainEquivalent · required) then merged else merged ++ [required])
    existing

def isReversibleBypassDomain (domain : String) : Bool :=
  domain ≠ "" && domain.utf8ByteSize ≤ maxBypassDomainLength && !hasControl domain &&
    domain ≠ "Empty"

namespace NetworkServiceProxyState

def takeoverRejection (s : NetworkServiceProxyState) (policy : SystemProxyTakeoverPolicy) :
    Option SystemProxyTakeoverRejection :=
  if isBlank s.serviceId || hasControl s.serviceId then some .invalidState
  else if hasControl s.pacUrl then some .invalidState
  else if s.pacEnabled && (isBlank s.pacUrl || s.pacUrl == "(null)") then
    some .incompleteObservation
  else if decide (maxBypassDomains < s.bypassDomains.length) ||
      !s.bypassDomains.all isReversibleBypassDomain then some .invalidState
  else
    match [s.http, s.https, s.socks].findSome? ManualProxyState.takeoverRejection with
    | some reason => some reason
    | none =>
      if policy = .protectExisting then
        if s.pacEnabled then some .protectedPac
        else if s.autoDiscoveryEnabled then some .protectedAutoDiscovery
        else none
      else none

variable (s : NetworkServiceProxyState)

def hasMatchingManualProxyEndpoint (endpoint : LoopbackProxyEndpoint) : Bool :=
  s.http == .forEndpoint endpoint && s.https == .forEndpoint endpoint &&
    s.socks == .forEndpoint endpoint

def hasManagedLocalBypass : Bool :=
  managedLocalBypassDomains.all fun required =>
    s.bypassDomains.any (bypassDomainEquivalent · required)

def isMishEndpoint (endpoint : LoopbackProxyEndpoint) : Bool :=
  s.hasMatchingManualProxyEndpoint endpoint && s.hasManagedLocalBypass

def withEndpoint (endpoint : LoopbackProxyEndpoint) : NetworkServiceProxyState where
  autoDiscoveryEnabled := false
  bypassDomains := mergedManagedLocalBypassDomains s.bypassDomains
  http := .forEndpoint endpoint
  https := .forEndpoint endpoint
  pacEnabled := false
  pacUrl := s.pacUrl
  serviceId := s.serviceId
  socks := .forEndpoint endpoint

def isReversible : Bool :=
  (s.takeoverRejection .replaceReversiblePacOrAutoDiscovery).isNone

def semanticallyMatches (s expected : NetworkServiceProxyState) : Bool :=
  s.autoDiscoveryEnabled == expected.autoDiscoveryEnabled &&
    s.bypassDomains == expected.bypassDomains &&
    s.http.semanticallyMatches expected.http &&
    s.https.semanticallyMatches expected.https &&
    s.pacEnabled == expected.pacEnabled &&
    (!s.pacEnabled || s.pacUrl == expected.pacUrl) &&
    s.serviceId == expected.serviceId &&
    s.socks.semanticallyMatches expected.socks

def isTransactionOwnedBetween (s prior target : NetworkServiceProxyState) : Bool :=
  (s.autoDiscoveryEnabled == prior.autoDiscoveryEnabled ||
      s.autoDiscoveryEnabled == target.autoDiscoveryEnabled) &&
    (s.bypassDomains == prior.bypassDomains || s.bypassDomains == target.bypassDomains) &&
    s.http.isTransactionOwnedBetween prior.http target.http &&
    s.https.isTransactionOwnedBetween prior.https target.https &&
    (s.pacEnabled == prior.pacEnabled || s.pacEnabled == target.pacEnabled) &&
    (!s.pacEnabled || s.pacUrl == prior.pacUrl || s.pacUrl == target.pacUrl) &&
    (s.serviceId == prior.serviceId || s.serviceId == target.serviceId) &&
    s.socks.isTransactionOwnedBetween prior.socks target.socks

theorem semanticallyMatches_refl (s : NetworkServiceProxyState) :
    s.semanticallyMatches s = true := by
  simp [semanticallyMatches, ManualProxyState.semanticallyMatches_refl]

theorem semanticallyMatches_trans {a b c : NetworkServiceProxyState}
    (h : a.semanticallyMatches b = true) (h' : b.semanticallyMatches c = true) :
    a.semanticallyMatches c = true := by
  simp only [semanticallyMatches, Bool.and_eq_true, beq_iff_eq, Bool.or_eq_true,
    Bool.not_eq_true'] at h h' ⊢
  obtain ⟨⟨⟨⟨⟨⟨⟨auto, bypass⟩, http⟩, https⟩, pac⟩, url⟩, id⟩, socks⟩ := h
  obtain ⟨⟨⟨⟨⟨⟨⟨auto', bypass'⟩, http'⟩, https'⟩, pac'⟩, url'⟩, id'⟩, socks'⟩ := h'
  refine ⟨⟨⟨⟨⟨⟨⟨auto.trans auto', bypass.trans bypass'⟩,
    ManualProxyState.semanticallyMatches_trans http http'⟩,
    ManualProxyState.semanticallyMatches_trans https https'⟩, pac.trans pac'⟩, ?_⟩, id.trans id'⟩,
    ManualProxyState.semanticallyMatches_trans socks socks'⟩
  rcases url with off | same
  · exact .inl off
  · rcases url' with off | same'
    · exact .inl (pac.trans off)
    · exact .inr (same.trans same')

end NetworkServiceProxyState

end Mish.Capture
