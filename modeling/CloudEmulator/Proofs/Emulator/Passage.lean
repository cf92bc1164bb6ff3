import CloudEmulator.Proofs.Emulator.Frame
import CloudEmulator.Proofs.Proxy.EntryPaths

/-!
# Requests that pass

Interception and the layer of a client take a request to the emulator exactly if
interception is on and the URL belongs to a service. Every other request passes, and the
emulator is the same afterwards. So of a run of requests the emulator sees those that it
claims, and the network sees the others.
-/

namespace CloudEmulator

variable {σ : Type}

/-- What the layer makes of the outcome of a dispatch. -/
def Exchange.ofOutcome : Except DispatchError Response → Exchange
  | .ok s => .intercepted s.encode
  | .error fault => .failed fault

/-- What the network made of the request, if it reached the network. -/
def Exchange.passed? : Exchange → Option (Except String WireResponse)
  | .passed outcome => some outcome
  | _ => none

/-- What the emulator made of the request, if the request was taken to it. -/
def Exchange.taken? : Exchange → Option (Except DispatchError WireResponse)
  | .intercepted s => some (.ok s)
  | .failed fault => some (.error fault)
  | .passed _ => none

/-- An outcome of a dispatch is none of the network. -/
theorem Exchange.passed?_ofOutcome (outcome : Except DispatchError Response) :
    (ofOutcome outcome).passed? = none := by
  cases outcome <;> rfl

/-- An outcome of a dispatch is told with the response as a connection would carry it. -/
theorem Exchange.taken?_ofOutcome (outcome : Except DispatchError Response) :
    (ofOutcome outcome).taken? = some (outcome.map Response.encode) := by
  cases outcome <;> rfl

/-- The URL that the layer asks for. -/
def HttpRequest.layerUrl (h : HttpRequest) : String :=
  h.absoluteUrl "http" ""

/-- The request as the layer gives it to the emulator. -/
def HttpRequest.given (h : HttpRequest) : IncomingRequest :=
  h.incoming h.layerUrl

namespace Emulator

variable {e next : Emulator σ} {r : IncomingRequest} {h : HttpRequest} {network : Network}
  {hs : List HttpRequest}

/-- Interception is on, and the URL belongs to a service. -/
def Claims (e : Emulator σ) (url : String) : Prop :=
  e.intercepting = true ∧ ∃ service, e.index.classify? url = some service

/-- The check of interception is for just that. -/
theorem isAnswering_iff {url : String} : e.isAnswering url = true ↔ e.Claims url := by
  rw [isAnswering, Bool.and_eq_true, Option.isSome_iff_exists, Claims]

/-- Whether a request is claimed depends on nothing that a request changes. -/
theorem Kept.isAnswering (hkept : e.Kept next) : next.isAnswering = e.isAnswering := by
  funext url
  rw [Emulator.isAnswering, Emulator.isAnswering, hkept.intercepting, hkept.index]

/-- A claimed request is dispatched. -/
theorem intercept_of_claims (hclaims : e.Claims r.url) :
    e.intercept r = ((e.dispatch r).1, (e.dispatch r).2.1,
      (e.dispatch r).2.2.map fun s => some ⟨r.url, s⟩) := by
  unfold intercept dispatchFor
  rw [if_pos (isAnswering_iff.mpr hclaims)]
  rcases e.dispatch r with ⟨next, events, outcome⟩
  cases outcome <;> rfl

/-- Every other request is let through. -/
theorem intercept_of_not_claims (hfree : ¬ e.Claims r.url) :
    e.intercept r = (e, [], .ok none) := by
  unfold intercept
  rw [if_neg (fun hanswering => hfree (isAnswering_iff.mp hanswering))]

/-- The layer has a claimed request dispatched. -/
theorem exchange_of_claims (network : Network) (hclaims : e.Claims h.layerUrl) :
    e.exchange network h = ((e.dispatch h.given).1, (e.dispatch h.given).2.1,
      .ofOutcome (e.dispatch h.given).2.2) := by
  have hexchange := exchange_of_isAnswering network (r := h) rfl (isAnswering_iff.mpr hclaims)
  rw [hexchange]
  rfl

/-- The layer hands every other request on as it is, and the answer back as it is. -/
theorem exchange_of_not_claims (network : Network) (hfree : ¬ e.Claims h.layerUrl) :
    e.exchange network h = (e, [], .passed (network h)) := by
  unfold exchange
  exact if_neg fun hanswering => hfree (isAnswering_iff.mp hanswering)

/-- Which requests are taken to the emulator, and what comes of the others. -/
structure PassageLaws (e : Emulator σ) : Prop where
  /-- A claimed request is dispatched. What its dispatch leaves, does and fails with is what
  interception leaves, does and fails with; a response is told with the URL of the request. -/
  taken : ∀ r, e.Claims r.url →
    e.intercept r = ((e.dispatch r).1, (e.dispatch r).2.1,
      (e.dispatch r).2.2.map fun s => some ⟨r.url, s⟩)
  /-- Every other request is let through, and nothing happens. -/
  passed : ∀ r, ¬ e.Claims r.url → e.intercept r = (e, [], .ok none)
  /-- No claimed request is let through, whatever comes of it. -/
  passed_iff : ∀ r, (e.intercept r).2.2 = .ok none ↔ ¬ e.Claims r.url
  /-- The layer has the same requests dispatched, and then asks no network. -/
  layerTaken : ∀ network h, e.Claims h.layerUrl →
    e.exchange network h = ((e.dispatch h.given).1, (e.dispatch h.given).2.1,
      .ofOutcome (e.dispatch h.given).2.2)
  /-- The network gets every other request as it is, its response or failure is handed back
  as it is, and nothing happens to the emulator. -/
  layerPassed : ∀ network h, ¬ e.Claims h.layerUrl →
    e.exchange network h = (e, [], .passed (network h))
  /-- The network is asked for no claimed request, whatever comes of it. -/
  layerPassed_iff : ∀ network h, (e.exchange network h).2.2.passed?.isSome = true ↔
    ¬ e.Claims h.layerUrl

/-- **Interception takes what is claimed.** In every state, for every request and network, a
request is dispatched exactly if interception is on and its URL belongs to a service, and
all others pass without a trace. -/
theorem passageLaws (e : Emulator σ) : e.PassageLaws where
  taken _ := intercept_of_claims
  passed _ := intercept_of_not_claims
  passed_iff := by
    intro r
    constructor
    · intro hnone hclaims
      rw [intercept_of_claims hclaims] at hnone
      cases houtcome : (e.dispatch r).2.2 <;> rw [houtcome] at hnone <;> cases hnone
    · intro hfree
      rw [intercept_of_not_claims hfree]
  layerTaken network _ := exchange_of_claims network
  layerPassed network _ := exchange_of_not_claims network
  layerPassed_iff := by
    intro network h
    constructor
    · intro hpassed hclaims
      rw [exchange_of_claims network hclaims, Exchange.passed?_ofOutcome] at hpassed
      cases hpassed
    · intro hfree
      rw [exchange_of_not_claims network hfree]
      rfl

section Runs

/-- The emulator that is left when some requests were sent through the layer. -/
def exchanged (e : Emulator σ) (network : Network) (hs : List HttpRequest) : Emulator σ :=
  hs.foldl (fun e h => (e.exchange network h).1) e

/-- What comes of some requests that are sent through the layer, one after the other. -/
def exchanges (e : Emulator σ) (network : Network) : List HttpRequest → List Exchange
  | [] => []
  | h :: hs => (e.exchange network h).2.2 :: (e.exchange network h).1.exchanges network hs

/-- The requests that the emulator claims, as it gets them. -/
def claimed (e : Emulator σ) (hs : List HttpRequest) : List IncomingRequest :=
  (hs.filter fun h => e.isAnswering h.layerUrl).map HttpRequest.given

/-- The requests that the emulator does not claim. -/
def unclaimed (e : Emulator σ) (hs : List HttpRequest) : List HttpRequest :=
  hs.filter fun h => !e.isAnswering h.layerUrl

/-- A claimed request comes first among those that are claimed, and the rest is claimed as
before it. -/
theorem claimed_cons (hclaims : e.Claims h.layerUrl) :
    e.claimed (h :: hs) = h.given :: (e.dispatch h.given).1.claimed hs ∧
      e.unclaimed (h :: hs) = (e.dispatch h.given).1.unclaimed hs := by
  have hanswering := isAnswering_iff.mpr hclaims
  have hkept := (Kept.dispatch e h.given).isAnswering
  simp only [claimed, unclaimed, hkept]
  constructor
  · rw [List.filter_cons, if_pos hanswering, List.map_cons]
  · rw [List.filter_cons, hanswering]
    rfl

/-- Any other request is the first of those that are not claimed. -/
theorem unclaimed_cons (hfree : ¬ e.Claims h.layerUrl) :
    e.claimed (h :: hs) = e.claimed hs ∧ e.unclaimed (h :: hs) = h :: e.unclaimed hs := by
  have hnot : ¬ e.isAnswering h.layerUrl = true :=
    fun hanswering => hfree (isAnswering_iff.mp hanswering)
  constructor
  · rw [claimed, List.filter_cons, if_neg hnot, claimed]
  · rw [unclaimed, List.filter_cons, Bool.eq_false_of_not_eq_true hnot]
    rfl

/-- **What the emulator sees of a run.** Requests sent through the layer leave the emulator
that the dispatches of those leave that it claims. -/
theorem exchanged_eq (e : Emulator σ) (network : Network) (hs : List HttpRequest) :
    e.exchanged network hs = e.served (e.claimed hs) := by
  induction hs generalizing e with
  | nil => rfl
  | cons h hs ih =>
    by_cases hclaims : e.Claims h.layerUrl
    · calc e.exchanged network (h :: hs)
          = (e.exchange network h).1.exchanged network hs := rfl
        _ = (e.dispatch h.given).1.served ((e.dispatch h.given).1.claimed hs) := by
          rw [exchange_of_claims network hclaims, ih]
        _ = e.served (e.claimed (h :: hs)) := by
          rw [(claimed_cons hclaims).1]
          rfl
    · calc e.exchanged network (h :: hs)
          = (e.exchange network h).1.exchanged network hs := rfl
        _ = e.served (e.claimed hs) := by rw [exchange_of_not_claims network hclaims, ih]
        _ = e.served (e.claimed (h :: hs)) := by rw [(unclaimed_cons hclaims).1]

/-- **What the network sees of a run.** It answers the requests that are not claimed, in
their order, and its answers are handed back as they are. -/
theorem passed_exchanges (e : Emulator σ) (network : Network) (hs : List HttpRequest) :
    (e.exchanges network hs).filterMap Exchange.passed? = (e.unclaimed hs).map network := by
  induction hs generalizing e with
  | nil => rfl
  | cons h hs ih =>
    by_cases hclaims : e.Claims h.layerUrl
    · rw [exchanges, exchange_of_claims network hclaims,
        List.filterMap_cons_none (Exchange.passed?_ofOutcome _), ih, (claimed_cons hclaims).2]
    · have hpassed : (Exchange.passed (network h)).passed? = some (network h) := rfl
      rw [exchanges, exchange_of_not_claims network hclaims,
        List.filterMap_cons_some hpassed, ih, (unclaimed_cons hclaims).2, List.map_cons]

/-- What comes of the claimed requests of a run is what comes of them without the others. -/
theorem taken_exchanges (e : Emulator σ) (network : Network) (hs : List HttpRequest) :
    (e.exchanges network hs).filterMap Exchange.taken? =
      (e.outcomes (e.claimed hs)).map fun outcome => outcome.map Response.encode := by
  induction hs generalizing e with
  | nil => rfl
  | cons h hs ih =>
    by_cases hclaims : e.Claims h.layerUrl
    · rw [exchanges, exchange_of_claims network hclaims,
        List.filterMap_cons_some (Exchange.taken?_ofOutcome _), ih, (claimed_cons hclaims).1,
        outcomes, List.map_cons]
    · have hnone : (Exchange.passed (network h)).taken? = none := rfl
      rw [exchanges, exchange_of_not_claims network hclaims,
        List.filterMap_cons_none hnone, ih, (unclaimed_cons hclaims).1]

end Runs

end Emulator

end CloudEmulator
