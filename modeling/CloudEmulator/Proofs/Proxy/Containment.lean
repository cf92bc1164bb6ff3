import CloudEmulator.Proofs.Emulator.Breakage
import CloudEmulator.Proofs.Proxy.EntryPaths

/-!
# Containment of failures

Requests to the proxy that come to a handler that breaks are answered with their failure, and
all others as though these had never been made. Two proxies are compared, of which one
answers all requests and the other those that break nothing: they resemble each other
throughout.
-/

namespace CloudEmulator

variable {σ : Type}

namespace ProxyServer

variable {s s' : ProxyServer σ} {r : HttpRequest} {fault : DispatchError}
  {requests : List (HttpRequest × Bool)}

/-- How the outcome of a dispatch is told. -/
def told : Except DispatchError Response → WireResponse
  | .ok response => response.encode
  | .error fault => badGateway fault.message

/-- The request as the emulator is asked. -/
def asked (r : HttpRequest) : IncomingRequest :=
  r.incoming (r.absoluteUrl "http" r.uri.authority)

/-- The endpoint of the management service that a request to the proxy comes to. -/
def endpoint? (s : ProxyServer σ) (r : HttpRequest) : Option ManagementAction :=
  if r.uri.host? = some authorityHost then none else s.emulator.endpoint? (asked r)

/-- The request comes to neither of the endpoints that list the instances and the counters. -/
def Quiet (s : ProxyServer σ) (r : HttpRequest) : Prop :=
  s.endpoint? r ≠ some .listBackends ∧ s.endpoint? r ≠ some .metrics

/-- The request comes to a handler that panics or fails fatally, and leaves the state of the
instance as it found it. -/
def Breaks (s : ProxyServer σ) (r : HttpRequest) (fault : DispatchError) : Prop :=
  r.uri.host? ≠ some authorityHost ∧ s.emulator.Breaks (asked r) fault

/-- The proxy that answers leave, one after the other. -/
def served (s : ProxyServer σ) (rs : List HttpRequest) : ProxyServer σ :=
  rs.foldl (fun s r => (s.answerPlain r).1) s

/-- The marked ones among the requests break, each when its turn comes. -/
def Marked (s : ProxyServer σ) : List (HttpRequest × Bool) → Prop
  | [] => True
  | (r, marked) :: rest =>
    (marked = true → ∃ fault, s.Breaks r fault) ∧ (s.answerPlain r).1.Marked rest

/-- The requests that are not marked. -/
def unmarked (requests : List (HttpRequest × Bool)) : List HttpRequest :=
  (requests.filter fun x => !x.2).map Prod.fst

/-- The services keep the contract of backends for fresh instances, if one of the requests
asks for a reset. -/
def ResetsKept (s : ProxyServer σ) (requests : List (HttpRequest × Bool)) : Prop :=
  (∃ x ∈ requests, s.endpoint? x.1 = some .reset) → s.emulator.KeepsFresh

/-- A proxy that answers like another: the same is seen of it, with the same services behind. -/
structure Resembles (s s' : ProxyServer σ) : Prop where
  sturdy : s.emulator.Sturdy
  sturdy' : s'.emulator.Sturdy
  front : s.emulator.front = s'.emulator.front
  services : Registry.SameServices s.emulator.registry s'.emulator.registry
  store : s.store = s'.store

/-- The host of the certificate gets it, and nothing happens. -/
theorem answerPlain_of_authority (h : r.uri.host? = some authorityHost) :
    s.answerPlain r = (s, [], s.authorityAnswer) := by
  rw [answerPlain, if_pos (beq_iff_eq.mpr h)]

/-- A request for another host is dispatched, and nothing else happens. -/
theorem next_of_host (h : r.uri.host? ≠ some authorityHost) :
    (s.answerPlain r).1 = { s with emulator := (s.emulator.dispatch (asked r)).1 } :=
  congrArg Prod.fst (answerPlain_of_host rfl h)

/-- It is answered with what is told of the dispatch. -/
theorem answer_of_host (h : r.uri.host? ≠ some authorityHost) :
    (s.answerPlain r).2.2 = told (s.emulator.dispatch (asked r)).2.2 := by
  rw [answerPlain_of_host rfl h]
  rfl

/-- A request for another host comes to the endpoint that the emulator says. -/
theorem endpoint?_of_host (h : r.uri.host? ≠ some authorityHost) :
    s.endpoint? r = s.emulator.endpoint? (asked r) :=
  if_neg h

/-- A proxy registers nothing when it answers. -/
theorem sameServices_answerPlain (s : ProxyServer σ) (r : HttpRequest) :
    Registry.SameServices s.emulator.registry (s.answerPlain r).1.emulator.registry := by
  by_cases hhost : r.uri.host? = some authorityHost
  · rw [answerPlain_of_authority hhost]
    exact .refl _
  · rw [next_of_host hhost]
    exact (Emulator.Kept.dispatch _ _).services

/-- A request comes to the same endpoint after another one. -/
theorem endpoint?_answerPlain (h : s.emulator.Sturdy)
    (hfresh : s.endpoint? r = some .reset → s.emulator.KeepsFresh) (later : HttpRequest) :
    (s.answerPlain r).1.endpoint? later = s.endpoint? later := by
  by_cases hhost : r.uri.host? = some authorityHost
  · rw [answerPlain_of_authority hhost]
  · rw [endpoint?_of_host hhost] at hfresh
    rw [next_of_host hhost]
    unfold endpoint?
    rw [h.endpoint?_dispatch hfresh]

/-- Resets are kept for the rest of the requests, after the first of them. -/
theorem ResetsKept.tail (h : s.emulator.Sturdy) {x : HttpRequest × Bool}
    (hkept : s.ResetsKept (x :: requests)) : (s.answerPlain x.1).1.ResetsKept requests := by
  rintro ⟨y, hy, hreset⟩
  rw [endpoint?_answerPlain h fun hfirst => hkept ⟨x, List.mem_cons_self, hfirst⟩] at hreset
  exact (hkept ⟨y, List.mem_cons_of_mem _ hy, hreset⟩).of_sameServices
    (s.sameServices_answerPlain x.1)

namespace Resembles

/-- Proxies that resemble each other give a request the same answer. -/
theorem answer_eq (h : s.Resembles s') (hquiet : s.Quiet r) :
    (s.answerPlain r).2.2 = (s'.answerPlain r).2.2 := by
  by_cases hhost : r.uri.host? = some authorityHost
  · rw [answerPlain_of_authority hhost, answerPlain_of_authority hhost]
    unfold authorityAnswer
    rw [h.store]
  · have hasked : s.emulator.Quiet (asked r) := by
      rwa [Quiet, endpoint?_of_host hhost] at hquiet
    have hends := h.sturdy.outcome_congr h.sturdy' h.front hasked
    rw [answer_of_host hhost, answer_of_host hhost, hends]

/-- Both answer, and resemble each other still. -/
theorem both (h : s.Resembles s')
    (hfresh : s.endpoint? r = some .reset → s.emulator.KeepsFresh) :
    (s.answerPlain r).1.Resembles (s'.answerPlain r).1 := by
  have hservices := ((s.sameServices_answerPlain r).symm.trans h.services).trans
    (s'.sameServices_answerPlain r)
  by_cases hhost : r.uri.host? = some authorityHost
  · rw [answerPlain_of_authority hhost, answerPlain_of_authority hhost]
    exact h
  · rw [endpoint?_of_host hhost] at hfresh
    have hfresh' : s'.emulator.endpoint? (asked r) = some .reset → s'.emulator.KeepsFresh := by
      intro hreset
      rw [h.sturdy'.endpoint?_eq, ← h.front, ← h.sturdy.endpoint?_eq] at hreset
      exact (hfresh hreset).of_sameServices h.services
    have hfront := h.sturdy.front_dispatch hfresh
    rw [h.front, ← h.sturdy'.front_dispatch hfresh'] at hfront
    rw [next_of_host hhost, next_of_host hhost] at hservices ⊢
    exact ⟨h.sturdy.dispatch _, h.sturdy'.dispatch _, hfront, hservices, h.store⟩

/-- One answers a request that breaks, and they resemble each other still. -/
theorem skip (h : s.Resembles s') (hbreaks : s.Breaks r fault) :
    (s.answerPlain r).1.Resembles s' := by
  have hservices := (s.sameServices_answerPlain r).symm.trans h.services
  obtain ⟨hhost, hbreaks⟩ := hbreaks
  obtain ⟨hfront, -⟩ := h.sturdy.dispatch_of_breaks hbreaks
  rw [next_of_host hhost] at hservices ⊢
  exact ⟨h.sturdy.dispatch _, h.sturdy', hfront.trans h.front, hservices, h.store⟩

/-- After all requests of one and the unmarked requests of the other, they resemble each other
still. The induction is on the requests: both answer one that is not marked, and only the one
answers one that is. -/
theorem served (h : s.Resembles s') (hmarked : s.Marked requests)
    (hkept : s.ResetsKept requests) :
    (s.served (requests.map Prod.fst)).Resembles (s'.served (unmarked requests)) := by
  induction requests generalizing s s' with
  | nil => exact h
  | cons x requests ih =>
    obtain ⟨r, marked⟩ := x
    obtain ⟨hfirst, hrest⟩ := hmarked
    have hnext := hkept.tail h.sturdy
    cases marked with
    | false =>
      refine ih (h.both fun hreset => ?_) hrest hnext
      exact hkept ⟨_, List.mem_cons_self, hreset⟩
    | true =>
      obtain ⟨fault, hbreaks⟩ := hfirst rfl
      exact ih (h.skip hbreaks) hrest hnext

end Resembles

/-- A proxy with a sturdy emulator resembles itself. -/
theorem resembles_self (h : s.emulator.Sturdy) : s.Resembles s :=
  ⟨h, h, rfl, .refl _, rfl⟩

/-- Marked requests are the ones before a turn, and the ones from there on. -/
theorem marked_append (s : ProxyServer σ) (before later : List (HttpRequest × Bool)) :
    s.Marked (before ++ later) ↔
      s.Marked before ∧ (s.served (before.map Prod.fst)).Marked later := by
  induction before generalizing s with
  | nil => exact ⟨fun h => ⟨trivial, h⟩, And.right⟩
  | cons x before ih =>
    rw [List.cons_append, Marked, Marked, ih, and_assoc]
    rfl

/-- Resets are kept for the requests before a turn. -/
theorem ResetsKept.before {before later : List (HttpRequest × Bool)}
    (hkept : s.ResetsKept (before ++ later)) : s.ResetsKept before := by
  rintro ⟨x, hx, hreset⟩
  exact hkept ⟨x, List.mem_append_left _ hx, hreset⟩

/-- A request comes to the same endpoint after other ones. -/
theorem endpoint?_served (h : s.emulator.Sturdy) (hmarked : s.Marked requests)
    (hkept : s.ResetsKept requests) (later : HttpRequest) :
    (s.served (requests.map Prod.fst)).endpoint? later = s.endpoint? later := by
  induction requests generalizing s with
  | nil => rfl
  | cons x requests ih =>
    have hreset : s.endpoint? x.1 = some .reset → s.emulator.KeepsFresh :=
      fun hfirst => hkept ⟨x, List.mem_cons_self, hfirst⟩
    have hsturdy := ((resembles_self h).both hreset).sturdy
    have hrest := ih hsturdy hmarked.2 (hkept.tail h)
    exact hrest.trans (endpoint?_answerPlain h hreset later)

/-- A request that breaks is answered in the words of its fault. -/
theorem answer_of_breaks (h : s.emulator.Sturdy) (hbreaks : s.Breaks r fault) :
    (s.answerPlain r).2.2 = badGateway fault.message := by
  obtain ⟨hhost, hbreaks⟩ := hbreaks
  obtain ⟨-, hends⟩ := h.dispatch_of_breaks hbreaks
  rw [answer_of_host hhost, hends]
  rfl

/-- What a proxy makes of requests of which the marked ones break. -/
structure ContainmentLaws (s : ProxyServer σ) (requests : List (HttpRequest × Bool)) : Prop where
  /-- A request that breaks is answered in the words of its fault, with their length. -/
  refused : ∀ before r later, requests = before ++ (r, true) :: later →
    ∃ fault, (s.served (before.map Prod.fst)).Breaks r fault ∧
      ((s.served (before.map Prod.fst)).answerPlain r).2.2 =
        { status := 502
          fields := ⟨[("content-type", [Utf8.encode "text/plain"]),
            ("content-length", [Utf8.encode (toString (Utf8.encode fault.message).length)])]⟩
          body := Utf8.encode fault.message }
  /-- Any other request, unless it lists the instances or the counters, gets the answer that it
  gets where those that break were never made. -/
  contained : ∀ before r later, requests = before ++ (r, false) :: later → s.Quiet r →
    ((s.served (before.map Prod.fst)).answerPlain r).2.2 =
      ((s.served (unmarked before)).answerPlain r).2.2

/-- **Failures are contained.** Without extensions, and with services that can be constructed,
requests whose handlers panic or fail fatally without a change of state fail alone: the answers
to all others are those of the run without them. -/
theorem containmentLaws (h : s.emulator.Sturdy) (hmarked : s.Marked requests)
    (hkept : s.ResetsKept requests) : ContainmentLaws s requests := by
  constructor
  · rintro before r later rfl
    obtain ⟨hbefore, hturn⟩ := (s.marked_append before _).mp hmarked
    obtain ⟨fault, hbreaks⟩ := hturn.1 rfl
    have hsturdy := ((resembles_self h).served hbefore hkept.before).sturdy
    refine ⟨fault, hbreaks, ?_⟩
    rw [answer_of_breaks hsturdy hbreaks, badGateway_eq]
  · rintro before r later rfl hquiet
    obtain ⟨hbefore, -⟩ := (s.marked_append before _).mp hmarked
    have hresembles := (resembles_self h).served hbefore hkept.before
    have hthen : (s.served (before.map Prod.fst)).Quiet r := by
      rwa [Quiet, endpoint?_served h hbefore hkept.before]
    exact hresembles.answer_eq hthen

/-- An emulator with one stub that fails in no construction is pristine. -/
theorem pristine_of_stub (stub : Stub.Service) (hfirst : stub.failFirst = 0)
    (hbuilt : (RouteTable.build stub.routeBases
      (stub.routes.map Stub.handlerSpec)).toOption.isSome = true)
    (hvalid : ((Emulator.new {}).registerService stub.descriptor).toOption.isSome = true) :
    (((Emulator.new {}).registerService stub.descriptor).toOption.getD
      (Emulator.new {})).Pristine := by
  obtain ⟨table, htable⟩ := Option.isSome_iff_exists.mp hbuilt
  obtain ⟨e, he⟩ := Option.isSome_iff_exists.mp hvalid
  have hrenews := Stub.Service.descriptor_renews hfirst (Fallible.toOption_eq_some.mp htable)
  rw [he, Option.getD_some]
  exact (Emulator.pristine_new {}).registerService hrenews (Fallible.toOption_eq_some.mp he)

/-- A service that keeps notes, with two handlers that break. -/
def fragile : Stub.Service where
  name := "notes"
  scope := .regional ["eu-west-1"]
  urlBases := ["http://n"]
  operations := ["Add", "List"]
  routes := [{ path := "/add", operation := some "Add", handler := .push },
    { path := "/list", operation := some "List", handler := .list },
    { path := "/fail", handler := .fatal "boom" },
    { path := "/crash", handler := .panic }]
  routeBases := ["http://n"]
  failFirst := 0

/-- A proxy for that service. -/
def fragileProxy : ProxyServer Stub.State where
  config := {}
  emulator :=
    ((Emulator.new {}).registerService fragile.descriptor).toOption.getD (Emulator.new {})

/-- A request for a path of it. -/
def noteRequest (path : String) : HttpRequest where
  method := "POST"
  uri := { path := path }
  fields := .ofList [("Host", Utf8.encode "n")]
  body := Utf8.encode "note"

/-- The first request fails and constructs the instance, and a later one panics. The note that
was added between them is listed. -/
theorem containmentLaws_fragile :
    fragileProxy.Breaks (noteRequest "/fail") (.handler "notes" none "boom") ∧
      ContainmentLaws fragileProxy [(noteRequest "/fail", true), (noteRequest "/add", false),
        (noteRequest "/crash", true), (noteRequest "/list", false)] ∧
      ((fragileProxy.served [noteRequest "/add"]).answerPlain (noteRequest "/list")).2.2.body =
        Utf8.encode "note" := by
  have hpristine : fragileProxy.emulator.Pristine := by
    dsimp only [fragileProxy]
    exact pristine_of_stub fragile rfl (by decide +kernel) (by decide +kernel)
  have hfail : fragileProxy.Breaks (noteRequest "/fail") (.handler "notes" none "boom") :=
    ⟨by decide, Emulator.breaks_of_breakage? (by decide +kernel)⟩
  have hcrash : (fragileProxy.served [noteRequest "/fail", noteRequest "/add"]).Breaks
      (noteRequest "/crash") .panicked :=
    ⟨by decide, Emulator.breaks_of_breakage? (by decide +kernel)⟩
  have hmarked : fragileProxy.Marked [(noteRequest "/fail", true), (noteRequest "/add", false),
      (noteRequest "/crash", true), (noteRequest "/list", false)] :=
    ⟨fun _ => ⟨_, hfail⟩, nofun, fun _ => ⟨_, hcrash⟩, nofun, trivial⟩
  refine ⟨hfail, containmentLaws hpristine.plain.sturdy hmarked fun _ => ?_, ?_⟩
  · exact fun g hg => (hpristine.services g hg).keepsFresh
  · decide +kernel

end ProxyServer

end CloudEmulator
