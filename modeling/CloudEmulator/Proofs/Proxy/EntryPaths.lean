import CloudEmulator.Client.Layer
import CloudEmulator.Proofs.Emulator.Failure
import CloudEmulator.Proxy.Handler

/-!
# Two ways to the emulator

A request comes to the emulator through the layer of a client, or through the proxy in
plain HTTP. Both ask for the same URL, leave the same state behind and give the same
answer; they differ in how they tell a failure.
-/

namespace CloudEmulator

namespace Uri

/-- Absolute form: a scheme, with an authority behind it. -/
def IsAbsolute (u : Uri) : Prop :=
  ∃ scheme, u.scheme = some scheme

/-- Origin form: a path, which begins with a slash, and a query. -/
def IsOrigin (u : Uri) : Prop :=
  u.scheme = none ∧ u.authority = "" ∧ ∃ rest, u.path = String.ofList ('/' :: rest)

/-- The path that is read is what stands in front of a query and a fragment. -/
theorem path_of_readPath {cs : List Char} {path : String} {query : Option String}
    (h : readPath cs = some (path, query)) :
    path = String.ofList (cs.takeWhile fun c => !(c == '?' || c == '#')) := by
  unfold readPath Text.cutAt at h
  dsimp only at h
  split at h
  · cases h
  · split at h
    · split at h
      · exact (congrArg Prod.fst (Option.some.inj h)).symm
      · cases h
    · exact (congrArg Prod.fst (Option.some.inj h)).symm

/-- A target that begins with a slash is read as one in origin form. -/
theorem isOrigin_of_parse? {s : String} {u : Uri} {cs : List Char} (hslash : s.toList = '/' :: cs)
    (h : parse? s = some u) : u.IsOrigin := by
  rw [parse?, hslash] at h
  split at h
  · cases h
  · obtain ⟨⟨path, query⟩, hread, rfl⟩ := Option.map_eq_some_iff.mp h
    exact ⟨rfl, rfl, _, path_of_readPath hread⟩

/-- A target in origin form has a path that is not empty, and so is its own. -/
theorem target_of_isOrigin {u : Uri} (h : u.IsOrigin) : u.target = u.path ++ u.querySuffix := by
  obtain ⟨-, -, rest, hpath⟩ := h
  have hfull : u.path.isEmpty = false := by
    rw [hpath, ← Bool.not_eq_true, String.isEmpty_iff]
    intro hempty
    have hnil := congrArg String.toList hempty
    rw [String.toList_ofList] at hnil
    cases hnil
  rw [target, hfull]
  rfl

end Uri

namespace HttpRequest

/-- The URL that a request names: the target in absolute form, and otherwise the path and
the query behind the host of its header. -/
def namedUrl (r : HttpRequest) : String :=
  match r.uri.scheme with
  | some scheme => scheme ++ "://" ++ r.uri.authority ++ r.uri.target
  | none => "http://" ++ r.host?.getD "" ++ (r.uri.path ++ r.uri.querySuffix)

/-- A target in absolute form is the URL, whatever is said about the host. -/
theorem absoluteUrl_of_isAbsolute {r : HttpRequest} (h : r.uri.IsAbsolute)
    (scheme fallback : String) : r.absoluteUrl scheme fallback = r.namedUrl := by
  obtain ⟨own, hown⟩ := h
  have hsome : r.uri.scheme.isSome = true := by rw [hown]; rfl
  rw [absoluteUrl, if_pos hsome, Uri.text, namedUrl, hown]

/-- A target in origin form is put behind the host, of which nothing is left without a
header that tells it. -/
theorem absoluteUrl_of_isOrigin {r : HttpRequest} (h : r.uri.IsOrigin) :
    r.absoluteUrl "http" "" = r.namedUrl := by
  have htarget := Uri.target_of_isOrigin h
  obtain ⟨hscheme, hauthority, -⟩ := h
  have hnone : ¬ r.uri.scheme.isSome = true := by simp [hscheme]
  have hcounts : r.uri.hasTarget = true := by simp [Uri.hasTarget, hauthority]
  rw [absoluteUrl, if_neg hnone, if_pos hcounts, htarget, namedUrl, hscheme]
  rfl

/-- Without a host header the layer completes a URL with nothing and the proxy with the
authority of the target. In absolute form this is not asked for, in origin form there is
no authority. -/
theorem absoluteUrl_eq {r : HttpRequest} (h : r.uri.IsAbsolute ∨ r.uri.IsOrigin) :
    r.absoluteUrl "http" "" = r.namedUrl ∧ r.absoluteUrl "http" r.uri.authority = r.namedUrl := by
  rcases h with habsolute | horigin
  · exact ⟨absoluteUrl_of_isAbsolute habsolute _ _, absoluteUrl_of_isAbsolute habsolute _ _⟩
  · have hauthority : r.uri.authority = "" := horigin.2.1
    rw [hauthority]
    exact ⟨absoluteUrl_of_isOrigin horigin, absoluteUrl_of_isOrigin horigin⟩

end HttpRequest

namespace Emulator

variable {σ : Type} {e : Emulator σ}

/-- A request that the emulator answers is dispatched for its URL, and the outcome is
handed on as it is. -/
theorem exchange_of_isAnswering (network : Network) {r : HttpRequest} {url : String}
    (hurl : r.absoluteUrl "http" "" = url) (hanswering : e.isAnswering url = true) :
    e.exchange network r =
      ((e.dispatch (r.incoming url)).1, (e.dispatch (r.incoming url)).2.1,
        match (e.dispatch (r.incoming url)).2.2 with
        | .ok response => .intercepted response.encode
        | .error fault => .failed fault) := by
  unfold exchange dispatchFor
  rw [hurl, if_pos hanswering]
  rcases e.dispatch (r.incoming url) with ⟨next, events, _ | _⟩
  · rfl
  · rfl

end Emulator

namespace ProxyServer

variable {σ : Type} {s : ProxyServer σ}

/-- Except for the host of the certificate, a request in plain HTTP is dispatched for its
URL, and a failure is told in the answer. -/
theorem answerPlain_of_host {r : HttpRequest} {url : String}
    (hurl : r.absoluteUrl "http" r.uri.authority = url)
    (hhost : r.uri.host? ≠ some authorityHost) :
    s.answerPlain r =
      ({ s with emulator := (s.emulator.dispatch (r.incoming url)).1 },
        (s.emulator.dispatch (r.incoming url)).2.1,
        match (s.emulator.dispatch (r.incoming url)).2.2 with
        | .ok response => response.encode
        | .error fault => badGateway fault.message) := by
  have helse : ¬ (r.uri.host? == some authorityHost) = true := by simpa using hhost
  subst hurl
  exact if_neg helse

/-- The answer that tells a failure has its words as body, and states their length. -/
theorem badGateway_eq (message : String) : badGateway message =
    { status := 502
      fields := ⟨[("content-type", [Utf8.encode "text/plain"]),
        ("content-length", [Utf8.encode (toString (Utf8.encode message).length)])]⟩
      body := Utf8.encode message } := by
  rfl

/-- What the layer of a client and the proxy make of one request. -/
structure EntryLaws (s : ProxyServer σ) (network : Network) (r : HttpRequest) : Prop where
  /-- Both come to the URL that the request names. -/
  urls : r.absoluteUrl "http" "" = r.namedUrl ∧ r.absoluteUrl "http" r.uri.authority = r.namedUrl
  /-- The layer leaves what a dispatch of the request for that URL leaves. -/
  layer_state : (s.emulator.exchange network r).1 =
    (s.emulator.dispatch (r.incoming r.namedUrl)).1
  /-- So does the proxy, which changes nothing else of itself. -/
  proxy_state : (s.answerPlain r).1 = { s with emulator := (s.emulator.exchange network r).1 }
  /-- The same happens in the emulator. -/
  events : (s.answerPlain r).2.1 = (s.emulator.exchange network r).2.1
  /-- A response is the same on the wire: in its status, its fields and its body. -/
  answered : ∀ response, (s.emulator.dispatch (r.incoming r.namedUrl)).2.2 = .ok response →
    (s.emulator.exchange network r).2.2 = .intercepted response.encode ∧
      (s.answerPlain r).2.2 = response.encode
  /-- A failure has one of the reasons of a dispatch. The layer gives it back, and the proxy
  answers with its words. -/
  failed : ∀ fault, (s.emulator.dispatch (r.incoming r.namedUrl)).2.2 = .error fault →
    s.emulator.Fails (r.incoming r.namedUrl) fault ∧
      (s.emulator.exchange network r).2.2 = .failed fault ∧
      (s.answerPlain r).2.2 =
        { status := 502
          fields := ⟨[("content-type", [Utf8.encode "text/plain"]),
            ("content-length", [Utf8.encode (toString (Utf8.encode fault.message).length)])]⟩
          body := Utf8.encode fault.message }

/-- **Both ways lead to the same.** For a request in absolute or origin form that is not for
the host of the certificate, and that the emulator answers without a handler being torn
down, the layer of a client and the proxy do the same. -/
theorem entryLaws {r : HttpRequest} (network : Network)
    (hform : r.uri.IsAbsolute ∨ r.uri.IsOrigin) (hhost : r.uri.host? ≠ some authorityHost)
    (hintercepting : s.emulator.intercepting = true)
    (hclassified : (s.emulator.index.classify? r.namedUrl).isSome = true)
    (hcalm : ∀ a, ¬ s.emulator.Handles (r.incoming r.namedUrl) a .panic) :
    EntryLaws s network r := by
  have hurls := HttpRequest.absoluteUrl_eq hform
  have hanswering : s.emulator.isAnswering r.namedUrl = true := by
    rw [Emulator.isAnswering, hintercepting, hclassified]
    rfl
  have hlayer := Emulator.exchange_of_isAnswering network hurls.1 hanswering
  have hproxy := answerPlain_of_host (s := s) hurls.2 hhost
  constructor
  · exact hurls
  · rw [hlayer]
  · rw [hlayer, hproxy]
  · rw [hlayer, hproxy]
  · intro response hok
    rw [hlayer, hproxy, hok]
    exact ⟨rfl, rfl⟩
  · intro fault hfault
    refine ⟨Emulator.fails_of_dispatch hcalm hfault, ?_⟩
    rw [hlayer, hproxy, hfault]
    exact ⟨rfl, badGateway_eq fault.message⟩

/-- A proxy for one service whose handler fails. -/
def failing : ProxyServer Stub.State where
  config := {}
  emulator := { Ping.emulator (.fatal "boom") [] with intercepting := true }

/-- A request in origin form that names its host in a header. -/
def pingRequest : HttpRequest where
  method := "GET"
  uri := { path := "/p" }
  fields := .ofList [("Host", Utf8.encode "s")]

/-- A handler that fails, through the layer and through the proxy. -/
theorem entryLaws_failing :
    Uri.parse? "/p" = some pingRequest.uri ∧
      EntryLaws failing (fun _ => .error "unreachable") pingRequest ∧
      (failing.answerPlain pingRequest).2.2.body =
        Utf8.encode "Handler for svc1:Ping failed: boom" := by
  have hread : Uri.parse? "/p" = some pingRequest.uri := by decide +kernel
  have horigin : pingRequest.uri.IsOrigin := Uri.isOrigin_of_parse? rfl hread
  have hhost : pingRequest.uri.host? ≠ some authorityHost := by decide
  have hclassified : (failing.emulator.index.classify? pingRequest.namedUrl).isSome = true := by
    decide +kernel
  have hcalm := Emulator.not_handles_panic (e := failing.emulator)
    (r := pingRequest.incoming pingRequest.namedUrl) (by decide +kernel)
  refine ⟨hread, entryLaws _ (.inr horigin) hhost rfl hclassified hcalm, ?_⟩
  decide +kernel

end ProxyServer

end CloudEmulator
