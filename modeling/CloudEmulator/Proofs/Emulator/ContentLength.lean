import CloudEmulator.Proofs.Emulator.Schedule
import CloudEmulator.Proofs.Http.HeaderInsertion

/-!
# The stated length of a response

A response that passed a handler states its length once and truly, whatever lengths
the handler or the response hooks had stated in it.
-/

namespace CloudEmulator

/-- A response whose length was stated has one entry for it, under any spelling. -/
theorem Response.withContentLength_entries (s : Response) {spelling : String}
    (h : Text.sameName spelling "Content-Length" = true) :
    s.withContentLength.headers.entries.filter (Headers.named spelling) =
      [("Content-Length", toString s.withContentLength.body.length)] :=
  Headers.filter_named_insert h s.headers (toString s.body.length)

namespace Emulator

variable {σ : Type}

/-- A response that comes through a handler had its length stated last of all. -/
theorem Handles.exists_withContentLength {e : Emulator σ} {r : IncomingRequest}
    {a : Admission σ} {result : HandlerResult} {s : Response} (h : e.Handles r a result)
    (hok : (e.dispatch r).2.2 = .ok s) : ∃ s' : Response, s = s'.withContentLength := by
  obtain ⟨hadmits, hsilent, matched, hroute, -⟩ := h
  have hscheduled := hadmits.scheduled
  generalize e.dispatch r = dispatched at hscheduled hok
  cases hscheduled with
  | answered first => cases first.symm.trans hsilent
  | unrouted silent missing => cases missing.symm.trans hroute
  | handled => exact ⟨_, (Except.ok.inj hok).symm⟩
  | failed => cases hok

/-- **One true content length.** A dispatch that comes to a handler and gives a response
gives one with exactly one header named `content-length` in any spelling, whose value
is the length of the body, whatever the handler and the response hooks stated. -/
theorem contentLength_of_handled {e : Emulator σ} {r : IncomingRequest} {a : Admission σ}
    {result : HandlerResult} {s : Response} (h : e.Handles r a result)
    (hok : (e.dispatch r).2.2 = .ok s) :
    ∃ name, s.headers.entries.filter (Headers.named "content-length") =
      [(name, toString s.body.length)] := by
  obtain ⟨s', rfl⟩ := h.exists_withContentLength hok
  exact ⟨"Content-Length", s'.withContentLength_entries (by decide)⟩

/-- A response that states its length twice, and wrongly. -/
def misstated (body : Bytes) : Response where
  status := 200
  headers := ⟨[("CONTENT-length", "7"), ("X", "y"), ("content-Length", "9")]⟩
  body := body

/-- Handler and response hook both misstate the length. -/
def misstating : Emulator Stub.State :=
  Ping.emulator (.reply (misstated [1, 2]))
    [Ping.observer "rewriter" (fun _ => none) fun _ => some (misstated [1, 2, 3])]

/-- The misstating handler is reached and answers. -/
theorem misstating_handles :
    ∃ a, misstating.Handles Ping.request a (.answer (misstated [1, 2])) := by
  have hfound : (misstating.admission? Ping.request).isSome = true := by cbv
  have hroute :
      (((misstating.admission? Ping.request).get hfound).route Ping.request).isSome = true := by
    cbv
  refine ⟨(misstating.admission? Ping.request).get hfound, ?_, ?_, ?_⟩
  · exact admission?_eq_some_iff.mp (Option.some_get hfound).symm
  · cbv
  · refine ⟨_, (Option.some_get hroute).symm, ?_⟩
    cbv

/-- One true length, where a handler and a response hook misstated it. -/
theorem contentLength_of_misstated :
    ∃ a result s, misstating.Handles Ping.request a result ∧
      (misstating.dispatch Ping.request).2.2 = .ok s ∧
      ∃ name, s.headers.entries.filter (Headers.named "content-length") =
        [(name, toString s.body.length)] := by
  obtain ⟨a, hhandles⟩ := misstating_handles
  have hok : (misstating.dispatch Ping.request).2.2 =
      .ok { status := 200, headers := ⟨[("Content-Length", "3"), ("X", "y")]⟩,
            body := [1, 2, 3] } := by cbv
  exact ⟨a, _, _, hhandles, hok, contentLength_of_handled hhandles hok⟩

end Emulator

end CloudEmulator
