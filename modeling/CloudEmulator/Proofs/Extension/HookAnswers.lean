import CloudEmulator.Proofs.Extension.HookOrder
import CloudEmulator.Proofs.Fallible
import CloudEmulator.Proofs.Http.HeaderInsertion
import CloudEmulator.Proofs.Script.JsonValues

/-!
# What hooks may answer

A value that a hook gives is a response exactly where it is a map whose status, headers and body
are of the right kinds, each as far as it is there. Whatever else a hook comes to, the pipeline
goes on as if the extension had no such hook.
-/

namespace CloudEmulator

open Script (Value Stop)

namespace Response

variable {entries : List (String × Value)} {v : Value} {status : UInt16} {headers : Headers}
  {r : Response}

/-- The entries of a map make a response. -/
structure Acceptable (entries : List (String × Value)) : Prop where
  status : Value.find? "status" entries = none ∨
    ∃ n, Value.find? "status" entries = some (.int n) ∧ 100 ≤ n ∧ n ≤ 999
  headers : Value.find? "headers" entries = none ∨
    ∃ named, Value.find? "headers" entries = some (.map named)
  body : ∀ body, Value.find? "body" entries = some body →
    (∃ items, body = .array items) ∨ (∃ members, body = .map members) → body.Plain

/-- The value is a map that makes a response. -/
def Accepted (v : Value) : Prop :=
  ∃ entries, v = .map entries ∧ Acceptable entries

/-- A status is taken exactly where it is left out or in its bounds. -/
theorem exists_statusOf_iff : (∃ status, statusOf entries = .ok status) ↔
    Value.find? "status" entries = none ∨
      ∃ n, Value.find? "status" entries = some (.int n) ∧ 100 ≤ n ∧ n ≤ 999 := by
  unfold statusOf
  cases hfound : Value.find? "status" entries with
  | none => simp
  | some v =>
    cases v with
    | int n =>
      by_cases hn : 100 ≤ n ∧ n ≤ 999
      · simp [hn]
      · simp only [if_neg hn]
        simpa using hn
    | _ => simp

/-- The status that is taken is the one that is there, or 200. It is in its bounds. -/
theorem statusOf_eq_ok (h : statusOf entries = .ok status) :
    (100 ≤ status.toNat ∧ status.toNat ≤ 999) ∧
      (Value.find? "status" entries = none → status = 200) ∧
      ∀ n, Value.find? "status" entries = some (.int n) → (status.toNat : Int) = n := by
  unfold statusOf at h
  split at h
  next hfound =>
    obtain rfl := Except.ok.inj h
    refine ⟨by decide, fun _ => rfl, fun n hn => ?_⟩
    cases hfound.symm.trans hn
  next n hfound =>
    split at h
    next hbounds =>
      obtain rfl := Except.ok.inj h
      have hstatus : (UInt16.ofNat n.toNat).toNat = n.toNat :=
        UInt16.toNat_ofNat_of_lt' (by have : UInt16.size = 65536 := rfl; omega)
      refine ⟨⟨by omega, by omega⟩, fun hnone => ?_, fun m hm => ?_⟩
      · cases hfound.symm.trans hnone
      · cases hfound.symm.trans hm
        omega
    next => cases h
  next => cases h

/-- Headers are taken exactly where they are left out or a map. -/
theorem exists_headersOf_iff : (∃ headers, headersOf entries = .ok headers) ↔
    Value.find? "headers" entries = none ∨
      ∃ named, Value.find? "headers" entries = some (.map named) := by
  unfold headersOf
  cases hfound : Value.find? "headers" entries with
  | none => simp
  | some v => cases v <;> simp

/-- Headers that are taken have each name once, whatever the map has. -/
theorem nodup_names_of_headersOf (h : headersOf entries = .ok headers) :
    headers.names.Nodup := by
  unfold headersOf at h
  split at h
  · rw [← Except.ok.inj h]
    exact List.nodup_nil
  · rw [← Except.ok.inj h]
    exact Headers.nodup_names_ofList _
  · cases h

/-- A body is taken unless it is an array or a map that JSON cannot tell. -/
theorem exists_bodyOf_iff : (∃ body, bodyOf entries = .ok body) ↔
    ∀ body, Value.find? "body" entries = some body →
      (∃ items, body = .array items) ∨ (∃ members, body = .map members) → body.Plain := by
  unfold bodyOf
  cases hfound : Value.find? "body" entries with
  | none => simp
  | some v =>
    have hplain := Value.isSome_toJson?_iff v
    cases v with
    | array items =>
      cases hjson : (Value.array items).toJson? <;> simpa [hjson] using hplain
    | map members =>
      cases hjson : (Value.map members).toJson? <;> simpa [hjson] using hplain
    | _ => simp

/-- A value is a response exactly where it is a map that has all of its parts. -/
theorem ofValue_eq_ok_iff : ofValue v = .ok r ↔ ∃ entries, v = .map entries ∧
    statusOf entries = .ok r.status ∧ headersOf entries = .ok r.headers ∧
      bodyOf entries = .ok r.body := by
  cases v with
  | map entries =>
    simp only [ofValue, Fallible.bind_eq_ok]
    constructor
    · rintro ⟨status, hstatus, headers, hheaders, body, hbody, hr⟩
      obtain rfl := Except.ok.inj hr
      exact ⟨entries, rfl, hstatus, hheaders, hbody⟩
    · rintro ⟨_, hentries, hstatus, hheaders, hbody⟩
      cases hentries
      exact ⟨_, hstatus, _, hheaders, _, hbody, rfl⟩
  | _ => simp [ofValue]

/-- Responses are made of the accepted values and no others. -/
theorem exists_ofValue_iff : (∃ r, ofValue v = .ok r) ↔ Accepted v := by
  simp only [ofValue_eq_ok_iff]
  constructor
  · rintro ⟨r, entries, rfl, hstatus, hheaders, hbody⟩
    exact ⟨entries, rfl, exists_statusOf_iff.mp ⟨_, hstatus⟩, exists_headersOf_iff.mp ⟨_, hheaders⟩,
      exists_bodyOf_iff.mp ⟨_, hbody⟩⟩
  · rintro ⟨entries, rfl, haccepted⟩
    obtain ⟨status, hstatus⟩ := exists_statusOf_iff.mpr haccepted.status
    obtain ⟨headers, hheaders⟩ := exists_headersOf_iff.mpr haccepted.headers
    obtain ⟨body, hbody⟩ := exists_bodyOf_iff.mpr haccepted.body
    exact ⟨⟨status, headers, body⟩, entries, rfl, hstatus, hheaders, hbody⟩

end Response

namespace HookOutcome

variable {ending : Except Stop Value}

/-- The script fails, or what it gives is no response. -/
def Mute (ending : Except Stop Value) : Prop :=
  ∀ v, ending = .ok v → ¬ Response.Accepted v

/-- A script answers with the response that its value describes, and not otherwise. -/
theorem response?_ofResult_eq_some_iff {r : Response} :
    (ofResult ending).response? = some r ↔ ∃ v, ending = .ok v ∧ Response.ofValue v = .ok r := by
  cases ending with
  | error stop => exact iff_of_false nofun nofun
  | ok v =>
    have hvalue : (ofResult (.ok v)).response? = some r ↔ Response.ofValue v = .ok r := by
      cases v with
      | unit => exact iff_of_false nofun nofun
      | _ =>
        simp only [ofResult, Value.isUnit, Bool.false_eq_true, if_false]
        split <;> simp_all [response?]
    rw [hvalue]
    exact ⟨fun h => ⟨v, rfl, h⟩, fun ⟨w, hw, h⟩ => Except.ok.inj hw ▸ h⟩

/-- A script that fails, or gives no response, does not answer. -/
theorem response?_ofResult_of_mute (h : Mute ending) :
    (ofResult ending).response? = Option.none := by
  refine Option.eq_none_iff_forall_ne_some.mpr fun r hr => ?_
  obtain ⟨v, hv, hvalue⟩ := response?_ofResult_eq_some_iff.mp hr
  exact h v hv (Response.exists_ofValue_iff.mp ⟨r, hvalue⟩)

end HookOutcome

namespace Extension

variable {x : Extension} {ending : Except Stop Value}

/-- How the script ends that is the request hook, if there is one. -/
def requestEnding? (x : Extension) (r : ServiceRequest) : Option (Except Stop Value) :=
  match x.hooks with
  | .script program (some function) _ =>
    some (program.call x.clock function [r.toValue] (some x.state)).result
  | _ => none

/-- How the script ends that is the response hook, if there is one. -/
def responseEnding? (x : Extension) (s : Response) : Option (Except Stop Value) :=
  match x.hooks with
  | .script program _ (some function) =>
    some (program.call x.clock function s.toArguments (some x.state)).result
  | _ => none

/-- The extension without its request hook. -/
def withoutRequestHook (x : Extension) : Extension :=
  { x with
    hooks := match x.hooks with
      | .script program _ response => .script program none response
      | .native _ response => .native none response }

/-- The extension without its response hook. -/
def withoutResponseHook (x : Extension) : Extension :=
  { x with
    hooks := match x.hooks with
      | .script program request _ => .script program request none
      | .native request _ => .native request none }

/-- A request hook answers as its script ends. -/
theorem answer?_of_ending {r : ServiceRequest} (h : x.requestEnding? r = some ending) :
    x.answer? r = (HookOutcome.ofResult ending).response? := by
  unfold requestEnding? at h
  split at h
  next program function response hhooks =>
    rw [answer?, onRequest, hhooks, ← Option.some.inj h]
    rfl
  next => cases h

/-- A response hook leaves what its script answers, or else what it saw. -/
theorem rewrite_of_ending {s : Response} (h : x.responseEnding? s = some ending) :
    x.rewrite s = (HookOutcome.ofResult ending).response?.getD s := by
  unfold responseEnding? at h
  split at h
  next program request function hhooks =>
    rw [rewrite, onResponse, hhooks, ← Option.some.inj h]
    rfl
  next => cases h

/-- Without a request hook there is no answer, and nothing changes. -/
theorem asked_withoutRequestHook (x : Extension) (r : ServiceRequest) :
    x.withoutRequestHook.answer? r = none ∧
      x.withoutRequestHook.asked r = x.withoutRequestHook := by
  unfold answer? asked onRequest withoutRequestHook
  cases x.hooks <;> exact ⟨rfl, rfl⟩

/-- Without a response hook a response stays as it is, and nothing changes. -/
theorem shown_withoutResponseHook (x : Extension) (s : Response) :
    x.withoutResponseHook.rewrite s = s ∧
      x.withoutResponseHook.shown s = x.withoutResponseHook := by
  unfold rewrite shown onResponse withoutResponseHook
  cases x.hooks <;> exact ⟨rfl, rfl⟩

end Extension

namespace Pipeline

section Passes

variable {α : Type} {x y : Registered} {call other : HookCall} {pass without : Pass α}
  {key : String} {r : ServiceRequest}

/-- Two passes over the same entries, but for one that is `x` in the first and `y` in the second:
they have the same result, call the same hooks of the other entries, and leave these alike. What
the first leaves in place of `x` differs from it in the state only. -/
structure Unheard (x y : Registered) (call other : HookCall) (pass without : Pass α) : Prop where
  result : pass.result = without.result
  calls : pass.calls = without.calls ∨ ∃ before after,
    pass.calls = before ++ call :: after ∧ without.calls = before ++ other :: after
  entries : ∃ front left back, pass.entries = front ++ left :: back ∧
    without.entries = front ++ y :: back ∧ left.stateless = x.stateless

/-- What comes before in both passes does not matter. -/
theorem Unheard.cons (h : Unheard x y call other pass without) (z : Registered)
    (calls : List HookCall) :
    Unheard x y call other ⟨z :: pass.entries, calls ++ pass.calls, pass.result⟩
      ⟨z :: without.entries, calls ++ without.calls, without.result⟩ where
  result := h.result
  calls := by
    rcases h.calls with heq | ⟨before, after, hpass, hwithout⟩
    · exact .inl (congrArg (calls ++ ·) heq)
    · refine .inr ⟨calls ++ before, after, ?_, ?_⟩
      · rw [hpass, List.append_assoc]
      · rw [hwithout, List.append_assoc]
  entries := by
    obtain ⟨front, left, back, hpass, hwithout, hleft⟩ := h.entries
    exact ⟨z :: front, left, back, by rw [hpass]; rfl, by rw [hwithout]; rfl, hleft⟩

/-- An entry that is not selected is passed over. -/
theorem passRequest_cons_of_not (hkey : x.extension.selects key = false)
    (rest : List Registered) :
    passRequest key r (x :: rest) = ⟨x :: (passRequest key r rest).entries,
      (passRequest key r rest).calls, (passRequest key r rest).result⟩ := by
  simp [passRequest, hkey]

/-- A selected entry that answers ends the pass. -/
theorem passRequest_cons_of_some {answer : Response} (hkey : x.extension.selects key = true)
    (hx : x.extension.answer? r = some answer) (rest : List Registered) :
    passRequest key r (x :: rest) = ⟨{ x with extension := x.extension.asked r } :: rest,
      [.request x.extension], some ((x.extension.asked r).id, answer)⟩ := by
  have hanswer : (x.extension.onRequest r).2.response? = some answer := hx
  simp [passRequest, hkey, hanswer, Extension.asked]

/-- Behind a selected entry that does not answer the pass goes on. -/
theorem passRequest_cons_of_none (hkey : x.extension.selects key = true)
    (hx : x.extension.answer? r = none) (rest : List Registered) :
    passRequest key r (x :: rest) =
      ⟨{ x with extension := x.extension.asked r } :: (passRequest key r rest).entries,
        .request x.extension :: (passRequest key r rest).calls,
        (passRequest key r rest).result⟩ := by
  have hnone : (x.extension.onRequest r).2.response? = none := hx
  simp [passRequest, hkey, hnone, Extension.asked]

/-- An entry that is not selected is passed over. -/
theorem passResponse_cons_of_not {s : Response} (hkey : x.extension.selects key = false)
    (rest : List Registered) :
    passResponse key s (x :: rest) = ⟨x :: (passResponse key s rest).entries,
      (passResponse key s rest).calls, (passResponse key s rest).result⟩ := by
  simp [passResponse, hkey]

/-- Behind a selected entry the pass goes on with the response that it leaves. -/
theorem passResponse_cons {s : Response} (hkey : x.extension.selects key = true)
    (rest : List Registered) :
    passResponse key s (x :: rest) =
      ⟨{ x with extension := x.extension.shown s } ::
          (passResponse key (x.extension.rewrite s) rest).entries,
        .response x.extension s :: (passResponse key (x.extension.rewrite s) rest).calls,
        (passResponse key (x.extension.rewrite s) rest).result⟩ := by
  simp [passResponse, hkey, Extension.shown, Extension.rewrite]

/-- The pass of request hooks goes on behind an entry that does not answer as if nothing had been
called there. -/
theorem passRequest_unheard (hx : x.extension.answer? r = none)
    (hy : y.extension.answer? r = none ∧ y.extension.asked r = y.extension)
    (hselects : y.extension.selects key = x.extension.selects key)
    (front back : List Registered) :
    Unheard x y (.request x.extension) (.request y.extension)
      (passRequest key r (front ++ x :: back)) (passRequest key r (front ++ y :: back)) := by
  induction front with
  | nil =>
    rw [List.nil_append, List.nil_append]
    cases hkey : x.extension.selects key with
    | false =>
      rw [passRequest_cons_of_not hkey, passRequest_cons_of_not (hselects.trans hkey)]
      exact ⟨rfl, .inl rfl, [], x, _, rfl, rfl, rfl⟩
    | true =>
      rw [passRequest_cons_of_none hkey hx, passRequest_cons_of_none (hselects.trans hkey) hy.1,
        hy.2]
      refine ⟨rfl, .inr ⟨[], _, rfl, rfl⟩, [], _, _, rfl, rfl, ?_⟩
      exact congrArg (Registered.mk x.priority x.seq) (Extension.asked_stateless x.extension r)
  | cons z front ih =>
    rw [List.cons_append, List.cons_append]
    cases hkey : z.extension.selects key with
    | false =>
      rw [passRequest_cons_of_not hkey, passRequest_cons_of_not hkey]
      exact ih.cons z []
    | true =>
      cases hz : z.extension.answer? r with
      | some answer =>
        rw [passRequest_cons_of_some hkey hz, passRequest_cons_of_some hkey hz]
        exact ⟨rfl, .inl rfl, _ :: front, x, back, rfl, rfl, rfl⟩
      | none =>
        rw [passRequest_cons_of_none hkey hz, passRequest_cons_of_none hkey hz]
        exact ih.cons _ [.request z.extension]

/-- The pass of response hooks goes on behind an entry that leaves the response as it sees it as
if nothing had been called there. -/
theorem passResponse_unheard {s seen : Response} {front : List Registered}
    (hseen : (passResponse key s front).result = seen) (hx : x.extension.rewrite seen = seen)
    (hy : y.extension.rewrite seen = seen ∧ y.extension.shown seen = y.extension)
    (hselects : y.extension.selects key = x.extension.selects key) (back : List Registered) :
    Unheard x y (.response x.extension seen) (.response y.extension seen)
      (passResponse key s (front ++ x :: back)) (passResponse key s (front ++ y :: back)) := by
  induction front generalizing s with
  | nil =>
    obtain rfl : s = seen := hseen
    rw [List.nil_append, List.nil_append]
    cases hkey : x.extension.selects key with
    | false =>
      rw [passResponse_cons_of_not hkey, passResponse_cons_of_not (hselects.trans hkey)]
      exact ⟨rfl, .inl rfl, [], x, _, rfl, rfl, rfl⟩
    | true =>
      rw [passResponse_cons hkey, passResponse_cons (hselects.trans hkey), hx, hy.1, hy.2]
      refine ⟨rfl, .inr ⟨[], _, rfl, rfl⟩, [], _, _, rfl, rfl, ?_⟩
      exact congrArg (Registered.mk x.priority x.seq) (Extension.shown_stateless x.extension s)
  | cons z front ih =>
    rw [List.cons_append, List.cons_append]
    cases hkey : z.extension.selects key with
    | false =>
      rw [passResponse_cons_of_not hkey] at hseen
      rw [passResponse_cons_of_not hkey, passResponse_cons_of_not hkey]
      exact (ih hseen).cons z []
    | true =>
      rw [passResponse_cons hkey] at hseen
      rw [passResponse_cons hkey, passResponse_cons hkey]
      exact (ih hseen).cons _ [.response z.extension s]

end Passes

end Pipeline

namespace Registered

/-- The entry without the request hook of its extension. -/
def withoutRequestHook (x : Registered) : Registered :=
  { x with extension := x.extension.withoutRequestHook }

/-- The entry without the response hook of its extension. -/
def withoutResponseHook (x : Registered) : Registered :=
  { x with extension := x.extension.withoutResponseHook }

end Registered

namespace Pipeline

variable {ending : Except Stop Value} {x : Registered}

/-- What running the request hooks of a pipeline leaves. -/
def requestPass (p : Pipeline) (r : ServiceRequest) : Pass (Option (String × Response)) where
  entries := (p.runRequest r).1.entries
  calls := (p.runRequest r).2.1
  result := (p.runRequest r).2.2

/-- What running the response hooks of a pipeline leaves. -/
def responsePass (p : Pipeline) (r : ServiceRequest) (s : Response) : Pass Response where
  entries := (p.runResponse r s).1.entries
  calls := (p.runResponse r s).2.1
  result := (p.runResponse r s).2.2

/-- Where a script ends like this in a hook, the pipeline goes on as if the extension had no
such hook. -/
structure Silent (ending : Except Stop Value) : Prop where
  request : ∀ (r : ServiceRequest) (x : Registered) (front back : List Registered) (n : Nat),
    x.extension.requestEnding? r = some ending →
      Unheard x x.withoutRequestHook
        (.request x.extension) (.request x.withoutRequestHook.extension)
        (requestPass ⟨front ++ x :: back, n⟩ r)
        (requestPass ⟨front ++ x.withoutRequestHook :: back, n⟩ r)
  response : ∀ (r : ServiceRequest) (s seen : Response) (x : Registered)
    (front back : List Registered) (n : Nat), (responsePass ⟨front, n⟩ r s).result = seen →
    x.extension.responseEnding? seen = some ending →
      Unheard x x.withoutResponseHook
        (.response x.extension seen) (.response x.withoutResponseHook.extension seen)
        (responsePass ⟨front ++ x :: back, n⟩ r s)
        (responsePass ⟨front ++ x.withoutResponseHook :: back, n⟩ r s)

/-- A request hook without an answer is as good as none. -/
theorem requestPass_unheard {r : ServiceRequest} (hx : x.extension.answer? r = none)
    (front back : List Registered) (n : Nat) :
    Unheard x x.withoutRequestHook
      (.request x.extension) (.request x.withoutRequestHook.extension)
      (requestPass ⟨front ++ x :: back, n⟩ r)
      (requestPass ⟨front ++ x.withoutRequestHook :: back, n⟩ r) := by
  unfold requestPass runRequest
  cases hkey : r.selectorKey? with
  | none => exact ⟨rfl, .inl rfl, front, x, back, rfl, rfl, rfl⟩
  | some key =>
    have hy := Extension.asked_withoutRequestHook x.extension r
    exact passRequest_unheard (y := x.withoutRequestHook) hx hy rfl front back

/-- A response hook that leaves the response as it sees it is as good as none. -/
theorem responsePass_unheard {r : ServiceRequest} {s seen : Response} {front : List Registered}
    {n : Nat} (hseen : (responsePass ⟨front, n⟩ r s).result = seen)
    (hx : x.extension.rewrite seen = seen) (back : List Registered) :
    Unheard x x.withoutResponseHook
      (.response x.extension seen) (.response x.withoutResponseHook.extension seen)
      (responsePass ⟨front ++ x :: back, n⟩ r s)
      (responsePass ⟨front ++ x.withoutResponseHook :: back, n⟩ r s) := by
  unfold responsePass runResponse at hseen ⊢
  cases hkey : r.selectorKey? with
  | none => exact ⟨rfl, .inl rfl, front, x, back, rfl, rfl, rfl⟩
  | some key =>
    rw [hkey] at hseen
    have hy := Extension.shown_withoutResponseHook x.extension seen
    exact passResponse_unheard (y := x.withoutResponseHook) hseen hx hy rfl back

/-- A script that fails, or gives no response, is silent. -/
theorem silent_of_mute (hmute : HookOutcome.Mute ending) : Silent ending where
  request := by
    intro r x front back n hending
    refine requestPass_unheard ?_ front back n
    rw [Extension.answer?_of_ending hending, HookOutcome.response?_ofResult_of_mute hmute]
  response := by
    intro r s seen x front back n hseen hending
    refine responsePass_unheard hseen ?_ back
    rw [Extension.rewrite_of_ending hending, HookOutcome.response?_ofResult_of_mute hmute,
      Option.getD_none]

end Pipeline

/-- What a value means as the answer of a hook. -/
structure AnswerLaws (v : Value) : Prop where
  /-- The value is a response exactly where it is a map with the right entries. -/
  accepted_iff : (∃ r, Response.ofValue v = .ok r) ↔ Response.Accepted v
  /-- The status is the integer that is there, and not another one that has its last bits. -/
  status : ∀ r, Response.ofValue v = .ok r → ∃ entries, v = .map entries ∧
    (Value.find? "status" entries = none ∧ r.status = 200 ∨
      Value.find? "status" entries = some (.int r.status.toNat))
  bounds : ∀ r, Response.ofValue v = .ok r → 100 ≤ r.status.toNat ∧ r.status.toNat ≤ 999
  names : ∀ r, Response.ofValue v = .ok r → r.headers.names.Nodup
  /-- The status goes on the wire as it is. -/
  sent : ∀ r, Response.ofValue v = .ok r → r.encode.status = r.status.toNat
  /-- A hook that gives the value answers with the response. -/
  heard : ∀ r, Response.ofValue v = .ok r → (HookOutcome.ofResult (.ok v)).response? = some r
  /-- Any other value is as good as no hook. -/
  silent : ¬ Response.Accepted v → Pipeline.Silent (.ok v)
  /-- So are the unit value and a failure of the script. -/
  unit : Pipeline.Silent (.ok .unit)
  failed : ∀ stop, Pipeline.Silent (.error stop)

/-- **Answers of hooks.** A value answers exactly where it is a map with a status from 100 to 999,
a map of headers and a body that can be told, each as far as it is there. Then its status goes on
the wire as it is, and no header is there twice. All else that a hook may come to leaves what the
pipeline does as if there was no hook, but for the state of the script. -/
theorem answerLaws (v : Value) : AnswerLaws v where
  accepted_iff := Response.exists_ofValue_iff
  status := by
    intro r hr
    obtain ⟨entries, rfl, hstatus, -, -⟩ := Response.ofValue_eq_ok_iff.mp hr
    obtain ⟨-, habsent, hgiven⟩ := Response.statusOf_eq_ok hstatus
    refine ⟨entries, rfl, ?_⟩
    rcases Response.exists_statusOf_iff.mp ⟨_, hstatus⟩ with hnone | ⟨n, hn, -, -⟩
    · exact .inl ⟨hnone, habsent hnone⟩
    · exact .inr (by rw [hgiven n hn, hn])
  bounds := by
    intro r hr
    obtain ⟨entries, -, hstatus, -, -⟩ := Response.ofValue_eq_ok_iff.mp hr
    exact (Response.statusOf_eq_ok hstatus).1
  names := by
    intro r hr
    obtain ⟨entries, -, -, hheaders, -⟩ := Response.ofValue_eq_ok_iff.mp hr
    exact Response.nodup_names_of_headersOf hheaders
  sent := by
    intro r hr
    obtain ⟨entries, -, hstatus, -, -⟩ := Response.ofValue_eq_ok_iff.mp hr
    exact if_pos (Response.statusOf_eq_ok hstatus).1
  heard := fun _ hr => HookOutcome.response?_ofResult_eq_some_iff.mpr ⟨v, rfl, hr⟩
  silent := by
    intro hrejected
    refine Pipeline.silent_of_mute fun w hw => ?_
    rwa [← Except.ok.inj hw]
  unit := by
    refine Pipeline.silent_of_mute fun w hw => ?_
    rintro ⟨entries, hentries, -⟩
    cases hw
    cases hentries
  failed := by
    intro stop
    exact Pipeline.silent_of_mute fun w hw => nomatch hw

/-- An integer with the last sixteen bits of 200 is no status. -/
example : Response.ofValue (.map [("status", .int (65536 + 200))]) =
    .error (.statusRange (65536 + 200)) := by
  rfl

end CloudEmulator
