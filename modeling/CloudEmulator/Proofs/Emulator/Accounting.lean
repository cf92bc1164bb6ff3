import CloudEmulator.Proofs.Emulator.Front

/-!
# The accounts of an emulator

A dispatch counts once when its request has got an instance: as answered, under the status of
what it returns, or as failed in a handler. An answer of a request hook is counted for its
extension, too. The counters that a run leaves are those counts.
-/

namespace CloudEmulator

open Extension (firstAnswer?)

namespace Tally

variable {α : Type} [BEq α]

/-- Count some keys, one after the other. -/
def addAll (t : Tally α) (keys : List α) : Tally α :=
  keys.foldl add t

/-- How often keys were counted in all. -/
def total (t : Tally α) : Nat :=
  (t.entries.map (·.2)).sum

/-- Counting a key adds one to the total. -/
theorem total_add (t : Tally α) (key : α) : (t.add key).total = t.total + 1 := by
  have hentries (entries : List (α × Nat)) :
      ((addEntry key entries).map (·.2)).sum = (entries.map (·.2)).sum + 1 := by
    induction entries with
    | nil => rfl
    | cons entry rest ih =>
      obtain ⟨k, n⟩ := entry
      rw [addEntry]
      split
      next =>
        simp only [List.map_cons, List.sum_cons]
        omega
      next =>
        simp only [List.map_cons, List.sum_cons, ih]
        omega
  exact hentries t.entries

/-- Counting some keys adds their number to the total. -/
theorem total_addAll (t : Tally α) (keys : List α) :
    (t.addAll keys).total = t.total + keys.length := by
  induction keys generalizing t with
  | nil => rfl
  | cons key keys ih =>
    calc (t.addAll (key :: keys)).total
        = (t.add key).total + keys.length := ih (t.add key)
      _ = t.total + (key :: keys).length := by
        rw [total_add, List.length_cons]
        omega

variable [LawfulBEq α] {key other : α}

/-- A key that is counted has one more. -/
theorem lookup_addEntry_self (key : α) (entries : List (α × Nat)) :
    (addEntry key entries).lookup key = some ((entries.lookup key).getD 0 + 1) := by
  induction entries with
  | nil => simp [addEntry]
  | cons entry rest ih =>
    obtain ⟨k, n⟩ := entry
    by_cases hk : k = key
    · simp [addEntry, hk]
    · have hother : (key == k) = false := beq_eq_false_iff_ne.mpr (Ne.symm hk)
      rw [addEntry, if_neg (by simpa using hk), List.lookup_cons, List.lookup_cons, hother]
      exact ih

/-- Every other key has as many as before. -/
theorem lookup_addEntry_of_ne (h : key ≠ other) (entries : List (α × Nat)) :
    (addEntry key entries).lookup other = entries.lookup other := by
  have hother : (other == key) = false := beq_eq_false_iff_ne.mpr (Ne.symm h)
  induction entries with
  | nil => simp [addEntry, List.lookup_cons, hother]
  | cons entry rest ih =>
    obtain ⟨k, n⟩ := entry
    by_cases hk : k = key
    · simp [addEntry, hk, List.lookup_cons, hother]
    · rw [addEntry, if_neg (by simpa using hk), List.lookup_cons, List.lookup_cons, ih]

/-- Counting a key adds one to the count of that key alone. -/
theorem count_add (t : Tally α) (key other : α) :
    (t.add key).count other = t.count other + [key].count other := by
  by_cases hsame : key = other
  · subst hsame
    rw [count, add, lookup_addEntry_self, List.count_singleton_self]
    rfl
  · have habsent : other ∉ [key] := by simpa using Ne.symm hsame
    rw [count, add, lookup_addEntry_of_ne hsame, List.count_eq_zero_of_not_mem habsent]
    rfl

/-- Every key gets what it was counted in the list. -/
theorem count_addAll (t : Tally α) (keys : List α) (other : α) :
    (t.addAll keys).count other = t.count other + keys.count other := by
  induction keys generalizing t with
  | nil => rfl
  | cons key keys ih =>
    have hcons : (key :: keys).count other = [key].count other + keys.count other := by
      rw [← List.count_append, List.singleton_append]
    calc (t.addAll (key :: keys)).count other
        = (t.add key).count other + keys.count other := ih (t.add key)
      _ = t.count other + (key :: keys).count other := by
        rw [count_add, hcons]
        omega

end Tally

namespace Counters

/-- The counters with some answered requests, answers of extensions and failures of handlers
more. -/
def addAll (c : Counters) (answered : List (String × Nat)) (short failed : List String) :
    Counters :=
  { c with
    requests := c.requests.addAll answered
    shortCircuits := c.shortCircuits.addAll short
    handlerFailures := c.handlerFailures.addAll failed }

end Counters

namespace Emulator

variable {σ : Type} {e : Emulator σ} {r : IncomingRequest} {a : Admission σ}

/-- The service and the status under which a dispatch is counted as answered. -/
def answeredAs? (e : Emulator σ) (r : IncomingRequest) : Option (String × Nat) :=
  match e.admission? r, (e.dispatch r).2.2 with
  | some a, .ok s => some (a.registration.name, s.status.toNat)
  | _, _ => none

/-- The service whose handler fails fatally in a dispatch. -/
def failedIn? (e : Emulator σ) (r : IncomingRequest) : Option String :=
  match e.admission? r, (e.dispatch r).2.2 with
  | some a, .error (.handler _ _ _) => some a.registration.name
  | _, _ => none

/-- The extension whose request hook answers in a dispatch. -/
def answeredBy? (e : Emulator σ) (r : IncomingRequest) : Option String :=
  (e.admission? r).bind fun a =>
    (firstAnswer? (a.request e r) (e.selected (a.request e r))).map (·.1)

/-- No handler counts anything. -/
theorem counters_handle (e : Emulator σ) (i : Instance σ) (h : Handler σ)
    (request : ServiceRequest) : (e.handle i h request).1.counters = e.counters := by
  cases h with
  | own run => rfl
  | management action => cases action <;> rfl

/-- How an answer without an extension is counted. -/
def counted (c : Counters) (service : String) : Except DispatchError Response → Counters
  | .ok s => c.addRequest service s.status.toNat
  | .error (.handler _ _ _) => c.addHandlerFailure service
  | .error _ => c

/-- Without an answer of an extension, what is counted is told by the outcome. -/
theorem counters_answerUnhooked (e : Emulator σ) (events : List Event) (i : Instance σ)
    (route : Option (Route (Handler σ))) (request : ServiceRequest) :
    (e.answerUnhooked events i route request).1.counters =
      counted e.counters request.service (e.answerUnhooked events i route request).2.2 := by
  cases route with
  | none => rfl
  | some matched =>
    have hhandle := counters_handle e i matched.handler request
    rcases hrun : e.handle i matched.handler request with ⟨next, handled, result⟩
    rw [hrun] at hhandle
    simp only at hhandle
    simp only [answerUnhooked, hrun, ← hhandle]
    cases result <;> rfl

/-- What an answer counts is told by the extension that gives it, if one does, and by its
outcome. -/
theorem counters_answer (e : Emulator σ) (i : Instance σ) (route : Option (Route (Handler σ)))
    (request : ServiceRequest) :
    (e.answer i route request).1.counters = counted
      (((firstAnswer? request (e.selected request)).map (·.1)).elim e.counters
        e.counters.addShortCircuit)
      request.service (e.answer i route request).2.2 := by
  obtain ⟨-, hfirst, -⟩ := e.pipeline.runRequest_eq request
  rcases hrun : e.pipeline.runRequest request with ⟨p, calls, short⟩
  rw [hrun] at hfirst
  simp only at hfirst
  rw [selected, ← hfirst]
  cases short with
  | none =>
    simp only [answer, hrun]
    exact counters_answerUnhooked { e with pipeline := p } (calls.map .hook) i route request
  | some first =>
    simp only [answer, hrun]
    rfl

/-- An admitted dispatch counts for the service that it is for. -/
theorem Admits.counters_dispatch (h : e.Admits r a) :
    (e.dispatch r).1.counters = counted
      ((e.answeredBy? r).elim e.counters e.counters.addShortCircuit) a.registration.name
      (e.dispatch r).2.2 := by
  rw [answeredBy?, admission?_eq_some_iff.mpr h, dispatch_of_admits h]
  exact counters_answer { e with registry := a.registry } a.target (a.route r) (a.request e r)

/-- A dispatch that is not admitted counts nothing. -/
theorem counters_dispatch_of_not_admits (h : ∀ a, ¬ e.Admits r a) :
    (e.dispatch r).1.counters = e.counters := by
  rcases e.stopped_or_admitted r with ⟨name, hheaders⟩ | ⟨headers, hheaders, hservice⟩ |
    ⟨headers, g, registry, fault, hheaders, hservice, hinstance⟩ | ⟨a, hadmits⟩
  · rw [dispatch_of_invalid hheaders]
  · rw [dispatch_of_unserved hheaders hservice]
  · rw [dispatch_of_fault hheaders hservice hinstance]
  · exact absurd hadmits (h a)

/-- What a dispatch counts. -/
theorem counters_dispatch (e : Emulator σ) (r : IncomingRequest) :
    (e.dispatch r).1.counters = e.counters.addAll (e.answeredAs? r).toList
      (e.answeredBy? r).toList (e.failedIn? r).toList := by
  cases hadmission : e.admission? r with
  | none =>
    have hnone : ∀ a, ¬ e.Admits r a := by
      intro a hadmits
      rw [admission?_eq_some_iff.mpr hadmits] at hadmission
      cases hadmission
    rw [counters_dispatch_of_not_admits hnone]
    simp only [answeredAs?, answeredBy?, failedIn?, hadmission]
    rfl
  | some a =>
    have hadmits := admission?_eq_some_iff.mp hadmission
    rw [hadmits.counters_dispatch]
    simp only [answeredAs?, failedIn?, hadmission]
    cases e.answeredBy? r with
    | none =>
      rcases (e.dispatch r).2.2 with fault | s
      · cases fault <;> rfl
      · rfl
    | some id =>
      rcases (e.dispatch r).2.2 with fault | s
      · cases fault <;> rfl
      · rfl

/-- An admitted dispatch has a response, or its handler fails fatally or is torn down. -/
theorem Admits.outcome (h : e.Admits r a) : (∃ s, (e.dispatch r).2.2 = .ok s) ∨
    (∃ operation message,
      (e.dispatch r).2.2 = .error (.handler a.registration.name operation message)) ∨
    ((e.dispatch r).2.2 = .error .panicked ∧ e.Handles r a .panic) := by
  have hscheduled := h.scheduled
  generalize e.dispatch r = dispatched at hscheduled ⊢
  cases hscheduled with
  | answered first hooked untouched => exact .inl ⟨_, rfl⟩
  | unrouted silent missing after hooked untouched => exact .inl ⟨_, rfl⟩
  | handled silent found run quiet given after hooked registry => exact .inl ⟨_, rfl⟩
  | failed silent found run quiet given hooked registry =>
    rcases given with ⟨message, -, rfl⟩ | ⟨rfl, rfl⟩
    · exact .inr (.inl ⟨_, _, rfl⟩)
    · exact .inr (.inr ⟨rfl, h, silent, _, found, by rw [run]⟩)

/-- What a request hook answers is the response of the dispatch. -/
theorem Admits.outcome_of_first (h : e.Admits r a) {id : String} {s : Response}
    (hfirst : firstAnswer? (a.request e r) (e.selected (a.request e r)) = some (id, s)) :
    (e.dispatch r).2.2 = .ok s := by
  have hscheduled := h.scheduled
  generalize e.dispatch r = dispatched at hscheduled ⊢
  cases hscheduled with
  | answered first hooked untouched =>
    cases hfirst.symm.trans first
    rfl
  | unrouted silent missing after hooked untouched => cases hfirst.symm.trans silent
  | handled silent found run quiet given after hooked registry =>
    cases hfirst.symm.trans silent
  | failed silent found run quiet given hooked registry => cases hfirst.symm.trans silent

/-- A dispatch is counted as answered under the service of its URL and the status of its
response, if it has an instance and a response. -/
theorem answeredAs?_eq_some_iff {service : String} {status : Nat} :
    e.answeredAs? r = some (service, status) ↔ ∃ a s, e.Admits r a ∧
      e.index.classify? r.url = some service ∧ (e.dispatch r).2.2 = .ok s ∧
      s.status.toNat = status := by
  constructor
  · intro h
    unfold answeredAs? at h
    split at h
    next a s hadmission houtcome =>
      cases h
      have hadmits := admission?_eq_some_iff.mp hadmission
      exact ⟨a, s, hadmits, hadmits.classified, houtcome, rfl⟩
    next => cases h
  · rintro ⟨a, s, hadmits, hclassified, houtcome, rfl⟩
    obtain rfl := Option.some.inj (hadmits.classified.symm.trans hclassified)
    rw [answeredAs?, admission?_eq_some_iff.mpr hadmits, houtcome]

/-- A dispatch is counted as failed for the service of its URL, if it has an instance and its
handler fails fatally. -/
theorem failedIn?_eq_some_iff {service : String} :
    e.failedIn? r = some service ↔ ∃ a operation message, e.Admits r a ∧
      e.index.classify? r.url = some service ∧
      (e.dispatch r).2.2 = .error (.handler service operation message) := by
  constructor
  · intro h
    unfold failedIn? at h
    split at h
    next a service' operation message hadmission houtcome =>
      cases h
      have hadmits := admission?_eq_some_iff.mp hadmission
      rcases hadmits.outcome with ⟨s, hs⟩ | ⟨operation', message', hfailed⟩ | ⟨hpanicked, -⟩
      · cases houtcome.symm.trans hs
      · exact ⟨a, operation', message', hadmits, hadmits.classified, hfailed⟩
      · cases houtcome.symm.trans hpanicked
    next => cases h
  · rintro ⟨a, operation, message, hadmits, hclassified, houtcome⟩
    obtain rfl := Option.some.inj (hadmits.classified.symm.trans hclassified)
    rw [failedIn?, admission?_eq_some_iff.mpr hadmits, houtcome]

/-- A dispatch is counted for the extension whose request hook is the first to answer, which
gives the response. -/
theorem answeredBy?_eq_some_iff {id : String} :
    e.answeredBy? r = some id ↔ ∃ a s, e.Admits r a ∧
      firstAnswer? (a.request e r) (e.selected (a.request e r)) = some (id, s) ∧
      (e.dispatch r).2.2 = .ok s := by
  constructor
  · intro h
    obtain ⟨a, hadmission, hfirst⟩ := Option.bind_eq_some_iff.mp h
    obtain ⟨⟨_, s⟩, hanswer, rfl⟩ := Option.map_eq_some_iff.mp hfirst
    have hadmits := admission?_eq_some_iff.mp hadmission
    exact ⟨a, s, hadmits, hanswer, hadmits.outcome_of_first hanswer⟩
  · rintro ⟨a, s, hadmits, hfirst, -⟩
    rw [answeredBy?, admission?_eq_some_iff.mpr hadmits, Option.bind_some, hfirst, Option.map_some]

/-- What one dispatch counts, and what the counts mean. -/
structure CountLaws (e : Emulator σ) (r : IncomingRequest) : Prop where
  /-- A dispatch moves the counters by what is counted of it, and by nothing else. -/
  counters : (e.dispatch r).1.counters = e.counters.addAll (e.answeredAs? r).toList
    (e.answeredBy? r).toList (e.failedIn? r).toList
  /-- It is counted as answered under the service of its URL and the status of its response, if
  it has an instance and a response. -/
  answered_iff : ∀ service status, e.answeredAs? r = some (service, status) ↔ ∃ a s,
    e.Admits r a ∧ e.index.classify? r.url = some service ∧ (e.dispatch r).2.2 = .ok s ∧
      s.status.toNat = status
  /-- It is counted as failed for the service of its URL, if it has an instance and its handler
  fails fatally. -/
  failed_iff : ∀ service, e.failedIn? r = some service ↔ ∃ a operation message,
    e.Admits r a ∧ e.index.classify? r.url = some service ∧
      (e.dispatch r).2.2 = .error (.handler service operation message)
  /-- It is counted for the extension whose request hook gives the response. -/
  answeredBy_iff : ∀ id, e.answeredBy? r = some id ↔ ∃ a s, e.Admits r a ∧
    firstAnswer? (a.request e r) (e.selected (a.request e r)) = some (id, s) ∧
      (e.dispatch r).2.2 = .ok s
  /-- With an instance, and unless the handler is torn down, it is counted as answered or as
  failed, and not as both. -/
  once : ∀ a, e.Admits r a → ¬ e.Handles r a .panic →
    (e.answeredAs? r).toList.length + (e.failedIn? r).toList.length = 1
  /-- Without an instance it counts nothing. -/
  uncounted : (∀ a, ¬ e.Admits r a) → (e.dispatch r).1.counters = e.counters

/-- With an instance, and unless its handler is torn down, a dispatch is counted once. -/
theorem Admits.counted_once (h : e.Admits r a) (hcalm : ¬ e.Handles r a .panic) :
    (e.answeredAs? r).toList.length + (e.failedIn? r).toList.length = 1 := by
  have hadmission := admission?_eq_some_iff.mpr h
  rcases h.outcome with ⟨s, hs⟩ | ⟨operation, message, hfailed⟩ | ⟨-, hpanics⟩
  · simp only [answeredAs?, failedIn?, hadmission, hs]
    rfl
  · simp only [answeredAs?, failedIn?, hadmission, hfailed]
    rfl
  · exact absurd hpanics hcalm

/-- Every dispatch keeps its accounts. -/
theorem countLaws (e : Emulator σ) (r : IncomingRequest) : CountLaws e r where
  counters := counters_dispatch e r
  answered_iff _ _ := answeredAs?_eq_some_iff
  failed_iff _ := failedIn?_eq_some_iff
  answeredBy_iff _ := answeredBy?_eq_some_iff
  once _ hadmits hcalm := hadmits.counted_once hcalm
  uncounted hnone := counters_dispatch_of_not_admits hnone

/-- The dispatches of a run, each with the emulator that it starts from. -/
def dispatches (e : Emulator σ) : List IncomingRequest → List (Emulator σ × IncomingRequest)
  | [] => []
  | r :: rs => (e, r) :: (e.dispatch r).1.dispatches rs

/-- There is a dispatch for each request. -/
theorem length_dispatches (e : Emulator σ) (rs : List IncomingRequest) :
    (e.dispatches rs).length = rs.length := by
  induction rs generalizing e with
  | nil => rfl
  | cons r rs ih => rw [dispatches, List.length_cons, ih, List.length_cons]

/-- The counters that a run leaves have what is counted of its dispatches. -/
theorem counters_served (e : Emulator σ) (rs : List IncomingRequest) :
    (e.served rs).counters = e.counters.addAll
      ((e.dispatches rs).filterMap fun step => step.1.answeredAs? step.2)
      ((e.dispatches rs).filterMap fun step => step.1.answeredBy? step.2)
      ((e.dispatches rs).filterMap fun step => step.1.failedIn? step.2) := by
  induction rs generalizing e with
  | nil => rfl
  | cons r rs ih =>
    have hcons {α : Type} (key? : Emulator σ × IncomingRequest → Option α) :
        ((e, r) :: (e.dispatch r).1.dispatches rs).filterMap key? =
          (key? (e, r)).toList ++ ((e.dispatch r).1.dispatches rs).filterMap key? := by
      cases hkey : key? (e, r) <;> simp [hkey]
    have hserved : e.served (r :: rs) = (e.dispatch r).1.served rs := rfl
    rw [hserved, ih, counters_dispatch, dispatches]
    simp only [hcons, Counters.addAll, Tally.addAll, List.foldl_append]

/-- Where handlers are not torn down, the dispatches with an instance are those that are counted
as answered and those that are counted as failed. -/
theorem length_counted {steps : List (Emulator σ × IncomingRequest)}
    (hcalm : ∀ step ∈ steps, ∀ a, ¬ step.1.Handles step.2 a .panic) :
    (steps.filterMap fun step => step.1.answeredAs? step.2).length +
        (steps.filterMap fun step => step.1.failedIn? step.2).length =
      steps.countP fun step => (step.1.admission? step.2).isSome := by
  rw [List.length_filterMap_eq_countP, List.length_filterMap_eq_countP]
  induction steps with
  | nil => rfl
  | cons step steps ih =>
    obtain ⟨hfirst, hrest⟩ := List.forall_mem_cons.mp hcalm
    have hone : (step.1.answeredAs? step.2).toList.length +
        (step.1.failedIn? step.2).toList.length =
        (step.1.admission? step.2).toList.length := by
      cases hadmission : step.1.admission? step.2 with
      | none =>
        simp only [answeredAs?, failedIn?, hadmission]
        rfl
      | some a => exact (admission?_eq_some_iff.mp hadmission).counted_once (hfirst a)
    simp only [Option.length_toList] at hone
    rw [List.countP_cons, List.countP_cons, List.countP_cons, ← ih hrest]
    omega

/-- The accounts of a run of dispatches. -/
structure AccountingLaws (e : Emulator σ) (rs : List IncomingRequest) : Prop where
  /-- Each dispatch keeps its accounts. -/
  each : ∀ step ∈ e.dispatches rs, CountLaws step.1 step.2
  /-- The requests counted for a service and a status are as many as there were dispatches
  answered so. -/
  answered : ∀ service status, (e.served rs).counters.requests.count (service, status) =
    e.counters.requests.count (service, status) +
      (e.dispatches rs).countP fun step => step.1.answeredAs? step.2 == some (service, status)
  /-- The failures counted for a service are as many as there were dispatches failed so. -/
  failed : ∀ service, (e.served rs).counters.handlerFailures.count service =
    e.counters.handlerFailures.count service +
      (e.dispatches rs).countP fun step => step.1.failedIn? step.2 == some service
  /-- The answers counted for an extension are as many as there were dispatches answered by
  it. -/
  answeredBy : ∀ id, (e.served rs).counters.shortCircuits.count id =
    e.counters.shortCircuits.count id +
      (e.dispatches rs).countP fun step => step.1.answeredBy? step.2 == some id
  /-- Counted from zero, no count passes the number of dispatches. A double, which has all whole
  numbers up to `2 ^ 53`, counts as many dispatches in the same way. -/
  bounded : e.counters = {} → ∀ service status id,
    (e.served rs).counters.requests.count (service, status) ≤ rs.length ∧
      (e.served rs).counters.handlerFailures.count service ≤ rs.length ∧
      (e.served rs).counters.shortCircuits.count id ≤ rs.length
  /-- No dispatch is a tunnel. -/
  tunnels : (e.served rs).counters.tunnels = e.counters.tunnels
  /-- Unless a handler is torn down, as many are counted as answered or as failed in all as
  there were dispatches with an instance. -/
  total : (∀ step ∈ e.dispatches rs, ∀ a, ¬ step.1.Handles step.2 a .panic) →
    (e.served rs).counters.requests.total + (e.served rs).counters.handlerFailures.total =
      e.counters.requests.total + e.counters.handlerFailures.total +
        (e.dispatches rs).countP fun step => (step.1.admission? step.2).isSome

/-- The requests counted are those of the dispatches answered so. -/
theorem count_requests_served (e : Emulator σ) (rs : List IncomingRequest) (service : String)
    (status : Nat) : (e.served rs).counters.requests.count (service, status) =
      e.counters.requests.count (service, status) +
        (e.dispatches rs).countP fun step =>
          step.1.answeredAs? step.2 == some (service, status) := by
  rw [counters_served, Counters.addAll, Tally.count_addAll, List.count_filterMap]

/-- The failures counted are those of the dispatches failed so. -/
theorem count_handlerFailures_served (e : Emulator σ) (rs : List IncomingRequest)
    (service : String) : (e.served rs).counters.handlerFailures.count service =
      e.counters.handlerFailures.count service +
        (e.dispatches rs).countP fun step => step.1.failedIn? step.2 == some service := by
  rw [counters_served, Counters.addAll, Tally.count_addAll, List.count_filterMap]

/-- The answers counted are those of the dispatches answered by the extension. -/
theorem count_shortCircuits_served (e : Emulator σ) (rs : List IncomingRequest) (id : String) :
    (e.served rs).counters.shortCircuits.count id = e.counters.shortCircuits.count id +
      (e.dispatches rs).countP fun step => step.1.answeredBy? step.2 == some id := by
  rw [counters_served, Counters.addAll, Tally.count_addAll, List.count_filterMap]

/-- **The accounts.** Every dispatch whose request gets an instance is counted once, as answered
or as failed, and the counters of a run are what its dispatches were counted as. -/
theorem accountingLaws (e : Emulator σ) (rs : List IncomingRequest) : AccountingLaws e rs where
  each step _ := countLaws step.1 step.2
  answered := e.count_requests_served rs
  failed := e.count_handlerFailures_served rs
  answeredBy := e.count_shortCircuits_served rs
  bounded hzero service status id := by
    have hle (p : Emulator σ × IncomingRequest → Bool) :
        0 + (e.dispatches rs).countP p ≤ rs.length := by
      rw [Nat.zero_add, ← e.length_dispatches rs]
      exact List.countP_le_length
    rw [count_requests_served, count_handlerFailures_served, count_shortCircuits_served, hzero]
    exact ⟨hle _, hle _, hle _⟩
  tunnels := by rw [counters_served, Counters.addAll]
  total hcalm := by
    have hcounted := length_counted hcalm
    rw [counters_served, Counters.addAll, Tally.total_addAll, Tally.total_addAll]
    omega

end Emulator

end CloudEmulator
