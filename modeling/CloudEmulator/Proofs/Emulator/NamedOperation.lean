import CloudEmulator.Emulator.Dispatch
import CloudEmulator.Proofs.Http.FormEncoding
import CloudEmulator.Proofs.Http.HeaderInsertion
import CloudEmulator.Proofs.Text.Cuts
import CloudEmulator.Proofs.Text.Encoding

/-!
# The operation that a request names

A request may name its operation in its target header, as an action in its query, or as one in a
form that is its body. The first of the three that is not empty counts, but for one case: an
action that is there and empty is taken for the operation, and whatever stands behind it is not
looked at. An empty name in the target header is passed over.
-/

namespace CloudEmulator

section Parts

/-- What stands behind the last dot of a text: all of it where there is none. -/
def lastPart (text : String) : String :=
  String.ofList (Text.splitOnce '.' text.toList.reverse).1.reverse

/-- The last part of a text has no dot, and is all of it or stands behind one. -/
theorem eq_lastPart_iff {text part : String} : part = lastPart text ↔
    '.' ∉ part.toList ∧ (text = part ∨ ∃ front, text = front ++ "." ++ part) := by
  constructor
  · rintro rfl
    cases hsplit : Text.splitOnce '.' text.toList.reverse with
    | mk last rest =>
      have hpart : (lastPart text).toList = last.reverse := by
        rw [lastPart, hsplit, String.toList_ofList]
      rw [hpart, List.mem_reverse]
      cases rest with
      | none =>
        obtain ⟨hall, hdot⟩ := Text.eq_of_splitOnce_none hsplit
        refine ⟨hdot, .inl (String.toList_inj.mp ?_)⟩
        rw [hpart, ← hall, List.reverse_reverse]
      | some front =>
        obtain ⟨hall, hdot⟩ := Text.eq_of_splitOnce hsplit
        refine ⟨hdot, .inr ⟨String.ofList front.reverse, String.toList_inj.mp ?_⟩⟩
        rw [String.toList_append, String.toList_append, hpart, String.toList_ofList,
          ← List.reverse_reverse text.toList, hall]
        simp
  · rintro ⟨hdot, hwhole | ⟨front, hbehind⟩⟩
    · have hplain : '.' ∉ text.toList.reverse := by
        rw [List.mem_reverse, hwhole]
        exact hdot
      rw [lastPart, Text.splitOnce_of_notMem hplain, List.reverse_reverse, String.ofList_toList,
        hwhole]
    · have hplain : '.' ∉ part.toList.reverse := by rwa [List.mem_reverse]
      have hchars : text.toList.reverse = part.toList.reverse ++ '.' :: front.toList.reverse := by
        rw [hbehind]
        simp
      rw [lastPart, hchars, Text.splitOnce_append hplain, List.reverse_reverse,
        String.ofList_toList]

/-- The target header names the operation with its last part, if that is not empty. -/
theorem targetOperation?_eq (headers : Headers) :
    targetOperation? headers =
      ((headers.get? "x-amz-target").map lastPart).filter (· != "") := by
  rw [targetOperation?]
  cases headers.get? "x-amz-target" with
  | none => rfl
  | some target =>
    have hname : (target.toList.reverse.takeWhile (· != '.')).reverse =
        (lastPart target).toList := by
      rw [← Text.fst_splitOnce, lastPart, String.toList_ofList]
    simp only [hname]
    by_cases hempty : lastPart target = "" <;> simp [Option.filter, hempty]

/-- An action of a form: the value of the last of its pairs with that key. -/
def IsAction (form action : String) : Prop :=
  ∃ front back, Form.pairs form = front ++ ("Action", action) :: back ∧
    ∀ pair ∈ back, pair.1 ≠ "Action"

/-- The action of a form is the value of the last of its pairs that has that key. -/
theorem actionOf?_eq_some_iff {form action : String} :
    actionOf? form = some action ↔ IsAction form action := by
  rw [actionOf?, Form.lookup_decode, List.getLast?_filter, Option.map_eq_some_iff]
  constructor
  · rintro ⟨⟨key, value⟩, hfound, rfl⟩
    obtain ⟨hkey, back, front, hpairs, hback⟩ := List.find?_eq_some_iff_append.mp hfound
    obtain rfl : key = "Action" := beq_iff_eq.mp hkey
    refine ⟨front.reverse, back.reverse, ?_, fun pair hpair => ?_⟩
    · rw [← List.reverse_reverse (Form.pairs form), hpairs]
      simp
    · simpa using hback pair (List.mem_reverse.mp hpair)
  · rintro ⟨front, back, hpairs, hback⟩
    refine ⟨("Action", action), List.find?_eq_some_iff_append.mpr ⟨rfl, ?_⟩, rfl⟩
    refine ⟨back.reverse, front.reverse, ?_, fun pair hpair => ?_⟩
    · rw [hpairs]
      simp
    · simpa using hback pair (List.mem_reverse.mp hpair)

/-- The body is a form if its first content type begins with that of forms. -/
theorem hasForm_iff (headers : Headers) : hasForm headers = true ↔
    ∃ rest, headers.get? "content-type" = some ("application/x-www-form-urlencoded" ++ rest) := by
  rw [hasForm, Option.any_eq_true]
  constructor
  · rintro ⟨value, hvalue, hprefix⟩
    obtain ⟨rest, hrest⟩ := List.isPrefixOf_iff_prefix.mp hprefix
    refine ⟨String.ofList rest, ?_⟩
    have htext : value = "application/x-www-form-urlencoded" ++ String.ofList rest := by
      rw [← String.toList_inj, String.toList_append, ← hrest]
      exact congrArg _ String.toList_ofList.symm
    rw [hvalue, htext]
  · rintro ⟨rest, hvalue⟩
    refine ⟨_, hvalue, List.isPrefixOf_iff_prefix.mpr ⟨rest.toList, ?_⟩⟩
    rw [String.toList_append]

end Parts

/-- What a request may name its operation with, in the order in which it counts. -/
structure Candidates where
  target : Option String
  query : Option String
  form : Option String

namespace Candidates

/-- The candidates in a request. -/
def ofRequest (headers : Headers) (url : String) (body : Bytes) : Candidates where
  target := (headers.get? "x-amz-target").map lastPart
  query := (Url.query? url).bind actionOf?
  form := if hasForm headers then (Utf8.decode? body).bind actionOf? else none

/-- The first candidate that is not empty. -/
def usable (c : Candidates) : Option String :=
  ([c.target, c.query, c.form].filterMap id).find? (· != "")

/-- Behind a target header that names nothing, the first action that is there is empty. -/
def Hides (c : Candidates) : Prop :=
  (c.target = none ∨ c.target = some "") ∧ (c.query = some "" ∨ c.query = none ∧ c.form = some "")

/-- What is derived from the candidates: an empty target is passed over, empty actions are not. -/
def derived (c : Candidates) : Option String :=
  (c.target.filter (· != "")).or (c.query.or c.form)

/-- The operation of a request is derived from its candidates. -/
theorem deriveOperation?_eq (headers : Headers) (url : String) (body : Bytes) :
    deriveOperation? headers url body = (ofRequest headers url body).derived := by
  rw [deriveOperation?, targetOperation?_eq, derived, ofRequest]
  cases ((headers.get? "x-amz-target").map lastPart).filter (· != "") with
  | some name => rfl
  | none => cases (Url.query? url).bind actionOf? <;> rfl

/-- No usable candidate is empty. -/
theorem usable_ne_empty (c : Candidates) : c.usable ≠ some "" := by
  intro hempty
  exact absurd (List.find?_some hempty) (by decide)

/-- An empty action that is there is what is derived. -/
theorem Hides.derived {c : Candidates} (h : c.Hides) : c.derived = some "" := by
  obtain ⟨htarget, hactions⟩ := h
  have hpassed : c.target.filter (· != "") = none := by
    rcases htarget with hnone | hempty
    · rw [hnone]; rfl
    · rw [hempty]; rfl
  rw [Candidates.derived, hpassed, Option.none_or]
  rcases hactions with hquery | ⟨hquery, hform⟩
  · rw [hquery, Option.some_or]
  · rw [hquery, hform, Option.none_or]

/-- In all other cases the first candidate that is not empty is derived. -/
theorem derived_of_not_hides {c : Candidates} (h : ¬ c.Hides) : c.derived = c.usable := by
  obtain ⟨target, query, form⟩ := c
  have hactions (htarget : target = none ∨ target = some "") :
      query.or form = ([query, form].filterMap id).find? (· != "") := by
    cases query with
    | some action =>
      have haction : action ≠ "" := fun hempty => h ⟨htarget, .inl (congrArg some hempty)⟩
      simp [haction]
    | none =>
      cases form with
      | some action =>
        have haction : action ≠ "" := fun hempty =>
          h ⟨htarget, .inr ⟨rfl, congrArg some hempty⟩⟩
        simp [haction]
      | none => rfl
  cases target with
  | none => exact hactions (.inl rfl)
  | some name =>
    by_cases hname : name = ""
    · subst hname
      exact hactions (.inr rfl)
    · simp [derived, usable, Option.filter, hname]

end Candidates

/-- What is derived as the operation of a request. -/
structure OperationLaws (headers : Headers) (url : String) (body : Bytes) (c : Candidates) :
    Prop where
  /-- The first candidate is the last part of the first target header. -/
  target : ∀ part, c.target = some part ↔
    ∃ text, (headers.values "x-amz-target").head? = some text ∧
      '.' ∉ part.toList ∧ (text = part ∨ ∃ front, text = front ++ "." ++ part)
  /-- The second one is the last action in the query. -/
  query : ∀ action, c.query = some action ↔ ∃ query, Url.query? url = some query ∧
    IsAction query action
  /-- The third one is the last action in the body, if that is a form and a text. -/
  form : ∀ action, c.form = some action ↔
    (∃ rest, (headers.values "content-type").head? =
      some ("application/x-www-form-urlencoded" ++ rest)) ∧
    ∃ form, body = Utf8.encode form ∧ IsAction form action
  /-- The first candidate that is not empty is derived, exactly if no empty action hides it. -/
  derived_iff : deriveOperation? headers url body = c.usable ↔ ¬ c.Hides
  /-- An empty operation is derived exactly if an empty action is there in its place. -/
  empty_iff : deriveOperation? headers url body = some "" ↔ c.Hides

/-- **Derived operations.** The operation of a request is the first candidate that is not empty,
unless the first action behind the target header is there and empty; then it is empty, too. -/
theorem operationLaws (headers : Headers) (url : String) (body : Bytes) :
    OperationLaws headers url body (.ofRequest headers url body) where
  target := by
    intro part
    simp only [Candidates.ofRequest, Headers.get?_eq_head?, Option.map_eq_some_iff,
      eq_comm (b := part), eq_lastPart_iff]
  query := by
    intro action
    simp only [Candidates.ofRequest, Option.bind_eq_some_iff, actionOf?_eq_some_iff]
  form := by
    intro action
    rw [← Headers.get?_eq_head?, ← hasForm_iff]
    cases hform : hasForm headers <;>
      simp [Candidates.ofRequest, hform, Option.bind_eq_some_iff, Utf8.decode?_eq_some_iff,
        actionOf?_eq_some_iff]
  derived_iff := by
    rw [Candidates.deriveOperation?_eq]
    refine ⟨fun heq hhides => ?_, Candidates.derived_of_not_hides⟩
    exact Candidates.usable_ne_empty _ (heq.symm.trans hhides.derived)
  empty_iff := by
    rw [Candidates.deriveOperation?_eq]
    refine ⟨fun hempty => ?_, Candidates.Hides.derived⟩
    by_contra hshown
    rw [Candidates.derived_of_not_hides hshown] at hempty
    exact Candidates.usable_ne_empty _ hempty

/-- An empty action in the query is derived as the operation, though the form names one. -/
theorem emptyAction_hides_form :
    let headers : Headers := ⟨[("Content-Type", "application/x-www-form-urlencoded")]⟩
    let url := "https://svc1.example.com/?Action="
    let body := Utf8.encode "Action=Ping"
    deriveOperation? headers url body = some "" ∧
      (Candidates.ofRequest headers url body).usable = some "Ping" := by
  decide +kernel

end CloudEmulator
