import CloudEmulator.Proofs.Extension.Loading
import CloudEmulator.Proofs.Pattern.FirstParts
import CloudEmulator.Proofs.Text.Cuts
import Mathlib

/-!
# Accepted selectors and ids

A selector that is accepted is a list of texts, each known to the catalog and with something
on both sides of its first colon; it is kept sorted, each entry once. An id is accepted
exactly where the pattern of ids matches all of it.
-/

namespace CloudEmulator

namespace OperationCatalog

variable {name other : String} {names : List String}

/-- A name put into place joins the names that are there. -/
theorem mem_insertSorted : other ∈ insertSorted name names ↔ other = name ∨ other ∈ names := by
  induction names with
  | nil => simp [insertSorted]
  | cons first names ih =>
    rw [insertSorted]
    split
    next hsame =>
      obtain rfl : name = first := beq_iff_eq.mp hsame
      simp
    next =>
      split
      next => rw [List.mem_cons]
      next =>
        rw [List.mem_cons, List.mem_cons, ih]
        tauto

/-- Ascending names stay so with one more. -/
theorem ascending_insertSorted (h : names.Pairwise (· < ·)) :
    (insertSorted name names).Pairwise (· < ·) := by
  induction names with
  | nil => exact List.pairwise_singleton _ _
  | cons first names ih =>
    obtain ⟨hfirst, hnames⟩ := List.pairwise_cons.mp h
    rw [insertSorted]
    split
    next => exact h
    next hother =>
      split
      next hbefore =>
        refine List.pairwise_cons.mpr ⟨List.forall_mem_cons.mpr ⟨hbefore, ?_⟩, h⟩
        exact fun n hn => String.lt_trans hbefore (hfirst n hn)
      next hbehind =>
        have hne : first ≠ name := fun heq => hother (beq_iff_eq.mpr heq.symm)
        have hlt : first < name := Std.lt_of_le_of_ne (String.not_lt.mp hbehind) hne
        refine List.pairwise_cons.mpr ⟨fun n hn => ?_, ih hnames⟩
        rcases mem_insertSorted.mp hn with rfl | hn
        · exact hlt
        · exact hfirst n hn

/-- The catalog of some names has these names, in ascending order. -/
theorem ofList_entries (names : List String) :
    (∀ name, name ∈ (ofList names).entries ↔ name ∈ names) ∧
      (ofList names).entries.Pairwise (· < ·) := by
  have hfold (catalog : OperationCatalog) (h : catalog.entries.Pairwise (· < ·)) :
      (∀ name, name ∈ (names.foldl add catalog).entries ↔ name ∈ names ∨ name ∈ catalog.entries) ∧
        (names.foldl add catalog).entries.Pairwise (· < ·) := by
    induction names generalizing catalog with
    | nil => exact ⟨fun name => by simp, h⟩
    | cons first names ih =>
      obtain ⟨hmem, hascending⟩ := ih (catalog.add first) (ascending_insertSorted h)
      refine ⟨fun name => ?_, hascending⟩
      rw [List.foldl_cons, hmem, add, mem_insertSorted, List.mem_cons]
      tauto
  obtain ⟨hmem, hascending⟩ := hfold {} List.Pairwise.nil
  exact ⟨fun name => (hmem name).trans (by simp), hascending⟩

end OperationCatalog

namespace Extension

open Fallible (bind_eq_ok pure_eq_ok throw_ne_ok)
open Pattern (CharClass Part Spans Chain)
open Declaration (ofStem)
open Script (Program Value)

variable {clocks : Clocks} {catalog : OperationCatalog} {program : Program} {stem : String}
  {error : LoadError}

section Selectors

/-- The entry has something on both sides of its first colon. -/
def TwoSided (entry : String) : Prop :=
  ∃ service operation, entry.toList = service ++ ':' :: operation ∧ ':' ∉ service ∧
    service ≠ [] ∧ operation ≠ []

/-- The entry is known to the catalog, and has something on both sides of its first colon. -/
structure Selectable (catalog : OperationCatalog) (entry : String) : Prop where
  known : entry ∈ catalog.entries
  parts : TwoSided entry

/-- Why a value is no entry of a selector. -/
inductive EntryFails (catalog : OperationCatalog) (typeName : String) :
    Value → LoadError → Prop where
  | notText {v : Value} (noText : ∀ entry, v ≠ .str entry) :
      EntryFails catalog typeName v (.invalidSelector typeName (.notText v.typeName))
  | malformed {entry : String} (oneSided : ¬ TwoSided entry) :
      EntryFails catalog typeName (.str entry) (.invalidSelector typeName (.malformed entry))
  | unknown {entry : String} (parts : TwoSided entry) (unknown : entry ∉ catalog.entries) :
      EntryFails catalog typeName (.str entry) (.unknownOperation typeName entry)

/-- A text passes as an entry exactly where it has two sides. -/
theorem isSelectorEntry_iff {entry : String} : isSelectorEntry entry = true ↔ TwoSided entry := by
  unfold isSelectorEntry
  constructor
  · intro h
    split at h
    next s service o operation hsplit =>
      obtain ⟨hentry, hcolon⟩ := Text.eq_of_splitOnce hsplit
      exact ⟨_, _, hentry, hcolon, List.cons_ne_nil _ _, List.cons_ne_nil _ _⟩
    next => cases h
  · rintro ⟨service, operation, hentry, hcolon, hservice, hoperation⟩
    rw [hentry, Text.splitOnce_append hcolon]
    cases service with
    | nil => exact absurd rfl hservice
    | cons =>
      cases operation with
      | nil => exact absurd rfl hoperation
      | cons => rfl

instance (entry : String) : Decidable (TwoSided entry) :=
  decidable_of_iff (isSelectorEntry entry = true) isSelectorEntry_iff

/-- The entry that a value is: its form is looked at first, and then the catalog. -/
def checkEntry (catalog : OperationCatalog) (typeName : String) :
    Value → Except LoadError String
  | .str entry =>
    if TwoSided entry then
      if entry ∈ catalog.entries then .ok entry else .error (.unknownOperation typeName entry)
    else .error (.invalidSelector typeName (.malformed entry))
  | v => .error (.invalidSelector typeName (.notText v.typeName))

/-- A value is an entry exactly where it is a text that can be selected. -/
theorem checkEntry_eq_ok {typeName entry : String} {v : Value} :
    checkEntry catalog typeName v = .ok entry ↔ v = .str entry ∧ Selectable catalog entry := by
  constructor
  · intro h
    unfold checkEntry at h
    split at h
    next text =>
      split at h
      next hparts =>
        split at h
        next hknown =>
          obtain rfl := Except.ok.inj h
          exact ⟨rfl, hknown, hparts⟩
        next => cases h
      next => cases h
    next => cases h
  · rintro ⟨rfl, hknown, hparts⟩
    simp only [checkEntry, if_pos hparts, if_pos hknown]

/-- Any other value is refused for what is wrong with it. -/
theorem checkEntry_eq_error {typeName : String} {v : Value} :
    checkEntry catalog typeName v = .error error ↔ EntryFails catalog typeName v error := by
  constructor
  · intro h
    unfold checkEntry at h
    split at h
    next text =>
      split at h
      next hparts =>
        split at h
        next => cases h
        next hunknown =>
          obtain rfl := Except.error.inj h
          exact .unknown hparts hunknown
      next honesided =>
        obtain rfl := Except.error.inj h
        exact .malformed honesided
    next hnoText =>
      obtain rfl := Except.error.inj h
      exact .notText hnoText
  · intro h
    cases h with
    | notText noText =>
      unfold checkEntry
      split
      next entry => exact absurd rfl (noText entry)
      next => rfl
    | malformed oneSided => simp only [checkEntry, if_neg oneSided]
    | unknown parts unknown => simp only [checkEntry, if_pos parts, if_neg unknown]

/-- The entries of a selector are checked in turn. -/
theorem checkEntries_eq_mapM (catalog : OperationCatalog) (typeName : String)
    (values : List Value) :
    checkEntries catalog typeName values = values.mapM (checkEntry catalog typeName) := by
  induction values with
  | nil => rfl
  | cons v values ih =>
    rw [List.mapM_cons, ← ih]
    cases v with
    | str entry =>
      rw [checkEntries]
      by_cases hparts : TwoSided entry
      · have hentry := isSelectorEntry_iff.mpr hparts
        by_cases hknown : entry ∈ catalog.entries
        · have hcontains : catalog.contains entry = true := List.contains_iff_mem.mpr hknown
          simp only [checkEntry, hentry, hcontains, if_pos hparts, if_pos hknown]
          rfl
        · have hcontains : catalog.contains entry = false := by
            simpa [OperationCatalog.contains] using hknown
          simp only [checkEntry, hentry, hcontains, if_pos hparts, if_neg hknown]
          rfl
      · have hentry : isSelectorEntry entry = false := by
          rw [← Bool.not_eq_true, isSelectorEntry_iff]
          exact hparts
        simp only [checkEntry, hentry, if_neg hparts]
        rfl
    | _ => rfl

/-- What a type selects: what its function lists, in ascending order. -/
structure Selects (clocks : Clocks) (program : Program) (stem : String)
    (selector : List String) : Prop where
  listed : ∃ items,
    (program.call (clocks.selector stem) (called stem "selector") [] none).result =
      .ok (.array items) ∧
    (∀ v ∈ items, ∃ entry, v = .str entry) ∧ ∀ entry, entry ∈ selector ↔ .str entry ∈ items
  ascending : selector.Pairwise (· < ·)

/-- Why a type has no selector: there is no function for it without parameters, this stops or
gives no list, or something in the list is no entry; then what comes first in the list counts. -/
inductive SelectorFails (clocks : Clocks) (catalog : OperationCatalog) (program : Program)
    (stem : String) : LoadError → Prop where
  | undeclared (lacks : ¬ Provides program stem "selector") :
      SelectorFails clocks catalog program stem (.invalidSelector (reported stem) .undeclared)
  | hasParameters (provides : Provides program stem "selector")
      (lacks : ¬ ProvidesWith program stem "selector" 0) :
      SelectorFails clocks catalog program stem (.invalidSelector (reported stem) .hasParameters)
  | scriptFailed {stop : Script.Stop} (provides : ProvidesWith program stem "selector" 0)
      (stops : (program.call (clocks.selector stem) (called stem "selector") [] none).result =
        .error stop) :
      SelectorFails clocks catalog program stem (.invalidSelector (reported stem) .scriptFailed)
  | notList {v : Value} (provides : ProvidesWith program stem "selector" 0)
      (gives : (program.call (clocks.selector stem) (called stem "selector") [] none).result =
        .ok v) (noList : ∀ items, v ≠ .array items) :
      SelectorFails clocks catalog program stem
        (.invalidSelector (reported stem) (.notList v.typeName))
  | entry {items : Array Value} {front back : List Value} {v : Value} {error : LoadError}
      (provides : ProvidesWith program stem "selector" 0)
      (gives : (program.call (clocks.selector stem) (called stem "selector") [] none).result =
        .ok (.array items))
      (split : items.toList = front ++ v :: back)
      (before : ∀ w ∈ front, ∃ entry, w = .str entry ∧ Selectable catalog entry)
      (fails : EntryFails catalog (reported stem) v error) :
      SelectorFails clocks catalog program stem error

/-- The selector of a type, by its stem. -/
theorem evaluateSelector_ofStem (clocks : Clocks) (catalog : OperationCatalog)
    (program : Program) (stem : String) :
    evaluateSelector clocks catalog program (ofStem program.functions stem) =
      if Provides program stem "selector" then
        if ProvidesWith program stem "selector" 0 then
          match (program.call (clocks.selector stem) (called stem "selector") [] none).result with
          | .error _ => .error (.invalidSelector (reported stem) .scriptFailed)
          | .ok (.array items) => (items.toList.mapM (checkEntry catalog (reported stem))).map
              fun entries => (OperationCatalog.ofList entries).entries
          | .ok v => .error (.invalidSelector (reported stem) (.notList v.typeName))
        else .error (.invalidSelector (reported stem) .hasParameters)
      else .error (.invalidSelector (reported stem) .undeclared) := by
  have hstem : (ofStem program.functions stem).stem = stem := rfl
  have hmap (x : Except LoadError (List String)) :
      (do return (OperationCatalog.ofList (← x)).entries) =
        x.map fun entries => (OperationCatalog.ofList entries).entries := by
    cases x <;> rfl
  unfold evaluateSelector
  simp only [functionName_ofStem, typeName_ofStem, hstem, checkEntries_eq_mapM, hmap]
  by_cases hhas : Provides program stem "selector"
  · have hhas' : (ofStem program.functions stem).has .selector = true := has_ofStem_iff.mpr hhas
    rw [if_pos hhas, hhas']
    by_cases harity : ProvidesWith program stem "selector" 0
    · have harity' : (ofStem program.functions stem).hasArity .selector 0 = true :=
        hasArity_ofStem_iff.mpr harity
      rw [if_pos harity, harity']
      rfl
    · have harity' : (ofStem program.functions stem).hasArity .selector 0 = false := by
        rw [← Bool.not_eq_true, hasArity_ofStem_iff]
        exact harity
      rw [if_neg harity, harity']
      rfl
  · have hhas' : (ofStem program.functions stem).has .selector = false := by
      rw [← Bool.not_eq_true, has_ofStem_iff]
      exact hhas
    rw [if_neg hhas, hhas']
    rfl

/-- A selector that could be evaluated is what the function of the type lists, and all of it
can be selected. -/
theorem selects_of_evaluateSelector {selector : List String}
    (h : evaluateSelector clocks catalog program (ofStem program.functions stem) =
      .ok selector) :
    Selects clocks program stem selector ∧ ∀ entry ∈ selector, Selectable catalog entry := by
  rw [evaluateSelector_ofStem] at h
  split at h
  next =>
    split at h
    next =>
      split at h
      next => cases h
      next items hcall =>
        obtain ⟨entries, hentries, rfl⟩ := Fallible.map_eq_ok.mp h
        obtain ⟨hmem, hascending⟩ := OperationCatalog.ofList_entries entries
        have hgives {v : Value} (hv : v ∈ items) :
            ∃ entry ∈ entries, v = .str entry ∧ Selectable catalog entry := by
          obtain ⟨entry, hentry, hchecked⟩ :=
            Fallible.exists_mem_of_mapM hentries (Array.mem_toList_iff.mpr hv)
          exact ⟨entry, hentry, checkEntry_eq_ok.mp hchecked⟩
        have hlisted {entry : String} (hentry : entry ∈ entries) :
            .str entry ∈ items ∧ Selectable catalog entry := by
          obtain ⟨v, hv, hchecked⟩ := Fallible.exists_of_mem_mapM hentries hentry
          obtain ⟨rfl, hselectable⟩ := checkEntry_eq_ok.mp hchecked
          exact ⟨Array.mem_toList_iff.mp hv, hselectable⟩
        refine ⟨⟨⟨items, hcall, fun v hv => ?_, fun entry => ?_⟩, hascending⟩,
          fun entry hentry => (hlisted ((hmem entry).mp hentry)).2⟩
        · obtain ⟨entry, -, rfl, -⟩ := hgives hv
          exact ⟨entry, rfl⟩
        · rw [hmem]
          refine ⟨fun hentry => (hlisted hentry).1, fun hv => ?_⟩
          obtain ⟨other, hother, hsame, -⟩ := hgives hv
          exact Value.str.inj hsame ▸ hother
      next => cases h
    next => cases h
  next => cases h

/-- A type has no selector exactly for one of the reasons. -/
theorem evaluateSelector_eq_error :
    evaluateSelector clocks catalog program (ofStem program.functions stem) = .error error ↔
      SelectorFails clocks catalog program stem error := by
  have hmap {x : Except LoadError (List String)} :
      x.map (fun entries => (OperationCatalog.ofList entries).entries) = .error error ↔
        x = .error error := by
    cases x <;> simp [Except.map]
  rw [evaluateSelector_ofStem]
  constructor
  · intro h
    split at h
    next hhas =>
      split at h
      next harity =>
        split at h
        next stop hcall =>
          obtain rfl := Except.error.inj h
          exact .scriptFailed harity hcall
        next items hcall =>
          obtain ⟨front, v, back, hsplit, hbefore, hfails⟩ :=
            Fallible.mapM_eq_error.mp (hmap.mp h)
          refine .entry harity hcall hsplit (fun w hw => ?_) (checkEntry_eq_error.mp hfails)
          obtain ⟨entry, hentry⟩ := hbefore w hw
          exact ⟨entry, checkEntry_eq_ok.mp hentry⟩
        next v hnoList hcall =>
          obtain rfl := Except.error.inj h
          exact .notList harity hcall hnoList
      next harity =>
        obtain rfl := Except.error.inj h
        exact .hasParameters hhas harity
    next hhas =>
      obtain rfl := Except.error.inj h
      exact .undeclared hhas
  · have hhas (harity : ProvidesWith program stem "selector" 0) :
        Provides program stem "selector" := by
      obtain ⟨f, hf, hjoins, -⟩ := harity
      exact ⟨f, hf, hjoins⟩
    intro h
    cases h with
    | undeclared lacks => rw [if_neg lacks]
    | hasParameters provides lacks => rw [if_pos provides, if_neg lacks]
    | scriptFailed provides stops => rw [if_pos (hhas provides), if_pos provides, stops]
    | notList provides gives noList =>
      rw [if_pos (hhas provides), if_pos provides, gives]
      split
      next heq => cases heq
      next items heq => exact absurd (Except.ok.inj heq) (noList items)
      next heq => rw [Except.ok.inj heq]
    | entry provides gives split before fails =>
      rw [if_pos (hhas provides), if_pos provides, gives]
      refine hmap.mpr (Fallible.mapM_eq_error.mpr ⟨_, _, _, split, fun w hw => ?_,
        checkEntry_eq_error.mpr fails⟩)
      obtain ⟨entry, hentry⟩ := before w hw
      exact ⟨entry, checkEntry_eq_ok.mpr hentry⟩

end Selectors

section Ids

/-- What all ids look like, as a pattern. -/
def idText : String := "[A-Za-z0-9][A-Za-z0-9_.:-]*"

/-- A pattern that a text writes matches all of another text. -/
def MatchesAll (written text : String) : Prop :=
  ∃ alternatives, Pattern.alternatives? written = .ok alternatives ∧
    Spans text.toList.toArray (Part.ofAlternatives alternatives).pattern 0 text.toList.length

/-- The letters and digits, with which an id begins. -/
def idFirst : CharClass :=
  .anyOf [.range '0' '9', .range 'a' 'z', .range 'A' 'Z']

/-- The characters of ids. -/
def idLater : CharClass :=
  .anyOf [.single '-', .single ':', .single '.', .single '_', .range '0' '9', .range 'a' 'z',
    .range 'A' 'Z']

/-- The pattern of ids is one of the characters to begin with, and any number of others. -/
theorem alternatives_idText : Pattern.alternatives? idText =
    .ok [[(Part.ofClass idLater 2).times ⟨0, none⟩, Part.ofClass idFirst 2]] := by
  cbv

/-- An id begins with a letter or a digit. -/
theorem contains_idFirst (c : Char) : idFirst.contains c = c.isAlphanum := by
  have hnothing : CharClass.nothing.contains c = false := rfl
  rw [Bool.eq_iff_iff]
  simp only [idFirst, CharClass.anyOf, List.foldr, CharClass.contains, hnothing, Char.isAlphanum,
    Char.isAlpha, Char.isUpper, Char.isLower, Char.isDigit, Bool.or_eq_true, Bool.and_eq_true,
    decide_eq_true_eq, ge_iff_le, UInt32.le_iff_toNat_le, Char.toNat, Bool.or_false]
  tauto

/-- The other characters are those of ids. -/
theorem contains_idLater (c : Char) : idLater.contains c = isIdChar c := by
  have hfirst := contains_idFirst c
  rw [Bool.eq_iff_iff]
  simp only [idFirst, idLater, CharClass.anyOf, List.foldr, CharClass.contains, isIdChar,
    Bool.or_eq_true, Pattern.contains_single_iff, beq_iff_eq, ← hfirst]
  tauto

/-- A class goes on to the end of a text exactly where all characters are of it. The induction
is on what is left of the text; each step takes one character of it to what stands before. -/
theorem chain_one_iff {cls : CharClass} (front : List Char) {later : List Char} {count : Nat} :
    Chain (Spans (front ++ later).toArray (.one cls)) count front.length (front ++ later).length ↔
      count = later.length ∧ ∀ c ∈ later, cls.contains c = true := by
  induction later generalizing front count with
  | nil =>
    cases count with
    | zero => simp [Chain]
    | succ count => simp [Chain, Spans]
  | cons c later ih =>
    cases count with
    | zero => simp [Chain]
    | succ count =>
      have hlater := @ih (front ++ [c]) count
      rw [List.append_assoc, List.singleton_append, List.length_append, List.length_singleton]
        at hlater
      have hc : (front ++ c :: later).toArray[front.length]? = some c := by simp
      have hstep (next : Nat) : Spans (front ++ c :: later).toArray (.one cls) front.length next ↔
          cls.contains c = true ∧ next = front.length + 1 := by
        simp only [Spans, hc, Option.some.injEq, exists_eq_left']
      simp only [Chain, hstep, and_assoc, exists_and_left, exists_eq_left, hlater,
        List.length_cons, Nat.add_right_cancel_iff, List.forall_mem_cons]
      exact and_left_comm

/-- What the pattern of ids matches from end to end. -/
theorem spans_idText_iff (cs : List Char) :
    Spans cs.toArray (Part.ofAlternatives
      [[(Part.ofClass idLater 2).times ⟨0, none⟩, Part.ofClass idFirst 2]]).pattern 0 cs.length ↔
      ∃ c later, cs = c :: later ∧ c.isAlphanum = true ∧ ∀ c ∈ later, isIdChar c = true := by
  have hparts := @Pattern.spans_sequence_concat cs.toArray 0 cs.length
    [(Part.ofClass idLater 2).times ⟨0, none⟩] (Part.ofClass idFirst 2)
  rw [Pattern.spans_ofAlternatives_iff (List.cons_ne_nil _ _)]
  simp only [List.mem_singleton, exists_eq_left]
  refine hparts.trans ⟨?_, ?_⟩
  · rintro ⟨_, ⟨⟨c, hc, hfirst⟩, rfl⟩, count, -, -, hlater⟩
    cases cs with
    | nil => cases hc
    | cons first later =>
      obtain rfl : first = c := by simpa using hc
      have hall := (chain_one_iff [first]).mp hlater
      exact ⟨first, later, rfl, contains_idFirst first ▸ hfirst,
        fun c hc => contains_idLater c ▸ hall.2 c hc⟩
  · rintro ⟨c, later, rfl, hfirst, hlater⟩
    have hall : ∀ c ∈ later, idLater.contains c = true :=
      fun c hc => (contains_idLater c).trans (hlater c hc)
    exact ⟨1, ⟨⟨c, rfl, (contains_idFirst c).trans hfirst⟩, rfl⟩, later.length, Nat.zero_le _,
      nofun, (chain_one_iff [c]).mpr ⟨rfl, hall⟩⟩

/-- **Accepted ids.** An id is accepted exactly where the pattern of ids matches all of it. -/
theorem checkId_eq_ok_iff {typeName id : String} :
    checkId typeName id = .ok () ↔ MatchesAll idText id := by
  unfold MatchesAll
  simp only [alternatives_idText, Except.ok.injEq, exists_eq_left', spans_idText_iff]
  unfold checkId
  cases id.toList with
  | nil => simp
  | cons c later => simp

/-- An id is refused because there is nothing of it, or else for its characters. -/
theorem checkId_eq_error_iff {typeName id : String} :
    checkId typeName id = .error error ↔ (id = "" ∧ error = .invalidId typeName .empty) ∨
      (id ≠ "" ∧ ¬ MatchesAll idText id ∧ error = .invalidId typeName (.badCharacters id)) := by
  have haccepted := @checkId_eq_ok_iff typeName id
  have hempty : id = "" ↔ id.toList = [] := String.toList_eq_nil_iff.symm
  unfold checkId at haccepted ⊢
  rw [ne_eq, hempty, ← haccepted]
  cases id.toList with
  | nil => simp [eq_comm]
  | cons c later =>
    by_cases hc : (c.isAlphanum && later.all isIdChar) = true
    · simp [hc]
    · simp [hc, eq_comm]

end Ids

end Extension

end CloudEmulator
