import CloudEmulator.Proofs.Routing.Anchoring
import CloudEmulator.Routing.RouteTable

/-!
# Paths joined onto bases

The pattern of an entry is the text of its path behind a group of its base. The base is
matched as a whole, but of the path only the alternative before its first bar stands
behind the group: the others are alternatives to the base.
-/

namespace CloudEmulator.RouteTable

open Pattern Fallible

variable {α : Type}

/-- A text can be cut so that one pattern matches from its start to the cut, and another
from the cut on. -/
def Cut (base path : Pattern) (text : Array Char) : Prop :=
  ∃ cut stop, Spans text base 0 cut ∧ Spans text path cut stop

/-- A text can be cut exactly where the second pattern has an end behind one of the first. -/
theorem cut_iff_ends {base path : Pattern} {text : Array Char} :
    Cut base path text ↔ path.ends text (base.ends text [0]) ≠ [] := by
  have hends (stop : Nat) : stop ∈ path.ends text (base.ends text [0]) ↔
      ∃ cut, Spans text base 0 cut ∧ Spans text path cut stop := by
    simp only [mem_ends_iff, List.mem_singleton, exists_eq_left]
  constructor
  · rintro ⟨cut, stop, h⟩
    exact List.ne_nil_of_mem ((hends stop).mpr ⟨cut, h⟩)
  · intro h
    obtain ⟨stop, hstop⟩ := List.exists_mem_of_ne_nil _ h
    obtain ⟨cut, hcut⟩ := (hends stop).mp hstop
    exact ⟨cut, stop, hcut⟩

instance (base path : Pattern) (text : Array Char) : Decidable (Cut base path text) :=
  decidable_of_iff _ cut_iff_ends.symm

/-- The characters that entries are matched against. -/
def stemOf (url : String) : Array Char :=
  (Url.stem url).toList.toArray

/-- A route added under one base is the only entry, with a pattern of both. -/
theorem exists_entry {base : String} {spec : RouteSpec α} {table : RouteTable α}
    (h : add ⟨[base], []⟩ spec = .ok table) :
    ∃ pattern, AnchoredPattern.compile? (joined base spec.path) = .ok pattern ∧
      table.routes = [⟨pattern, spec.method.map Text.upper, spec.operation, spec.handler⟩] := by
  obtain ⟨routes, hroutes, htable⟩ := bind_eq_ok.mp h
  obtain ⟨route, hroute, hroutes⟩ := bind_eq_ok.mp hroutes
  obtain ⟨pattern, hpattern, hroute⟩ := bind_eq_ok.mp hroute
  cases hroute
  cases hroutes
  cases htable
  exact ⟨pattern, hpattern, rfl⟩

/-- An entry for all methods is found where its pattern matches the stem of the URL. -/
theorem find?_isSome_iff {table : RouteTable α} {route : Route α} (htable : table.routes = [route])
    (hmethod : route.method = none) {method url : String} :
    (table.find? method url).isSome = true ↔ route.pattern.isMatch (Url.stem url) = true := by
  simp [find?, htable, Route.isFor, hmethod]

/-- The empty text is the empty pattern. -/
theorem compile?_empty : Pattern.compile? "" = .ok .empty := by
  rfl

section Joined

variable {base path : String} {pb pp : Pattern}

/-- Behind a base, a path is read as the rest of the base's alternative up to its first
bar. The text closes no group around it. -/
theorem joined_alternatives {first : List Part} {later : List (List Part)}
    (hnonempty : base ≠ "") (hbase : Pattern.compile? base = .ok pb)
    (houtside : Pattern.compile? (base ++ ")") = .error .unopenedGroup)
    (hpath : alternatives? path = .ok (later ++ [first])) :
    Pattern.compile? (joined base path) ≠ .error .unopenedGroup ∧
      ∀ pattern, Pattern.compile? (joined base path) = .ok pattern →
        ∀ {text : Array Char} {i j : Nat}, Spans text pattern i j ↔
          (∃ k, Spans text pb i k ∧ Spans text (Part.sequence first).pattern k j) ∨
          ∃ alternative ∈ later, Spans text (Part.sequence alternative).pattern i j := by
  have htext : joined base path = "(?:" ++ base ++ ")" ++ path := by
    simp [joined, hnonempty]
  obtain ⟨bases, hbases, hfits⟩ := compile?_eq_ok.mp hbase
  have hpb : (Part.ofAlternatives bases).pattern = pb := (Part.compile?_eq_ok.mp hfits).2
  have hreads {s : Reader} (hs : Reads (.begin (joined base path).toList {} []) s) :=
    reads_behind_group hbases (compile?_eq_unopened.mp houtside) hpath (htext ▸ hs)
  constructor
  · intro h
    obtain ⟨s, hs, hrest⟩ := alternatives?_eq_unopened.mp (compile?_eq_unopened.mp h)
    exact hrest (hreads hs).1
  · intro pattern h text i j
    obtain ⟨alternatives, halternatives, hfits⟩ := compile?_eq_ok.mp h
    obtain ⟨s, hs, -, hdone⟩ := alternatives?_eq_ok.mp halternatives
    rw [(hreads hs).2] at hdone
    obtain rfl := (Part.compile?_eq_ok.mp hfits).2
    have hsome : alternatives ≠ [] := by simp [← hdone]
    rw [spans_ofAlternatives_iff hsome, ← hdone]
    simp only [List.mem_append, List.mem_singleton, or_and_right, exists_or, exists_eq_left,
      spans_sequence_concat, Part.group, hpb]
    exact or_comm

/-- The entry of a path under a base matches where the URL can be cut between the base and
the path's first alternative, or where a later alternative matches from the start on. -/
theorem isMatch_joined_iff {first : List Part} {later : List (List Part)} {entry : AnchoredPattern}
    (hnonempty : base ≠ "") (hbase : Pattern.compile? base = .ok pb)
    (houtside : Pattern.compile? (base ++ ")") = .error .unopenedGroup)
    (hpath : alternatives? path = .ok (later ++ [first]))
    (hentry : AnchoredPattern.compile? (joined base path) = .ok entry) {url : String} :
    entry.isMatch url = true ↔
      Cut pb (Part.sequence first).pattern url.toList.toArray ∨
        ∃ alternative ∈ later, ∃ j,
          Spans url.toList.toArray (Part.sequence alternative).pattern 0 j := by
  obtain ⟨hopened, hspans⟩ := joined_alternatives hnonempty hbase houtside hpath
  obtain ⟨whole, hwhole, hmatch⟩ := AnchoredPattern.exists_spans_of_compile? hopened hentry
  rw [hmatch]
  simp only [hspans whole hwhole, exists_or]
  refine or_congr ⟨?_, ?_⟩ ⟨?_, ?_⟩
  · rintro ⟨j, k, hfront, hback⟩
    exact ⟨k, j, hfront, hback⟩
  · rintro ⟨k, j, hfront, hback⟩
    exact ⟨j, k, hfront, hback⟩
  · rintro ⟨j, alternative, hmem, h⟩
    exact ⟨alternative, hmem, j, h⟩
  · rintro ⟨alternative, hmem, j, h⟩
    exact ⟨j, alternative, hmem, h⟩

/-- The entry of a path on its own matches behind the empty base. -/
theorem isMatch_alone_iff {entry : AnchoredPattern} (hbase : Pattern.compile? "" = .ok pb)
    (hpath : Pattern.compile? path = .ok pp)
    (hentry : AnchoredPattern.compile? (joined "" path) = .ok entry) {url : String} :
    entry.isMatch url = true ↔ Cut pb pp url.toList.toArray := by
  obtain rfl := Except.ok.inj (compile?_empty.symm.trans hbase)
  have hopened : Pattern.compile? path ≠ .error .unopenedGroup := by
    rw [hpath]
    nofun
  obtain ⟨whole, hwhole, hmatch⟩ := AnchoredPattern.exists_spans_of_compile? hopened hentry
  obtain rfl := Except.ok.inj (hwhole.symm.trans hpath)
  rw [hmatch]
  constructor
  · rintro ⟨j, h⟩
    exact ⟨0, j, rfl, h⟩
  · rintro ⟨_, j, rfl, h⟩
    exact ⟨j, h⟩

end Joined

/-- What the entry of a path under a base is found for, where the path has a first
alternative and later ones. -/
structure JoiningLaws (base : String) (pb pp : Pattern) (first : List Part)
    (later : List (List Part)) (table : RouteTable α) : Prop where
  /-- The path matches where one of its alternatives does. -/
  path_iff {text : Array Char} {i j : Nat} : Spans text pp i j ↔
    ∃ alternative ∈ later ++ [first], Spans text (Part.sequence alternative).pattern i j
  /-- Under a base, the entry is found where the base matches from the start of the URL and
  the first alternative behind it, or where a later alternative matches from the start. -/
  found_iff : base ≠ "" → ∀ method url, (table.find? method url).isSome = true ↔
    Cut pb (Part.sequence first).pattern (stemOf url) ∨
      ∃ alternative ∈ later, ∃ j, Spans (stemOf url) (Part.sequence alternative).pattern 0 j
  /-- A path of one alternative is matched behind all alternatives of the base, and every
  path behind an empty base. -/
  cut_iff : later = [] ∨ base = "" → ∀ method url,
    (table.find? method url).isSome = true ↔ Cut pb pp (stemOf url)

/-- **Joining.** Of an entry under a base that ends outside of comments, the whole base and
the path's first alternative are matched one behind the other. -/
theorem joiningLaws {base : String} {spec : RouteSpec α} {table : RouteTable α} {pb pp : Pattern}
    (hbase : Pattern.compile? base = .ok pb)
    (houtside : Pattern.compile? (base ++ ")") = .error .unopenedGroup)
    (hpath : Pattern.compile? spec.path = .ok pp) (hmethod : spec.method = none)
    (htable : add ⟨[base], []⟩ spec = .ok table) :
    ∃ first later, alternatives? spec.path = .ok (later ++ [first]) ∧
      JoiningLaws base pb pp first later table := by
  obtain ⟨entry, hentry, hroutes⟩ := exists_entry htable
  have hfound (method url : String) : (table.find? method url).isSome = true ↔
      entry.isMatch (Url.stem url) = true :=
    find?_isSome_iff hroutes (by simp [hmethod])
  obtain ⟨alternatives, halternatives, hfits⟩ := compile?_eq_ok.mp hpath
  obtain ⟨later, first, rfl⟩ := exists_first_alternative halternatives
  have hpp : (Part.ofAlternatives (later ++ [first])).pattern = pp :=
    (Part.compile?_eq_ok.mp hfits).2
  have hunder (hnonempty : base ≠ "") (method url : String) :=
    (hfound method url).trans
      (isMatch_joined_iff hnonempty hbase houtside halternatives hentry)
  refine ⟨first, later, halternatives, ?_, hunder, ?_⟩
  · intro text i j
    rw [← hpp, spans_ofAlternatives_iff (by simp)]
  · rintro hsingle method url
    by_cases hempty : base = ""
    · subst hempty
      exact (hfound method url).trans (isMatch_alone_iff hbase hpath hentry)
    · obtain rfl := hsingle.resolve_right hempty
      obtain rfl : (Part.sequence first).pattern = pp := hpp
      simpa [stemOf] using hunder hempty method url

/-- A path with one alternative, for bases that may have more. -/
def ping : RouteSpec Unit :=
  { path := "/ping$", operation := some "Ping", handler := () }

/-- A base with two alternatives. -/
def twoHosts : String :=
  "https?://a\\.example\\.com|https?://b\\.example\\.com"

/-- The laws of a path under a base with two alternatives: the path stands behind both. -/
theorem joiningLaws_twoHosts :
    ∃ pb pp table, Pattern.compile? twoHosts = .ok pb ∧
      Pattern.compile? (twoHosts ++ ")") = .error .unopenedGroup ∧
      Pattern.compile? ping.path = .ok pp ∧ ping.method = none ∧
      add ⟨[twoHosts], []⟩ ping = .ok table ∧
      (∃ first later, alternatives? ping.path = .ok (later ++ [first]) ∧
        JoiningLaws twoHosts pb pp first later table) ∧
      (table.find? "GET" "https://b.example.com/ping?x=1").isSome = true := by
  have hvalues : ((Pattern.compile? twoHosts).toOption.bind fun _ =>
      (Pattern.compile? ping.path).toOption.bind fun _ =>
      (add ⟨[twoHosts], []⟩ ping).toOption.map fun table =>
        (table.find? "GET" "https://b.example.com/ping?x=1").isSome) = some true := by
    decide +kernel
  have houtside : fault? (Pattern.compile? (twoHosts ++ ")")) = some .unopenedGroup := by
    decide +kernel
  simp only [Option.bind_eq_some_iff, Option.map_eq_some_iff, toOption_eq_some] at hvalues
  obtain ⟨pb, hbase, pp, hpath, table, htable, hfound⟩ := hvalues
  have hout := fault?_eq_some.mp houtside
  exact ⟨pb, pp, table, hbase, hout, hpath, rfl, htable,
    joiningLaws hbase hout hpath rfl htable, hfound⟩

/-- A path with two alternatives. -/
def pingOrPong : RouteSpec Unit :=
  { path := "/ping$|/pong$", operation := some "Ping", handler := () }

/-- The pattern of a host. -/
def host : String :=
  "https?://svc1\\.example\\.com"

/-- The later alternative of a path is not found behind its base, and is found without it. -/
theorem pingOrPong_not_joined :
    ∃ pb pp table, Pattern.compile? host = .ok pb ∧ Pattern.compile? pingOrPong.path = .ok pp ∧
      add ⟨[host], []⟩ pingOrPong = .ok table ∧
      (Cut pb pp (stemOf "https://svc1.example.com/pong") ∧
        (table.find? "GET" "https://svc1.example.com/pong").isSome = false) ∧
      ¬ Cut pb pp (stemOf "/pong") ∧ (table.find? "GET" "/pong").isSome = true := by
  have hvalues : ((Pattern.compile? host).toOption.bind fun pb =>
      (Pattern.compile? pingOrPong.path).toOption.bind fun pp =>
      (add ⟨[host], []⟩ pingOrPong).toOption.map fun table =>
        (decide (Cut pb pp (stemOf "https://svc1.example.com/pong")),
          (table.find? "GET" "https://svc1.example.com/pong").isSome,
          decide (Cut pb pp (stemOf "/pong")), (table.find? "GET" "/pong").isSome)) =
      some (true, false, false, true) := by decide +kernel
  simp only [Option.bind_eq_some_iff, Option.map_eq_some_iff, toOption_eq_some, Prod.mk.injEq,
    decide_eq_true_eq, decide_eq_false_iff_not] at hvalues
  obtain ⟨pb, hbase, pp, hpath, table, htable, hcut, hmissing, huncut, hfound⟩ := hvalues
  exact ⟨pb, pp, table, hbase, hpath, htable, ⟨hcut, hmissing⟩, huncut, hfound⟩

end CloudEmulator.RouteTable
