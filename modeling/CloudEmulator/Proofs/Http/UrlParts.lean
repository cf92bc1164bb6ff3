import CloudEmulator.Emulator.Dispatch
import CloudEmulator.Proofs.Text.Cuts
import Mathlib.Data.List.Basic

/-!
# URLs and their parts

A URL that is put together from a scheme, a host, a path, a query and a fragment is taken apart
into the same host, path and query, and its fragment is seen by nobody. The exception is a
fragment directly behind the host: as the host goes on up to a slash or a question mark, the
fragment is then read as more of the host, and as path and query.
-/

namespace CloudEmulator

namespace Url

/-- A part that may be absent, behind its mark. -/
def marked (mark : Char) (part : Option String) : String :=
  part.elim "" fun text => mark.toString ++ text

/-- The parts of a URL. The scheme is made of letters, or of anything but colons. -/
structure Parts where
  scheme : String
  host : String
  path : String := ""
  query : Option String := none
  fragment : Option String := none
  scheme_plain : ':' ∉ scheme.toList
  host_ne : host ≠ ""
  host_plain : ∀ c ∈ host.toList, c ≠ '/' ∧ c ≠ '?' ∧ c ≠ '#'
  path_rooted : ∀ c ∈ path.toList.head?, c = '/'
  path_plain : ∀ c ∈ path.toList, c ≠ '?' ∧ c ≠ '#'
  query_plain : ∀ q ∈ query, '#' ∉ q.toList

/-- The URL of a scheme and what stands behind it. -/
def behindScheme (scheme rest : String) : String :=
  scheme ++ "://" ++ rest

namespace Parts

variable {p : Parts} {f : String}

/-- The path and the query, as they stand in the URL. -/
def target (p : Parts) : String :=
  p.path ++ marked '?' p.query

/-- The URL. -/
def text (p : Parts) : String :=
  behindScheme p.scheme (p.host ++ (p.target ++ marked '#' p.fragment))

/-- The URL without its fragment. -/
def withoutFragment (p : Parts) : Parts :=
  { p with fragment := none }

/-- The host ends at a path or a query, or at the end of the URL. -/
def Bounded (p : Parts) : Prop :=
  p.path ≠ "" ∨ p.query ≠ none ∨ p.fragment = none

/-- The URL is taken apart into its parts. -/
structure Recovered (p : Parts) : Prop where
  path : Url.path p.text = if p.path = "" then "/" else p.path
  query : Url.query? p.text = p.query
  host : Url.host? p.text = some p.host

end Parts

section Scanning

variable {scheme rest : String} {mark : Char} {part : Option String}

/-- What stands behind a scheme is found there. -/
theorem afterScheme_behindScheme (hscheme : ':' ∉ scheme.toList) (rest : String) :
    afterScheme (behindScheme scheme rest).toList = rest.toList := by
  have hafter (cs : List Char) (hcs : ':' ∉ cs) :
      Text.after? [':', '/', '/'] (cs ++ (':' :: '/' :: '/' :: rest.toList)) =
        some rest.toList := by
    induction cs with
    | nil => rfl
    | cons c cs ih =>
      have hc : ':' ≠ c := List.ne_of_not_mem_cons hcs
      have hother : [':', '/', '/'].isPrefixOf (c :: (cs ++ ':' :: '/' :: '/' :: rest.toList)) =
          false := Bool.eq_false_iff.mpr fun hprefix =>
        hc (List.cons_prefix_cons.mp (List.isPrefixOf_iff_prefix.mp hprefix)).1
      rw [List.cons_append, Text.after?, hother]
      exact ih (List.not_mem_of_not_mem_cons hcs)
  have hchars : (behindScheme scheme rest).toList =
      scheme.toList ++ (':' :: '/' :: '/' :: rest.toList) := by
    simp [behindScheme]
  rw [afterScheme, hchars, hafter _ hscheme, Option.getD_some]

/-- The host is read up to its end. -/
theorem host?_behindScheme (hscheme : ':' ∉ scheme.toList) (rest : String) :
    (host? (behindScheme scheme rest)).getD "" =
      String.ofList (Text.cutAt endsHost rest.toList).1 := by
  rw [host?, afterScheme_behindScheme hscheme]
  cases (Text.cutAt endsHost rest.toList).1 <;> rfl

/-- A part begins with its mark, if it is there. -/
theorem head?_marked : ∀ c ∈ (marked mark part).toList.head?, c = mark := by
  cases part with
  | none => simp [marked]
  | some text => simp [marked, eq_comm]

end Scanning

namespace Parts

variable {p : Parts} {f : String}

/-- The host holds no character that ends it. -/
theorem endsHost_host (p : Parts) : ∀ c ∈ p.host.toList, endsHost c = false := by
  intro c hc
  obtain ⟨hslash, hquestion, -⟩ := p.host_plain c hc
  simp [endsHost, hslash, hquestion]

/-- What stands behind a bounded host ends it. -/
theorem Bounded.endsHost_head (h : p.Bounded) :
    ∀ c ∈ (p.target ++ marked '#' p.fragment).toList.head?, endsHost c = true := by
  intro c hc
  by_cases hpath : p.path = ""
  · cases hquery : p.query with
    | none =>
      have hfragment : p.fragment = none := by simpa [Bounded, hpath, hquery] using h
      simp [target, marked, hpath, hquery, hfragment] at hc
    | some q =>
      obtain rfl : '?' = c := by simpa [target, marked, hpath, hquery] using hc
      rfl
  · have hpath' : p.path.toList ≠ [] := by simpa using hpath
    rw [target, String.toList_append, String.toList_append, List.append_assoc,
      List.head?_append_of_ne_nil _ hpath'] at hc
    rw [p.path_rooted c hc]
    rfl

/-- The path and the query hold no number sign. -/
theorem target_plain (p : Parts) : ∀ c ∈ p.target.toList, (c == '#') = false := by
  intro c hc
  rw [target, String.toList_append] at hc
  rcases List.mem_append.mp hc with hpath | hquery
  · exact beq_eq_false_iff_ne.mpr (p.path_plain c hpath).2
  · cases hq : p.query with
    | none => simp [hq, marked] at hquery
    | some q =>
      have hplain := p.query_plain q hq
      simp only [hq, marked, Option.elim_some, String.toList_append, List.mem_append] at hquery
      rcases hquery with hmark | hmem
      · obtain rfl : c = '?' := by simpa using hmark
        rfl
      · exact beq_eq_false_iff_ne.mpr fun heq => hplain (heq ▸ hmem)

/-- The path and the query are split at the mark between them. -/
theorem splitOnce_target (p : Parts) :
    Text.splitOnce '?' p.target.toList = (p.path.toList, p.query.map String.toList) := by
  have hpath : '?' ∉ p.path.toList := fun hmem => (p.path_plain _ hmem).1 rfl
  cases hquery : p.query with
  | none =>
    have htarget : p.target.toList = p.path.toList := by simp [target, marked, hquery]
    rw [htarget, Text.splitOnce_of_notMem hpath]
    rfl
  | some q =>
    have htarget : p.target.toList = p.path.toList ++ '?' :: q.toList := by
      simp [target, marked, hquery]
    rw [htarget, Text.splitOnce_append hpath]
    rfl

/-- A bounded host is cut off from path, query and fragment. -/
theorem Bounded.cutAt_text (h : p.Bounded) : Text.cutAt endsHost (afterScheme p.text.toList) =
    (p.host.toList, (p.target ++ marked '#' p.fragment).toList) := by
  rw [text, afterScheme_behindScheme p.scheme_plain, String.toList_append,
    Text.cutAt_append p.endsHost_host, Text.cutAt_of_head h.endsHost_head, List.append_nil]

/-- Behind a bounded host, path and query are read without the fragment. -/
theorem Bounded.pathAndQuery_text (h : p.Bounded) :
    pathAndQuery p.text.toList = (p.path.toList, p.query.map String.toList) := by
  have hcut : (Text.cutAt (· == '#') (p.target ++ marked '#' p.fragment).toList).1 =
      p.target.toList := by
    have hmark : ∀ c ∈ (marked '#' p.fragment).toList.head?, (c == '#') = true := fun c hc =>
      beq_iff_eq.mpr (head?_marked c hc)
    rw [String.toList_append, Text.cutAt_append p.target_plain, Text.cutAt_of_head hmark,
      List.append_nil]
  rw [pathAndQuery, h.cutAt_text, hcut, splitOnce_target]

/-- A URL with a bounded host is taken apart into its parts. -/
theorem Bounded.recovered (h : p.Bounded) : p.Recovered where
  path := by
    rw [Url.path, h.pathAndQuery_text]
    by_cases hpath : p.path = "" <;> simp [hpath]
  query := by
    rw [query?, h.pathAndQuery_text]
    cases p.query <;> simp
  host := by
    have hne : p.host.toList.isEmpty = false := by simp [p.host_ne]
    rw [host?, h.cutAt_text]
    simp [hne]

/-- A host that is not bounded is read on into the fragment. -/
theorem cutAt_text_of_not_bounded (hpath : p.path = "") (hquery : p.query = none)
    (hfragment : p.fragment = some f) : Text.cutAt endsHost (afterScheme p.text.toList) =
      (p.host.toList ++ '#' :: (Text.cutAt endsHost f.toList).1,
        (Text.cutAt endsHost f.toList).2) := by
  have hbehind : (p.host ++ (p.target ++ marked '#' p.fragment)).toList =
      (p.host.toList ++ ['#']) ++ f.toList := by
    simp [target, marked, hpath, hquery, hfragment]
  have hplain : ∀ c ∈ p.host.toList ++ ['#'], endsHost c = false := by
    intro c hc
    rcases List.mem_append.mp hc with hhost | hmark
    · exact p.endsHost_host c hhost
    · rw [List.mem_singleton.mp hmark]
      rfl
  rw [text, afterScheme_behindScheme p.scheme_plain, hbehind, Text.cutAt_append hplain,
    List.append_assoc]
  rfl

/-- The fragment behind a host that is not bounded is more of the host, and the path and query
of the URL are those of the fragment. -/
theorem leaked_of_not_bounded (hpath : p.path = "") (hquery : p.query = none)
    (hfragment : p.fragment = some f) :
    Url.host? p.text = some (p.host ++ "#" ++ (Url.host? (behindScheme p.scheme f)).getD "") ∧
      Url.path p.text = Url.path (behindScheme p.scheme f) ∧
      Url.query? p.text = Url.query? (behindScheme p.scheme f) := by
  have hcut := cutAt_text_of_not_bounded hpath hquery hfragment
  have htarget : pathAndQuery p.text.toList = pathAndQuery (behindScheme p.scheme f).toList := by
    rw [pathAndQuery, pathAndQuery, hcut, afterScheme_behindScheme p.scheme_plain]
  refine ⟨?_, ?_, ?_⟩
  · rw [host?, hcut, host?_behindScheme p.scheme_plain]
    simp [String.ofList_append, String.append_assoc]
  · rw [Url.path, Url.path, htarget]
  · rw [query?, query?, htarget]

/-- A URL is taken apart into its parts exactly if its host is bounded. -/
theorem recovered_iff : p.Recovered ↔ p.Bounded := by
  refine ⟨fun hrecovered => ?_, Bounded.recovered⟩
  by_contra hunbounded
  obtain ⟨hpath, hquery, hfragment⟩ : p.path = "" ∧ p.query = none ∧ p.fragment ≠ none := by
    simpa [Bounded] using hunbounded
  obtain ⟨f, hf⟩ := Option.ne_none_iff_exists'.mp hfragment
  obtain ⟨hhost, -, -⟩ := leaked_of_not_bounded hpath hquery hf
  have hlength := congrArg String.length (Option.some.inj (hhost.symm.trans hrecovered.host))
  simp only [String.length_append] at hlength
  have hmark : "#".length = 1 := rfl
  omega

/-- The stem of a URL does not change with its fragment. -/
theorem stem_text (p : Parts) : Url.stem p.text = Url.stem p.withoutFragment.text := by
  have hchars : p.text.toList =
      p.withoutFragment.text.toList ++ (marked '#' p.fragment).toList := by
    simp [text, withoutFragment, behindScheme, target, marked]
  have hmark : ∀ c ∈ (marked '#' p.fragment).toList.head?, (c == '?' || c == '#') = true := by
    intro c hc
    rw [head?_marked c hc]
    rfl
  rw [Url.stem, Url.stem, hchars, Text.cutAt_fst_append hmark]

/-- Without a fragment the host is bounded. -/
theorem bounded_withoutFragment (p : Parts) : p.withoutFragment.Bounded :=
  .inr (.inr rfl)

/-- With a bounded host, nothing that is read of the URL changes with its fragment. -/
theorem Bounded.unseen (h : p.Bounded) : Url.path p.text = Url.path p.withoutFragment.text ∧
    Url.query? p.text = Url.query? p.withoutFragment.text ∧
    Url.host? p.text = Url.host? p.withoutFragment.text := by
  have hwhole := h.recovered
  have hbare := p.bounded_withoutFragment.recovered
  exact ⟨hwhole.path.trans hbare.path.symm, hwhole.query.trans hbare.query.symm,
    hwhole.host.trans hbare.host.symm⟩

end Parts

/-- What is read of a URL that is put together from its parts. -/
structure FragmentLaws (p : Parts) : Prop where
  /-- The URL is taken apart into its path, query and host exactly if its host is bounded. -/
  recovered_iff : p.Recovered ↔ p.Bounded
  /-- Requests for a URL with a bounded host have its parts; a host among the headers comes
  first. -/
  request : p.Bounded → ∀ r : ServiceRequest, r.url = p.text →
    r.path = (if p.path = "" then "/" else p.path) ∧ r.query? = p.query ∧
      r.parameters = Form.decode (p.query.getD "") ∧
      r.host? = (r.headers.get? "host").or (some p.host)
  /-- They have the same without the fragment, and name the same operation. -/
  unseen : p.Bounded → ∀ r bare : ServiceRequest, r.url = p.text →
    bare = { r with url := p.withoutFragment.text } →
      r.path = bare.path ∧ r.query? = bare.query? ∧ r.parameters = bare.parameters ∧
        r.host? = bare.host?
  operation : p.Bounded → ∀ headers body, deriveOperation? headers p.text body =
    deriveOperation? headers p.withoutFragment.text body
  /-- A route is found alike with any fragment, whether or not the host is bounded. -/
  routes : ∀ {α : Type} (table : RouteTable α) (method : String),
    table.find? method p.text = table.find? method p.withoutFragment.text
  /-- A fragment behind a host that is not bounded is more of the host up to its first slash or
  question mark, and path and query from there on. -/
  leaked : ∀ f, p.path = "" → p.query = none → p.fragment = some f →
    Url.host? p.text = some (p.host ++ "#" ++ (Url.host? (behindScheme p.scheme f)).getD "") ∧
      Url.path p.text = Url.path (behindScheme p.scheme f) ∧
      Url.query? p.text = Url.query? (behindScheme p.scheme f)

/-- **Fragments.** Path, query and host are read as they were written, and the fragment reaches
none of them, exactly if something other than a fragment ends the host. -/
theorem fragmentLaws (p : Parts) : FragmentLaws p where
  recovered_iff := Parts.recovered_iff
  request := by
    intro hbounded r hurl
    obtain ⟨hpath, hquery, hhost⟩ := hbounded.recovered
    rw [← hurl] at hpath hquery hhost
    refine ⟨hpath, hquery, ?_, ?_⟩
    · rw [ServiceRequest.parameters, ServiceRequest.query?, hquery]
    · rw [ServiceRequest.host?, hhost]
  unseen := by
    rintro hbounded r _ hurl rfl
    obtain ⟨hpath, hquery, hhost⟩ := hbounded.unseen
    rw [← hurl] at hpath hquery hhost
    refine ⟨hpath, hquery, ?_, ?_⟩
    · simp only [ServiceRequest.parameters, ServiceRequest.query?, hquery]
    · simp only [ServiceRequest.host?, hhost]
  operation := by
    intro hbounded headers body
    rw [deriveOperation?, deriveOperation?, hbounded.unseen.2.1]
  routes := by
    intro α table method
    rw [RouteTable.find?, RouteTable.find?, p.stem_text]
  leaked := fun _ => Parts.leaked_of_not_bounded

/-- A URL with all delimiters in its fragment, and no path. -/
def pathless : Parts where
  scheme := "https"
  host := "svc1.example.com:8443"
  query := some "Action=Ping"
  fragment := some "/a?Action=Drop&u=http://b#c"
  scheme_plain := by simp
  host_ne := by decide
  host_plain := by simp
  path_rooted := by simp
  path_plain := by simp
  query_plain := by simp

/-- The laws of a URL with such a fragment behind its query. -/
theorem fragmentLaws_pathless : pathless.Bounded ∧ FragmentLaws pathless ∧
    Url.path pathless.text = "/" ∧ Url.query? pathless.text = some "Action=Ping" ∧
    Url.host? pathless.text = some "svc1.example.com:8443" ∧
    deriveOperation? {} pathless.text [] = some "Ping" := by
  have hlaws := fragmentLaws pathless
  have hbounded : pathless.Bounded := .inr (.inl nofun)
  obtain ⟨hpath, hquery, hhost⟩ := hlaws.recovered_iff.mpr hbounded
  refine ⟨hbounded, hlaws, hpath, hquery, hhost, ?_⟩
  rw [hlaws.operation hbounded]
  decide +kernel

/-- A URL with a fragment directly behind its host. -/
def hostOnly : Parts where
  scheme := "https"
  host := "svc1.example.com"
  fragment := some "/admin?Action=Drop"
  scheme_plain := by simp
  host_ne := by decide
  host_plain := by simp
  path_rooted := by simp
  path_plain := by simp
  query_plain := by simp

/-- Its fragment becomes a part of the host, the path, the query and the operation. -/
theorem hostOnly_reads_fragment :
    hostOnly.text = "https://svc1.example.com#/admin?Action=Drop" ∧
      Url.host? hostOnly.text = some "svc1.example.com#" ∧
      Url.path hostOnly.text = "/admin" ∧ Url.query? hostOnly.text = some "Action=Drop" ∧
      deriveOperation? {} hostOnly.text [] = some "Drop" ∧
      deriveOperation? {} hostOnly.withoutFragment.text [] = none := by
  decide +kernel

end Url

end CloudEmulator
