import CloudEmulator.Proofs.Fallible
import CloudEmulator.Proofs.Tls.Files
import CloudEmulator.Proofs.Tls.Serials
import Mathlib.Data.Finset.Filter
import Mathlib.Data.Finset.Card
import Mathlib.Data.Finset.Dedup

/-!
# Certificates are made once

A store answers from the files of its directory and from the configurations it has made. As
long as certificates can be signed and written, whatever is asked in whatever order, each host
gets one certificate, and what was given once is given again.
-/

namespace CloudEmulator

namespace CertificateStore

/-- What a store is asked for, at a reading of the clock: the file of a host's certificate, or how
connections to the host present themselves. -/
inductive Call where
  | file (host : String) (clock : Int)
  | config (host : String) (clock : Int)

namespace Call

/-- The host that a call is about. -/
def host : Call → String
  | file host _ | config host _ => host

/-- The reading of the clock. -/
def clock : Call → Int
  | file _ clock | config _ clock => clock

/-- A certificate for the host can be signed, and its file can be written. -/
structure Smooth (crypto : Cryptography) (call : Call) : Prop where
  signs : HostName.isValid call.host = true → ∀ serial,
    ∃ text, crypto.sign (Certificate.ofHost call.host serial call.clock) = some text
  fits : HostName.isValid call.host = true →
    Directory.fits (temporaryFileOf call.host) = true

end Call

/-- What a call gives. -/
inductive Answer where
  | file (name : String)
  | config (config : TlsConfig)

/-- The outcome of a call. -/
def answer (s : CertificateStore) (crypto : Cryptography) : Call → Outcome Answer
  | .file host clock =>
    ((s.certificateFile crypto clock host).1, (s.certificateFile crypto clock host).2.map .file)
  | .config host clock =>
    ((s.tlsConfig crypto clock host).1, (s.tlsConfig crypto clock host).2.map .config)

/-- The store after a call. -/
def after (s : CertificateStore) (crypto : Cryptography) (call : Call) : CertificateStore :=
  (s.answer crypto call).1

/-- The store after some calls. -/
def run (s : CertificateStore) (crypto : Cryptography) (calls : List Call) : CertificateStore :=
  calls.foldl (fun s call => s.after crypto call) s

/-- One certificate is made between two stores: it stands in the file of the host, and nothing
stands in its temporary file. -/
structure Mints (crypto : Cryptography) (host : String) (clock : Int)
    (s next : CertificateStore) : Prop where
  signed : ∃ serial text, crypto.sign (Certificate.ofHost host serial clock) = some text ∧
    next.directory.get? (fileOf host) = some text
  cleared : next.directory.get? (temporaryFileOf host) = none
  others : ∀ name, name ≠ fileOf host → name ≠ temporaryFileOf host →
    next.directory.get? name = s.directory.get? name
  counted : next.minted = s.minted + 1

variable {s next : CertificateStore} {crypto : Cryptography} {host : String} {clock : Int}
  {contents : Bytes} {call : Call} {calls before later : List Call} {config : TlsConfig}

/-- A valid host is not empty. -/
theorem ne_empty_of_isValid (h : HostName.isValid host = true) : host ≠ "" := by
  rintro rfl
  cases h

section Steps

/-- Saving a certificate makes it, if its file can be written. -/
theorem save_mints (s : CertificateStore) (text : Bytes) (hhost : host ≠ "")
    (hfits : Directory.fits (temporaryFileOf host) = true) :
    ∃ directory, s.save host text =
        ({ s with directory, minted := s.minted + 1 }, .ok (fileOf host)) ∧
      directory.get? (fileOf host) = some text ∧
      directory.get? (temporaryFileOf host) = none ∧
      ∀ name, name ≠ fileOf host → name ≠ temporaryFileOf host →
        directory.get? name = s.directory.get? name := by
  have htemporary : temporaryFileOf host ≠ fileOf host := (fileOf_ne_temporaryFileOf _ _).symm
  obtain ⟨written, hwritten⟩ := Option.isSome_iff_exists.mp
    ((s.directory.isSome_write? (temporaryFileOf host) text).trans hfits)
  have hsource : written.get? (temporaryFileOf host) = some text := by
    rw [Directory.get?_of_write? hwritten, if_pos rfl]
  obtain ⟨directory, hmoved⟩ := Option.isSome_iff_exists.mp
    ((Directory.isSome_rename? hsource (fileOf host)).trans (fits_fileOf hhost hfits))
  refine ⟨directory, ?_, ?_, ?_, fun name hfile hother => ?_⟩
  · simp only [save, hwritten, hmoved]
  · rw [Directory.get?_of_rename? hmoved, if_pos rfl, hsource]
  · rw [Directory.get?_of_rename? hmoved, if_neg htemporary, if_pos rfl]
  · rw [Directory.get?_of_rename? hmoved, if_neg hfile, if_neg hother,
      Directory.get?_of_write? hwritten, if_neg hother]

/-- No certificate is made for a host that is not valid. -/
theorem certificateFile_of_invalid (h : HostName.isValid host = false) :
    s.certificateFile crypto clock host = (s, .error (.invalidHost host)) := by
  simp [certificateFile, h]

/-- A file that is there is given as it is. -/
theorem certificateFile_of_contains (h : HostName.isValid host = true)
    (hfile : s.directory.contains (fileOf host) = true) :
    s.certificateFile crypto clock host = (s, .ok (fileOf host)) := by
  simp [certificateFile, h, hfile]

/-- A file that is not there is made. -/
theorem certificateFile_of_absent (h : HostName.isValid host = true)
    (hfile : s.directory.contains (fileOf host) = false)
    (hsigns : ∀ serial, ∃ text, crypto.sign (Certificate.ofHost host serial clock) = some text)
    (hfits : Directory.fits (temporaryFileOf host) = true) :
    ∃ next, s.certificateFile crypto clock host = (next, .ok (fileOf host)) ∧
      Mints crypto host clock s next ∧ next.configs = s.configs := by
  let serial := Serial.next s.lastSerial clock
  obtain ⟨text, htext⟩ := hsigns (Serial.encode serial)
  have hmint : s.mint crypto clock host = ({ s with lastSerial := serial }, .ok text) := by
    simp only [mint, takeSerial_eq]
    rw [htext]
  obtain ⟨directory, hsaved, hown, hcleared, hothers⟩ :=
    save_mints { s with lastSerial := serial } text (ne_empty_of_isValid h) hfits
  refine ⟨{ s with lastSerial := serial, directory, minted := s.minted + 1 }, ?_,
    ⟨⟨_, text, htext, hown⟩, hcleared, hothers, rfl⟩, rfl⟩
  simp only [certificateFile, h, hfile, hmint, hsaved]
  rfl

/-- The file of a certificate is no configuration. -/
theorem certificateFile_configs (s : CertificateStore) (crypto : Cryptography) (clock : Int)
    (host : String) : (s.certificateFile crypto clock host).1.configs = s.configs := by
  unfold certificateFile mint save takeSerial
  dsimp only
  split
  · rfl
  · split
    · rfl
    · cases crypto.sign _ with
      | none => rfl
      | some text =>
        dsimp only
        split
        · rfl
        · split <;> rfl

/-- Without a configuration for the host, one is made from its file, or the store stays as the
file leaves it. -/
theorem tlsConfig_cases (crypto : Cryptography) (clock : Int)
    (h : s.configs.lookup host = none) :
    (∃ fault, s.tlsConfig crypto clock host =
      ((s.certificateFile crypto clock host).1, .error fault)) ∨
    ∃ file config, (s.certificateFile crypto clock host).2 = .ok file ∧
      s.tlsConfig crypto clock host =
        ({ (s.certificateFile crypto clock host).1 with
            configs := (s.certificateFile crypto clock host).1.configs ++ [(host, config)] },
          .ok config) := by
  unfold tlsConfig
  rw [h]
  obtain ⟨mid, made⟩ := s.certificateFile crypto clock host
  cases made with
  | error fault => exact .inl ⟨fault, rfl⟩
  | ok file =>
    dsimp only
    cases mid.presentable crypto file with
    | error fault => exact .inl ⟨fault, rfl⟩
    | ok certificate => exact .inr ⟨file, _, rfl, rfl⟩

end Steps

/-- Every configuration is for a valid host whose file is there. -/
def Presents (s : CertificateStore) : Prop :=
  ∀ host config, s.configs.lookup host = some config →
    HostName.isValid host = true ∧ s.directory.contains (fileOf host) = true

/-- What a call changes. A certificate is made for a valid host whose file is not there, and
otherwise the directory stays as it is. Configurations stay. -/
structure Stepped (crypto : Cryptography) (call : Call) (s next : CertificateStore) : Prop where
  idle : HostName.isValid call.host = false ∨ s.directory.contains (fileOf call.host) = true →
    next.directory = s.directory ∧ next.minted = s.minted
  mints : HostName.isValid call.host = true → s.directory.contains (fileOf call.host) = false →
    Mints crypto call.host call.clock s next
  configs : ∀ host config, s.configs.lookup host = some config →
    next.configs.lookup host = some config

/-- A call that leaves the store as it is takes a step, if there was nothing to make. -/
theorem Stepped.refl (hquiet : HostName.isValid call.host = false ∨
    s.directory.contains (fileOf call.host) = true) : Stepped crypto call s s := by
  refine ⟨fun _ => ⟨rfl, rfl⟩, fun hvalid habsent => ?_, fun _ _ h => h⟩
  rw [hvalid, habsent] at hquiet
  simp at hquiet

/-- A step makes nothing, or the certificate of a valid host whose file is not there. -/
theorem Stepped.cases (h : Stepped crypto call s next) :
    ((HostName.isValid call.host = false ∨ s.directory.contains (fileOf call.host) = true) ∧
      next.directory = s.directory ∧ next.minted = s.minted) ∨
    (HostName.isValid call.host = true ∧ s.directory.contains (fileOf call.host) = false ∧
      Mints crypto call.host call.clock s next) := by
  cases hvalid : HostName.isValid call.host with
  | false => exact .inl ⟨.inl rfl, h.idle (.inl hvalid)⟩
  | true =>
    cases hfile : s.directory.contains (fileOf call.host) with
    | true => exact .inl ⟨.inr rfl, h.idle (.inr hfile)⟩
    | false => exact .inr ⟨rfl, rfl, h.mints hvalid hfile⟩

/-- A file that is there stays as it is. -/
theorem Stepped.get?_fileOf (h : Stepped crypto call s next)
    (hfile : s.directory.get? (fileOf host) = some contents) :
    next.directory.get? (fileOf host) = some contents := by
  have hthere : s.directory.contains (fileOf host) = true := by
    rw [Directory.contains, hfile]
    rfl
  rcases h.cases with ⟨-, hdirectory, -⟩ | ⟨-, habsent, hmints⟩
  · rw [hdirectory]
    exact hfile
  · have hother : fileOf host ≠ fileOf call.host := by
      intro heq
      rw [heq, habsent] at hthere
      cases hthere
    rw [hmints.others _ hother (fileOf_ne_temporaryFileOf _ _)]
    exact hfile

/-- So no host loses its file. -/
theorem Stepped.contains_fileOf (h : Stepped crypto call s next)
    (hfile : s.directory.contains (fileOf host) = true) :
    next.directory.contains (fileOf host) = true := by
  obtain ⟨contents, hcontents⟩ := Option.isSome_iff_exists.mp hfile
  rw [Directory.contains, h.get?_fileOf hcontents]
  rfl

/-- A host that was asked for has its file, if it is valid. -/
theorem Stepped.contains_host (h : Stepped crypto call s next)
    (hvalid : HostName.isValid call.host = true) :
    next.directory.contains (fileOf call.host) = true := by
  cases hfile : s.directory.contains (fileOf call.host) with
  | true => exact h.contains_fileOf hfile
  | false =>
    obtain ⟨_, text, -, htext⟩ := (h.mints hvalid hfile).signed
    rw [Directory.contains, htext]
    rfl

/-- The file of a host that is not asked for stays as it is, or stays away. -/
theorem Stepped.get?_other (h : Stepped crypto call s next) (hother : host ≠ call.host) :
    next.directory.get? (fileOf host) = s.directory.get? (fileOf host) := by
  rcases h.cases with ⟨-, hdirectory, -⟩ | ⟨-, -, hmints⟩
  · rw [hdirectory]
  · exact hmints.others _ (fun heq => hother (fileOf_inj.mp heq)) (fileOf_ne_temporaryFileOf _ _)

/-- A store that has the same configurations behind a call presents what it presented. -/
theorem Stepped.presents (h : Stepped crypto call s next) (hpresents : s.Presents)
    (hconfigs : next.configs = s.configs) : next.Presents := by
  intro host config hlookup
  rw [hconfigs] at hlookup
  obtain ⟨hvalid, hfile⟩ := hpresents host config hlookup
  exact ⟨hvalid, h.contains_fileOf hfile⟩

/-- Asking for the file of a host takes a step. It gives the file of every valid host. -/
theorem certificateFile_stepped (hsmooth : call.Smooth crypto) :
    ∃ next, Stepped crypto call s next ∧ next.configs = s.configs ∧
      (HostName.isValid call.host = false → next = s ∧
        s.certificateFile crypto call.clock call.host =
          (s, .error (.invalidHost call.host))) ∧
      (HostName.isValid call.host = true →
        s.certificateFile crypto call.clock call.host = (next, .ok (fileOf call.host))) := by
  cases hvalid : HostName.isValid call.host with
  | false =>
    exact ⟨s, .refl (.inl hvalid), rfl, fun _ => ⟨rfl, certificateFile_of_invalid hvalid⟩, nofun⟩
  | true =>
    cases hfile : s.directory.contains (fileOf call.host) with
    | true =>
      exact ⟨s, .refl (.inr hfile), rfl, nofun, fun _ => certificateFile_of_contains hvalid hfile⟩
    | false =>
      obtain ⟨next, hmade, hmints, hconfigs⟩ :=
        certificateFile_of_absent hvalid hfile (hsmooth.signs hvalid) (hsmooth.fits hvalid)
      refine ⟨next, ⟨fun hquiet => ?_, fun _ _ => hmints, fun host config h => ?_⟩, hconfigs, nofun,
        fun _ => hmade⟩
      · rw [hvalid, hfile] at hquiet
        simp at hquiet
      · rw [hconfigs]
        exact h

/-- A call for a host that is not valid is refused, and leaves the store as it is. -/
theorem answer_of_invalid (hpresents : s.Presents) (h : HostName.isValid call.host = false) :
    s.answer crypto call = (s, .error (.invalidHost call.host)) := by
  cases call with
  | file host clock =>
    have hrefused : s.certificateFile crypto clock host = _ := certificateFile_of_invalid h
    rw [answer, hrefused]
    rfl
  | config host clock =>
    have hrefused : s.certificateFile crypto clock host = _ := certificateFile_of_invalid h
    have hnone : s.configs.lookup host = none := by
      cases hlookup : s.configs.lookup host with
      | none => rfl
      | some config => cases h.symm.trans (hpresents host config hlookup).1
    rw [answer, tlsConfig, hnone]
    simp only [hrefused]
    rfl

/-- A configuration is found behind those of other hosts. -/
theorem lookup_append {l : List (String × TlsConfig)} (host other : String) (config : TlsConfig) :
    (l ++ [(other, config)]).lookup host =
      (l.lookup host).or (if host = other then some config else none) := by
  rw [List.lookup_append]
  by_cases h : host = other
  · simp [h]
  · have hskip : (host == other) = false := beq_eq_false_iff_ne.mpr h
    simp [List.lookup_cons, hskip, h]

/-- A step may end with a new configuration of the host. -/
theorem Stepped.configure (h : Stepped crypto call s next) (config : TlsConfig) :
    Stepped crypto call s
      { next with configs := next.configs ++ [(call.host, config)] } := by
  refine ⟨h.idle, fun hvalid habsent => ?_, fun host old hold => ?_⟩
  · obtain ⟨hsigned, hcleared, hothers, hcounted⟩ := h.mints hvalid habsent
    exact ⟨hsigned, hcleared, hothers, hcounted⟩
  · rw [lookup_append, h.configs host old hold]
    rfl

/-- A store presents a new configuration of a valid host whose file is there. -/
theorem Presents.configure (h : s.Presents) (hvalid : HostName.isValid host = true)
    (hfile : s.directory.contains (fileOf host) = true) (config : TlsConfig) :
    Presents { s with configs := s.configs ++ [(host, config)] } := by
  intro other found hlookup
  rw [lookup_append] at hlookup
  cases hold : s.configs.lookup other with
  | some old => exact h other old hold
  | none =>
    rw [hold, Option.none_or] at hlookup
    split at hlookup
    next heq =>
      subst heq
      exact ⟨hvalid, hfile⟩
    next => cases hlookup

/-- Every call takes a step, and what the store presents stays backed by files. -/
theorem Presents.after (hpresents : s.Presents) (hsmooth : call.Smooth crypto) :
    Stepped crypto call s (s.after crypto call) ∧ (s.after crypto call).Presents := by
  cases hvalid : HostName.isValid call.host with
  | false =>
    rw [CertificateStore.after, answer_of_invalid hpresents hvalid]
    exact ⟨.refl (.inl hvalid), hpresents⟩
  | true =>
    obtain ⟨next, hstepped, hconfigs, -, hmade⟩ := certificateFile_stepped (s := s) hsmooth
    replace hmade := hmade hvalid
    have hnext := hstepped.presents hpresents hconfigs
    cases call with
    | file host clock =>
      have hafter : s.after crypto (.file host clock) = next := congrArg Prod.fst hmade
      rw [hafter]
      exact ⟨hstepped, hnext⟩
    | config host clock =>
      have hmid : (s.certificateFile crypto clock host).1 = next := congrArg Prod.fst hmade
      change Stepped crypto (.config host clock) s (s.tlsConfig crypto clock host).1 ∧
        (s.tlsConfig crypto clock host).1.Presents
      cases hlookup : s.configs.lookup host with
      | some config =>
        have hgiven : s.tlsConfig crypto clock host = (s, .ok config) := by
          simp only [tlsConfig, hlookup]
        rw [hgiven]
        exact ⟨.refl (.inr (hpresents host config hlookup).2), hpresents⟩
      | none =>
        rcases tlsConfig_cases crypto clock hlookup with
          ⟨fault, hended⟩ | ⟨file, config, -, hended⟩
        · rw [hended, hmid]
          exact ⟨hstepped, hnext⟩
        · rw [hended, hmid]
          exact ⟨hstepped.configure config,
            hnext.configure hvalid (hstepped.contains_host hvalid) config⟩

/-- A loaded store presents nothing yet. -/
theorem presents_ofMaterial (m : LoadedMaterial) : (ofMaterial m).Presents :=
  nofun

section Runs

/-- All calls can be served. -/
def AllSmooth (crypto : Cryptography) (calls : List Call) : Prop :=
  ∀ call ∈ calls, call.Smooth crypto

variable (hsmooth : AllSmooth crypto calls)
include hsmooth

/-- What holds of a store and is kept by every step holds of it after all calls. -/
theorem run_induct {motive : CertificateStore → Prop}
    (hstep : ∀ (s next : CertificateStore), ∀ call ∈ calls, motive s → Stepped crypto call s next →
      motive next) (hpresents : s.Presents) (hs : motive s) :
    (s.run crypto calls).Presents ∧ motive (s.run crypto calls) := by
  induction calls generalizing s with
  | nil => exact ⟨hpresents, hs⟩
  | cons call calls ih =>
    obtain ⟨hcall, hcalls⟩ := List.forall_mem_cons.mp hsmooth
    obtain ⟨hstepped, hnext⟩ := hpresents.after hcall
    exact ih hcalls (fun s next call h => hstep s next call (List.mem_cons_of_mem _ h)) hnext
      (hstep _ _ call List.mem_cons_self hs hstepped)

/-- A file that is there stays as it is. -/
theorem get?_run (hpresents : s.Presents)
    (hfile : s.directory.get? (fileOf host) = some contents) :
    (s.run crypto calls).directory.get? (fileOf host) = some contents :=
  (run_induct (motive := fun s => s.directory.get? (fileOf host) = some contents) hsmooth
    (fun _ _ _ _ h hstepped => hstepped.get?_fileOf h) hpresents hfile).2

/-- A configuration stays. -/
theorem lookup_run (hpresents : s.Presents) (hlookup : s.configs.lookup host = some config) :
    (s.run crypto calls).configs.lookup host = some config :=
  (run_induct (motive := fun s => s.configs.lookup host = some config) hsmooth
    (fun _ _ _ _ h hstepped => hstepped.configs _ _ h) hpresents hlookup).2

/-- A valid host has its file once it was asked for. -/
theorem contains_run (hpresents : s.Presents) (hcall : call ∈ calls)
    (hvalid : HostName.isValid call.host = true) :
    (s.run crypto calls).directory.contains (fileOf call.host) = true := by
  induction calls generalizing s with
  | nil => cases hcall
  | cons first calls ih =>
    obtain ⟨hfirst, hcalls⟩ := List.forall_mem_cons.mp hsmooth
    obtain ⟨hstepped, hnext⟩ := hpresents.after hfirst
    rcases List.mem_cons.mp hcall with rfl | hcall
    · obtain ⟨contents, hcontents⟩ :=
        Option.isSome_iff_exists.mp (hstepped.contains_host hvalid)
      have hkept := get?_run hcalls hnext hcontents
      rw [Directory.contains]
      exact Option.isSome_iff_exists.mpr ⟨contents, hkept⟩
    · exact ih hcalls hnext hcall

end Runs

/-- The hosts that certificates are made for: the valid ones that are asked for and have no file
yet. -/
def due (d : Directory) (calls : List Call) : Finset String :=
  (calls.map (·.host)).toFinset.filter fun host =>
    HostName.isValid host = true ∧ d.contains (fileOf host) = false

theorem mem_due {d : Directory} : host ∈ due d calls ↔ (∃ call ∈ calls, call.host = host) ∧
    HostName.isValid host = true ∧ d.contains (fileOf host) = false := by
  simp [due]

/-- Once a host has its certificate, the others are still due. -/
theorem Stepped.card_due (h : Stepped crypto call s next) :
    next.minted + (due next.directory calls).card =
      s.minted + (due s.directory (call :: calls)).card := by
  rcases h.cases with ⟨hquiet, hdirectory, hminted⟩ | ⟨hvalid, habsent, hmints⟩
  · have hdue : due s.directory (call :: calls) = due next.directory calls := by
      ext host
      rw [hdirectory, mem_due, mem_due]
      constructor
      · rintro ⟨⟨c, hc, rfl⟩, hvalid, habsent⟩
        rcases List.mem_cons.mp hc with rfl | hc
        · rw [hvalid, habsent] at hquiet
          simp at hquiet
        · exact ⟨⟨c, hc, rfl⟩, hvalid, habsent⟩
      · rintro ⟨⟨c, hc, rfl⟩, h⟩
        exact ⟨⟨c, List.mem_cons_of_mem _ hc, rfl⟩, h⟩
    rw [hdue, hminted]
  · -- The host is due no more, and every other host is due as before.
    have hthere := h.contains_host hvalid
    have hdue : due s.directory (call :: calls) = insert call.host (due next.directory calls) := by
      ext host
      rw [Finset.mem_insert, mem_due, mem_due]
      by_cases hhost : host = call.host
      · subst hhost
        exact iff_of_true ⟨⟨call, List.mem_cons_self, rfl⟩, hvalid, habsent⟩ (.inl rfl)
      · have hfile : next.directory.contains (fileOf host) =
            s.directory.contains (fileOf host) := by
          rw [Directory.contains, Directory.contains, h.get?_other hhost]
        simp [hfile, hhost, Ne.symm hhost]
    have hnew : call.host ∉ due next.directory calls := by
      rw [mem_due, hthere]
      simp
    rw [hdue, Finset.card_insert_of_notMem hnew, hmints.counted]
    omega

/-- As many certificates are made as were due. -/
theorem minted_run (hsmooth : AllSmooth crypto calls) (hpresents : s.Presents) :
    (s.run crypto calls).minted = s.minted + (due s.directory calls).card := by
  induction calls generalizing s with
  | nil => rfl
  | cons call calls ih =>
    obtain ⟨hcall, hcalls⟩ := List.forall_mem_cons.mp hsmooth
    obtain ⟨hstepped, hnext⟩ := hpresents.after hcall
    rw [← hstepped.card_due]
    exact ih hcalls hnext

/-- The call is the first one for its host, which is valid and has no file at that time. -/
structure Due (crypto : Cryptography) (first : CertificateStore) (before : List Call)
    (call : Call) : Prop where
  valid : HostName.isValid call.host = true
  new : ∀ earlier ∈ before, earlier.host ≠ call.host
  absent : (first.run crypto before).directory.contains (fileOf call.host) = false

/-- What holds of all calls of a store. -/
structure MintingLaws (crypto : Cryptography) (first : CertificateStore) (calls : List Call) :
    Prop where
  /-- The file of a host, once it is there, keeps its contents. -/
  kept : ∀ before later host contents, calls = before ++ later →
    (first.run crypto before).directory.get? (fileOf host) = some contents →
    (first.run crypto calls).directory.get? (fileOf host) = some contents
  /-- The first call for a valid host whose file is not there makes one certificate. -/
  minted : ∀ before call later, calls = before ++ call :: later → Due crypto first before call →
    Mints crypto call.host call.clock (first.run crypto before)
      ((first.run crypto before).after crypto call)
  /-- No other call makes one, or changes a file. -/
  idle : ∀ before call later, calls = before ++ call :: later → ¬ Due crypto first before call →
    ((first.run crypto before).after crypto call).directory = (first.run crypto before).directory ∧
      ((first.run crypto before).after crypto call).minted = (first.run crypto before).minted
  /-- The certificates are counted: there is one for each valid host that was asked for and whose
  file was not there. -/
  counted : (first.run crypto calls).minted = first.minted + (due first.directory calls).card
  /-- The file of a host that was not asked for yet is there if it was there at first. -/
  unasked : ∀ host, (∀ call ∈ calls, call.host ≠ host) →
    (first.run crypto calls).directory.get? (fileOf host) = first.directory.get? (fileOf host)
  /-- A host that is not valid is refused, and nothing changes. -/
  refused : ∀ before call later, calls = before ++ call :: later →
    HostName.isValid call.host = false →
    (first.run crypto before).answer crypto call =
      (first.run crypto before, .error (.invalidHost call.host))
  /-- The file of a valid host is given, and is there. -/
  given : ∀ before host clock later, calls = before ++ .file host clock :: later →
    HostName.isValid host = true →
    ((first.run crypto before).answer crypto (.file host clock)).2 = .ok (.file (fileOf host)) ∧
      ((first.run crypto before).after crypto (.file host clock)).directory.contains
        (fileOf host) = true
  /-- No call leaves a temporary file that was not there before. -/
  cleared : ∀ before call later, calls = before ++ call :: later → ∀ host contents,
    ((first.run crypto before).after crypto call).directory.get? (temporaryFileOf host) =
      some contents →
    (first.run crypto before).directory.get? (temporaryFileOf host) = some contents
  /-- A configuration that was given for a host is given ever after. -/
  same : ∀ before host clock later config, calls = before ++ .config host clock :: later →
    ((first.run crypto before).answer crypto (.config host clock)).2 = .ok (.config config) →
    ∀ clock', (first.run crypto calls).answer crypto (.config host clock') =
      (first.run crypto calls, .ok (.config config))

/-- A first call for a host finds no file unless there was one at first. -/
theorem get?_unasked (hsmooth : AllSmooth crypto calls) (hpresents : s.Presents)
    (hunasked : ∀ call ∈ calls, call.host ≠ host) :
    (s.run crypto calls).directory.get? (fileOf host) = s.directory.get? (fileOf host) :=
  (run_induct (motive := fun next => next.directory.get? (fileOf host) =
      s.directory.get? (fileOf host)) hsmooth
    (fun _ _ call hcall h hstepped =>
      (hstepped.get?_other (hunasked call hcall).symm).trans h) hpresents rfl).2

/-- No step leaves a temporary file. -/
theorem Stepped.temporary (h : Stepped crypto call s next)
    (hfile : next.directory.get? (temporaryFileOf host) = some contents) :
    s.directory.get? (temporaryFileOf host) = some contents := by
  rcases h.cases with ⟨-, hdirectory, -⟩ | ⟨-, -, hmints⟩
  · rw [← hdirectory]
    exact hfile
  · have hother : temporaryFileOf host ≠ temporaryFileOf call.host := by
      intro heq
      rw [heq, hmints.cleared] at hfile
      cases hfile
    rw [← hmints.others _ (fileOf_ne_temporaryFileOf _ _).symm hother]
    exact hfile

/-- A configuration that is given is kept. -/
theorem lookup_of_answer
    (h : (s.answer crypto (.config host clock)).2 = .ok (.config config)) :
    (s.after crypto (.config host clock)).configs.lookup host = some config := by
  obtain ⟨given, hgiven, hconfig⟩ := Fallible.map_eq_ok.mp h
  cases hconfig
  change (s.tlsConfig crypto clock host).1.configs.lookup host = some config
  cases hlookup : s.configs.lookup host with
  | some old =>
    simp only [tlsConfig, hlookup] at hgiven ⊢
    rw [Except.ok.inj hgiven]
  | none =>
    rcases tlsConfig_cases crypto clock hlookup with
      ⟨fault, hended⟩ | ⟨file, made, -, hended⟩
    · rw [hended] at hgiven
      cases hgiven
    · rw [hended] at hgiven ⊢
      cases hgiven
      rw [lookup_append, certificateFile_configs, hlookup, Option.none_or, if_pos rfl]

/-- A configuration that is kept is given. -/
theorem answer_of_lookup (h : s.configs.lookup host = some config) (clock : Int) :
    s.answer crypto (.config host clock) = (s, .ok (.config config)) := by
  simp only [answer, tlsConfig, h]
  rfl

/-- The store after some calls is the one after the later ones of them from where the earlier
ones led. -/
theorem run_append (first : CertificateStore) (crypto : Cryptography)
    (before later : List Call) :
    first.run crypto (before ++ later) = (first.run crypto before).run crypto later :=
  List.foldl_append

/-- **Certificates are made once.** Whatever a loaded store is asked for, as long as certificates
can be signed and written: files that are there are never changed, each valid host without a file
gets one certificate at the first call for it and all other calls make none, hosts that are not
valid are refused, no temporary file is left, and a configuration is given again once it was
given. -/
theorem mintingLaws (crypto : Cryptography) (m : LoadedMaterial) (calls : List Call)
    (hsmooth : AllSmooth crypto calls) : MintingLaws crypto (ofMaterial m) calls := by
  have hfirst := presents_ofMaterial m
  -- every call of the list comes to a store that presents what it has files for
  have hreached {before later : List Call} (hcalls : calls = before ++ later) :
      AllSmooth crypto before ∧ AllSmooth crypto later ∧
        ((ofMaterial m).run crypto before).Presents := by
    rw [hcalls] at hsmooth
    obtain ⟨hbefore, hlater⟩ := List.forall_mem_append.mp hsmooth
    have hpresents := run_induct (motive := fun _ => True) hbefore (fun _ _ _ _ _ _ => trivial)
      hfirst trivial
    exact ⟨hbefore, hlater, hpresents.1⟩
  have hstepped {before later : List Call} {call : Call}
      (hcalls : calls = before ++ call :: later) :
      Stepped crypto call ((ofMaterial m).run crypto before)
        (((ofMaterial m).run crypto before).after crypto call) := by
    obtain ⟨-, hlater, hpresents⟩ := hreached hcalls
    exact (hpresents.after (hlater call List.mem_cons_self)).1
  constructor
  case kept =>
    intro before later host contents hcalls hfile
    obtain ⟨-, hlater, hpresents⟩ := hreached hcalls
    rw [hcalls, run_append]
    exact get?_run hlater hpresents hfile
  case minted =>
    intro before call later hcalls hdue
    exact (hstepped hcalls).mints hdue.valid hdue.absent
  case idle =>
    intro before call later hcalls hdue
    rcases (hstepped hcalls).cases with ⟨-, hidle⟩ | ⟨hvalid, habsent, -⟩
    · exact hidle
    · refine absurd ⟨hvalid, fun earlier hearlier hhost => ?_, habsent⟩ hdue
      obtain ⟨hbefore, -, -⟩ := hreached hcalls
      have hthere := contains_run hbefore hfirst hearlier (hhost ▸ hvalid)
      rw [hhost, habsent] at hthere
      cases hthere
  case counted => exact minted_run hsmooth hfirst
  case unasked => exact fun host => get?_unasked hsmooth hfirst
  case refused =>
    intro before call later hcalls hinvalid
    exact answer_of_invalid (hreached hcalls).2.2 hinvalid
  case given =>
    intro before host clock later hcalls hvalid
    obtain ⟨-, hlater, -⟩ := hreached hcalls
    have hgiven := certificateFile_stepped (s := (ofMaterial m).run crypto before)
      (hlater _ List.mem_cons_self)
    obtain ⟨next, -, -, -, hmade⟩ := hgiven
    refine ⟨?_, (hstepped hcalls).contains_host hvalid⟩
    exact congrArg (fun made => made.2.map Answer.file) (hmade hvalid)
  case cleared => exact fun before call later hcalls host contents => (hstepped hcalls).temporary
  case same =>
    intro before host clock later config hcalls hgiven clock'
    obtain ⟨-, hlater, hpresents⟩ := hreached hcalls
    obtain ⟨hcall, hrest⟩ := List.forall_mem_cons.mp hlater
    refine answer_of_lookup ?_ clock'
    have hkept := lookup_run hrest (hpresents.after hcall).2 (lookup_of_answer hgiven)
    rw [hcalls, run_append]
    exact hkept

section Witness

/-- Cryptography that takes everything for genuine and signs everything alike. -/
def trusting : Cryptography where
  isKey _ := true
  isCertificate _ := true
  sign _ := some (Utf8.encode
    "-----BEGIN CERTIFICATE-----\nAAAA\n-----END CERTIFICATE-----\n")

/-- Material with the file of one host. -/
def oneFile : LoadedMaterial :=
  ⟨[], [], ⟨[(fileOf "b", [1])]⟩⟩

/-- Calls for two hosts without files, in different ways, for one with a file, and for one that is
not valid. The clock stands still and goes back. -/
def mixedCalls : List Call :=
  [.file "a" 1, .config "c.d" 1, .config "a" 1, .file "b" 7, .file ".." 3, .config "c.d" 0]

/-- Certificates are made for two hosts. -/
theorem mintingLaws_trusting : AllSmooth trusting mixedCalls ∧
    MintingLaws trusting (ofMaterial oneFile) mixedCalls ∧
    ((ofMaterial oneFile).run trusting mixedCalls).minted = 2 := by
  have hfits : ∀ call ∈ mixedCalls, HostName.isValid call.host = true →
      Directory.fits (temporaryFileOf call.host) = true := by
    decide +kernel
  have hsmooth : AllSmooth trusting mixedCalls :=
    fun call hcall => ⟨fun _ _ => ⟨_, rfl⟩, hfits call hcall⟩
  exact ⟨hsmooth, mintingLaws trusting oneFile mixedCalls hsmooth, by decide +kernel⟩

end Witness

end CertificateStore

end CloudEmulator
