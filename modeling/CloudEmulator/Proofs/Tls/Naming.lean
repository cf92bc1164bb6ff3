import CloudEmulator.Proofs.Tls.DistinctSerials
import CloudEmulator.Proofs.Tls.Paths

/-!
# The names of a store's files

A valid host names two files, one of its own and a temporary one. Both names are plain, so their
paths lead to entries of the directory of certificates, and no two of all these names are the
same. Whatever a store is asked for, these are the only files that it reads or writes.
-/

namespace CloudEmulator

namespace HostName

variable {host : String} {c : Char}

/-- A valid host is made of the characters that host names may have. -/
theorem isNameChar_of_mem (h : isValid host = true) (hc : c ∈ host.toList) :
    isNameChar c = true := by
  simp only [isValid, Bool.and_eq_true, List.all_eq_true] at h
  exact h.2 c hc

/-- A valid host has no slash. -/
theorem slash_notMem (h : isValid host = true) : '/' ∉ host.toList := fun hc =>
  Bool.false_ne_true (isNameChar_of_mem h hc)

end HostName

namespace CertificateStore

variable {s t : CertificateStore} {crypto : Cryptography} {host other file : String}
  {clock : ℤ} {call : Call} {calls : List Call} {P : String → Prop}

section Paths

/-- Some name of more than two characters without a slash is plain. -/
theorem isPlain_of_length {name : String} (hslash : '/' ∉ name.toList) (hlong : 2 < name.length) :
    Path.IsPlain name := by
  refine ⟨hslash, ?_, ?_, ?_⟩ <;>
    · rintro rfl
      revert hlong
      decide

/-- The file of a valid host has a plain name. -/
theorem isPlain_fileOf (h : HostName.isValid host = true) : Path.IsPlain (fileOf host) := by
  refine isPlain_of_length ?_ ?_
  · simpa [fileOf] using HostName.slash_notMem h
  · rw [fileOf, String.length_append]
    exact Nat.lt_add_left _ (by decide)

/-- So has its temporary file. -/
theorem isPlain_temporaryFileOf (h : HostName.isValid host = true) :
    Path.IsPlain (temporaryFileOf host) := by
  rw [temporaryFileOf_eq (ne_empty_of_isValid h)]
  refine isPlain_of_length ?_ ?_
  · simpa using (isPlain_fileOf h).slash
  · rw [String.length_append]
    exact Nat.lt_add_left _ (by decide)

/-- Different hosts have different temporary files. -/
theorem temporaryFileOf_inj (h : HostName.isValid host = true)
    (hother : HostName.isValid other = true) :
    temporaryFileOf host = temporaryFileOf other ↔ host = other := by
  refine ⟨fun heq => ?_, congrArg temporaryFileOf⟩
  rw [temporaryFileOf_eq (ne_empty_of_isValid h),
    temporaryFileOf_eq (ne_empty_of_isValid hother)] at heq
  have hlist := congrArg String.toList heq
  simp only [String.toList_append] at hlist
  exact fileOf_inj.mp (String.toList_injective (List.append_cancel_right hlist))

/-- The path of a valid host's certificate has its name behind the directory of certificates. -/
theorem certificatePath_eq (h : HostName.isValid host = true) (directory : String) :
    certificatePath directory host =
      Path.join directory Material.certificateDirectory ++ "/" ++ fileOf host := by
  have hlast : Material.certificateDirectory.toList.getLast? = some 's' := by decide
  exact (isPlain_fileOf h).join (Path.getLast?_join hlast directory) (by decide)

/-- With another ending, the path has the name of the temporary file there. -/
theorem temporaryPath_eq (h : HostName.isValid host = true) (directory : String) :
    temporaryPath directory host =
      Path.join directory Material.certificateDirectory ++ "/" ++ temporaryFileOf host := by
  rw [temporaryPath, certificatePath_eq h, Path.mapName_behind (isPlain_fileOf h).slash,
    temporaryFileOf]

/-- A plain name behind the directory of certificates leads to an entry of it. -/
theorem follow_certificates {name : String} (hname : Path.IsPlain name) (place : List String)
    (directory : String) :
    Path.follow place (Path.join directory Material.certificateDirectory ++ "/" ++ name) =
      name :: Path.follow place (Path.join directory Material.certificateDirectory) := by
  have hlast : (Path.join directory Material.certificateDirectory).toList.getLast? = some 's' :=
    Path.getLast?_join (by decide) directory
  have hsome : Path.join directory Material.certificateDirectory ≠ "" := by
    intro hempty
    rw [hempty] at hlast
    cases hlast
  rw [Path.follow_behind hsome hname.slash, hname.enter]

end Paths

section Writes

/-- Without room for the name of the temporary file nothing is saved. -/
theorem save_of_not_fits (h : Directory.fits (temporaryFileOf host) = false) (s : CertificateStore)
    (text : Bytes) : s.save host text = (s, .error (.file (temporaryFileOf host))) := by
  have hwrite : s.directory.write? (temporaryFileOf host) text = none := by
    rw [Directory.write?, h, if_neg Bool.false_ne_true]
  rw [save, hwrite]

/-- The ways in which asking for the file of a host ends. -/
inductive FileEnds (crypto : Cryptography) (clock : ℤ) (host : String) (s : CertificateStore) :
    CertificateStore × Except CertificateError String → Prop
  | refused (hvalid : HostName.isValid host = false) :
      FileEnds crypto clock host s (s, .error (.invalidHost host))
  | given (hvalid : HostName.isValid host = true) (hlacks : s.lacks host = false) :
      FileEnds crypto clock host s (s, .ok (fileOf host))
  | unsigned (hlacks : s.lacks host = true) :
      FileEnds crypto clock host s ((s.takeSerial clock).1, .error .generation)
  /-- The name of the temporary file is too long. -/
  | unfit (hlacks : s.lacks host = true)
      (hfits : Directory.fits (temporaryFileOf host) = false) :
      FileEnds crypto clock host s
        ((s.takeSerial clock).1, .error (.file (temporaryFileOf host)))
  | minted {next : CertificateStore} (hlacks : s.lacks host = true)
      (hfits : Directory.fits (temporaryFileOf host) = true)
      (hmints : Mints crypto host clock s next) :
      FileEnds crypto clock host s (next, .ok (fileOf host))

/-- It ends in one of these ways. -/
theorem certificateFile_ends (s : CertificateStore) (crypto : Cryptography) (clock : ℤ)
    (host : String) : FileEnds crypto clock host s (s.certificateFile crypto clock host) := by
  cases hlacks : s.lacks host with
  | false =>
    rw [certificateFile_of_not_lacks hlacks]
    cases hvalid : HostName.isValid host with
    | false => exact .refused hvalid
    | true => exact .given hvalid hlacks
  | true =>
    rw [certificateFile_of_lacks hlacks]
    cases hsigned : crypto.sign (s.draft clock host) with
    | none => exact .unsigned hlacks
    | some text =>
      dsimp only
      cases hfits : Directory.fits (temporaryFileOf host) with
      | false =>
        rw [save_of_not_fits hfits]
        exact .unfit hlacks hfits
      | true =>
        have hvalid := (Bool.and_eq_true_iff.mp hlacks).1
        obtain ⟨directory, hsaved, hown, hcleared, hothers⟩ :=
          save_mints (s.takeSerial clock).1 text (ne_empty_of_isValid hvalid) hfits
        rw [hsaved]
        exact .minted hlacks hfits ⟨⟨_, text, hsigned, hown⟩, hcleared, hothers, rfl⟩

/-- Asking for a file leaves the directory as it is, unless the file lacks, the name of the
temporary file fits and a certificate is made. -/
theorem certificateFile_directory (s : CertificateStore) (crypto : Cryptography) (clock : ℤ)
    (host : String) :
    (s.certificateFile crypto clock host).1.directory = s.directory ∨
      s.lacks host = true ∧ Directory.fits (temporaryFileOf host) = true ∧
        Mints crypto host clock s (s.certificateFile crypto clock host).1 := by
  have hends := s.certificateFile_ends crypto clock host
  generalize s.certificateFile crypto clock host = made at hends ⊢
  cases hends with
  | refused => exact .inl rfl
  | given => exact .inl rfl
  | unsigned => exact .inl rfl
  | unfit => exact .inl rfl
  | minted hlacks hfits hmints => exact .inr ⟨hlacks, hfits, hmints⟩

/-- A call leaves the directory as it is, unless it makes a certificate for a host that lacks its
file. -/
theorem directory_after (s : CertificateStore) (crypto : Cryptography) (call : Call) :
    (s.after crypto call).directory = s.directory ∨
      s.lacks call.host = true ∧ Directory.fits (temporaryFileOf call.host) = true ∧
        Mints crypto call.host call.clock s (s.after crypto call) := by
  cases call with
  | file host clock => exact s.certificateFile_directory crypto clock host
  | config host clock =>
    change (s.tlsConfig crypto clock host).1.directory = s.directory ∨ s.lacks host = true ∧
      Directory.fits (temporaryFileOf host) = true ∧
        Mints crypto host clock s (s.tlsConfig crypto clock host).1
    have hfile := s.certificateFile_directory crypto clock host
    cases hlookup : s.configs.lookup host with
    | some config =>
      have hgiven : s.tlsConfig crypto clock host = (s, .ok config) := by
        simp only [tlsConfig, hlookup]
      rw [hgiven]
      exact .inl rfl
    | none =>
      rcases tlsConfig_cases crypto clock hlookup with ⟨fault, hended⟩ | ⟨file, config, -, hended⟩
      · rw [hended]
        exact hfile
      · rw [hended]
        rcases hfile with hsame | ⟨hlacks, hfits, hsigned, hcleared, hothers, hcounted⟩
        · exact .inl hsame
        · exact .inr ⟨hlacks, hfits, hsigned, hcleared, hothers, hcounted⟩

/-- The name is the name of a file of a valid host that some call is for. -/
def Reaches (calls : List Call) (name : String) : Prop :=
  ∃ call ∈ calls, HostName.isValid call.host = true ∧
    (name = fileOf call.host ∨ name = temporaryFileOf call.host)

/-- No call writes a file that is not one of its host. -/
theorem get?_after {name : String} (hname : ¬ Reaches [call] name) (s : CertificateStore)
    (crypto : Cryptography) :
    (s.after crypto call).directory.get? name = s.directory.get? name := by
  rcases s.directory_after crypto call with hsame | ⟨hlacks, -, hmints⟩
  · rw [hsame]
  · have hvalid := (Bool.and_eq_true_iff.mp hlacks).1
    refine hmints.others name (fun hfile => hname ?_) (fun htemporary => hname ?_)
    · exact ⟨call, List.mem_singleton_self _, hvalid, .inl hfile⟩
    · exact ⟨call, List.mem_singleton_self _, hvalid, .inr htemporary⟩

/-- No calls write a file that is not one of their hosts. -/
theorem get?_run_of_not_reaches {name : String} (hname : ¬ Reaches calls name)
    (s : CertificateStore) (crypto : Cryptography) :
    (s.run crypto calls).directory.get? name = s.directory.get? name := by
  induction calls generalizing s with
  | nil => rfl
  | cons call calls ih =>
    have hcall : ¬ Reaches [call] name := by
      rintro ⟨c, hc, hreach⟩
      obtain rfl := List.mem_singleton.mp hc
      exact hname ⟨c, List.mem_cons_self, hreach⟩
    have hcalls : ¬ Reaches calls name := by
      rintro ⟨c, hc, hreach⟩
      exact hname ⟨c, List.mem_cons_of_mem _ hc, hreach⟩
    exact (ih hcalls (s.after crypto call)).trans (get?_after hcall s crypto)

end Writes

section Reads

/-- The stores differ in no more than files whose names are not among those that count. -/
structure Alike (P : String → Prop) (s t : CertificateStore) : Prop where
  files : ∀ name, P name → t.directory.get? name = s.directory.get? name
  rest : t = { s with directory := t.directory }

/-- A store with another directory is alike where the files that count are. -/
theorem alike_withDirectory {d : Directory}
    (h : ∀ name, P name → d.get? name = s.directory.get? name) :
    Alike P s { s with directory := d } :=
  ⟨h, rfl⟩

/-- The stores have the same configurations. -/
theorem Alike.configs (h : Alike P s t) : t.configs = s.configs := by
  rw [h.rest]

/-- The stores have the same authority. -/
theorem Alike.authority (h : Alike P s t) : t.authority = s.authority := by
  rw [h.rest]

/-- Taking a number does not look at files. -/
theorem Alike.takeSerial (h : Alike P s t) (clock : ℤ) :
    (t.takeSerial clock).2 = (s.takeSerial clock).2 ∧
      Alike P (s.takeSerial clock).1 (t.takeSerial clock).1 := by
  obtain ⟨hfiles, hrest⟩ := h
  rw [hrest]
  exact ⟨rfl, hfiles, rfl⟩

/-- The same certificates are signed. -/
theorem Alike.draft (h : Alike P s t) (clock : ℤ) (host : String) :
    t.draft clock host = s.draft clock host := by
  rw [CertificateStore.draft, CertificateStore.draft, (h.takeSerial clock).1]

/-- The same hosts lack their files, among those whose files count. -/
theorem Alike.lacks (h : Alike P s t) (hfile : HostName.isValid host = true → P (fileOf host)) :
    t.lacks host = s.lacks host := by
  cases hvalid : HostName.isValid host with
  | false => simp [CertificateStore.lacks, hvalid]
  | true =>
    simp only [CertificateStore.lacks, Directory.contains]
    rw [h.files _ (hfile hvalid)]

/-- Saving a certificate does not look at other files than those that it writes. -/
theorem Alike.save (h : Alike P s t) (hhost : host ≠ "") (text : Bytes) :
    (t.save host text).2 = (s.save host text).2 ∧
      Alike P (s.save host text).1 (t.save host text).1 := by
  cases hfits : Directory.fits (temporaryFileOf host) with
  | false =>
    rw [save_of_not_fits hfits, save_of_not_fits hfits]
    exact ⟨rfl, h⟩
  | true =>
    obtain ⟨d, hsaved, hown, hcleared, hothers⟩ := save_mints s text hhost hfits
    obtain ⟨d', hsaved', hown', hcleared', hothers'⟩ := save_mints t text hhost hfits
    rw [hsaved, hsaved']
    refine ⟨rfl, fun name hname => ?_, ?_⟩
    · by_cases hfile : name = fileOf host
      · rw [hfile, hown, hown']
      · by_cases htemporary : name = temporaryFileOf host
        · rw [htemporary, hcleared, hcleared']
        · rw [hothers name hfile htemporary, hothers' name hfile htemporary]
          exact h.files name hname
    · rw [h.rest]

/-- Asking for the file of a host does not look at files of other names. -/
theorem Alike.certificateFile (h : Alike P s t)
    (hfile : HostName.isValid host = true → P (fileOf host)) (crypto : Cryptography) (clock : ℤ) :
    (t.certificateFile crypto clock host).2 = (s.certificateFile crypto clock host).2 ∧
      Alike P (s.certificateFile crypto clock host).1 (t.certificateFile crypto clock host).1 := by
  have hsame := h.lacks hfile
  cases hlacks : s.lacks host with
  | false =>
    rw [certificateFile_of_not_lacks hlacks, certificateFile_of_not_lacks (hsame.trans hlacks)]
    exact ⟨rfl, h⟩
  | true =>
    rw [certificateFile_of_lacks hlacks, certificateFile_of_lacks (hsame.trans hlacks), h.draft]
    obtain ⟨-, htaken⟩ := h.takeSerial clock
    cases crypto.sign (s.draft clock host) with
    | none => exact ⟨rfl, htaken⟩
    | some text =>
      exact htaken.save (ne_empty_of_isValid (Bool.and_eq_true_iff.mp hlacks).1) text

/-- A file that is given is that of the host, which is valid. -/
theorem eq_of_certificateFile (h : (s.certificateFile crypto clock host).2 = .ok file) :
    HostName.isValid host = true ∧ file = fileOf host := by
  have hends := s.certificateFile_ends crypto clock host
  generalize s.certificateFile crypto clock host = made at hends h
  cases hends with
  | refused => cases h
  | given hvalid => exact ⟨hvalid, (Except.ok.inj h).symm⟩
  | unsigned => cases h
  | unfit => cases h
  | minted hlacks => exact ⟨(Bool.and_eq_true_iff.mp hlacks).1, (Except.ok.inj h).symm⟩

/-- Asking how connections to the host present themselves does not look at files of other names
either. -/
theorem Alike.tlsConfig (h : Alike P s t)
    (hfile : HostName.isValid host = true → P (fileOf host)) (crypto : Cryptography) (clock : ℤ) :
    (t.tlsConfig crypto clock host).2 = (s.tlsConfig crypto clock host).2 ∧
      Alike P (s.tlsConfig crypto clock host).1 (t.tlsConfig crypto clock host).1 := by
  unfold CertificateStore.tlsConfig
  rw [h.configs]
  cases s.configs.lookup host with
  | some config => exact ⟨rfl, h⟩
  | none =>
    have hgiven (file : String) (hok : (s.certificateFile crypto clock host).2 = .ok file) :
        P file := by
      obtain ⟨hvalid, rfl⟩ := eq_of_certificateFile hok
      exact hfile hvalid
    obtain ⟨houtcome, hmid⟩ := h.certificateFile hfile crypto clock
    -- both stores come to the same outcome, and to stores that are alike
    revert hgiven houtcome hmid
    generalize s.certificateFile crypto clock host = made
    generalize t.certificateFile crypto clock host = made'
    obtain ⟨mid, outcome⟩ := made
    obtain ⟨mid', outcome'⟩ := made'
    rintro hgiven rfl hmid
    cases outcome' with
    | error fault => exact ⟨rfl, hmid⟩
    | ok file =>
      have hread : mid'.presentable crypto file = mid.presentable crypto file := by
        rw [presentable, presentable, hmid.files file (hgiven file rfl)]
      dsimp only
      rw [hread, hmid.configs, hmid.authority]
      cases mid.presentable crypto file with
      | error fault => exact ⟨rfl, hmid⟩
      | ok certificate =>
        have hrest : mid' = { mid with directory := mid'.directory } := hmid.rest
        refine ⟨rfl, hmid.files, ?_⟩
        dsimp only
        rw [hrest]

/-- A call gives the same, and leaves stores that are alike, where the files that count are. -/
theorem Alike.answer (h : Alike P s t)
    (hfile : HostName.isValid call.host = true → P (fileOf call.host)) (crypto : Cryptography) :
    (t.answer crypto call).2 = (s.answer crypto call).2 ∧
      Alike P (s.after crypto call) (t.after crypto call) := by
  cases call with
  | file host clock =>
    obtain ⟨houtcome, hmid⟩ := h.certificateFile hfile crypto clock
    exact ⟨congrArg (Except.map Answer.file) houtcome, hmid⟩
  | config host clock =>
    obtain ⟨houtcome, hmid⟩ := h.tlsConfig hfile crypto clock
    exact ⟨congrArg (Except.map Answer.config) houtcome, hmid⟩

/-- The outcomes of some calls. -/
def answers (crypto : Cryptography) (s : CertificateStore) :
    List Call → List (Except CertificateError Answer)
  | [] => []
  | call :: calls => (s.answer crypto call).2 :: answers crypto (s.after crypto call) calls

/-- Calls give the same where the files of their hosts are. -/
theorem Alike.answers (h : Alike P s t)
    (hfiles : ∀ call ∈ calls, HostName.isValid call.host = true → P (fileOf call.host))
    (crypto : Cryptography) : t.answers crypto calls = s.answers crypto calls := by
  induction calls generalizing s t with
  | nil => rfl
  | cons call calls ih =>
    obtain ⟨hcall, hcalls⟩ := List.forall_mem_cons.mp hfiles
    obtain ⟨houtcome, hafter⟩ := h.answer hcall crypto
    rw [CertificateStore.answers, CertificateStore.answers, houtcome, ih hafter hcalls]

end Reads

/-- What the names of two hosts' files, and all calls of stores, come to. -/
structure NamingLaws (host other : String) : Prop where
  /-- Wherever it is followed from, the path of a certificate leads to an entry of the directory of
  certificates, named by the host. -/
  child : ∀ place directory, Path.follow place (certificatePath directory host) =
    fileOf host :: Path.follow place (Path.join directory Material.certificateDirectory)
  /-- So does the path that is made of it with another ending. -/
  temporary : ∀ place directory, Path.follow place (temporaryPath directory host) =
    temporaryFileOf host :: Path.follow place (Path.join directory Material.certificateDirectory)
  plain : Path.IsPlain (fileOf host)
  plainTemporary : Path.IsPlain (temporaryFileOf host)
  /-- Different hosts have different paths. -/
  distinct : host ≠ other → ∀ place directory,
    Path.follow place (certificatePath directory host) ≠
      Path.follow place (certificatePath directory other)
  distinctTemporary : host ≠ other → ∀ place directory,
    Path.follow place (temporaryPath directory host) ≠
      Path.follow place (temporaryPath directory other)
  /-- No temporary path is the path of a certificate. -/
  apart : ∀ place directory, Path.follow place (temporaryPath directory host) ≠
    Path.follow place (certificatePath directory other)
  /-- Whatever a store is asked for, it writes no files but those of the valid hosts it is asked
  about, -/
  unwritten : ∀ crypto (s : CertificateStore) calls name, ¬ Reaches calls name →
    (s.run crypto calls).directory.get? name = s.directory.get? name
  /-- and what other files hold does not matter for what it answers. -/
  unread : ∀ crypto (s : CertificateStore) calls (d : Directory),
    (∀ name, Reaches calls name → d.get? name = s.directory.get? name) →
    answers crypto { s with directory := d } calls = answers crypto s calls
  /-- All these files stand in the directory itself. -/
  reached : ∀ calls name, Reaches calls name → Path.IsPlain name

/-- **Names of files.** Two valid hosts have four files with plain names, all different unless the
hosts are the same. Their paths lead directly into the directory of certificates, and no host that
a store is asked about makes it read or write anything else. -/
theorem namingLaws (host other : String) (hhost : HostName.isValid host = true)
    (hother : HostName.isValid other = true) : NamingLaws host other := by
  have hchild {host : String} (h : HostName.isValid host = true) (place : List String)
      (directory : String) : Path.follow place (certificatePath directory host) =
        fileOf host :: Path.follow place (Path.join directory Material.certificateDirectory) := by
    rw [certificatePath_eq h, follow_certificates (isPlain_fileOf h)]
  have htemporary {host : String} (h : HostName.isValid host = true) (place : List String)
      (directory : String) : Path.follow place (temporaryPath directory host) =
        temporaryFileOf host ::
          Path.follow place (Path.join directory Material.certificateDirectory) := by
    rw [temporaryPath_eq h, follow_certificates (isPlain_temporaryFileOf h)]
  constructor
  case child => exact hchild hhost
  case temporary => exact htemporary hhost
  case plain => exact isPlain_fileOf hhost
  case plainTemporary => exact isPlain_temporaryFileOf hhost
  case distinct =>
    intro hne place directory heq
    rw [hchild hhost, hchild hother] at heq
    exact hne (fileOf_inj.mp (List.cons.inj heq).1)
  case distinctTemporary =>
    intro hne place directory heq
    rw [htemporary hhost, htemporary hother] at heq
    exact hne ((temporaryFileOf_inj hhost hother).mp (List.cons.inj heq).1)
  case apart =>
    intro place directory heq
    rw [htemporary hhost, hchild hother] at heq
    exact fileOf_ne_temporaryFileOf other host (List.cons.inj heq).1.symm
  case unwritten => exact fun crypto s calls name hname => get?_run_of_not_reaches hname s crypto
  case unread =>
    intro crypto s calls d hfiles
    refine (alike_withDirectory hfiles).answers (fun call hcall hvalid => ?_) crypto
    exact ⟨call, hcall, hvalid, .inl rfl⟩
  case reached =>
    rintro calls name ⟨call, -, hvalid, rfl | rfl⟩
    · exact isPlain_fileOf hvalid
    · exact isPlain_temporaryFileOf hvalid

/-- Hosts that look like the files of another one have files of their own. -/
theorem namingLaws_lookalike :
    HostName.isValid "a.crt" = true ∧ HostName.isValid "a.crt.tmp." = true ∧
      NamingLaws "a.crt" "a.crt.tmp." ∧
      Path.follow ["home"] (temporaryPath "../ca/" "a.crt") = ["a.crt.crt.tmp", "certs", "ca"] := by
  have hhost : HostName.isValid "a.crt" = true := by decide +kernel
  have hother : HostName.isValid "a.crt.tmp." = true := by decide +kernel
  exact ⟨hhost, hother, namingLaws "a.crt" "a.crt.tmp." hhost hother, by decide +kernel⟩

end CertificateStore

end CloudEmulator
