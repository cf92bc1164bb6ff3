import CloudEmulator.Proofs.Text.Encoding
import CloudEmulator.Proofs.Text.Letters
import CloudEmulator.Proofs.Tls.Naming

/-!
# How long the names of files are

A host name of up to 253 characters is valid, but the names of its files are longer than the host,
and a directory takes names of up to 255 octets. So a certificate can be stored for hosts of up
to 247 characters. For a valid host longer than that the temporary file cannot be written, and the
host stays without a certificate however often it is asked for.
-/

namespace CloudEmulator

namespace HostName

variable {host : String} {c : Char}

/-- A valid host has at most 253 characters. -/
theorem length_le (h : isValid host = true) : host.length ≤ 253 := by
  simp only [isValid, Bool.and_eq_true, decide_eq_true_eq, String.length_toList] at h
  exact h.1.1.1.2

/-- The characters of host names are ASCII. -/
theorem toNat_lt_of_isNameChar (h : isNameChar c = true) : c.toNat < 0x80 := by
  simp only [isNameChar, Bool.or_eq_true, beq_iff_eq] at h
  rcases h with ((halphanum | rfl) | rfl) | rfl
  · exact Text.toNat_lt_of_isAlphanum halphanum
  · decide
  · decide
  · decide

end HostName

/-- ASCII text has one octet for each character. -/
theorem Utf8.length_encodeChars {cs : List Char} (h : ∀ c ∈ cs, c.toNat < 0x80) :
    (encodeChars cs).length = cs.length := by
  induction cs with
  | nil => rfl
  | cons c cs ih =>
    obtain ⟨hc, hcs⟩ := List.forall_mem_cons.mp h
    have hfirst : encodeChars (c :: cs) = encodeChar c ++ encodeChars cs := List.flatMap_cons
    rw [hfirst, List.length_append, encodeChar_of_lt hc, ih hcs, List.length_singleton,
      List.length_cons, Nat.add_comm]

namespace CertificateStore

variable {s : CertificateStore} {crypto : Cryptography} {clock : ℤ} {host : String}
  {fault : CertificateError}

/-- A name that is a valid host with an ending of such characters fits up to a length of 255. -/
theorem fits_append_iff (h : HostName.isValid host = true) {ending : String}
    (hending : ending.toList.all HostName.isNameChar = true) :
    Directory.fits (host ++ ending) = true ↔ host.length + ending.length ≤ 255 := by
  have hascii : ∀ c ∈ (host ++ ending).toList, c.toNat < 0x80 := by
    intro c hc
    rw [String.toList_append] at hc
    rcases List.mem_append.mp hc with hhost | hend
    · exact HostName.toNat_lt_of_isNameChar (HostName.isNameChar_of_mem h hhost)
    · exact HostName.toNat_lt_of_isNameChar (List.all_eq_true.mp hending c hend)
  rw [Directory.fits, decide_eq_true_eq, Utf8.encode, Utf8.length_encodeChars hascii,
    String.length_toList, String.length_append]
  rfl

/-- The file of a valid host fits up to 251 characters of the host. -/
theorem fits_fileOf_iff (h : HostName.isValid host = true) :
    Directory.fits (fileOf host) = true ↔ host.length ≤ 251 := by
  have hending : ".crt".toList.all HostName.isNameChar = true := by decide
  have hlength : ".crt".length = 4 := by decide
  rw [fileOf, fits_append_iff h hending, hlength]
  omega

/-- Its temporary file fits up to 247 characters of the host. -/
theorem fits_temporaryFileOf_iff (h : HostName.isValid host = true) :
    Directory.fits (temporaryFileOf host) = true ↔ host.length ≤ 247 := by
  have hname : temporaryFileOf host = host ++ ".crt.tmp" := by
    rw [temporaryFileOf_eq (ne_empty_of_isValid h), fileOf, String.append_assoc]
    rfl
  have hending : ".crt.tmp".toList.all HostName.isNameChar = true := by decide
  have hlength : ".crt.tmp".length = 8 := by decide
  rw [hname, fits_append_iff h hending, hlength]
  omega

/-- A certificate that is signed for a host that lacks its file is saved. -/
theorem certificateFile_of_sign {text : Bytes} (hlacks : s.lacks host = true)
    (hsigned : crypto.sign (s.draft clock host) = some text) :
    s.certificateFile crypto clock host = (s.takeSerial clock).1.save host text := by
  rw [certificateFile_of_lacks hlacks, hsigned]

/-- A short host fails for nothing but its certificate. -/
theorem eq_generation_of_fits (hvalid : HostName.isValid host = true)
    (hfits : Directory.fits (temporaryFileOf host) = true)
    (h : (s.certificateFile crypto clock host).2 = .error fault) : fault = .generation := by
  have hends := s.certificateFile_ends crypto clock host
  generalize s.certificateFile crypto clock host = made at hends h
  cases hends with
  | refused hinvalid =>
    rw [hvalid] at hinvalid
    cases hinvalid
  | given => cases h
  | unsigned => exact (Except.error.inj h).symm
  | unfit _ hfull =>
    rw [hfits] at hfull
    cases hfull
  | minted => cases h

/-- What the length of a valid host decides. -/
structure LengthLaws (host : String) : Prop where
  bound : host.length ≤ 253
  /-- The name of the file fits for hosts of up to 251 characters, -/
  file : Directory.fits (fileOf host) = true ↔ host.length ≤ 251
  /-- and that of the temporary file for hosts of up to 247. -/
  temporary : Directory.fits (temporaryFileOf host) = true ↔ host.length ≤ 247
  /-- Where the file lacks and a certificate is signed, these are the hosts that get their file. -/
  stored : ∀ (s : CertificateStore) crypto clock, s.lacks host = true →
    (∃ text, crypto.sign (s.draft clock host) = some text) →
    ((s.certificateFile crypto clock host).2 = .ok (fileOf host) ↔ host.length ≤ 247)
  /-- They never fail for a name: whatever the store, nothing but signing can fail. -/
  short : host.length ≤ 247 → ∀ (s : CertificateStore) crypto clock fault,
    (s.certificateFile crypto clock host).2 = .error fault → fault = .generation
  /-- A longer host fails for the name of its temporary file. The number of the certificate is
  taken all the same, and nothing is written. -/
  long : 247 < host.length → ∀ (s : CertificateStore) crypto clock, s.lacks host = true →
    (∃ text, crypto.sign (s.draft clock host) = some text) →
    s.certificateFile crypto clock host =
      ((s.takeSerial clock).1, .error (.file (temporaryFileOf host)))
  /-- So its file is there after any calls only if it was there at first. -/
  never : 247 < host.length → ∀ crypto (s : CertificateStore) calls,
    (s.run crypto calls).directory.get? (fileOf host) = s.directory.get? (fileOf host)

/-- A host whose temporary file does not fit never gets its file. -/
theorem get?_run_of_not_fits (hfits : Directory.fits (temporaryFileOf host) = false)
    (crypto : Cryptography) (s : CertificateStore) (calls : List Call) :
    (s.run crypto calls).directory.get? (fileOf host) = s.directory.get? (fileOf host) := by
  induction calls generalizing s with
  | nil => rfl
  | cons call calls ih =>
    have hstep : (s.after crypto call).directory.get? (fileOf host) =
        s.directory.get? (fileOf host) := by
      rcases s.directory_after crypto call with hsame | ⟨-, hroom, hmints⟩
      · rw [hsame]
      · -- the certificate that is made is that of another host
        refine hmints.others _ (fun hfile => ?_) (fileOf_ne_temporaryFileOf _ _)
        rw [← fileOf_inj.mp hfile, hfits] at hroom
        cases hroom
    exact (ih (s.after crypto call)).trans hstep

/-- **Lengths of names.** Of the valid hosts, exactly those of up to 247 characters can be stored:
their names fit, and making their certificates can fail in signing only. Every longer one
fails for the name of its temporary file, however often it is asked for. -/
theorem lengthLaws (host : String) (h : HostName.isValid host = true) : LengthLaws host := by
  have htemporary := fits_temporaryFileOf_iff h
  have hfull (hlong : 247 < host.length) : Directory.fits (temporaryFileOf host) = false :=
    Bool.eq_false_iff.mpr fun hfits => absurd (htemporary.mp hfits) (by omega)
  have hlong (hlength : 247 < host.length) (s : CertificateStore) (crypto : Cryptography)
      (clock : ℤ) (hlacks : s.lacks host = true)
      (hsigned : ∃ text, crypto.sign (s.draft clock host) = some text) :
      s.certificateFile crypto clock host =
        ((s.takeSerial clock).1, .error (.file (temporaryFileOf host))) := by
    obtain ⟨text, htext⟩ := hsigned
    rw [certificateFile_of_sign hlacks htext, save_of_not_fits (hfull hlength)]
  constructor
  case bound => exact HostName.length_le h
  case file => exact fits_fileOf_iff h
  case temporary => exact htemporary
  case stored =>
    intro s crypto clock hlacks hsigned
    constructor
    · intro hok
      by_contra hlength
      rw [hlong (by omega) s crypto clock hlacks hsigned] at hok
      cases hok
    · intro hlength
      obtain ⟨text, htext⟩ := hsigned
      obtain ⟨directory, hsaved, -⟩ := save_mints (s.takeSerial clock).1 text
        (ne_empty_of_isValid h) (htemporary.mpr hlength)
      rw [certificateFile_of_sign hlacks htext, hsaved]
  case short =>
    exact fun hlength s crypto clock fault => eq_generation_of_fits h (htemporary.mpr hlength)
  case long => exact hlong
  case never => exact fun hlength => get?_run_of_not_fits (hfull hlength)

/-- Four labels with dots between them, 253 characters. -/
def longestLabels : List Char :=
  List.replicate 63 'a' ++ '.' :: List.replicate 63 'b' ++ '.' :: List.replicate 63 'c' ++
    '.' :: List.replicate 61 'd'

/-- A host that is as long as a valid host may be. -/
def longestHost : String :=
  String.ofList longestLabels

theorem length_longestHost : longestHost.length = 253 := by
  rw [longestHost, String.length_ofList]
  decide +kernel

theorem isValid_longestHost : HostName.isValid longestHost = true := by
  rw [HostName.isValid, longestHost, String.toList_ofList]
  decide +kernel

/-- The laws hold of it. -/
theorem lengthLaws_longestHost :
    HostName.isValid longestHost = true ∧ LengthLaws longestHost ∧ longestHost.length = 253 :=
  ⟨isValid_longestHost, lengthLaws longestHost isValid_longestHost, length_longestHost⟩

/-- Neither of its files has a name that fits, and its certificate is not saved in an empty
directory, though it is signed. -/
theorem longestHost_unstored : HostName.isValid longestHost = true ∧
    Directory.fits (fileOf longestHost) = false ∧
    Directory.fits (temporaryFileOf longestHost) = false ∧
    ((ofMaterial ⟨[], [], {}⟩).certificateFile trusting 0 longestHost).2 =
      .error (.file (temporaryFileOf longestHost)) := by
  have hfile : Directory.fits (fileOf longestHost) = false := by
    refine Bool.eq_false_iff.mpr fun hfits => ?_
    have hlength := (fits_fileOf_iff isValid_longestHost).mp hfits
    rw [length_longestHost] at hlength
    omega
  have htemporary : Directory.fits (temporaryFileOf longestHost) = false :=
    Bool.eq_false_iff.mpr fun hfits => by
      rw [fits_fileOf (ne_empty_of_isValid isValid_longestHost) hfits] at hfile
      cases hfile
  have hlacks : (ofMaterial ⟨[], [], {}⟩).lacks longestHost = true := by
    rw [lacks, isValid_longestHost]
    rfl
  refine ⟨isValid_longestHost, hfile, htemporary, ?_⟩
  rw [certificateFile_of_sign hlacks rfl, save_of_not_fits htemporary]

end CertificateStore

end CloudEmulator
