import CloudEmulator.Tls.CertificateStore

/-!
# The files of a store

What writing, moving and removing a file changes in a directory, and how the names of the files
of a store are told apart: each host has its own two, and none of the one kind is of the other.
-/

namespace CloudEmulator

namespace Directory

variable {d next : Directory} {name other source target : String} {contents : Bytes}

/-- A file that is removed is gone; the others stay. -/
theorem get?_erase (d : Directory) (name other : String) :
    (d.erase name).get? other = if other = name then none else d.get? other := by
  unfold get? erase
  induction d.files with
  | nil => simp
  | cons file files ih =>
    obtain ⟨first, contents⟩ := file
    by_cases hother : other = first
    · subst hother
      by_cases hname : other = name
      · subst hname
        simpa using ih
      · simp [hname]
    · have hskip : (other == first) = false := beq_eq_false_iff_ne.mpr hother
      by_cases hname : first = name
      · subst hname
        simpa [List.lookup_cons, hskip, hother] using ih
      · simpa [List.lookup_cons, hskip, hname] using ih

/-- A file that is written has its contents; the others stay. -/
theorem get?_of_write? (h : d.write? name contents = some next) (other : String) :
    next.get? other = if other = name then some contents else d.get? other := by
  unfold write? at h
  split at h
  · cases h
    by_cases hother : other = name
    · subst hother
      simp [get?]
    · have hskip : (other == name) = false := beq_eq_false_iff_ne.mpr hother
      have hother' := d.get?_erase name other
      rw [if_neg hother] at hother' ⊢
      rw [← hother']
      simp [get?, List.lookup_cons, hskip]
  · cases h

/-- A file is written exactly where its name fits. -/
theorem isSome_write? (d : Directory) (name : String) (contents : Bytes) :
    (d.write? name contents).isSome = fits name := by
  unfold write?
  cases fits name <;> rfl

/-- A file that is moved is no longer where it was, and the file there is this one. -/
theorem get?_of_rename? (h : d.rename? source target = some next) (other : String) :
    next.get? other = if other = target then d.get? source else
      if other = source then none else d.get? other := by
  obtain ⟨contents, hsource, hwrite⟩ := Option.bind_eq_some_iff.mp h
  rw [get?_of_write? hwrite, get?_erase, hsource]

/-- A file that is there is moved exactly where its new name fits. -/
theorem isSome_rename? (h : d.get? source = some contents) (target : String) :
    (d.rename? source target).isSome = fits target := by
  unfold rename?
  rw [h]
  exact isSome_write? _ target contents

end Directory

namespace CertificateStore

variable {host other : String}

/-- Each host has its own file. -/
theorem fileOf_inj : fileOf host = fileOf other ↔ host = other := by
  refine ⟨fun h => ?_, congrArg fileOf⟩
  have hlist := congrArg String.toList h
  simp only [fileOf, String.toList_append] at hlist
  exact String.toList_injective (List.append_cancel_right hlist)

/-- The file of a host has one more ending than the host. -/
theorem stem_fileOf (h : host ≠ "") : stem (fileOf host) = host := by
  have hrev : (fileOf host).toList.reverse = ['t', 'r', 'c'] ++ '.' :: host.toList.reverse := by
    simp [fileOf]
  have hsome : host.toList.reverse.isEmpty = false := by simpa using h
  unfold stem
  rw [hrev]
  change (if host.toList.reverse.isEmpty then fileOf host
    else String.ofList host.toList.reverse.reverse) = host
  rw [hsome, List.reverse_reverse, String.ofList_toList]
  rfl

/-- The temporary file of a host is named like its file, with one more ending. -/
theorem temporaryFileOf_eq (h : host ≠ "") : temporaryFileOf host = fileOf host ++ ".tmp" := by
  rw [temporaryFileOf, withEnding, stem_fileOf h, fileOf, String.append_assoc, String.append_assoc]
  rfl

/-- No temporary file is the file of a host. -/
theorem fileOf_ne_temporaryFileOf (host other : String) :
    fileOf host ≠ temporaryFileOf other := by
  intro h
  have hlast := congrArg (fun name => name.toList.getLast?) h
  simp [fileOf, temporaryFileOf, withEnding] at hlast

/-- Where the name of a temporary file fits, so does that of the file. -/
theorem fits_fileOf (hhost : host ≠ "") (h : Directory.fits (temporaryFileOf host) = true) :
    Directory.fits (fileOf host) = true := by
  rw [temporaryFileOf_eq hhost] at h
  simp only [Directory.fits, Utf8.encode, Utf8.encodeChars, String.toList_append,
    List.flatMap_append, List.length_append, decide_eq_true_eq] at h
  exact decide_eq_true (Nat.le_of_add_right_le h)

end CertificateStore

end CloudEmulator
