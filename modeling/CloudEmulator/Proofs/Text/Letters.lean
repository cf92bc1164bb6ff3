import CloudEmulator.Text.Ascii
import Mathlib

/-!
# Letters and digits

The ASCII letters and digits, and texts in lower case.
-/

namespace CloudEmulator.Text

variable {c : Char}

/-- Letters and digits are below `0x80`. -/
theorem toNat_lt_of_isAlphanum (hc : c.isAlphanum = true) : c.toNat < 0x80 := by
  simp only [Char.isAlphanum, Char.isAlpha, Char.isUpper, Char.isLower, Char.isDigit,
    Bool.or_eq_true, Bool.and_eq_true, decide_eq_true_eq, ge_iff_le, UInt32.le_iff_toNat_le] at hc
  change c.val.toNat < 0x80
  rcases hc with (⟨-, hupper⟩ | ⟨-, hlower⟩) | ⟨-, hdigit⟩
  · exact hupper.trans_lt (by decide)
  · exact hlower.trans_lt (by decide)
  · exact hdigit.trans_lt (by decide)

/-- Digits have no case. -/
theorem toLower_of_isDigit (hc : c.isDigit = true) : c.toLower = c := by
  refine Char.toLower_eq_of_not_isUpper fun hupper => ?_
  have hlow : 'A'.val ≤ c.val := (of_decide_eq_true hupper).1
  have hhigh : c.val ≤ '9'.val := of_decide_eq_true (Bool.and_eq_true_iff.mp hc).2
  exact absurd (UInt32.le_trans hlow hhigh) (by decide)

/-- A letter or a digit is one in lower case, too. -/
theorem isAlphanum_toLower (hc : c.isAlphanum = true) : c.toLower.isAlphanum = true := by
  rcases Bool.or_eq_true_iff.mp hc with halpha | hdigit
  · rw [← Char.isAlpha_toLower_eq_isAlpha] at halpha
    exact Bool.or_eq_true_iff.mpr (.inl halpha)
  · rwa [toLower_of_isDigit hdigit]

/-- A text in lower case is in lower case. -/
theorem lower_lower (s : String) : lower (lower s) = lower s := by
  rw [lower, lower, String.toList_ofList, List.map_map]
  refine congrArg String.ofList (List.map_congr_left fun c _ => ?_)
  exact c.toLower_toLower_eq_toLower

end CloudEmulator.Text
