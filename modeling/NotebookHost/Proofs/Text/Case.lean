import NotebookHost.Hostname

namespace NotebookHost.Text

theorem toLower_toLower (c : Char) : c.toLower.toLower = c.toLower := by
  unfold Char.toLower
  by_cases h : c.val ≥ 'A'.val ∧ c.val ≤ 'Z'.val
  · rw [dif_pos h, dif_neg]
    intro hl
    have h₁ : 65 ≤ c.val.toNat ∧ c.val.toNat ≤ 90 := h
    have h₂ : (c.val + 32).toNat ≤ 90 := hl.2
    rw [UInt32.toNat_add, show (32 : UInt32).toNat = 32 from rfl] at h₂
    omega
  · rw [dif_neg h, dif_neg h]

@[simp] theorem lower_lower (s : String) : lower (lower s) = lower s := by
  apply String.toList_injective
  rw [toList_lower, toList_lower, List.map_map]
  exact List.map_congr_left fun c _ => toLower_toLower c

theorem sameLetters_iff {s t : String} : sameLetters s t = true ↔ lower s = lower t := beq_iff_eq

@[simp] theorem sameLetters_refl (s : String) : sameLetters s s = true := sameLetters_iff.mpr rfl

theorem sameLetters_comm (s t : String) : sameLetters s t = sameLetters t s := by
  rw [Bool.eq_iff_iff, sameLetters_iff, sameLetters_iff, eq_comm]

theorem sameLetters_trans {s t u : String} (h : sameLetters s t = true) (h' : sameLetters t u = true) :
    sameLetters s u = true := sameLetters_iff.mpr ((sameLetters_iff.mp h).trans (sameLetters_iff.mp h'))

end NotebookHost.Text

namespace NotebookHost.Hostname

open Text

@[simp] theorem canonical_canonical (d : String) : canonical (canonical d) = canonical d := lower_lower d

theorem canonical_eq_iff {d e : String} : canonical d = canonical e ↔ sameLetters d e = true :=
  sameLetters_iff.symm

@[simp] theorem sameLetters_canonical (d e : String) : sameLetters d (canonical e) = sameLetters d e := by
  rw [Bool.eq_iff_iff, ← canonical_eq_iff, ← canonical_eq_iff, canonical_canonical]

end NotebookHost.Hostname
