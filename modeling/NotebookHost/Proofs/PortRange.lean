import NotebookHost.PortRange
import NotebookHost.Proofs.Text.Numeral
import NotebookHost.Proofs.Text.Split

namespace NotebookHost

open Text

namespace Port

theorem toNat_ofNat {n : ℕ} (h : n ≤ 65535) : (UInt16.ofNat n).toNat = n := by
  rw [UInt16.toNat_ofNat', Nat.mod_eq_of_lt (by omega)]

theorem toNat_le (p : Port) : p.toNat ≤ 65535 := Nat.le_of_lt_succ p.toNat_lt

theorem read_of_spacedNumeral {s : List Char} {n : ℕ} (h : IsSpacedNumeral s n) :
    read s = if 65535 < n then .error .tooLarge else .ok (UInt16.ofNat n) := by
  obtain ⟨before, numeral, after, rfl, hbefore, hnumeral, hafter⟩ := h
  rw [read, trim_spaced hbefore hnumeral.ne_nil (fun c hc => isBlank_eq_false (hnumeral.chars c hc)) hafter,
    readNat_of_isNumeral hnumeral]
  split_ifs <;> rfl

theorem spacedNumeral_of_read {s : List Char} {p : Port} (h : read s = .ok p) : IsSpacedNumeral s p.toNat := by
  rw [read] at h
  cases hread : readNat 65535 (trim s) with
  | error e =>
    rw [hread] at h
    cases h
  | ok n =>
    rw [hread] at h
    cases h
    obtain ⟨hnumeral, hbound⟩ := isNumeral_of_readNat hread
    obtain ⟨before, after, hs, hbefore, hafter⟩ := exists_gaps s
    rw [toNat_ofNat hbound]
    exact ⟨before, trim s, after, hs, hbefore, hnumeral, hafter⟩

end Port

namespace PortRange

def IsRange (s : List Char) (first last : ℕ) : Prop :=
  ∃ before after, s = before ++ '-' :: after ∧ IsSpacedNumeral before first ∧ IsSpacedNumeral after last

theorem ofText_of_isRange {s : String} {first last : ℕ} (h : IsRange s.toList first last) :
    ofText s = if 65535 < first then .error (.badFirst .tooLarge)
      else if 65535 < last then .error (.badLast .tooLarge)
      else .ok ⟨UInt16.ofNat first, UInt16.ofNat last⟩ := by
  obtain ⟨before, after, hs, hfirst, hlast⟩ := h
  rw [ofText, hs, splitOnce_append hfirst.hyphen_not_mem]
  dsimp only
  rw [Port.read_of_spacedNumeral hfirst, Port.read_of_spacedNumeral hlast]
  split_ifs <;> rfl

theorem isRange_of_ofText {s : String} {r : PortRange} (h : ofText s = .ok r) :
    IsRange s.toList r.first.toNat r.last.toNat := by
  unfold ofText at h
  split at h
  · cases h
  next before after hsplit =>
  split at h
  · cases h
  next first hfirst =>
  split at h
  · cases h
  next last hlast =>
  cases h
  exact ⟨before, after, (splitOnce_eq_some_iff.mp hsplit).1, Port.spacedNumeral_of_read hfirst,
    Port.spacedNumeral_of_read hlast⟩

theorem isSpacedNumeral_digitsOf (n : ℕ) : IsSpacedNumeral (digitsOf n) n :=
  ⟨[], digitsOf n, [], by simp, List.forall_mem_nil _, isNumeral_digitsOf n, List.forall_mem_nil _⟩

theorem isRange_of_numbers (first last : ℕ) : IsRange (toString first ++ "-" ++ toString last).toList first last := by
  refine ⟨digitsOf first, digitsOf last, ?_, isSpacedNumeral_digitsOf first, isSpacedNumeral_digitsOf last⟩
  simp [digitsOf]

theorem ofText_eq_ok_iff {s : String} {r : PortRange} :
    ofText s = .ok r ↔ IsRange s.toList r.first.toNat r.last.toNat := by
  refine ⟨isRange_of_ofText, ?_⟩
  intro h
  rw [ofText_of_isRange h, if_neg (Nat.not_lt.mpr (Port.toNat_le _)), if_neg (Nat.not_lt.mpr (Port.toNat_le _)),
    UInt16.ofNat_toNat, UInt16.ofNat_toNat]

theorem exists_ofText_iff {s : String} {first last : ℕ} :
    (∃ r, ofText s = .ok r ∧ r.first.toNat = first ∧ r.last.toNat = last) ↔
      IsRange s.toList first last ∧ first ≤ 65535 ∧ last ≤ 65535 := by
  constructor
  · rintro ⟨r, hr, rfl, rfl⟩
    exact ⟨ofText_eq_ok_iff.mp hr, Port.toNat_le _, Port.toNat_le _⟩
  · rintro ⟨h, hfirst, hlast⟩
    refine ⟨⟨UInt16.ofNat first, UInt16.ofNat last⟩, ofText_eq_ok_iff.mpr ?_, Port.toNat_ofNat hfirst,
      Port.toNat_ofNat hlast⟩
    rw [Port.toNat_ofNat hfirst, Port.toNat_ofNat hlast]
    exact h

theorem ranges_are_grammatical (s : String) :
    (∀ first last : ℕ, (∃ r, ofText s = .ok r ∧ r.first.toNat = first ∧ r.last.toNat = last) ↔
      IsRange s.toList first last ∧ first ≤ 65535 ∧ last ≤ 65535) ∧
    ((∃ e, ofText s = .error e) ↔
      ¬∃ first last, IsRange s.toList first last ∧ first ≤ 65535 ∧ last ≤ 65535) ∧
    (∀ (r : PortRange) (first last : ℕ), ofText s = .ok r → IsRange s.toList first last →
      r.first.toNat = first ∧ r.last.toNat = last) ∧
    ∀ first last : Port, ofText (toString first.toNat ++ "-" ++ toString last.toNat) = .ok ⟨first, last⟩ := by
  refine ⟨fun first last => exists_ofText_iff, ?_, ?_, ?_⟩
  · constructor
    · rintro ⟨e, he⟩ ⟨first, last, h⟩
      obtain ⟨r, hr, -⟩ := exists_ofText_iff.mpr h
      rw [hr] at he
      cases he
    · intro hnone
      cases hread : ofText s with
      | error e => exact ⟨e, rfl⟩
      | ok r => exact absurd ⟨_, _, ofText_eq_ok_iff.mp hread, Port.toNat_le _, Port.toNat_le _⟩ hnone
  · intro r first last hr h
    rw [ofText_of_isRange h] at hr
    split_ifs at hr with hfirst hlast
    cases hr
    exact ⟨Port.toNat_ofNat (Nat.not_lt.mp hfirst), Port.toNat_ofNat (Nat.not_lt.mp hlast)⟩
  · intro first last
    exact ofText_eq_ok_iff.mpr (isRange_of_numbers first.toNat last.toNat)

-- One hyphen more, or a number greater than that of any port, and the text is no range.
example : ofText "+007 -\t4000 " = .ok ⟨7, 4000⟩ ∧ ofText "1--2" = .error (.badLast .badDigit) ∧
    ofText "0-65536" = .error (.badLast .tooLarge) := by
  decide +kernel

end PortRange

end NotebookHost
