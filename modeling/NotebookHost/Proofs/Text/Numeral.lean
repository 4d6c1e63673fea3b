import NotebookHost.Proofs.Text.Decimal
import NotebookHost.Proofs.Text.Split
import NotebookHost.Text.Blank
import Mathlib.Data.List.Induction
import Mathlib.Data.Nat.Digits.Defs
import Mathlib.Tactic.SplitIfs

namespace NotebookHost.Text

def denoted (digits : List Char) : ℕ := Nat.ofDigits 10 (digits.map fun c => c.toNat - '0'.toNat).reverse

inductive IsNumeral : List Char → ℕ → Prop
  | plain {ds : List Char} (nonempty : ds ≠ []) (digits : ∀ c ∈ ds, '0' ≤ c ∧ c ≤ '9') :
      IsNumeral ds (denoted ds)
  | signed {ds : List Char} (nonempty : ds ≠ []) (digits : ∀ c ∈ ds, '0' ≤ c ∧ c ≤ '9') :
      IsNumeral ('+' :: ds) (denoted ds)

def IsGap (w : List Char) : Prop := ∀ c ∈ w, isBlank c = true

def IsSpacedNumeral (s : List Char) (n : ℕ) : Prop :=
  ∃ before numeral after, s = before ++ (numeral ++ after) ∧ IsGap before ∧ IsNumeral numeral n ∧ IsGap after

theorem digitsValue_eq_denoted (ds : List Char) : digitsValue ds = denoted ds := by
  induction ds using List.reverseRecOn with
  | nil => rfl
  | append_singleton ds c ih =>
    have hvalue : digitsValue (ds ++ [c]) = 10 * digitsValue ds + digitValue c := by
      rw [digitsValue, List.foldl_append]
      rfl
    rw [hvalue, ih, denoted, denoted, List.map_append, List.reverse_append, List.map_singleton, List.reverse_singleton,
      List.singleton_append, Nat.ofDigits_cons, Nat.add_comm]
    rfl

theorem all_isDigit_iff {ds : List Char} : ds.all isDigit = true ↔ ∀ c ∈ ds, '0' ≤ c ∧ c ≤ '9' := by
  simp only [List.all_eq_true, isDigit, Bool.and_eq_true, decide_eq_true_eq]

theorem readNat_unsigned {bound : ℕ} {c : Char} (hc : c ≠ '+') (r : List Char) :
    readNat bound (c :: r) =
      if bound < digitsValue ((c :: r).takeWhile isDigit) then .error .tooLarge
      else if (c :: r).all isDigit = true then .ok (digitsValue (c :: r)) else .error .badDigit := by
  unfold readNat
  split
  · next heq => exact absurd (List.cons.inj heq).1 hc
  · rfl

theorem readNat_signed {bound : ℕ} {ds : List Char} (nonempty : ds ≠ []) :
    readNat bound ('+' :: ds) =
      if bound < digitsValue (ds.takeWhile isDigit) then .error .tooLarge
      else if ds.all isDigit = true then .ok (digitsValue ds) else .error .badDigit := by
  cases ds with
  | nil => exact absurd rfl nonempty
  | cons c r => rfl

theorem readNat_of_isNumeral {bound n : ℕ} {s : List Char} (h : IsNumeral s n) :
    readNat bound s = if bound < n then .error .tooLarge else .ok n := by
  have htake {ds : List Char} (digits : ds.all isDigit = true) : ds.takeWhile isDigit = ds :=
    List.takeWhile_eq_self_iff.mpr (List.all_eq_true.mp digits)
  cases h with
  | plain nonempty digits =>
    have hall := all_isDigit_iff.mpr digits
    cases s with
    | nil => exact absurd rfl nonempty
    | cons c r =>
      have hplus : c ≠ '+' := ne_of_isDigit (List.all_eq_true.mp hall c List.mem_cons_self) rfl
      rw [readNat_unsigned hplus, htake hall, if_pos hall, digitsValue_eq_denoted]
  | signed nonempty digits =>
    have hall := all_isDigit_iff.mpr digits
    rw [readNat_signed nonempty, htake hall, if_pos hall, digitsValue_eq_denoted]

theorem isNumeral_digitsOf (n : ℕ) : IsNumeral (digitsOf n) n := by
  have hnumeral : IsNumeral (digitsOf n) (denoted (digitsOf n)) :=
    .plain Nat.toDigits_ne_nil (all_isDigit_iff.mp (List.all_eq_true.mpr fun _ => isDigit_of_mem_digitsOf))
  rw [← digitsValue_eq_denoted, digitsValue_digitsOf] at hnumeral
  exact hnumeral

theorem readNat_digitsOf {bound n : ℕ} (h : n ≤ bound) : readNat bound (digitsOf n) = .ok n := by
  rw [readNat_of_isNumeral (isNumeral_digitsOf n), if_neg (Nat.not_lt.mpr h)]

theorem isNumeral_of_readNat {bound n : ℕ} {s : List Char} (h : readNat bound s = .ok n) :
    IsNumeral s n ∧ n ≤ bound := by
  have hread {ds : List Char}
      (heq : (if bound < digitsValue (ds.takeWhile isDigit) then .error .tooLarge
        else if ds.all isDigit = true then .ok (digitsValue ds)
        else .error .badDigit : Except NumeralError ℕ) = .ok n) :
      (∀ c ∈ ds, '0' ≤ c ∧ c ≤ '9') ∧ n = denoted ds ∧ n ≤ bound := by
    split_ifs at heq with hlarge hall
    cases heq
    rw [List.takeWhile_eq_self_iff.mpr (List.all_eq_true.mp hall)] at hlarge
    exact ⟨all_isDigit_iff.mp hall, digitsValue_eq_denoted ds, Nat.not_lt.mp hlarge⟩
  rcases s with _ | ⟨c, r⟩
  · cases h
  by_cases hc : c = '+'
  · subst hc
    have hne : r ≠ [] := by
      rintro rfl
      cases h
    rw [readNat_signed hne] at h
    obtain ⟨digits, rfl, hbound⟩ := hread h
    exact ⟨.signed hne digits, hbound⟩
  · rw [readNat_unsigned hc] at h
    obtain ⟨digits, rfl, hbound⟩ := hread h
    exact ⟨.plain (List.cons_ne_nil c r) digits, hbound⟩

theorem IsNumeral.ne_nil {s : List Char} {n : ℕ} (h : IsNumeral s n) : s ≠ [] := by
  cases h with
  | plain nonempty => exact nonempty
  | signed => exact List.cons_ne_nil _ _

theorem IsNumeral.chars {s : List Char} {n : ℕ} (h : IsNumeral s n) :
    ∀ c ∈ s, c = '+' ∨ '0' ≤ c ∧ c ≤ '9' := by
  intro c hc
  cases h with
  | plain _ digits => exact .inr (digits c hc)
  | signed _ digits =>
    rcases List.mem_cons.mp hc with hplus | hc
    · exact .inl hplus
    · exact .inr (digits c hc)

theorem isBlank_eq_false {c : Char} (h : c = '+' ∨ '0' ≤ c ∧ c ≤ '9') : isBlank c = false := by
  have hcode : 43 ≤ c.toNat ∧ c.toNat ≤ 57 := by
    rcases h with rfl | h
    · decide
    · have hdigit : 48 ≤ c.toNat ∧ c.toNat ≤ 57 := h
      omega
  simp only [isBlank, Bool.or_eq_false_iff, Bool.and_eq_false_iff, decide_eq_false_iff_not, beq_eq_false_iff_ne]
  omega

theorem trim_spaced {before s after : List Char} (hbefore : IsGap before) (hne : s ≠ [])
    (hs : ∀ c ∈ s, isBlank c = false) (hafter : IsGap after) : trim (before ++ (s ++ after)) = s := by
  have hstart : trimStart (before ++ (s ++ after)) = s ++ after := by
    rw [trimStart, List.dropWhile_append_of_pos hbefore]
    cases s with
    | nil => exact absurd rfl hne
    | cons c s =>
      rw [List.cons_append, List.dropWhile_cons, hs c List.mem_cons_self]
      rfl
  rw [trim, hstart]
  exact rdropWhile_append (fun c hc => hs c (List.mem_of_getLast? hc)) hafter

theorem exists_gaps (s : List Char) :
    ∃ before after, s = before ++ (trim s ++ after) ∧ IsGap before ∧ IsGap after := by
  refine ⟨s.takeWhile isBlank, (trimStart s).rtakeWhile isBlank, ?_, ?_, ?_⟩
  · change s = _ ++ ((trimStart s).rdropWhile isBlank ++ _)
    rw [List.rdropWhile_append_rtakeWhile, trimStart, List.takeWhile_append_dropWhile]
  · intro c hc
    exact List.mem_takeWhile_imp hc
  · intro c hc
    exact List.mem_rtakeWhile_imp hc

theorem IsSpacedNumeral.hyphen_not_mem {s : List Char} {n : ℕ} (h : IsSpacedNumeral s n) : '-' ∉ s := by
  obtain ⟨before, numeral, after, rfl, hbefore, hnumeral, hafter⟩ := h
  intro hmem
  rcases List.mem_append.mp hmem with hmem | hmem
  · exact absurd (hbefore '-' hmem) (by decide)
  rcases List.mem_append.mp hmem with hmem | hmem
  · exact absurd (hnumeral.chars '-' hmem) (by decide)
  · exact absurd (hafter '-' hmem) (by decide)

end NotebookHost.Text
