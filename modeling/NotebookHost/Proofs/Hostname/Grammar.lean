import NotebookHost.Proofs.Hostname
import NotebookHost.Proofs.Text.Split

namespace NotebookHost.Hostname

open Text

def IsNameChar (c : Char) : Prop :=
  'A' ≤ c ∧ c ≤ 'Z' ∨ 'a' ≤ c ∧ c ≤ 'z' ∨ '0' ≤ c ∧ c ≤ '9' ∨ c = '-'

structure IsLegalLabel (l : List Char) : Prop where
  nonempty : 1 ≤ l.length
  short : l.length ≤ 63
  chars : ∀ c ∈ l, IsNameChar c
  first : l.head? ≠ some '-'
  last : l.getLast? ≠ some '-'

inductive IsDotted : List Char → Prop
  | label {l : List Char} (legal : IsLegalLabel l) : IsDotted l
  | dot {l r : List Char} (legal : IsLegalLabel l) (rest : IsDotted r) : IsDotted (l ++ '.' :: r)

structure IsName (h : String) : Prop where
  nonempty : 1 ≤ h.utf8ByteSize
  short : h.utf8ByteSize ≤ 253
  dotted : ∃ name, IsDotted name ∧ (h.toList = name ∨ h.toList = name ++ ['.'])

theorem isLabelChar_iff_isNameChar {c : Char} : isLabelChar c = true ↔ IsNameChar c := by
  have hhyphen : c = '-' ↔ c.toNat = 45 := ⟨fun h => by rw [h]; rfl, fun h => Char.toNat_inj.mp h⟩
  rw [isLabelChar_iff, IsNameChar, hhyphen]
  change _ ↔ 65 ≤ c.toNat ∧ c.toNat ≤ 90 ∨ 97 ≤ c.toNat ∧ c.toNat ≤ 122 ∨
    48 ≤ c.toNat ∧ c.toNat ≤ 57 ∨ c.toNat = 45
  omega

theorem isLabel_iff {l : List Char} : isLabel l = true ↔ IsLegalLabel l := by
  have hempty : l.isEmpty = false ↔ 1 ≤ l.length := by
    rw [List.isEmpty_eq_false_iff, ← List.length_pos_iff]
    rfl
  simp only [isLabel, Bool.and_eq_true, Bool.not_eq_true', hempty, decide_eq_true_eq, bne_iff_ne, ne_eq,
    List.all_eq_true, isLabelChar_iff_isNameChar]
  constructor
  · rintro ⟨⟨⟨⟨hnonempty, hshort⟩, hfirst⟩, hlast⟩, hchars⟩
    exact ⟨hnonempty, hshort, hchars, hfirst, hlast⟩
  · rintro ⟨hnonempty, hshort, hchars, hfirst, hlast⟩
    exact ⟨⟨⟨⟨hnonempty, hshort⟩, hfirst⟩, hlast⟩, hchars⟩

theorem IsLegalLabel.dot_not_mem {l : List Char} (h : IsLegalLabel l) : '.' ∉ l := by
  intro hdot
  exact absurd (isLabelChar_iff_isNameChar.mpr (h.chars '.' hdot)) (by decide)

theorem all_split_iff {s : List Char} : (split '.' s).all isLabel = true ↔ IsDotted s := by
  constructor
  · -- The rest behind the first dot is shorter.
    induction hn : s.length using Nat.strong_induction_on generalizing s with
    | _ n ih =>
      intro hall
      by_cases hdot : '.' ∈ s
      · obtain ⟨l, r, rfl, hl⟩ := List.eq_append_cons_of_mem hdot
        rw [split_append, split_of_not_mem hl, List.singleton_append, List.all_cons, Bool.and_eq_true] at hall
        rw [List.length_append, List.length_cons] at hn
        exact .dot (isLabel_iff.mp hall.1) (ih r.length (by omega) rfl hall.2)
      · rw [split_of_not_mem hdot, List.all_cons, Bool.and_eq_true] at hall
        exact .label (isLabel_iff.mp hall.1)
  · intro h
    induction h with
    | label legal =>
      rw [split_of_not_mem legal.dot_not_mem, List.all_cons, isLabel_iff.mpr legal]
      rfl
    | dot legal _ ih =>
      rw [split_append, split_of_not_mem legal.dot_not_mem, List.singleton_append, List.all_cons,
        isLabel_iff.mpr legal, ih]
      rfl

namespace IsDotted

variable {s : List Char} (h : IsDotted s)
include h

theorem nil_not_mem_split : [] ∉ split '.' s := by
  intro hnil
  exact absurd (List.all_eq_true.mp (all_split_iff.mpr h) [] hnil) (by decide)

theorem getLast?_ne_dot : s.getLast? ≠ some '.' := by
  intro hlast
  obtain ⟨r, rfl⟩ := List.getLast?_eq_some_iff.mp hlast
  apply h.nil_not_mem_split
  rw [split_append]
  exact List.mem_append_right _ List.mem_cons_self

theorem no_double_dot : ¬ ['.', '.'] <:+: s := by
  rintro ⟨l, r, rfl⟩
  apply h.nil_not_mem_split
  rw [List.append_assoc]
  change [] ∈ split '.' (l ++ '.' :: ('.' :: r))
  rw [split_append, split, if_pos rfl]
  exact List.mem_append_right _ List.mem_cons_self

end IsDotted

theorem withoutFinalDots_append {name : List Char} (hname : name.getLast? ≠ some '.') (dots : ℕ) :
    withoutFinalDots (name ++ List.replicate dots '.') = name := by
  apply rdropWhile_append
  · intro c hc
    rw [beq_eq_false_iff_ne]
    rintro rfl
    exact hname hc
  · intro c hc
    exact beq_iff_eq.mpr (List.eq_of_mem_replicate hc)

theorem eq_withoutFinalDots_append (h : List Char) : ∃ dots, h = withoutFinalDots h ++ List.replicate dots '.' := by
  refine ⟨(h.rtakeWhile (· == '.')).length, ?_⟩
  rw [← rtakeWhile_beq]
  exact List.rdropWhile_append_rtakeWhile.symm

theorem isValid_iff {h : String} :
    isValid h = true ↔ 1 ≤ h.utf8ByteSize ∧ h.utf8ByteSize ≤ 253 ∧
      ∃ name dots, IsDotted name ∧ h.toList = name ++ List.replicate dots '.' := by
  have hempty : h.isEmpty = false ↔ 1 ≤ h.utf8ByteSize := by
    change (h.utf8ByteSize == 0) = false ↔ _
    rw [beq_eq_false_iff_ne, Nat.one_le_iff_ne_zero]
  have hdotted : IsDotted (withoutFinalDots h.toList) ↔
      ∃ name dots, IsDotted name ∧ h.toList = name ++ List.replicate dots '.' := by
    constructor
    · intro hname
      obtain ⟨dots, hdots⟩ := eq_withoutFinalDots_append h.toList
      exact ⟨_, dots, hname, hdots⟩
    · rintro ⟨name, dots, hname, heq⟩
      rw [heq, withoutFinalDots_append hname.getLast?_ne_dot]
      exact hname
  simp only [isValid, Bool.and_eq_true, Bool.not_eq_true', decide_eq_true_eq, hempty, all_split_iff, hdotted, and_assoc]
  rfl

namespace IsName

variable {h : String} (name : IsName h)
include name

theorem isValid : isValid h = true := by
  obtain ⟨text, hdotted, heq⟩ := name.dotted
  refine isValid_iff.mpr ⟨name.nonempty, name.short, text, ?_⟩
  rcases heq with heq | heq
  · exact ⟨0, hdotted, by rw [heq, List.replicate_zero, List.append_nil]⟩
  · exact ⟨1, hdotted, heq⟩

theorem no_double_dot : ¬ ['.', '.'] <:+: h.toList := by
  obtain ⟨text, hdotted, heq⟩ := name.dotted
  rcases heq with heq | heq
  · rw [heq]
    exact hdotted.no_double_dot
  · rw [heq, List.infix_concat_iff]
    rintro (⟨l, hl⟩ | hdouble)
    · have htext : text = l ++ ['.'] := by
        apply (List.append_left_inj ['.']).mp
        rw [← hl, List.append_assoc]
        rfl
      exact hdotted.getLast?_ne_dot (by rw [htext, List.getLast?_concat])
    · exact hdotted.no_double_dot hdouble

end IsName

theorem isName_of_isValid {h : String} (hvalid : isValid h = true) (single : ¬ ['.', '.'] <:+ h.toList) :
    IsName h := by
  obtain ⟨hnonempty, hshort, name, dots, hdotted, heq⟩ := isValid_iff.mp hvalid
  refine ⟨hnonempty, hshort, name, hdotted, ?_⟩
  match dots with
  | 0 => exact .inl (by rw [heq, List.replicate_zero, List.append_nil])
  | 1 => exact .inr heq
  | dots + 2 =>
    refine absurd ?_ single
    rw [heq, ← List.replicate_append_replicate]
    exact (List.suffix_append _ _).trans (List.suffix_append _ _)

theorem names_are_grammatical (h : String) :
    (IsName h ↔ isValid h = true ∧ ¬ ['.', '.'] <:+ h.toList) ∧
      (isValid h = true → (['.', '.'] <:+: h.toList ↔ ['.', '.'] <:+ h.toList)) ∧
      ∀ spelling, sameLetters spelling h = true → isValid spelling = isValid h := by
  refine ⟨⟨?_, ?_⟩, ?_, ?_⟩
  · intro name
    exact ⟨name.isValid, fun hdouble => name.no_double_dot hdouble.isInfix⟩
  · rintro ⟨hvalid, single⟩
    exact isName_of_isValid hvalid single
  · intro hvalid
    refine ⟨?_, List.IsSuffix.isInfix⟩
    intro hdouble
    by_contra single
    exact (isName_of_isValid hvalid single).no_double_dot hdouble
  · intro spelling same
    rw [← isValid_canonical spelling, canonical_eq_iff.mpr same, isValid_canonical]

theorem dots_pile_up : isValid "a.." = true ∧ ¬ IsName "a.." := by
  refine ⟨by decide, ?_⟩
  rintro ⟨-, -, name, hdotted, heq⟩
  have hlast := hdotted.getLast?_ne_dot
  rcases heq with heq | heq
  · rw [← heq] at hlast
    exact hlast rfl
  · have hname : name = ['a', '.'] := (List.append_left_inj ['.']).mp heq.symm
    rw [hname] at hlast
    exact hlast rfl

end NotebookHost.Hostname
