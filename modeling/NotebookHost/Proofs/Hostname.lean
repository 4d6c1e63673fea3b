import NotebookHost.Proofs.Text.Case
import Mathlib.Data.List.TakeWhile

namespace NotebookHost.Text

theorem toLower_cases (c : Char) :
    (65 ≤ c.toNat ∧ c.toNat ≤ 90 ∧ c.toLower.toNat = c.toNat + 32) ∨
      ((c.toNat < 65 ∨ 90 < c.toNat) ∧ c.toLower = c) := by
  unfold Char.toLower
  by_cases h : c.val ≥ 'A'.val ∧ c.val ≤ 'Z'.val
  · rw [dif_pos h]
    have hbounds : 65 ≤ c.val.toNat ∧ c.val.toNat ≤ 90 := h
    refine .inl ⟨hbounds.1, hbounds.2, ?_⟩
    change (c.val + 32).toNat = c.val.toNat + 32
    rw [UInt32.toNat_add, show (32 : UInt32).toNat = 32 from rfl]
    omega
  · rw [dif_neg h]
    refine .inr ⟨?_, rfl⟩
    have hbounds : ¬ (65 ≤ c.val.toNat ∧ c.val.toNat ≤ 90) := h
    change c.val.toNat < 65 ∨ 90 < c.val.toNat
    omega

theorem toLower_eq_iff {c d : Char} (hd : d.toNat < 65) : c.toLower = d ↔ c = d := by
  rcases toLower_cases c with ⟨hlow, -, hlower⟩ | ⟨-, hsame⟩
  · constructor
    · rintro rfl
      omega
    · rintro rfl
      omega
  · rw [hsame]

theorem utf8Size_toLower (c : Char) : c.toLower.utf8Size = c.utf8Size := by
  have hascii {d : Char} (hd : d.toNat ≤ 127) : d.utf8Size = 1 := Char.utf8Size_eq_one_iff.mpr hd
  rcases toLower_cases c with ⟨hlow, hhigh, hlower⟩ | ⟨-, hsame⟩
  · rw [hascii (by omega), hascii (by omega)]
  · rw [hsame]

theorem utf8ByteSize_cons (c : Char) (l : List Char) :
    (String.ofList (c :: l)).utf8ByteSize = c.utf8Size + (String.ofList l).utf8ByteSize := by
  have hcons : String.ofList (c :: l) = String.singleton c ++ String.ofList l := by
    apply String.toList_injective
    rw [String.toList_append, String.toList_ofList, String.toList_ofList, String.toList_singleton,
      List.singleton_append]
  rw [hcons, String.utf8ByteSize_append, String.utf8ByteSize_singleton]

theorem utf8ByteSize_lower (s : String) : (lower s).utf8ByteSize = s.utf8ByteSize := by
  have hlist (l : List Char) : (String.ofList (l.map Char.toLower)).utf8ByteSize = (String.ofList l).utf8ByteSize := by
    induction l with
    | nil => rfl
    | cons c l ih => rw [List.map_cons, utf8ByteSize_cons, utf8ByteSize_cons, utf8Size_toLower, ih]
  rw [lower, hlist, String.ofList_toList]

theorem split_map {f : Char → Char} {sep : Char} (h : ∀ c, f c = sep ↔ c = sep) (s : List Char) :
    split sep (s.map f) = (split sep s).map (List.map f) := by
  induction s with
  | nil => rfl
  | cons c s ih =>
    rw [List.map_cons, split, split, ih]
    by_cases hc : c = sep
    · rw [if_pos hc, if_pos ((h c).mpr hc)]
      rfl
    · rw [if_neg hc, if_neg fun hf => hc ((h c).mp hf)]
      cases split sep s <;> rfl

theorem mem_split (sep : Char) {c : Char} {s : List Char} (hc : c ∈ s) :
    c = sep ∨ ∃ piece ∈ split sep s, c ∈ piece := by
  induction s with
  | nil => cases hc
  | cons d s ih =>
    rw [split]
    by_cases hd : d = sep
    · rw [if_pos hd]
      rcases List.mem_cons.mp hc with rfl | hc
      · exact .inl hd
      · refine (ih hc).imp_right ?_
        rintro ⟨piece, hpiece, hmem⟩
        exact ⟨piece, List.mem_cons_of_mem _ hpiece, hmem⟩
    · rw [if_neg hd]
      cases hs : split sep s with
      | nil => exact absurd hs (split_ne_nil sep s)
      | cons first pieces =>
        rcases List.mem_cons.mp hc with rfl | hc
        · exact .inr ⟨c :: first, List.mem_cons_self, List.mem_cons_self⟩
        · refine (ih hc).imp_right ?_
          rw [hs]
          rintro ⟨piece, hpiece, hmem⟩
          rcases List.mem_cons.mp hpiece with rfl | hpiece
          · exact ⟨d :: piece, List.mem_cons_self, List.mem_cons_of_mem _ hmem⟩
          · exact ⟨piece, List.mem_cons_of_mem _ hpiece, hmem⟩

theorem upTo_append {sep : Char} {s : List Char} (hs : sep ∉ s) {rest : List Char}
    (hrest : rest = [] ∨ rest.head? = some sep) : upTo sep (s ++ rest) = s := by
  have hkept : s.takeWhile (· != sep) = s := by
    refine List.takeWhile_eq_self_iff.mpr ?_
    intro c hc
    rw [bne_iff_ne]
    rintro rfl
    exact hs hc
  have hcut : rest.takeWhile (· != sep) = [] := by
    rcases hrest with rfl | hhead
    · rfl
    · cases rest with
      | nil => rfl
      | cons c rest =>
        cases hhead
        rw [List.takeWhile_cons, bne_self_eq_false, if_neg Bool.false_ne_true]
  rw [upTo, List.takeWhile_append, hkept, if_pos rfl, hcut, List.append_nil]

end NotebookHost.Text

namespace NotebookHost.Hostname

open Text

theorem isLabelChar_iff {c : Char} : isLabelChar c = true ↔
    c.toNat = 45 ∨ 48 ≤ c.toNat ∧ c.toNat ≤ 57 ∨ 65 ≤ c.toNat ∧ c.toNat ≤ 90 ∨
      97 ≤ c.toNat ∧ c.toNat ≤ 122 := by
  have hhyphen : c = '-' ↔ c.toNat = 45 := ⟨fun h => by rw [h]; rfl, fun h => Char.toNat_inj.mp h⟩
  change ((decide (c.val ≥ 'A'.val ∧ c.val ≤ 'Z'.val) ||
    (decide (c.val ≥ 'a'.val) && decide (c.val ≤ 'z'.val)) ||
    (decide (c.val ≥ '0'.val) && decide (c.val ≤ '9'.val))) || c == '-') = true ↔ _
  simp only [Bool.or_eq_true, Bool.and_eq_true, decide_eq_true_eq, beq_iff_eq, hhyphen, UInt32.le_iff_toNat_le,
    ge_iff_le]
  have hnat : c.toNat = c.val.toNat := rfl
  have hA : 'A'.val.toNat = 65 := rfl
  have hZ : 'Z'.val.toNat = 90 := rfl
  have ha : 'a'.val.toNat = 97 := rfl
  have hz : 'z'.val.toNat = 122 := rfl
  have h0 : '0'.val.toNat = 48 := rfl
  have h9 : '9'.val.toNat = 57 := rfl
  omega

theorem isLabelChar_toLower (c : Char) : isLabelChar c.toLower = isLabelChar c := by
  rw [Bool.eq_iff_iff, isLabelChar_iff, isLabelChar_iff]
  rcases toLower_cases c with ⟨hlow, hhigh, hlower⟩ | ⟨-, hsame⟩
  · omega
  · rw [hsame]

theorem withoutFinalDots_map (h : List Char) :
    withoutFinalDots (h.map Char.toLower) = (withoutFinalDots h).map Char.toLower := by
  have hdot : ((· == '.') ∘ Char.toLower) = (· == '.') := by
    funext c
    rw [Function.comp_apply, Bool.eq_iff_iff, beq_iff_eq, beq_iff_eq]
    exact toLower_eq_iff (by decide)
  rw [withoutFinalDots, withoutFinalDots, ← List.map_reverse, List.dropWhile_map, hdot, List.map_reverse]

theorem isLabel_map (l : List Char) : isLabel (l.map Char.toLower) = isLabel l := by
  have hhyphen (o : Option Char) : (o.map Char.toLower != some '-') = (o != some '-') := by
    rw [Bool.eq_iff_iff, bne_iff_ne, bne_iff_ne]
    cases o with
    | none => rfl
    | some c => simp [toLower_eq_iff (show '-'.toNat < 65 by decide)]
  have hchars : isLabelChar ∘ Char.toLower = isLabelChar := funext isLabelChar_toLower
  rw [isLabel, isLabel, List.isEmpty_map, List.length_map, List.head?_map, List.getLast?_map, hhyphen, hhyphen,
    List.all_map, hchars]

theorem isValid_canonical (h : String) : isValid (canonical h) = isValid h := by
  have hempty : (canonical h).isEmpty = h.isEmpty := congrArg (· == 0) (utf8ByteSize_lower h)
  have hdot (c : Char) : c.toLower = '.' ↔ c = '.' := toLower_eq_iff (by decide)
  have hlabels : isLabel ∘ List.map Char.toLower = isLabel := funext isLabel_map
  rw [isValid, isValid, hempty, canonical, utf8ByteSize_lower, toList_lower, withoutFinalDots_map, split_map hdot,
    List.all_map, hlabels]

def isHostChar (c : Char) : Bool := isLabelChar c || c == '.'

theorem isHostChar_of_isValid {h : String} (valid : isValid h = true) : ∀ c ∈ h.toList, isHostChar c = true := by
  intro c hc
  rw [isHostChar, Bool.or_eq_true, beq_iff_eq]
  rw [isValid, Bool.and_eq_true, List.all_eq_true] at valid
  rw [← List.mem_reverse, ← List.takeWhile_append_dropWhile (p := (· == '.')) (l := h.toList.reverse),
    List.mem_append] at hc
  rcases hc with hc | hc
  · exact .inr (beq_iff_eq.mp (List.mem_takeWhile_imp (p := (· == '.')) hc))
  · have hname : c ∈ withoutFinalDots h.toList := List.mem_reverse.mpr hc
    rcases mem_split '.' hname with hdot | ⟨piece, hpiece, hmem⟩
    · exact .inr hdot
    · have hlabel := valid.2 piece hpiece
      rw [isLabel, Bool.and_eq_true, List.all_eq_true] at hlabel
      exact .inl (hlabel.2 c hmem)

theorem isHostChar_toLower (c : Char) : isHostChar c.toLower = isHostChar c := by
  have hdot : (c.toLower == '.') = (c == '.') := by
    rw [Bool.eq_iff_iff, beq_iff_eq, beq_iff_eq]
    exact toLower_eq_iff (by decide)
  rw [isHostChar, isHostChar, isLabelChar_toLower, hdot]

theorem isHostChar_of_sameLetters {domain spelling : String} (valid : isValid domain = true)
    (same : sameLetters spelling domain = true) : ∀ c ∈ spelling.toList, isHostChar c = true := by
  intro c hc
  have hlower := congrArg String.toList (sameLetters_iff.mp same)
  rw [toList_lower, toList_lower] at hlower
  have hmem : c.toLower ∈ domain.toList.map Char.toLower := by
    rw [← hlower]
    exact List.mem_map_of_mem hc
  obtain ⟨d, hd, heq⟩ := List.mem_map.mp hmem
  rw [← isHostChar_toLower, ← heq, isHostChar_toLower]
  exact isHostChar_of_isValid valid d hd

theorem ofAuthority?_spelling {domain spelling suffix : String} (valid : isValid domain = true)
    (same : sameLetters spelling domain = true) (hsuffix : suffix = "" ∨ suffix.toList.head? = some ':') :
    ofAuthority? (spelling ++ suffix) = some (canonical domain) := by
  have hchars := isHostChar_of_sameLetters valid same
  have hsize : spelling.utf8ByteSize = domain.utf8ByteSize := by
    rw [← utf8ByteSize_lower, sameLetters_iff.mp same, utf8ByteSize_lower]
  have hhost : upTo ':' (spelling ++ suffix).toList = spelling.toList := by
    rw [String.toList_append]
    refine upTo_append ?_ ?_
    · intro hcolon
      exact absurd (hchars ':' hcolon) (by decide)
    · exact hsuffix.imp_left fun h => by rw [h]; rfl
  simp only [isValid, Bool.and_eq_true, Bool.not_eq_true', decide_eq_true_eq] at valid
  obtain ⟨⟨hne, hle⟩, -⟩ := valid
  have hempty : spelling.toList.isEmpty = false := by
    rw [List.isEmpty_eq_false_iff]
    intro hnil
    rw [String.toList_injective (hnil.trans String.toList_empty.symm)] at hsize
    have hzero : domain.isEmpty = true := beq_iff_eq.mpr hsize.symm
    rw [hne] at hzero
    cases hzero
  have hall : (spelling.toList.all fun c => isLabelChar c || c == '.') = true := List.all_eq_true.mpr hchars
  unfold ofAuthority?
  rw [hhost]
  dsimp only
  rw [hempty, String.ofList_toList, hsize, Bool.false_or, decide_eq_false (Nat.not_lt.mpr hle),
    if_neg Bool.false_ne_true, if_pos hall, canonical_eq_iff.mpr same]

end NotebookHost.Hostname
