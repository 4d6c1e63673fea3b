import NotebookHost.Text.Split
import Mathlib.Data.List.DropRight
import Mathlib.Data.List.TakeWhile
import Mathlib.Tactic.SplitIfs

namespace NotebookHost.Text

theorem span_append {p : Char → Bool} {s r : List Char} (hs : ∀ c ∈ s, p c = true)
    (hr : ∀ c ∈ r.head?, p c = false) :
    (s ++ r).takeWhile p = s ∧ (s ++ r).dropWhile p = r := by
  rw [List.takeWhile_append_of_pos hs, List.dropWhile_append_of_pos hs]
  cases r with
  | nil => simp
  | cons c r => simp [hr c rfl]

theorem rdropWhile_append {p : Char → Bool} {s r : List Char} (hs : ∀ c ∈ s.getLast?, p c = false)
    (hr : ∀ c ∈ r, p c = true) : (s ++ r).rdropWhile p = s := by
  have hkept : s.reverse.dropWhile p = s.reverse := by
    rw [List.getLast?_eq_head?_reverse] at hs
    cases hreverse : s.reverse with
    | nil => rfl
    | cons c t =>
      rw [hreverse] at hs
      rw [List.dropWhile_cons, hs c rfl]
      rfl
  rw [List.rdropWhile, List.reverse_append,
    List.dropWhile_append_of_pos fun c hc => hr c (List.mem_reverse.mp hc), hkept, List.reverse_reverse]

theorem getLast?_rdropWhile {p : Char → Bool} {c : Char} {s : List Char} (h : (s.rdropWhile p).getLast? = some c) :
    p c = false := by
  rw [List.rdropWhile, List.getLast?_reverse] at h
  have hhead := List.head?_dropWhile_not p s.reverse
  rw [h] at hhead
  exact hhead

theorem rtakeWhile_beq (c : Char) (s : List Char) :
    s.rtakeWhile (· == c) = List.replicate (s.rtakeWhile (· == c)).length c :=
  List.eq_replicate_iff.mpr ⟨rfl, fun _ hd =>
    beq_iff_eq.mp (List.mem_rtakeWhile_imp (p := (· == c)) hd)⟩

theorem bne_of_not_mem {sep : Char} {s : List Char} (hs : sep ∉ s) : ∀ c ∈ s, (c != sep) = true := by
  intro c hc
  rw [bne_iff_ne]
  rintro rfl
  exact hs hc

theorem splitOnce_of_not_mem {sep : Char} {s : List Char} (hs : sep ∉ s) : splitOnce sep s = none := by
  rw [splitOnce, List.dropWhile_eq_nil_iff.mpr (bne_of_not_mem hs)]

theorem splitOnce_append {sep : Char} {p : List Char} (hp : sep ∉ p) (q : List Char) :
    splitOnce sep (p ++ sep :: q) = some (p, q) := by
  obtain ⟨htake, hdrop⟩ := span_append (r := sep :: q) (bne_of_not_mem hp) (by simp)
  rw [splitOnce, hdrop, htake]

theorem splitOnce_eq_some_iff {sep : Char} {s p q : List Char} :
    splitOnce sep s = some (p, q) ↔ s = p ++ sep :: q ∧ sep ∉ p := by
  constructor
  · intro h
    by_cases hsep : sep ∈ s
    · obtain ⟨p', q', rfl, hp'⟩ := List.eq_append_cons_of_mem hsep
      rw [splitOnce_append hp'] at h
      cases h
      exact ⟨rfl, hp'⟩
    · rw [splitOnce_of_not_mem hsep] at h
      cases h
  · rintro ⟨rfl, hp⟩
    exact splitOnce_append hp q

theorem split_of_not_mem {sep : Char} {s : List Char} (hs : sep ∉ s) : split sep s = [s] := by
  induction s with
  | nil => rfl
  | cons c s ih =>
    obtain ⟨hc, hs⟩ := List.ne_and_not_mem_of_not_mem_cons hs
    rw [split, if_neg (Ne.symm hc), ih hs]

theorem split_append (sep : Char) (s r : List Char) : split sep (s ++ sep :: r) = split sep s ++ split sep r := by
  induction s with
  | nil => simp [split]
  | cons c s ih =>
    rw [List.cons_append, split, split, ih]
    by_cases hc : c = sep
    · rw [if_pos hc, if_pos hc, List.cons_append]
    · rw [if_neg hc, if_neg hc]
      cases hs : split sep s with
      | nil => exact absurd hs (split_ne_nil sep s)
      | cons p ps => rfl

theorem mem_of_mem_split {sep c : Char} {s piece : List Char} (hpiece : piece ∈ split sep s) (hc : c ∈ piece) :
    c ∈ s := by
  induction s generalizing piece with
  | nil =>
    rw [List.mem_singleton.mp hpiece] at hc
    cases hc
  | cons d s ih =>
    rw [split] at hpiece
    split_ifs at hpiece
    · rcases List.mem_cons.mp hpiece with rfl | hpiece
      · cases hc
      · exact List.mem_cons_of_mem _ (ih hpiece hc)
    · cases hs : split sep s with
      | nil => exact absurd hs (split_ne_nil sep s)
      | cons first pieces =>
        rw [hs] at hpiece ih
        rcases List.mem_cons.mp hpiece with rfl | hpiece
        · rcases List.mem_cons.mp hc with rfl | hc
          · exact List.mem_cons_self
          · exact List.mem_cons_of_mem _ (ih List.mem_cons_self hc)
        · exact List.mem_cons_of_mem _ (ih (List.mem_cons_of_mem _ hpiece) hc)

theorem afterLast_append {sep : Char} {t : List Char} (ht : sep ∉ t) (s : List Char) :
    ((s ++ sep :: t).reverse.takeWhile (· != sep)).reverse = t := by
  have hreverse : (s ++ sep :: t).reverse = t.reverse ++ sep :: s.reverse := by simp
  obtain ⟨htake, -⟩ :=
    span_append (s := t.reverse) (r := sep :: s.reverse) (bne_of_not_mem (by simpa using ht)) (by simp)
  rw [hreverse, htake, List.reverse_reverse]

end NotebookHost.Text
