import NotebookHost.Catalogue.Basic
import NotebookHost.Proofs.Notebook.RoundTrip
import NotebookHost.Proofs.Text.Case
import Mathlib.Data.List.Basic
import Mathlib.Order.Basic

namespace NotebookHost

open Text Catalogue

namespace Store

def record? (s : Store) (id : String) : Option Notebook := (s.get? (key id)).bind Notebook.decode?

def notebooks (s : Store) : List Notebook := (s.startingWith keyStart).filterMap fun row => Notebook.decode? row.2

def owner? (s : Store) (domain : String) : Option Notebook := s.notebooks.find? fun n => sameLetters n.domain domain

def IsKeyed (s : Store) : Prop := ∀ (id : String) (n : Notebook), s.record? id = some n → n.id = id

/-- Every record is kept under its own id, and no two have one domain up to case. -/
structure IsWellFormed (s : Store) : Prop where
  keyed : ∀ {id : String} {n : Notebook}, s.record? id = some n → n.id = id
  apart : ∀ {i j : String} {m n : Notebook}, s.record? i = some m → s.record? j = some n →
    sameLetters m.domain n.domain = true → i = j

end Store

namespace Catalogue

theorem toList_key (id : String) : (key id).toList = keyStart.toList ++ id.toList := String.toList_append

theorem key_injective {i j : String} (h : key i = key j) : i = j := by
  have hl := congrArg String.toList h
  rw [toList_key, toList_key] at hl
  exact String.toList_injective (List.append_cancel_left hl)

theorem key_lt_key_iff {i j : String} : key i < key j ↔ i < j := by
  change (key i).toList < (key j).toList ↔ i.toList < j.toList
  rw [toList_key, toList_key]
  constructor
  · intro h
    rcases Decidable.em (i.toList < j.toList) with hlt | hge
    · exact hlt
    · exact absurd h (List.not_lt.mpr (List.append_left_le (List.not_lt.mp hge)))
  · exact List.append_left_lt

theorem startsWith_keyStart_iff {k : String} : Store.startsWith keyStart k = true ↔ ∃ id, k = key id := by
  have hm : (Store.measured keyStart).length = 9 := by decide
  have hs : keyStart.toList = Store.measured keyStart := by decide
  rw [Store.startsWith, hm, beq_iff_eq]
  constructor
  · intro h
    obtain ⟨rest, hrest⟩ : keyStart.toList <+: k.toList := by
      rw [← h]
      exact (List.take_prefix _ _).trans (List.takeWhile_prefix _)
    refine ⟨String.ofList rest, String.toList_injective ?_⟩
    rw [toList_key, String.toList_ofList, hrest]
  · rintro ⟨id, rfl⟩
    have hpos : keyStart.toList.all (· != '\x00') = true := by decide
    rw [Store.measured, toList_key, List.takeWhile_append_of_pos (List.all_eq_true.mp hpos),
      List.take_append_of_le_length (by decide)]
    decide

end Catalogue

namespace Store

theorem mem_notebooks {s : Store} {n : Notebook} : n ∈ s.notebooks ↔ ∃ id, s.record? id = some n := by
  simp only [notebooks, List.mem_filterMap, mem_startingWith, startsWith_keyStart_iff, Prod.exists, record?,
    Option.bind_eq_some_iff]
  constructor
  · rintro ⟨_, v, ⟨hv, id, rfl⟩, hn⟩
    exact ⟨id, v, hv, hn⟩
  · rintro ⟨id, v, hv, hn⟩
    exact ⟨_, v, ⟨hv, id, rfl⟩, hn⟩

theorem record?_put (s : Store) (n : Notebook) (id : String) :
    (s.put (key n.id) n.encode).record? id = if n.id = id then some n else s.record? id := by
  rw [record?, get?_put]
  by_cases h : n.id = id
  · rw [if_pos (congrArg key h), if_pos h, Option.bind_some, Notebook.decode?_encode]
  · rw [if_neg fun he => h (key_injective he), if_neg h, record?]

theorem record?_drop (s : Store) (i id : String) :
    (s.drop (key i)).record? id = if i = id then none else s.record? id := by
  rw [record?, get?_drop]
  by_cases h : i = id
  · rw [if_pos (congrArg key h), if_pos h, Option.bind_none]
  · rw [if_neg fun he => h (key_injective he), if_neg h, record?]

theorem contains_of_record? {s : Store} {id : String} {n : Notebook} (h : s.record? id = some n) :
    s.contains (key id) = true := by
  obtain ⟨v, hv, -⟩ := Option.bind_eq_some_iff.mp h
  rw [contains_eq, hv]
  rfl

theorem owner?_sound {s : Store} {domain : String} {n : Notebook} (h : s.owner? domain = some n) :
    (∃ id, s.record? id = some n) ∧ sameLetters n.domain domain = true :=
  ⟨mem_notebooks.mp (List.mem_of_find?_eq_some h),
    List.find?_some (p := fun n : Notebook => sameLetters n.domain domain) h⟩

theorem owner?_eq_none_iff {s : Store} {domain : String} :
    s.owner? domain = none ↔ ∀ id n, s.record? id = some n → sameLetters n.domain domain = false := by
  simp only [owner?, List.find?_eq_none, mem_notebooks, Bool.not_eq_true]
  exact ⟨fun h id n hn => h n ⟨id, hn⟩, fun h n ⟨id, hn⟩ => h id n hn⟩

theorem eq_of_ascending {ms ns : List Notebook} (hms : ms.Pairwise fun m n => m.id < n.id)
    (hns : ns.Pairwise fun m n => m.id < n.id) (hmem : ∀ n, n ∈ ms ↔ n ∈ ns) : ms = ns := by
  have hne {m n : Notebook} (hlt : m.id < n.id) : m ≠ n := by
    rintro rfl
    exact String.ne_of_lt hlt rfl
  have hperm := (List.perm_ext_iff_of_nodup (hms.imp hne) (hns.imp hne)).mpr hmem
  exact hperm.eq_of_pairwise (fun m n _ _ hmn hnm => absurd hnm (String.lt_asymm hmn)) hms hns

namespace IsKeyed

variable {s : Store} (hs : s.IsKeyed)
include hs

theorem mem_notebooks_iff {n : Notebook} : n ∈ s.notebooks ↔ s.record? n.id = some n := by
  rw [mem_notebooks]
  constructor
  · rintro ⟨id, h⟩
    rw [hs id n h]
    exact h
  · exact fun h => ⟨n.id, h⟩

theorem notebooks_ascending : s.notebooks.Pairwise fun m n => m.id < n.id := by
  rw [notebooks, List.pairwise_filterMap]
  refine (startingWith_ascending s keyStart).imp_of_mem ?_
  intro a b ha hb hlt m hm n hn
  obtain ⟨hav, hastart⟩ := mem_startingWith.mp ha
  obtain ⟨hbv, hbstart⟩ := mem_startingWith.mp hb
  obtain ⟨i, hi⟩ := startsWith_keyStart_iff.mp hastart
  obtain ⟨j, hj⟩ := startsWith_keyStart_iff.mp hbstart
  have hmi : m.id = i := hs i m (by rw [record?, ← hi, hav, Option.bind_some]; exact hm)
  have hnj : n.id = j := hs j n (by rw [record?, ← hj, hbv, Option.bind_some]; exact hn)
  rw [hmi, hnj, ← key_lt_key_iff, ← hi, ← hj]
  exact hlt

end IsKeyed

namespace IsWellFormed

variable {s : Store} (hs : s.IsWellFormed)
include hs

theorem isKeyed : s.IsKeyed := fun _ _ h => hs.keyed h

theorem record?_id {id : String} {n : Notebook} (h : s.record? id = some n) : s.record? n.id = some n := by
  rw [hs.keyed h]
  exact h

theorem mem_notebooks_iff {n : Notebook} : n ∈ s.notebooks ↔ s.record? n.id = some n := hs.isKeyed.mem_notebooks_iff

theorem eq_of_sameLetters {i j : String} {m n : Notebook} (hm : s.record? i = some m) (hn : s.record? j = some n)
    (h : sameLetters m.domain n.domain = true) : m = n := by
  have hij := hs.apart hm hn h
  rw [hij, hn] at hm
  exact (Option.some.inj hm).symm

theorem notebooks_ascending : s.notebooks.Pairwise fun m n => m.id < n.id := hs.isKeyed.notebooks_ascending

theorem owner?_eq_some_iff {domain : String} {n : Notebook} :
    s.owner? domain = some n ↔ s.record? n.id = some n ∧ sameLetters n.domain domain = true := by
  constructor
  · intro h
    obtain ⟨⟨id, hrec⟩, hdom⟩ := owner?_sound h
    exact ⟨hs.record?_id hrec, hdom⟩
  · rintro ⟨hrec, hdom⟩
    cases ho : s.owner? domain with
    | none => exact absurd hdom (by rw [owner?_eq_none_iff.mp ho n.id n hrec]; decide)
    | some m =>
      obtain ⟨⟨id, hm⟩, hmd⟩ := owner?_sound ho
      rw [hs.eq_of_sameLetters hm hrec (sameLetters_trans hmd (by rwa [sameLetters_comm]))]

end IsWellFormed

end Store

end NotebookHost
