import NotebookHost.Management
import NotebookHost.Proofs.Catalogue.Effects
import NotebookHost.Proofs.Catalogue.Uniqueness
import NotebookHost.Proofs.Hostname

namespace NotebookHost

open Text Catalogue

theorem Text.occursIn_iff {piece s : List Char} : occursIn piece s = true ↔ piece <:+: s := by
  induction s with
  | nil => rw [occursIn, List.isEmpty_iff, List.infix_nil]
  | cons c s ih => rw [occursIn, Bool.or_eq_true, List.isPrefixOf_iff_prefix, ih, List.infix_cons_iff]

structure Notebook.IsAdmissible (n : Notebook) : Prop where
  name : 1 ≤ n.name.length ∧ n.name.length ≤ 100
  path : n.path ≠ "" ∧ ¬ ['.', '.'] <:+: n.path.toList
  domain : Hostname.isValid n.domain = true ∧ Hostname.canonical n.domain = n.domain

namespace Draft

theorem ne_empty_of_given {value : Option String} {s : String} (h : given value = some s) : s ≠ "" := by
  rintro rfl
  obtain ⟨-, hne⟩ := Option.filter_eq_some_iff.mp h
  cases hne

section Accepted

variable {d : Draft} (accepted : d.faults = [])
include accepted

theorem name_of_accepted {name : String} (h : d.name = some name) : 1 ≤ name.length ∧ name.length ≤ 100 := by
  have hnil := (List.append_eq_nil_iff.mp (List.append_eq_nil_iff.mp accepted).1).1
  rw [h, Option.any_some] at hnil
  split_ifs at hnil with hlong
  rw [decide_eq_true_eq, not_lt] at hlong
  exact ⟨Nat.one_le_iff_ne_zero.mpr fun hzero => ne_empty_of_given h (String.length_eq_zero_iff.mp hzero), hlong⟩

theorem path_of_accepted {path : String} (h : d.path = some path) : path ≠ "" ∧ ¬ ['.', '.'] <:+: path.toList := by
  have hnil := (List.append_eq_nil_iff.mp (List.append_eq_nil_iff.mp accepted).1).2
  rw [h, Option.any_some] at hnil
  split_ifs at hnil with hclimbs
  rw [occursIn_iff] at hclimbs
  exact ⟨ne_empty_of_given h, hclimbs⟩

theorem domain_of_accepted {domain : String} (h : d.domain = some domain) :
    Hostname.isValid (Hostname.canonical domain) = true := by
  have hnil := (List.append_eq_nil_iff.mp accepted).2
  rw [h, Option.any_some] at hnil
  split_ifs at hnil with hmalformed
  rw [Bool.not_eq_true', Bool.not_eq_false] at hmalformed
  rw [Hostname.isValid_canonical, hmalformed]

theorem drawn_isAdmissible {birth : Birth} {n : Notebook} (h : drawn? birth d = some n) : n.IsAdmissible := by
  have hcanonical := drawn?_canonical h
  unfold drawn? at h
  split at h
  · next name path domain hname hpath hdomain =>
    cases h
    exact ⟨name_of_accepted accepted hname, path_of_accepted accepted hpath, domain_of_accepted accepted hdomain,
      hcanonical⟩
  · cases h

theorem apply_isAdmissible {n : Notebook} (h : n.IsAdmissible) : (d.apply n).IsAdmissible := by
  refine ⟨?_, ?_, ?_⟩
  · change 1 ≤ (d.name.getD n.name).length ∧ (d.name.getD n.name).length ≤ 100
    cases hname : d.name with
    | none => exact h.name
    | some name => exact name_of_accepted accepted hname
  · change d.path.getD n.path ≠ "" ∧ ¬ ['.', '.'] <:+: (d.path.getD n.path).toList
    cases hpath : d.path with
    | none => exact h.path
    | some path => exact path_of_accepted accepted hpath
  · change Hostname.isValid ((d.domain.map Hostname.canonical).getD n.domain) = true ∧
      Hostname.canonical ((d.domain.map Hostname.canonical).getD n.domain) =
        (d.domain.map Hostname.canonical).getD n.domain
    cases hdomain : d.domain with
    | none => exact h.domain
    | some domain => exact ⟨domain_of_accepted accepted hdomain, Hostname.canonical_canonical domain⟩

end Accepted

theorem accepted_of_read {body : List UInt8} {d : Draft} (h : Management.readDraft body = .ok d) : d.faults = [] := by
  unfold Management.readDraft at h
  split at h
  · cases h
  · split at h
    · cases h
    · next hnone =>
      cases h
      unfold refusal? at hnone
      split at hnone
      · assumption
      · cases hnone

end Draft

namespace Store

def Keeps (P : Notebook → Prop) (s : Store) : Prop := ∀ (id : String) (n : Notebook), s.record? id = some n → P n

theorem Keeps.put {P : Notebook → Prop} {s : Store} (hs : s.Keeps P) {n : Notebook} (hn : P n) :
    (s.put (key n.id) n.encode).Keeps P := by
  intro id m hm
  rw [record?_put] at hm
  split_ifs at hm
  · cases hm
    exact hn
  · exact hs id m hm

theorem Keeps.drop {P : Notebook → Prop} {s : Store} (hs : s.Keeps P) (i : String) : (s.drop (key i)).Keeps P := by
  intro id m hm
  rw [record?_drop] at hm
  split_ifs at hm
  exact hs id m hm

end Store

namespace Catalogue

variable {P : Notebook → Prop} {c : Catalogue} (hc : c.store.Keeps P) (o : Outage)
include hc

theorem add_keeps {birth : Birth} {d : Draft} (hdrawn : ∀ n, drawn? birth d = some n → P n) :
    (c.add o birth d).1.store.Keeps P := by
  rw [add_eq]
  split
  · exact hc
  · next n hn =>
    split_ifs
    · exact hc
    · exact hc
    · exact hc
    · exact hc.put (hdrawn n hn)

theorem replace_keeps (before : Notebook) {after : Notebook} (hafter : P after) :
    (c.replace o before after).1.store.Keeps P := by
  rw [replace_eq]
  split_ifs
  · exact hc
  · rw [afterUpdate_store]
    exact hc.put hafter

theorem update_keeps (id : String) {d : Draft} (happly : ∀ n, P n → P (d.apply n)) :
    (c.update o id d).1.store.Keeps P := by
  rw [update_eq]
  split
  · exact hc
  · next before hfound =>
    have hafter := happly before (hc id before (record?_of_find? hfound))
    split_ifs
    · exact hc
    · exact replace_keeps hc o before hafter
    · exact hc
    · exact hc
    · exact replace_keeps hc o before hafter

theorem delete_keeps (id : String) : (c.delete o id).1.store.Keeps P := by
  rw [delete_eq]
  split
  · exact hc
  · split_ifs
    · exact hc
    · rw [afterDelete_store]
      exact hc.drop id

end Catalogue

end NotebookHost
