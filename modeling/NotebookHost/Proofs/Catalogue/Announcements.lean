import NotebookHost.Proofs.Catalogue.Uniqueness
import Mathlib.Data.Finset.Card

namespace NotebookHost

def Event.outcome (e : Event) : Option Notebook := if e.change = .deleted then none else some e.notebook

namespace Catalogue

def changesOf (id : String) (l : List Event) : List Event := l.filter (·.notebook.id == id)

def latest (l : List Event) : Option Notebook := l.getLast?.bind Event.outcome

def IsHistory (l : List Event) : Prop :=
  ∀ (before : List Event) (e : Event), before ++ [e] <+: l → latest before = none → e.change = .added

@[simp] theorem latest_nil : latest [] = none := rfl

@[simp] theorem latest_concat (l : List Event) (e : Event) : latest (l ++ [e]) = e.outcome := by
  rw [latest, List.getLast?_concat, Option.bind_some]

theorem changesOf_append (id : String) (l l' : List Event) :
    changesOf id (l ++ l') = changesOf id l ++ changesOf id l' :=
  List.filter_append l l'

theorem mem_changesOf {id : String} {l : List Event} {e : Event} :
    e ∈ changesOf id l ↔ e ∈ l ∧ e.notebook.id = id := by
  rw [changesOf, List.mem_filter, beq_iff_eq]

theorem changesOf_cons (id : String) (e : Event) (l : List Event) :
    changesOf id (e :: l) = if id = e.notebook.id then e :: changesOf id l else changesOf id l := by
  simp only [changesOf, List.filter_cons, beq_iff_eq, eq_comm (a := id)]

theorem changesOf_concat (id : String) (l : List Event) (e : Event) :
    changesOf id (l ++ [e]) = if id = e.notebook.id then changesOf id l ++ [e] else changesOf id l := by
  rw [changesOf_append, changesOf_cons]
  split_ifs
  · rfl
  · exact List.append_nil _

theorem IsHistory.concat {l : List Event} (h : IsHistory l) {e : Event} (hnew : latest l = none → e.change = .added) :
    IsHistory (l ++ [e]) := by
  intro before e' hinit hnone
  rcases List.prefix_concat_iff.mp hinit with heq | hinit
  · obtain ⟨hl, he⟩ := List.append_inj' heq rfl
    rw [List.singleton_inj.mp he]
    exact hnew (hl ▸ hnone)
  · exact h before e' hinit hnone

theorem changesOf_eraseP {l : List Event} {e : Event} (first : l.find? (·.notebook.id == e.notebook.id) = some e) :
    changesOf e.notebook.id l = e :: changesOf e.notebook.id (l.eraseP (·.notebook.id == e.notebook.id)) ∧
      ∀ id, id ≠ e.notebook.id → changesOf id (l.eraseP (·.notebook.id == e.notebook.id)) = changesOf id l := by
  obtain ⟨he, before, after, hl, hbefore⟩ := List.find?_eq_some_iff_append.mp first
  have hnot : ∀ a ∈ before, ¬ (a.notebook.id == e.notebook.id) = true := by
    intro a ha
    rw [Bool.not_eq_true, ← Bool.not_eq_true']
    exact hbefore a ha
  have herase : l.eraseP (·.notebook.id == e.notebook.id) = before ++ after := by
    rw [hl, List.eraseP_append_right _ hnot]
    exact congrArg _ (List.eraseP_cons_of_pos he)
  have hnone : changesOf e.notebook.id before = [] := List.filter_eq_nil_iff.mpr hnot
  rw [herase, hl]
  constructor
  · rw [changesOf_append, changesOf_append, hnone, List.nil_append, List.nil_append, changesOf_cons, if_pos rfl]
  · intro id hid
    rw [changesOf_append, changesOf_append, changesOf_cons, if_neg hid]

def announcedIds (l : List Event) : Finset String := (l.map (·.notebook.id)).toFinset

/-- Ids are drawn at random: none is drawn again after its notebook was deleted. -/
def NoIdReturns (l : List Event) : Prop :=
  l.Pairwise fun e f => e.change = .deleted → f.change = .added → e.notebook.id ≠ f.notebook.id

instance : DecidablePred NoIdReturns := fun l => inferInstanceAs (Decidable (l.Pairwise _))

theorem mem_announcedIds {id : String} {l : List Event} : id ∈ announcedIds l ↔ changesOf id l ≠ [] := by
  rw [announcedIds, List.mem_toFinset, List.mem_map]
  constructor
  · rintro ⟨e, he, hid⟩ hnil
    have hmem := mem_changesOf.mpr ⟨he, hid⟩
    rw [hnil] at hmem
    cases hmem
  · intro h
    obtain ⟨e, he⟩ := List.exists_mem_of_ne_nil _ h
    exact ⟨e, mem_changesOf.mp he⟩

theorem announcedIds_subset {l l' : List Event} (h : l <+: l') : announcedIds l ⊆ announcedIds l' := by
  intro id hid
  obtain ⟨rest, rfl⟩ := h
  rw [mem_announcedIds, changesOf_append]
  exact List.append_ne_nil_of_left_ne_nil (mem_announcedIds.mp hid) _

theorem exists_deletion {id : String} {l : List Event} (hid : id ∈ announcedIds l)
    (hnone : latest (changesOf id l) = none) :
    ∃ e ∈ l, e.change = .deleted ∧ e.notebook.id = id := by
  rcases List.eq_nil_or_concat' (changesOf id l) with hnil | ⟨before, e, hl⟩
  · exact absurd hnil (mem_announcedIds.mp hid)
  · have hmem : e ∈ changesOf id l := by
      rw [hl]
      exact List.mem_append_right _ (List.mem_singleton_self e)
    obtain ⟨he, hid⟩ := mem_changesOf.mp hmem
    rw [hl, latest_concat, Event.outcome] at hnone
    split_ifs at hnone with hdeleted
    exact ⟨e, he, hdeleted, hid⟩

structure News (c c' : Catalogue) (e : Event) : Prop where
  announced : c'.announced = c.announced ++ [e]
  record : ∀ id, c'.store.record? id = if id = e.notebook.id then e.outcome else c.store.record? id
  known : c.store.record? e.notebook.id = none → e.change = .added

theorem afterAdd_news (n : Notebook) (c : Catalogue) : News c (c.afterAdd n) ⟨.added, n⟩ where
  announced := rfl
  record id := by
    rw [afterAdd_store, Store.record?_put]
    simp only [eq_comm (a := id)]
    rfl
  known _ := rfl

theorem afterUpdate_news {c : Catalogue} {id : String} {before after : Notebook}
    (found : c.store.record? id = some before) (hid : after.id = id) :
    News c (c.afterUpdate before after) ⟨.updated, after⟩ where
  announced := by
    unfold afterUpdate
    split_ifs <;> rfl
  record i := by
    rw [afterUpdate_store, Store.record?_put]
    simp only [eq_comm (a := i)]
    rfl
  known hnone := by
    rw [hid, found] at hnone
    cases hnone

theorem afterDelete_news {c : Catalogue} {id : String} {n : Notebook} (found : c.store.record? id = some n)
    (hid : n.id = id) : News c (c.afterDelete id n) ⟨.deleted, n⟩ where
  announced := by
    unfold afterDelete releaseFrom
    split_ifs <;> rfl
  record i := by
    rw [afterDelete_store, Store.record?_drop, ← hid]
    simp only [eq_comm (a := i)]
    rfl
  known hnone := by
    rw [hid, found] at hnone
    cases hnone

theorem Effect.news {c c' : Catalogue} (h : Effect c c') (hc : c.store.IsWellFormed) :
    c' = c ∨ ∃ e, News c c' e := by
  cases h with
  | nothing => exact .inl rfl
  | @added n _ _ => exact .inr ⟨_, afterAdd_news n c⟩
  | updated found same _ _ => exact .inr ⟨_, afterUpdate_news found (same.trans (hc.keyed found))⟩
  | deleted found => exact .inr ⟨_, afterDelete_news found (hc.keyed found)⟩

structure IsTold (c : Catalogue) : Prop where
  record : ∀ id, c.store.record? id = latest (changesOf id c.announced)
  history : ∀ id, IsHistory (changesOf id c.announced)

theorem News.isTold {c c' : Catalogue} {e : Event} (h : News c c' e) (hc : c.IsTold) : c'.IsTold where
  record id := by
    rw [h.record, h.announced, changesOf_concat]
    split_ifs with hid
    · rw [latest_concat]
    · exact hc.record id
  history id := by
    rw [h.announced, changesOf_concat]
    split_ifs with hid
    · refine (hc.history id).concat fun hnone => h.known ?_
      rw [← hid, hc.record id, hnone]
    · exact hc.history id

theorem ofStore_announced {o : Outage} {s : Store} {c : Catalogue} (h : ofStore o s = .ok c) :
    c.announced = s.notebooks.map fun n => ⟨.added, n⟩ := by
  have hfold (ns : List Notebook) (c : Catalogue) :
      (ns.foldl takeUp c).announced = c.announced ++ ns.map fun n => ⟨.added, n⟩ := by
    induction ns generalizing c with
    | nil => exact (List.append_nil _).symm
    | cons n ns ih =>
      rw [List.foldl_cons, ih, takeUp, announce, List.append_assoc]
      rfl
  unfold ofStore at h
  rw [records_eq] at h
  split_ifs at h
  cases h
  exact hfold _ _

theorem ofStore_isTold {o : Outage} {s : Store} (hs : s.IsWellFormed) {c : Catalogue} (h : ofStore o s = .ok c) :
    c.IsTold := by
  have hmem (id : String) (e : Event) (he : e ∈ changesOf id c.announced) :
      e.change = .added ∧ s.record? id = some e.notebook := by
    obtain ⟨he, hid⟩ := mem_changesOf.mp he
    rw [ofStore_announced h, List.mem_map] at he
    obtain ⟨n, hn, rfl⟩ := he
    rw [← hid]
    exact ⟨rfl, hs.mem_notebooks_iff.mp hn⟩
  refine ⟨?_, ?_⟩
  · intro id
    rw [ofStore_store h]
    rcases List.eq_nil_or_concat' (changesOf id c.announced) with hnil | ⟨l, e, hl⟩
    · rw [hnil, latest_nil]
      cases hrec : s.record? id with
      | none => rfl
      | some n =>
        have hn : (⟨.added, n⟩ : Event) ∈ changesOf id c.announced := by
          rw [mem_changesOf, ofStore_announced h]
          exact ⟨List.mem_map.mpr ⟨n, Store.mem_notebooks.mpr ⟨id, hrec⟩, rfl⟩, hs.keyed hrec⟩
        rw [hnil] at hn
        cases hn
    · obtain ⟨hadded, hrec⟩ := hmem id e (by rw [hl]; exact List.mem_append_right l (List.mem_singleton_self e))
      rw [hl, latest_concat, Event.outcome, hadded, if_neg (by decide)]
      exact hrec
  · intro id before e hinit _
    exact (hmem id e (hinit.subset (List.mem_append_right before (List.mem_singleton_self e)))).1

end Catalogue

end NotebookHost
