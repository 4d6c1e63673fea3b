import NotebookHost.Delivery.Subscribers
import NotebookHost.Proofs.Catalogue.Announcements
import NotebookHost.Proofs.Catalogue.Index

namespace NotebookHost

open Text

namespace Subscribers

def hear (panics : ℕ → Event → Bool) (c c' : Catalogue) (s : Subscribers) : Subscribers :=
  s.run panics ((c'.announced.drop c.announced.length).map .publish)

def told (es : List Event) (s : Subscribers) : Subscribers :=
  ⟨s.deliveries.map fun d => { d with inbox := d.inbox ++ es }⟩

theorem run_publish (panics : ℕ → Event → Bool) (s : Subscribers) (es : List Event) :
    s.run panics (es.map .publish) = s.told es := by
  induction es generalizing s with
  | nil => simp [told, run]
  | cons e es ih =>
    have h := ih (s.step panics (.publish e))
    simp only [told, step, Delivery.publish, List.map_map, Function.comp_def, List.append_assoc] at h ⊢
    exact h

theorem hear_self (panics : ℕ → Event → Bool) (c : Catalogue) (s : Subscribers) : s.hear panics c c = s := by
  rw [hear, List.drop_length]
  rfl

theorem hear_concat (panics : ℕ → Event → Bool) {c c' : Catalogue} {e : Event}
    (h : c'.announced = c.announced ++ [e]) (s : Subscribers) : s.hear panics c c' = s.told [e] := by
  rw [hear, h, List.drop_left, run_publish]

end Subscribers

namespace Catalogue

structure Untouched (c c' : Catalogue) : Prop where
  same : c' = c
  unheard : ∀ (panics : ℕ → Event → Bool) (s : Subscribers), s.hear panics c c' = s

structure Recorded (c c' : Catalogue) (e : Event) : Prop where
  row : ∀ k, c'.store.get? k = if key e.notebook.id = k then e.outcome.map Notebook.encode else c.store.get? k
  byId : ∀ id, c'.find? {} id = if id = e.notebook.id then e.outcome else c.find? {} id
  byDomain : ∀ (domain : String) (n : Notebook),
    c'.findByDomain? {} domain = some n ↔ c'.find? {} n.id = some n ∧ sameLetters n.domain domain = true
  heard : ∀ (panics : ℕ → Event → Bool) (s : Subscribers), s.hear panics c c' = s.told [e]

/-- Whatever calls to the store fail, an operation on the catalogue changes what it says it has changed. No operation
makes a kind of call twice, so that an outage may be any choice of its calls. -/
structure IsAtomic (c : Catalogue) : Prop where
  add_error : ∀ (o : Outage) (birth : Birth) (d : Draft) (f : Failure), (c.add o birth d).2 = .error f →
    Untouched c (c.add o birth d).1
  add_ok : ∀ (o : Outage) (birth : Birth) (d : Draft) (n : Notebook), (c.add o birth d).2 = .ok n →
    drawn? birth d = some n ∧ Recorded c (c.add o birth d).1 ⟨.added, n⟩
  update_error : ∀ (o : Outage) (id : String) (d : Draft) (f : Failure), (c.update o id d).2 = .error f →
    Untouched c (c.update o id d).1
  update_ok : ∀ (o : Outage) (id : String) (d : Draft) (n : Notebook), (c.update o id d).2 = .ok n →
    ∃ before, c.find? {} id = some before ∧ n = d.apply before ∧ n.id = id ∧
      (n = before ∧ Untouched c (c.update o id d).1 ∨
        n ≠ before ∧ Recorded c (c.update o id d).1 ⟨.updated, n⟩)
  delete_error : ∀ (o : Outage) (id : String) (f : Failure), (c.delete o id).2 = .error f →
    Untouched c (c.delete o id).1
  delete_ok : ∀ (o : Outage) (id : String), (c.delete o id).2 = .ok () →
    ∃ n, c.find? {} id = some n ∧ n.id = id ∧ Recorded c (c.delete o id).1 ⟨.deleted, n⟩

theorem untouched_of_eq {c c' : Catalogue} (h : c' = c) : Untouched c c' where
  same := h
  unheard panics s := by rw [h, s.hear_self]

section Failing

variable {o : Outage} {c : Catalogue} {f : Failure}

theorem add_of_error {birth : Birth} {d : Draft} (h : (c.add o birth d).2 = .error f) : (c.add o birth d).1 = c := by
  rw [add_eq] at h ⊢
  split at h
  · rfl
  · split_ifs at h ⊢ <;> rfl

theorem replace_of_error {before after : Notebook} (h : (c.replace o before after).2 = .error f) :
    (c.replace o before after).1 = c := by
  rw [replace_eq] at h ⊢
  split_ifs at h ⊢
  rfl

theorem update_of_error {id : String} {d : Draft} (h : (c.update o id d).2 = .error f) : (c.update o id d).1 = c := by
  rw [update_eq] at h ⊢
  split at h
  · rfl
  · split_ifs at h ⊢
    · exact replace_of_error h
    · rfl
    · rfl
    · exact replace_of_error h

theorem delete_of_error {id : String} (h : (c.delete o id).2 = .error f) : (c.delete o id).1 = c := by
  rw [delete_eq] at h ⊢
  split at h
  · rfl
  · split_ifs at h ⊢
    rfl

end Failing

section Succeeding

variable {o : Outage} {c : Catalogue}

theorem add_of_ok {birth : Birth} {d : Draft} {n : Notebook} (h : (c.add o birth d).2 = .ok n) :
    drawn? birth d = some n ∧ (c.add o birth d).1 = c.afterAdd n := by
  rw [add_eq] at h ⊢
  split at h
  · cases h
  · next m hm =>
    split_ifs at h ⊢
    cases h
    exact ⟨hm, rfl⟩

theorem replace_of_ok {before after n : Notebook} (h : (c.replace o before after).2 = .ok n) :
    n = after ∧ (c.replace o before after).1 = c.afterUpdate before after := by
  rw [replace_eq] at h ⊢
  split_ifs at h ⊢
  cases h
  exact ⟨rfl, rfl⟩

theorem update_of_ok {id : String} {d : Draft} {n : Notebook} (h : (c.update o id d).2 = .ok n) :
    ∃ before, c.store.record? id = some before ∧ n = d.apply before ∧
      (n = before ∧ (c.update o id d).1 = c ∨ n ≠ before ∧ (c.update o id d).1 = c.afterUpdate before n) := by
  rw [update_eq] at h ⊢
  split at h
  · cases h
  · next before hfind =>
    refine ⟨before, record?_of_find? hfind, ?_⟩
    split_ifs at h ⊢ with hsame
    · cases h
      exact ⟨hsame.symm, .inl ⟨rfl, rfl⟩⟩
    · obtain ⟨rfl, hafter⟩ := replace_of_ok h
      exact ⟨rfl, .inr ⟨hsame, hafter⟩⟩
    · obtain ⟨rfl, hafter⟩ := replace_of_ok h
      exact ⟨rfl, .inr ⟨hsame, hafter⟩⟩

theorem delete_of_ok {id : String} (h : (c.delete o id).2 = .ok ()) :
    ∃ n, c.store.record? id = some n ∧ (c.delete o id).1 = c.afterDelete id n := by
  rw [delete_eq] at h ⊢
  split at h
  · cases h
  · next n hfind =>
    split_ifs at h ⊢
    exact ⟨n, record?_of_find? hfind, rfl⟩

end Succeeding

theorem News.recorded {c c' : Catalogue} {e : Event} (h : News c c' e) (hs : c'.store.IsWellFormed) (hc : c'.IsIndexed)
    (row : ∀ k, c'.store.get? k = if key e.notebook.id = k then e.outcome.map Notebook.encode else c.store.get? k) :
    Recorded c c' e where
  row := row
  byId id := by
    rw [find?_calm, find?_calm]
    exact h.record id
  byDomain _ _ := findByDomain?_eq_some_iff hs hc
  heard panics s := s.hear_concat panics h.announced

theorem isAtomic_of_isIndexed {c : Catalogue} (hs : c.store.IsWellFormed) (hc : c.IsIndexed) : c.IsAtomic where
  add_error o birth d f h := untouched_of_eq (add_of_error h)
  add_ok o birth d n h := by
    obtain ⟨hdrawn, hafter⟩ := add_of_ok h
    have heffect := add_effect o birth d c
    rw [hafter] at heffect ⊢
    refine ⟨hdrawn, (afterAdd_news n c).recorded (heffect.isWellFormed hs) (heffect.isIndexed hs hc) ?_⟩
    intro k
    rw [afterAdd_store, Store.get?_put]
    rfl
  update_error o id d f h := untouched_of_eq (update_of_error h)
  update_ok o id d n h := by
    obtain ⟨before, hfound, hn, hcases⟩ := update_of_ok h
    have hid : n.id = id := by
      rw [hn]
      change before.id = id
      exact hs.keyed hfound
    refine ⟨before, (find?_calm c id).trans hfound, hn, hid, hcases.imp ?_ ?_⟩
    · rintro ⟨hsame, hafter⟩
      exact ⟨hsame, untouched_of_eq hafter⟩
    · rintro ⟨hdiffers, hafter⟩
      have heffect := update_effect o id d c
      rw [hafter] at heffect ⊢
      refine ⟨hdiffers, (afterUpdate_news hfound hid).recorded (heffect.isWellFormed hs)
        (heffect.isIndexed hs hc) ?_⟩
      intro k
      rw [afterUpdate_store, Store.get?_put]
      rfl
  delete_error o id f h := untouched_of_eq (delete_of_error h)
  delete_ok o id h := by
    obtain ⟨n, hfound, hafter⟩ := delete_of_ok h
    have hid : n.id = id := hs.keyed hfound
    have heffect := delete_effect o id c
    rw [hafter] at heffect ⊢
    refine ⟨n, (find?_calm c id).trans hfound, hid,
      (afterDelete_news hfound hid).recorded (heffect.isWellFormed hs) (heffect.isIndexed hs hc) ?_⟩
    intro k
    rw [afterDelete_store, Store.get?_drop, ← hid]
    rfl

end Catalogue

end NotebookHost
