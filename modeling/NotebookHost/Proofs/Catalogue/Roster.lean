import NotebookHost.Proofs.Catalogue.Index
import NotebookHost.Proofs.Text.ByteOrder

/-!
A catalogue answers like a plain map from ids to notebooks, whatever is done to it one thing after
the other, while the store answers every call.
-/

namespace NotebookHost

open Text Catalogue

abbrev Roster := Std.TreeMap String Notebook

namespace Roster

def notebooks (r : Roster) : List Notebook := r.toList.map (·.2)

def owner? (r : Roster) (domain : String) : Option Notebook := r.notebooks.find? fun n => sameLetters n.domain domain

def isTakenBesides (r : Roster) (id domain : String) : Bool :=
  r.notebooks.any fun n => n.id != id && sameLetters n.domain domain

def add (birth : Birth) (d : Draft) (r : Roster) : Roster × Except Failure Notebook :=
  match drawn? birth d with
  | none => (r, .error incomplete)
  | some n =>
    if (r.owner? n.domain).isSome then (r, .error (.domainTaken n.domain))
    else (r.insert n.id n, .ok n)

def update (id : String) (d : Draft) (r : Roster) : Roster × Except Failure Notebook :=
  match r[id]? with
  | none => (r, .error (.unknown id))
  | some n =>
    if r.isTakenBesides id (d.apply n).domain then (r, .error (.domainTaken (d.apply n).domain))
    else (r.insert id (d.apply n), .ok (d.apply n))

def delete (id : String) (r : Roster) : Roster × Except Failure Unit :=
  if r.contains id then (r.erase id, .ok ()) else (r, .error (.unknown id))

def perform (op : Catalogue.Operation) (r : Roster) : Roster × Except Failure Catalogue.Reply :=
  match op with
  | .add birth d => ((r.add birth d).1, (r.add birth d).2.map .notebook)
  | .get id => (r, .ok (.maybe r[id]?))
  | .getByDomain domain => (r, .ok (.maybe (r.owner? domain)))
  | .list => (r, .ok (.notebooks r.notebooks))
  | .update id d => ((r.update id d).1, (r.update id d).2.map .notebook)
  | .delete id => ((r.delete id).1, (r.delete id).2.map fun _ => .done)
  | .reopen => (r, .ok .done)

theorem mem_notebooks {r : Roster} {n : Notebook} : n ∈ r.notebooks ↔ ∃ id : String, r[id]? = some n := by
  simp only [notebooks, List.mem_map, Prod.exists, Std.TreeMap.mem_toList_iff_getElem?_eq_some]
  exact ⟨fun ⟨id, m, h, he⟩ => ⟨id, he ▸ h⟩, fun ⟨id, h⟩ => ⟨id, n, h, rfl⟩⟩

theorem getElem?_insert (r : Roster) (i id : String) (n : Notebook) :
    (r.insert i n)[id]? = if i = id then some n else r[id]? := by
  simp only [Std.TreeMap.getElem?_insert, Std.LawfulEqCmp.compare_eq_iff_eq]

theorem getElem?_erase (r : Roster) (i id : String) : (r.erase i)[id]? = if i = id then none else r[id]? := by
  simp only [Std.TreeMap.getElem?_erase, Std.LawfulEqCmp.compare_eq_iff_eq]

end Roster

structure Mirrors (r : Roster) (c : Catalogue) : Prop where
  records : ∀ id, r[id]? = c.store.record? id
  wellFormed : c.store.IsWellFormed
  indexed : c.IsIndexed

namespace Mirrors

variable {r : Roster} {c : Catalogue} (h : Mirrors r c)
include h

theorem ascending : r.notebooks.Pairwise fun m n => m.id < n.id := by
  rw [Roster.notebooks, List.pairwise_map]
  refine (Std.TreeMap.ordered_keys_toList (t := r)).imp_of_mem ?_
  intro a b ha hb hlt
  obtain ⟨i, m⟩ := a
  obtain ⟨j, n⟩ := b
  rw [Std.TreeMap.mem_toList_iff_getElem?_eq_some, h.records] at ha hb
  rw [h.wellFormed.keyed ha, h.wellFormed.keyed hb]
  exact compareOfLessAndEq_eq_lt.mp hlt

theorem notebooks_eq : r.notebooks = c.store.notebooks := by
  have hmem (n : Notebook) : n ∈ r.notebooks ↔ n ∈ c.store.notebooks := by
    rw [Roster.mem_notebooks, Store.mem_notebooks]
    exact exists_congr fun id => by rw [h.records]
  exact Store.eq_of_ascending h.ascending h.wellFormed.notebooks_ascending hmem

theorem owner?_eq (domain : String) : r.owner? domain = c.store.owner? domain := by
  rw [Roster.owner?, h.notebooks_eq, Store.owner?]

theorem isTakenBesides_iff {id domain : String} :
    r.isTakenBesides id domain = true ↔
      ∃ n, c.store.record? n.id = some n ∧ n.id ≠ id ∧ sameLetters n.domain domain = true := by
  simp only [Roster.isTakenBesides, h.notebooks_eq, List.any_eq_true, h.wellFormed.mem_notebooks_iff, Bool.and_eq_true,
    bne_iff_ne, ne_eq]

theorem isTakenBesides_eq (id domain : String) :
    r.isTakenBesides id domain = (c.store.owner? domain).any (·.id != id) := by
  rw [Bool.eq_iff_iff, h.isTakenBesides_iff, Option.any_eq_true]
  simp only [h.wellFormed.owner?_eq_some_iff, bne_iff_ne]
  exact exists_congr fun n => by tauto

theorem isTakenBesides_own {id : String} {n : Notebook} (hn : c.store.record? id = some n) {domain : String}
    (hdomain : sameLetters domain n.domain = true) : r.isTakenBesides id domain = false := by
  rw [Bool.eq_false_iff, ne_eq, h.isTakenBesides_iff]
  rintro ⟨m, hm, hne, hm'⟩
  exact hne (h.wellFormed.apart hm hn (sameLetters_trans hm' hdomain))

theorem insert_same {id : String} {n : Notebook} (hn : c.store.record? id = some n) (i : String) :
    (r.insert id n)[i]? = c.store.record? i := by
  rw [Roster.getElem?_insert, h.records]
  split_ifs with hi
  · rw [← hi, hn]
  · rfl

theorem add_eq (birth : Birth) (d : Draft) :
    (c.add {} birth d).2 = (r.add birth d).2 ∧
      ∀ i, (r.add birth d).1[i]? = (c.add {} birth d).1.store.record? i := by
  rw [Catalogue.add_eq]
  unfold Roster.add
  cases drawn? birth d with
  | none => exact ⟨rfl, h.records⟩
  | some n =>
    simp only [h.owner?_eq, Bool.false_eq_true, if_false]
    by_cases howner : (c.store.owner? n.domain).isSome = true
    · rw [if_pos howner, if_pos howner]
      exact ⟨rfl, h.records⟩
    · rw [if_neg howner, if_neg howner]
      refine ⟨rfl, ?_⟩
      intro i
      rw [Roster.getElem?_insert, afterAdd_store, Store.record?_put, h.records]

theorem update_eq (id : String) (d : Draft) :
    (c.update {} id d).2 = (r.update id d).2 ∧
      ∀ i, (r.update id d).1[i]? = (c.update {} id d).1.store.record? i := by
  rw [Catalogue.update_eq, find?_eq, if_neg (by decide)]
  unfold Roster.update
  rw [h.records]
  cases hfound : c.store.record? id with
  | none => exact ⟨rfl, h.records⟩
  | some n =>
    have hid : (d.apply n).id = id := (h.wellFormed.keyed hfound : n.id = id)
    have hinsert (i : String) : (r.insert id (d.apply n))[i]? = (c.afterUpdate n (d.apply n)).store.record? i := by
      rw [Roster.getElem?_insert, afterUpdate_store, Store.record?_put, h.records, hid]
    simp only [replace_eq, Bool.false_eq_true, if_false]
    by_cases hsame : d.apply n = n
    · rw [if_pos hsame, hsame, h.isTakenBesides_own hfound (sameLetters_refl _), if_neg (by decide)]
      exact ⟨rfl, h.insert_same hfound⟩
    rw [if_neg hsame]
    by_cases hletters : sameLetters (d.apply n).domain n.domain = true
    · rw [if_pos hletters, h.isTakenBesides_own hfound hletters, if_neg (by decide)]
      exact ⟨rfl, hinsert⟩
    rw [if_neg hletters, h.isTakenBesides_eq]
    by_cases howner : (c.store.owner? (d.apply n).domain).any (·.id != id) = true
    · rw [if_pos howner, if_pos howner]
      exact ⟨rfl, h.records⟩
    · rw [if_neg howner, if_neg howner]
      exact ⟨rfl, hinsert⟩

theorem delete_eq (id : String) :
    (c.delete {} id).2 = (r.delete id).2 ∧ ∀ i, (r.delete id).1[i]? = (c.delete {} id).1.store.record? i := by
  rw [Catalogue.delete_eq, find?_eq, if_neg (by decide)]
  unfold Roster.delete
  rw [Std.TreeMap.contains_eq_isSome_getElem?, h.records]
  cases hfound : c.store.record? id with
  | none => exact ⟨rfl, h.records⟩
  | some n =>
    refine ⟨rfl, ?_⟩
    intro i
    simp only [Option.isSome_some, if_true, Bool.false_eq_true, if_false]
    rw [Roster.getElem?_erase, h.records, afterDelete_store, Store.record?_drop]

theorem step {r' : Roster} {c' : Catalogue} (he : Effect c c') (hr : ∀ id, r'[id]? = c'.store.record? id) :
    Mirrors r' c' where
  records := hr
  wellFormed := he.isWellFormed h.wellFormed
  indexed := he.isIndexed h.wellFormed h.indexed

theorem reopen {c' : Catalogue} (hopen : ofStore {} c.store = .ok c') : Mirrors r c' where
  records id := by rw [ofStore_store hopen, h.records]
  wellFormed := by
    rw [ofStore_store hopen]
    exact h.wellFormed
  indexed := ofStore_isIndexed hopen

theorem perform (op : Catalogue.Operation) :
    (c.perform {} op).2 = (r.perform op).2 ∧ Mirrors (r.perform op).1 (c.perform {} op).1 := by
  cases op with
  | add birth d =>
    obtain ⟨hreply, hr⟩ := h.add_eq birth d
    exact ⟨congrArg (Except.map Catalogue.Reply.notebook) hreply, h.step (add_effect {} birth d c) hr⟩
  | get id =>
    refine ⟨?_, h⟩
    rw [Catalogue.perform, Roster.perform, find?_eq, if_neg (by decide), h.records]
  | getByDomain domain =>
    refine ⟨?_, h⟩
    rw [Catalogue.perform, Roster.perform, findByDomain?_eq_owner? h.wellFormed h.indexed, h.owner?_eq]
  | list =>
    refine ⟨?_, h⟩
    rw [Catalogue.perform, Roster.perform, list_eq, if_neg (by decide), h.notebooks_eq]
  | update id d =>
    obtain ⟨hreply, hr⟩ := h.update_eq id d
    exact ⟨congrArg (Except.map Catalogue.Reply.notebook) hreply, h.step (update_effect {} id d c) hr⟩
  | delete id =>
    obtain ⟨hreply, hr⟩ := h.delete_eq id
    exact ⟨congrArg (Except.map fun _ => Catalogue.Reply.done) hreply, h.step (delete_effect {} id c) hr⟩
  | reopen =>
    rw [Catalogue.perform, Roster.perform]
    cases hopen : ofStore {} c.store with
    | ok c' => exact ⟨rfl, h.reopen hopen⟩
    | error e =>
      unfold ofStore at hopen
      rw [records_eq, if_neg (by decide)] at hopen
      cases hopen

end Mirrors

namespace Roster

/-- What the answers of a roster mean: an id is that of its notebook, the owner of a domain is the
one notebook that has it in any case, and lists go by the bytes of the ids. -/
structure IsSound (r : Roster) : Prop where
  keyed : ∀ (id : String) (n : Notebook), r[id]? = some n → n.id = id
  owner : ∀ (domain : String) (n : Notebook),
    r.owner? domain = some n ↔ r[n.id]? = some n ∧ sameLetters n.domain domain = true
  ascending : r.notebooks.Pairwise fun m n => encode m.id < encode n.id

end Roster

theorem Mirrors.isSound {r : Roster} {c : Catalogue} (h : Mirrors r c) : r.IsSound where
  keyed id n hn := h.wellFormed.keyed ((h.records id).symm.trans hn)
  owner domain n := by rw [h.owner?_eq, h.records, h.wellFormed.owner?_eq_some_iff]
  ascending := h.ascending.imp encode_lt_encode_iff.mpr

def transcript {σ : Type} (step : Catalogue.Operation → σ → σ × Except Failure Catalogue.Reply) :
    σ → List Catalogue.Operation → σ × List (Except Failure Catalogue.Reply)
  | s, [] => (s, [])
  | s, op :: ops =>
    let next := step op s
    let rest := transcript step next.1 ops
    (rest.1, next.2 :: rest.2)

theorem Mirrors.transcript {r : Roster} {c : Catalogue} (h : Mirrors r c) (ops : List Catalogue.Operation) :
    (transcript (Catalogue.perform {}) c ops).2 = (transcript Roster.perform r ops).2 ∧
      Mirrors (transcript Roster.perform r ops).1 (transcript (Catalogue.perform {}) c ops).1 := by
  induction ops generalizing r c with
  | nil => exact ⟨rfl, h⟩
  | cons op ops ih =>
    obtain ⟨hreply, hnext⟩ := h.perform op
    obtain ⟨hreplies, hlast⟩ := ih hnext
    exact ⟨congrArg₂ List.cons hreply hreplies, hlast⟩

end NotebookHost
