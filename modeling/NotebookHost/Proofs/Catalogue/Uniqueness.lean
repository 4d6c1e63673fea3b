import NotebookHost.Proofs.Catalogue.Effects

namespace NotebookHost

open Text Catalogue

namespace Store.IsWellFormed

theorem empty : (∅ : Store).IsWellFormed where
  keyed h := by simp [record?] at h
  apart h := by simp [record?] at h

variable {s : Store} (hs : s.IsWellFormed)
include hs

theorem put {n : Notebook}
    (hfree : ∀ {id : String} {m : Notebook}, s.record? id = some m →
      sameLetters m.domain n.domain = true → id = n.id) :
    (s.put (key n.id) n.encode).IsWellFormed where
  keyed {id m} h := by
    rw [record?_put] at h
    split_ifs at h with hid
    · cases h
      exact hid
    · exact hs.keyed h
  apart {i j m m'} hi hj hdomain := by
    rw [record?_put] at hi hj
    split_ifs at hi hj with hi' hj' hj'
    · exact hi'.symm.trans hj'
    · cases hi
      rw [sameLetters_comm] at hdomain
      exact hi'.symm.trans (hfree hj hdomain).symm
    · cases hj
      exact (hfree hi hdomain).trans hj'
    · exact hs.apart hi hj hdomain

theorem drop (k : String) : (s.drop (key k)).IsWellFormed where
  keyed {id n} h := by
    rw [record?_drop] at h
    split_ifs at h
    exact hs.keyed h
  apart {i j m n} hi hj hdomain := by
    rw [record?_drop] at hi hj
    split_ifs at hi hj
    exact hs.apart hi hj hdomain

end Store.IsWellFormed

namespace Store

def holding (ns : List Notebook) : Store := ns.foldr (fun n s => s.put (key n.id) n.encode) ∅

theorem record?_holding (ns : List Notebook) (id : String) : (holding ns).record? id = ns.find? (·.id == id) := by
  induction ns with
  | nil => simp [holding, record?]
  | cons n ns ih =>
    rw [holding, List.foldr_cons, record?_put]
    change (if n.id = id then some n else (holding ns).record? id) = _
    rw [List.find?_cons, ih]
    by_cases hid : n.id = id
    · rw [if_pos hid, beq_iff_eq.mpr hid]
    · rw [if_neg hid, beq_eq_false_iff_ne.mpr hid]

theorem mem_of_record?_holding {ns : List Notebook} {id : String} {n : Notebook}
    (h : (holding ns).record? id = some n) : n ∈ ns ∧ n.id = id := by
  rw [record?_holding] at h
  exact ⟨List.mem_of_find?_eq_some h, by simpa using List.find?_some h⟩

theorem holding_isKeyed (ns : List Notebook) : (holding ns).IsKeyed := fun _ _ h => (mem_of_record?_holding h).2

theorem notebooks_holding {ns : List Notebook} (h : ns.Pairwise fun m n => m.id < n.id) :
    (holding ns).notebooks = ns := by
  refine eq_of_ascending (holding_isKeyed ns).notebooks_ascending h ?_
  intro n
  rw [mem_notebooks]
  constructor
  · rintro ⟨id, hn⟩
    exact (mem_of_record?_holding hn).1
  · intro hn
    refine ⟨n.id, ?_⟩
    rw [record?_holding, List.find?_eq_some_iff_append]
    obtain ⟨early, late, rfl⟩ := List.append_of_mem hn
    refine ⟨beq_self_eq_true _, early, late, rfl, ?_⟩
    intro m hm
    have hlt := (List.pairwise_append.mp h).2.2 m hm n List.mem_cons_self
    simpa using String.ne_of_lt hlt

theorem holding_isWellFormed {ns : List Notebook} (h : ns.Pairwise fun m n => sameLetters m.domain n.domain = false) :
    (holding ns).IsWellFormed := by
  induction h with
  | nil => exact .empty
  | @cons n ns hn _ ih =>
    refine ih.put ?_
    intro id m hm hdomain
    rw [sameLetters_comm, hn m (mem_of_record?_holding hm).1] at hdomain
    cases hdomain

end Store

def Notebook.plain (id domain : String) : Notebook where
  id := id
  name := id
  path := "/" ++ id
  domain := domain
  showCode := false
  watch := false
  createdAt :=
    { date := ⟨1970, 1, 1, by decide, by decide, by decide⟩
      hour := 0
      minute := 0
      second := 0
      nano := 0
      hour_lt := by decide
      minute_lt := by decide
      second_le := by decide
      nano_lt := by decide }

namespace Catalogue

@[simp] theorem afterAdd_store (n : Notebook) (c : Catalogue) :
    (c.afterAdd n).store = c.store.put (key n.id) n.encode := rfl

@[simp] theorem afterUpdate_store (before after : Notebook) (c : Catalogue) :
    (c.afterUpdate before after).store = c.store.put (key after.id) after.encode := by
  unfold afterUpdate
  split_ifs <;> rfl

@[simp] theorem afterDelete_store (id : String) (n : Notebook) (c : Catalogue) :
    (c.afterDelete id n).store = c.store.drop (key id) := by
  unfold afterDelete releaseFrom
  split_ifs <;> rfl

theorem Effect.isWellFormed {c c' : Catalogue} (h : Effect c c') (hc : c.store.IsWellFormed) :
    c'.store.IsWellFormed := by
  cases h with
  | nothing => exact hc
  | added free _ =>
    rw [afterAdd_store]
    refine hc.put ?_
    intro id m hm hdomain
    rw [Store.owner?_eq_none_iff.mp free id m hm] at hdomain
    cases hdomain
  | @updated id before after found same _ free =>
    rw [afterUpdate_store]
    have hid : after.id = id := same.trans (hc.keyed found)
    refine hc.put ?_
    intro i m hm hdomain
    rcases free with hletters | ⟨_, hfree⟩
    · have hm' : sameLetters m.domain before.domain = true := sameLetters_trans hdomain hletters
      exact (hc.apart hm found hm').trans hid.symm
    · have howner := hc.owner?_eq_some_iff.mpr ⟨hc.record?_id hm, hdomain⟩
      rw [← hc.keyed hm, hid]
      exact hfree m howner
  | deleted _ =>
    rw [afterDelete_store]
    exact hc.drop _

theorem ofStore_store {o : Outage} {s : Store} {c : Catalogue} (h : ofStore o s = .ok c) : c.store = s := by
  have hfold (ns : List Notebook) (c : Catalogue) : (ns.foldl takeUp c).store = c.store := by
    induction ns generalizing c with
    | nil => rfl
    | cons n ns ih => exact ih (c.takeUp n)
  unfold ofStore at h
  rw [records_eq] at h
  split_ifs at h
  cases h
  exact hfold _ _

theorem ofStore_holding {ns : List Notebook} (h : ns.Pairwise fun m n => m.id < n.id) :
    ofStore {} (.holding ns) = .ok (ns.foldl takeUp { store := .holding ns }) := by
  rw [ofStore, records_eq, if_neg (by decide), Store.notebooks_holding h]

theorem perform_isWellFormed {c : Catalogue} (hc : c.store.IsWellFormed) (o : Outage) (op : Operation) :
    (c.perform o op).1.store.IsWellFormed := by
  cases op with
  | add birth d => exact (add_effect o birth d c).isWellFormed hc
  | get id => exact hc
  | getByDomain domain => exact hc
  | list => exact hc
  | update id d => exact (update_effect o id d c).isWellFormed hc
  | delete id => exact (delete_effect o id c).isWellFormed hc
  | reopen =>
    rw [perform]
    split
    · next hopen =>
      rw [ofStore_store hopen]
      exact hc
    · exact hc

/-- An operation, the calls to the store that fail during it, and the index that it finds. No
operation makes a kind of call twice, so that any of its calls may fail alone. -/
structure Turn where
  outage : Outage := {}
  owners : Std.TreeMap String String
  operation : Operation

def take (c : Catalogue) (t : Turn) : Catalogue :=
  (({ c with owners := t.owners } : Catalogue).perform t.outage t.operation).1

theorem domains_unique_under_faults (c : Catalogue) (hc : c.store.IsWellFormed) (turns : List Turn) :
    (turns.foldl take c).store.IsWellFormed := by
  induction turns generalizing c with
  | nil => exact hc
  | cons t turns ih =>
    have hindex : ({ c with owners := t.owners } : Catalogue).store.IsWellFormed := hc
    exact ih (c.take t) (perform_isWellFormed hindex t.outage t.operation)

theorem domains_unique_without_index :
    (Store.holding [.plain "a" "A.example", .plain "b" "b.example"]).IsWellFormed ∧
      (([⟨{}, ∅, .update "a" { rawDomain := some "B.EXAMPLE" }⟩,
        ⟨{ scan := true }, ∅, .reopen⟩] : List Turn).foldl take
        { store := .holding [.plain "a" "A.example", .plain "b" "b.example"] }).store.IsWellFormed := by
  have h : (Store.holding [.plain "a" "A.example", .plain "b" "b.example"]).IsWellFormed :=
    Store.holding_isWellFormed (by decide)
  exact ⟨h, domains_unique_under_faults _ h _⟩

end Catalogue

end NotebookHost
