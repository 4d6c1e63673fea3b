import NotebookHost.Proofs.Catalogue.Lookup
import NotebookHost.Proofs.Catalogue.Uniqueness

namespace NotebookHost.Catalogue

open Text

def IsIndexed (c : Catalogue) : Prop :=
  ∀ (id : String) (n : Notebook), c.store.record? id = some n → (c.owners[Hostname.canonical n.domain]?).isSome

theorem isSome_claim {c : Catalogue} {domain id d : String} :
    ((c.claim domain id).owners[d]?).isSome ↔ domain = d ∨ (c.owners[d]?).isSome := by
  simp only [claim, Std.TreeMap.getElem?_insert, Std.LawfulEqCmp.compare_eq_iff_eq]
  split_ifs with h <;> simp [h]

theorem isSome_release {c : Catalogue} {domain d : String} :
    ((c.release domain).owners[d]?).isSome ↔ domain ≠ d ∧ (c.owners[d]?).isSome := by
  simp only [release, Std.TreeMap.getElem?_erase, Std.LawfulEqCmp.compare_eq_iff_eq]
  split_ifs with h <;> simp [h]

theorem isSome_releaseFrom {c : Catalogue} {domain id d : String} (hne : domain ≠ d) (h : (c.owners[d]?).isSome) :
    ((c.releaseFrom domain id).owners[d]?).isSome := by
  unfold releaseFrom
  split_ifs
  · exact isSome_release.mpr ⟨hne, h⟩
  · exact h

theorem isIndexed_afterAdd {n : Notebook} {c : Catalogue} (hc : c.IsIndexed)
    (canonical : Hostname.canonical n.domain = n.domain) : (c.afterAdd n).IsIndexed := by
  intro id m hm
  rw [afterAdd_store, Store.record?_put] at hm
  refine (isSome_claim (c := c.stored n)).mpr ?_
  split_ifs at hm
  · cases hm
    exact .inl canonical.symm
  · exact .inr (hc id m hm)

theorem isIndexed_afterUpdate {id : String} {before after : Notebook} {c : Catalogue} (hs : c.store.IsWellFormed)
    (hc : c.IsIndexed) (found : c.store.record? id = some before) (same : after.id = before.id)
    (canonical : sameLetters after.domain before.domain = true ∨ Hostname.canonical after.domain = after.domain) :
    (c.afterUpdate before after).IsIndexed := by
  intro j m hm
  rw [afterUpdate_store, Store.record?_put] at hm
  have hid : after.id = id := same.trans (hs.keyed found)
  unfold afterUpdate
  split_ifs at hm ⊢ with hletters hj hj
  · cases hm
    rw [Hostname.canonical_eq_iff.mpr hletters]
    exact hc id before found
  · exact hc j m hm
  · cases hm
    exact isSome_claim.mpr (.inl (canonical.resolve_left hletters).symm)
  · -- Another record keeps its entry, since it has another domain than the one that is given up.
    refine isSome_claim.mpr (.inr (isSome_release.mpr ⟨?_, hc j m hm⟩))
    intro hdomain
    exact hj (hid.trans (hs.apart found hm (Hostname.canonical_eq_iff.mp hdomain)))

theorem isIndexed_afterDelete {id : String} {n : Notebook} {c : Catalogue} (hs : c.store.IsWellFormed)
    (hc : c.IsIndexed) (found : c.store.record? id = some n) : (c.afterDelete id n).IsIndexed := by
  intro j m hm
  rw [afterDelete_store, Store.record?_drop] at hm
  split_ifs at hm with hj
  refine isSome_releaseFrom ?_ (hc j m hm)
  intro hdomain
  exact hj (hs.apart found hm (Hostname.canonical_eq_iff.mp hdomain))

theorem Effect.isIndexed {c c' : Catalogue} (h : Effect c c') (hs : c.store.IsWellFormed) (hc : c.IsIndexed) :
    c'.IsIndexed := by
  cases h with
  | nothing => exact hc
  | added _ canonical => exact isIndexed_afterAdd hc canonical
  | updated found same _ free => exact isIndexed_afterUpdate hs hc found same (free.imp_right And.left)
  | deleted found => exact isIndexed_afterDelete hs hc found

theorem isSome_foldl_takeUp {ns : List Notebook} {c : Catalogue} {d : String}
    (h : (∃ n ∈ ns, Hostname.canonical n.domain = d) ∨ (c.owners[d]?).isSome) :
    ((ns.foldl takeUp c).owners[d]?).isSome := by
  induction ns generalizing c with
  | nil => exact h.resolve_left fun ⟨n, hn, _⟩ => by cases hn
  | cons m ns ih =>
    apply ih
    rcases h with ⟨n, hn, hd⟩ | h
    · rcases List.mem_cons.mp hn with rfl | hn
      · exact .inr (isSome_claim.mpr (.inl hd))
      · exact .inl ⟨n, hn, hd⟩
    · exact .inr (isSome_claim.mpr (.inr h))

theorem ofStore_isIndexed {o : Outage} {s : Store} {c : Catalogue} (h : ofStore o s = .ok c) : c.IsIndexed := by
  intro id n hn
  rw [ofStore_store h] at hn
  unfold ofStore at h
  rw [records_eq] at h
  split_ifs at h
  cases h
  exact isSome_foldl_takeUp (.inl ⟨n, Store.mem_notebooks.mpr ⟨id, hn⟩, rfl⟩)

theorem perform_isIndexed {c : Catalogue} (hs : c.store.IsWellFormed) (hc : c.IsIndexed) (o : Outage) (op : Operation) :
    (c.perform o op).1.IsIndexed := by
  cases op with
  | add birth d => exact (add_effect o birth d c).isIndexed hs hc
  | get id => exact hc
  | getByDomain domain => exact hc
  | list => exact hc
  | update id d => exact (update_effect o id d c).isIndexed hs hc
  | delete id => exact (delete_effect o id c).isIndexed hs hc
  | reopen =>
    rw [perform]
    split
    · next hopen => exact ofStore_isIndexed hopen
    · exact hc

theorem run_isIndexed {c : Catalogue} (hs : c.store.IsWellFormed) (hc : c.IsIndexed)
    (history : List (Outage × Operation)) :
    (c.run history).store.IsWellFormed ∧ (c.run history).IsIndexed := by
  induction history generalizing c with
  | nil => exact ⟨hs, hc⟩
  | cons turn history ih => exact ih (perform_isWellFormed hs turn.1 turn.2) (perform_isIndexed hs hc turn.1 turn.2)

theorem findByDomain?_eq_owner? {c : Catalogue} (hs : c.store.IsWellFormed) (hc : c.IsIndexed) (domain : String) :
    c.findByDomain? {} domain = c.store.owner? domain := by
  cases hentry : c.owners[Hostname.canonical domain]? with
  | none =>
    rw [findByDomain?_of_no_entry hentry, eq_comm, Store.owner?_eq_none_iff]
    intro id n hn
    rw [Bool.eq_false_iff]
    intro hdomain
    have hsome := hc id n hn
    rw [Hostname.canonical_eq_iff.mpr hdomain, hentry] at hsome
    cases hsome
  | some id =>
    rw [findByDomain?_of_entry hentry]
    cases hfilter : (c.store.record? id).filter fun n => sameLetters n.domain domain with
    | none => rfl
    | some n =>
      obtain ⟨hrecord, hdomain⟩ := Option.filter_eq_some_iff.mp hfilter
      rw [hs.owner?_eq_some_iff.mpr ⟨hs.record?_id hrecord, hdomain⟩]
      rfl

theorem findByDomain?_eq_some_iff {c : Catalogue} (hs : c.store.IsWellFormed) (hc : c.IsIndexed) {domain : String}
    {n : Notebook} :
    c.findByDomain? {} domain = some n ↔ c.find? {} n.id = some n ∧ sameLetters n.domain domain = true := by
  rw [findByDomain?_eq_owner? hs hc, hs.owner?_eq_some_iff, find?_calm]

end NotebookHost.Catalogue
