import NotebookHost.Proofs.Catalogue.Effects

namespace NotebookHost.Catalogue

open Text

theorem findByDomain?_sound {o : Outage} {c : Catalogue} {domain : String} {n : Notebook}
    (h : c.findByDomain? o domain = some n) :
    (∃ id, c.store.record? id = some n) ∧ sameLetters n.domain domain = true := by
  rw [← Hostname.sameLetters_canonical]
  unfold findByDomain? at h
  dsimp only at h
  split at h
  · cases h
  · next id _ =>
    split at h
    · next m hfilter =>
      cases h
      obtain ⟨hfind, hdomain⟩ := Option.filter_eq_some_iff.mp hfilter
      exact ⟨⟨id, record?_of_find? hfind⟩, hdomain⟩
    · rw [ownerOf_eq] at h
      split_ifs at h
      exact Store.owner?_sound h

variable {c : Catalogue} {domain : String}

theorem owner?_canonical (s : Store) (domain : String) : s.owner? (Hostname.canonical domain) = s.owner? domain := by
  simp only [Store.owner?, Hostname.sameLetters_canonical]

theorem findByDomain?_of_no_entry (hentry : c.owners[Hostname.canonical domain]? = none) (o : Outage) :
    c.findByDomain? o domain = none := by
  unfold findByDomain?
  dsimp only
  rw [hentry]

theorem findByDomain?_of_entry {id : String} (hentry : c.owners[Hostname.canonical domain]? = some id) :
    c.findByDomain? {} domain =
      ((c.store.record? id).filter fun n => sameLetters n.domain domain).or (c.store.owner? domain) := by
  unfold findByDomain?
  dsimp only
  rw [hentry]
  dsimp only
  rw [find?_calm, ownerOf_eq, if_neg (by decide), owner?_canonical]
  simp only [Hostname.sameLetters_canonical]
  cases (c.store.record? id).filter fun n => sameLetters n.domain domain <;> rfl

theorem exists_entry {o : Outage} {n : Notebook} (h : c.findByDomain? o domain = some n) :
    ∃ id, c.owners[Hostname.canonical domain]? = some id := by
  cases hentry : c.owners[Hostname.canonical domain]? with
  | none =>
    rw [findByDomain?_of_no_entry hentry] at h
    cases h
  | some id => exact ⟨id, rfl⟩

theorem isSome_findByDomain?_iff (hentry : (c.owners[Hostname.canonical domain]?).isSome) :
    (c.findByDomain? {} domain).isSome ↔ (c.store.owner? domain).isSome := by
  obtain ⟨id, hid⟩ := Option.isSome_iff_exists.mp hentry
  constructor
  · intro h
    obtain ⟨n, hn⟩ := Option.isSome_iff_exists.mp h
    obtain ⟨⟨j, hj⟩, hdomain⟩ := findByDomain?_sound hn
    rw [Option.isSome_iff_ne_none]
    intro hnone
    rw [Store.owner?_eq_none_iff.mp hnone j n hj] at hdomain
    cases hdomain
  · intro h
    rw [findByDomain?_of_entry hid, Option.isSome_or, h, Bool.or_true]

end NotebookHost.Catalogue
