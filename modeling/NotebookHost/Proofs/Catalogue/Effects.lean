import NotebookHost.Catalogue.History
import NotebookHost.Proofs.Catalogue.Records

namespace NotebookHost.Catalogue

open Text

def drawn? (birth : Birth) (d : Draft) : Option Notebook :=
  match d.name, d.path, d.domain with
  | some name, some path, some domain =>
    some
      { id := birth.id
        name
        path
        domain := Hostname.canonical domain
        showCode := d.showCode.getD false
        watch := d.watch.getD false
        createdAt := birth.createdAt }
  | _, _, _ => none

def incomplete : Failure := .invalid "name, path, and domain are required for creation"

def scanFailure : Failure := .storage ["Failed to scan keys"]

def writeFailure (id : String) : Failure := .storage ["Failed to store key " ++ key id]

def eraseFailure (id : String) : Failure := .storage ["Failed to delete key " ++ key id]

def stored (n : Notebook) (c : Catalogue) : Catalogue := { c with store := c.store.put (key n.id) n.encode }

def afterAdd (n : Notebook) (c : Catalogue) : Catalogue := ((c.stored n).claim n.domain n.id).announce .added n

def afterUpdate (before after : Notebook) (c : Catalogue) : Catalogue :=
  (if sameLetters after.domain before.domain then c.stored after
    else ((c.stored after).release (Hostname.canonical before.domain)).claim after.domain
      after.id).announce .updated after

def afterDelete (id : String) (n : Notebook) (c : Catalogue) : Catalogue :=
  (({ c with store := c.store.drop (key id) } : Catalogue).releaseFrom (Hostname.canonical n.domain)
    id).announce .deleted n

theorem drawn?_canonical {birth : Birth} {d : Draft} {n : Notebook} (h : drawn? birth d = some n) :
    Hostname.canonical n.domain = n.domain := by
  unfold drawn? at h
  split at h
  · cases h
    exact Hostname.canonical_canonical _
  · cases h

theorem drawn?_id {birth : Birth} {d : Draft} {n : Notebook} (h : drawn? birth d = some n) : n.id = birth.id := by
  unfold drawn? at h
  split at h
  · cases h
    rfl
  · cases h

theorem records_eq (o : Outage) (s : Store) :
    records o s = if o.scan then .error scanFailure else .ok s.notebooks := by
  unfold records Store.scan
  split_ifs <;> rfl

theorem ownerOf_eq (o : Outage) (s : Store) (domain : String) :
    ownerOf o s domain = if o.scan then .error scanFailure else .ok (s.owner? domain) := by
  unfold ownerOf
  rw [records_eq]
  split_ifs <;> rfl

theorem find?_eq (o : Outage) (c : Catalogue) (id : String) :
    c.find? o id = if o.read then none else c.store.record? id := by
  unfold find? Store.read
  split_ifs
  · rfl
  · rw [Store.record?]
    cases c.store.get? (key id) <;> rfl

theorem find?_calm (c : Catalogue) (id : String) : c.find? {} id = c.store.record? id := by
  rw [find?_eq, if_neg (by decide)]

theorem list_eq (o : Outage) (c : Catalogue) : c.list o = if o.scan then [] else c.store.notebooks := by
  unfold list
  rw [records_eq]
  split_ifs <;> rfl

theorem keep_eq (o : Outage) (c : Catalogue) (n : Notebook) :
    c.keep o n = if o.write then .error (writeFailure n.id) else .ok (c.stored n) := by
  unfold keep Store.write
  split_ifs <;> rfl

theorem takenBesides_eq (o : Outage) (c : Catalogue) (id domain : String) :
    c.takenBesides o id domain =
      if o.scan then .error scanFailure else .ok ((c.store.owner? domain).any (·.id != id)) := by
  unfold takenBesides
  rw [ownerOf_eq]
  split_ifs <;> rfl

theorem replace_eq (o : Outage) (before after : Notebook) (c : Catalogue) :
    c.replace o before after =
      if o.write then (c, .error (writeFailure after.id)) else (c.afterUpdate before after, .ok after) := by
  unfold replace
  rw [keep_eq]
  by_cases hwrite : o.write = true
  · rw [if_pos hwrite, if_pos hwrite]
  · rw [if_neg hwrite, if_neg hwrite]
    rfl

theorem add_eq (o : Outage) (birth : Birth) (d : Draft) (c : Catalogue) :
    c.add o birth d =
      match drawn? birth d with
      | none => (c, .error incomplete)
      | some n =>
        if o.scan then (c, .error scanFailure)
        else if (c.store.owner? n.domain).isSome then (c, .error (.domainTaken n.domain))
        else if o.write then (c, .error (writeFailure n.id))
        else (c.afterAdd n, .ok n) := by
  unfold add drawn?
  generalize d.name = name
  generalize d.path = path
  generalize d.domain = domain
  rcases name with _ | name
  · rfl
  rcases path with _ | path
  · rfl
  rcases domain with _ | domain
  · rfl
  dsimp only
  rw [ownerOf_eq]
  by_cases hscan : o.scan = true
  · rw [if_pos hscan, if_pos hscan]
  · rw [if_neg hscan, if_neg hscan]
    cases c.store.owner? (Hostname.canonical domain) with
    | some m => rfl
    | none =>
      dsimp only
      rw [keep_eq]
      by_cases hwrite : o.write = true
      · rw [if_pos hwrite, if_pos hwrite]
        rfl
      · rw [if_neg hwrite, if_neg hwrite]
        rfl

theorem update_eq (o : Outage) (id : String) (d : Draft) (c : Catalogue) :
    c.update o id d =
      match c.find? o id with
      | none => (c, .error (.unknown id))
      | some before =>
        if d.apply before = before then (c, .ok before)
        else if sameLetters (d.apply before).domain before.domain then c.replace o before (d.apply before)
        else if o.scan then (c, .error scanFailure)
        else if (c.store.owner? (d.apply before).domain).any (·.id != id) then
          (c, .error (.domainTaken (d.apply before).domain))
        else c.replace o before (d.apply before) := by
  unfold update
  cases c.find? o id with
  | none => rfl
  | some before =>
    dsimp only
    rw [takenBesides_eq]
    by_cases hscan : o.scan = true
    · simp only [if_pos hscan]
    · simp only [if_neg hscan]
      cases (c.store.owner? (d.apply before).domain).any (·.id != id) <;> rfl

theorem delete_eq (o : Outage) (id : String) (c : Catalogue) :
    c.delete o id =
      match c.find? o id with
      | none => (c, .error (.unknown id))
      | some n => if o.erase then (c, .error (eraseFailure id)) else (c.afterDelete id n, .ok ()) := by
  unfold delete
  cases hfind : c.find? o id with
  | none => rfl
  | some n =>
    rw [find?_eq] at hfind
    split_ifs at hfind
    dsimp only
    rw [Store.erase, Store.contains_of_record? hfind]
    by_cases herase : o.erase = true
    · rw [if_pos herase, if_pos herase]
      rfl
    · rw [if_neg herase, if_neg herase]
      rfl

theorem apply_domain (d : Draft) (n : Notebook) :
    (d.apply n).domain = n.domain ∨ Hostname.canonical (d.apply n).domain = (d.apply n).domain := by
  unfold Draft.apply
  cases d.domain with
  | none => exact .inl rfl
  | some domain => exact .inr (Hostname.canonical_canonical domain)

inductive Effect (c : Catalogue) : Catalogue → Prop
  | nothing : Effect c c
  | added {n : Notebook} (free : c.store.owner? n.domain = none)
      (canonical : Hostname.canonical n.domain = n.domain) : Effect c (c.afterAdd n)
  | updated {id : String} {before after : Notebook} (found : c.store.record? id = some before)
      (same : after.id = before.id) (differs : after ≠ before)
      (free : sameLetters after.domain before.domain = true ∨
        Hostname.canonical after.domain = after.domain ∧ ∀ n, c.store.owner? after.domain = some n → n.id = id) :
      Effect c (c.afterUpdate before after)
  | deleted {id : String} {n : Notebook} (found : c.store.record? id = some n) : Effect c (c.afterDelete id n)

theorem record?_of_find? {o : Outage} {c : Catalogue} {id : String} {n : Notebook} (h : c.find? o id = some n) :
    c.store.record? id = some n := by
  rw [find?_eq] at h
  split_ifs at h
  exact h

theorem add_effect (o : Outage) (birth : Birth) (d : Draft) (c : Catalogue) : Effect c (c.add o birth d).1 := by
  rw [add_eq]
  split
  · exact .nothing
  · next n hn =>
    split_ifs with hscan howner hwrite
    · exact .nothing
    · exact .nothing
    · exact .nothing
    · exact .added (Option.not_isSome_iff_eq_none.mp howner) (drawn?_canonical hn)

theorem update_effect (o : Outage) (id : String) (d : Draft) (c : Catalogue) : Effect c (c.update o id d).1 := by
  rw [update_eq]
  split
  · exact .nothing
  · next before hbefore =>
    have hfound := record?_of_find? hbefore
    simp only [replace_eq]
    split_ifs with hsame hletters hwrite hscan howner hwrite
    · exact .nothing
    · exact .nothing
    · exact .updated hfound rfl hsame (.inl hletters)
    · exact .nothing
    · exact .nothing
    · exact .nothing
    · refine .updated hfound rfl hsame (.inr ⟨?_, ?_⟩)
      · rcases apply_domain d before with hdomain | hcanonical
        · exact absurd (by rw [hdomain]; exact sameLetters_refl _) hletters
        · exact hcanonical
      · intro n hn
        rw [hn, Option.any_some, bne_iff_ne, ne_eq, not_not] at howner
        exact howner

theorem delete_effect (o : Outage) (id : String) (c : Catalogue) : Effect c (c.delete o id).1 := by
  rw [delete_eq]
  split
  · exact .nothing
  · next n hn =>
    split_ifs
    · exact .nothing
    · exact .deleted (record?_of_find? hn)

end NotebookHost.Catalogue
