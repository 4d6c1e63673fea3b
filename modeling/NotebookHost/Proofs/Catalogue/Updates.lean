import NotebookHost.Proofs.Catalogue.Atomicity

namespace NotebookHost

open Text

namespace Draft

def IsAbsent (value : Option String) : Prop := value = none ∨ value = some ""

/-- What the second draft gives, and what it does not give as in the first one. -/
def followedBy (d e : Draft) : Draft where
  rawName := e.name.or d.rawName
  rawPath := e.path.or d.rawPath
  rawDomain := e.domain.or d.rawDomain
  showCode := e.showCode.or d.showCode
  watch := e.watch.or d.watch

structure Keeps (d : Draft) (before after : Notebook) : Prop where
  id : after.id = before.id
  createdAt : after.createdAt = before.createdAt
  name : IsAbsent d.rawName → after.name = before.name
  path : IsAbsent d.rawPath → after.path = before.path
  domain : IsAbsent d.rawDomain → after.domain = before.domain
  showCode : d.showCode = none → after.showCode = before.showCode
  watch : d.watch = none → after.watch = before.watch

theorem given_of_isAbsent {value : Option String} (h : IsAbsent value) : given value = none := by
  rcases h with rfl | rfl <;> rfl

theorem given_or_given (v w : Option String) : given ((given w).or v) = (given w).or (given v) := by
  cases hw : given w with
  | none => rfl
  | some s =>
    obtain ⟨-, hs⟩ := Option.filter_eq_some_iff.mp hw
    rw [Option.some_or, Option.some_or, given, Option.filter_some, if_pos hs]

theorem apply_keeps (d : Draft) (n : Notebook) : d.Keeps n (d.apply n) where
  id := rfl
  createdAt := rfl
  name h := by rw [apply, name, given_of_isAbsent h, Option.getD_none]
  path h := by rw [apply, path, given_of_isAbsent h, Option.getD_none]
  domain h := by rw [apply, domain, given_of_isAbsent h, Option.map_none, Option.getD_none]
  showCode h := by rw [apply, h, Option.getD_none]
  watch h := by rw [apply, h, Option.getD_none]

theorem apply_followedBy (d e : Draft) (n : Notebook) : (d.followedBy e).apply n = e.apply (d.apply n) := by
  have hname : (d.followedBy e).name = e.name.or d.name := given_or_given _ _
  have hpath : (d.followedBy e).path = e.path.or d.path := given_or_given _ _
  have hdomain : (d.followedBy e).domain = e.domain.or d.domain := given_or_given _ _
  have hshowCode : (d.followedBy e).showCode = e.showCode.or d.showCode := rfl
  have hwatch : (d.followedBy e).watch = e.watch.or d.watch := rfl
  simp only [apply, hname, hpath, hdomain, hshowCode, hwatch, Option.map_or, Option.getD_or]

theorem apply_apply (d : Draft) (n : Notebook) : d.apply (d.apply n) = d.apply n := by
  simp only [apply, ← Option.getD_or, Option.or_self]

end Draft

def Store.IsFreeFor (s : Store) (id domain : String) : Prop :=
  ∀ (j : String) (m : Notebook), s.record? j = some m → sameLetters m.domain domain = true → j = id

theorem Store.IsWellFormed.any_owner_iff {s : Store} (hs : s.IsWellFormed) {id domain : String} :
    (s.owner? domain).any (·.id != id) = true ↔ ¬ s.IsFreeFor id domain := by
  rw [Option.any_eq_true]
  constructor
  · rintro ⟨m, hm, hid⟩ hfree
    obtain ⟨hrecord, hdomain⟩ := hs.owner?_eq_some_iff.mp hm
    exact bne_iff_ne.mp hid (hfree m.id m hrecord hdomain)
  · intro htaken
    by_contra hnone
    apply htaken
    intro j m hm hdomain
    by_contra hj
    refine hnone ⟨m, hs.owner?_eq_some_iff.mpr ⟨hs.record?_id hm, hdomain⟩, bne_iff_ne.mpr ?_⟩
    rw [hs.keyed hm]
    exact hj

namespace Catalogue

structure Alike (c c' : Catalogue) : Prop where
  byId : ∀ id, c.find? {} id = c'.find? {} id
  byDomain : ∀ domain, c.findByDomain? {} domain = c'.findByDomain? {} domain
  list : c.list {} = c'.list {}

theorem alike_of_records {c c' : Catalogue} (hs : c.store.IsWellFormed) (hc : c.IsIndexed) (hs' : c'.store.IsWellFormed)
    (hc' : c'.IsIndexed) (h : ∀ id, c.store.record? id = c'.store.record? id) : c.Alike c' where
  byId id := by rw [find?_calm, find?_calm, h]
  byDomain domain := by
    apply Option.ext
    intro n
    rw [findByDomain?_eq_some_iff hs hc, findByDomain?_eq_some_iff hs' hc', find?_calm, find?_calm, h]
  list := by
    rw [list_eq, list_eq, if_neg (by decide), if_neg (by decide)]
    refine Store.eq_of_ascending hs.notebooks_ascending hs'.notebooks_ascending ?_
    intro n
    rw [hs.mem_notebooks_iff, hs'.mem_notebooks_iff, h]

section Update

variable {c : Catalogue} {id : String} {d : Draft} (hs : c.store.IsWellFormed)
include hs

theorem update_ok {before : Notebook} (found : c.store.record? id = some before)
    (free : c.store.IsFreeFor id (d.apply before).domain) : (c.update {} id d).2 = .ok (d.apply before) := by
  have hfree : ¬ (c.store.owner? (d.apply before).domain).any (·.id != id) = true :=
    fun htaken => hs.any_owner_iff.mp htaken free
  have hreplace : (c.replace {} before (d.apply before)).2 = .ok (d.apply before) := by
    rw [replace_eq, if_neg (by decide)]
  rw [update_eq, find?_calm, found]
  dsimp only
  split_ifs with hsame hletters hscan
  · rw [hsame]
  · exact hreplace
  · cases hscan
  · exact hreplace

variable {n : Notebook} (hok : (c.update {} id d).2 = .ok n)
include hok

theorem isFreeFor_of_update_ok : c.store.IsFreeFor id n.domain := by
  obtain ⟨before, hfound, rfl, -⟩ := update_of_ok hok
  by_cases hletters : sameLetters (d.apply before).domain before.domain = true
  · intro j m hm hdomain
    exact hs.apart hm hfound (sameLetters_trans hdomain hletters)
  · by_contra htaken
    have hdiffers : d.apply before ≠ before := by
      intro hsame
      rw [hsame] at hletters
      exact hletters (sameLetters_refl _)
    rw [update_eq, find?_calm, hfound] at hok
    dsimp only at hok
    rw [if_neg hdiffers, if_neg hletters, if_neg (by decide), if_pos (hs.any_owner_iff.mpr htaken)] at hok
    cases hok

theorem get?_update (k : String) :
    (c.update {} id d).1.store.get? k =
      if key id = k ∧ c.store.record? id ≠ some n then some n.encode else c.store.get? k := by
  obtain ⟨before, hfound, hn, ⟨hsame, hafter⟩ | ⟨hdiffers, hafter⟩⟩ := update_of_ok hok
  · rw [hafter, if_neg]
    rintro ⟨-, hchanged⟩
    exact hchanged (by rw [hfound, hsame])
  · have hid : n.id = id := by
      rw [hn]
      change before.id = id
      exact hs.keyed hfound
    have hchanged : c.store.record? id ≠ some n := by
      rw [hfound]
      exact fun h => hdiffers (Option.some.inj h).symm
    rw [hafter, afterUpdate_store, Store.get?_put, hid]
    simp only [hchanged, ne_eq, not_false_iff, and_true]

theorem record?_update (j : String) :
    (c.update {} id d).1.store.record? j = if j = id then some n else c.store.record? j := by
  rw [Store.record?, get?_update hs hok]
  by_cases hj : j = id
  · rw [if_pos hj, hj]
    by_cases hsame : c.store.record? id = some n
    · rw [if_neg fun h => h.2 hsame]
      exact hsame
    · rw [if_pos ⟨rfl, hsame⟩, Option.bind_some, Notebook.decode?_encode]
  · rw [if_neg hj, if_neg fun h => hj (key_injective h.1).symm]
    rfl

theorem update_again {o : Outage} (ho : o.read = false) :
    (c.update {} id d).1.update o id d = ((c.update {} id d).1, .ok n) := by
  obtain ⟨before, -, rfl, -⟩ := update_of_ok hok
  rw [update_eq, find?_eq, if_neg (by rw [ho]; decide), record?_update hs hok, if_pos rfl]
  dsimp only
  rw [d.apply_apply, if_pos rfl]

end Update

section Updates

variable {c : Catalogue} (hs : c.store.IsWellFormed) {id : String} {d e : Draft} {m n : Notebook}
  (hfirst : (c.update {} id d).2 = .ok m) (hsecond : ((c.update {} id d).1.update {} id e).2 = .ok n)
include hs hfirst hsecond

theorem update_followedBy_ok : (c.update {} id (d.followedBy e)).2 = .ok n := by
  have hs₁ := (update_effect {} id d c).isWellFormed hs
  have hrecord := record?_update hs hfirst
  obtain ⟨before, hfound, rfl, -⟩ := update_of_ok hfirst
  obtain ⟨middle, hmiddle, rfl, -⟩ := update_of_ok hsecond
  rw [hrecord, if_pos rfl] at hmiddle
  obtain rfl := Option.some.inj hmiddle
  rw [← Draft.apply_followedBy]
  refine update_ok hs hfound ?_
  -- The other notebooks are those that the second update has found.
  intro j other hother hdomain
  by_contra hj
  rw [Draft.apply_followedBy] at hdomain
  exact hj (isFreeFor_of_update_ok hs₁ hsecond j other (by rw [hrecord, if_neg hj, hother]) hdomain)

theorem record?_update_followedBy (j : String) :
    (c.update {} id (d.followedBy e)).1.store.record? j = ((c.update {} id d).1.update {} id e).1.store.record? j := by
  have hs₁ := (update_effect {} id d c).isWellFormed hs
  rw [record?_update hs (update_followedBy_ok hs hfirst hsecond), record?_update hs₁ hsecond,
    record?_update hs hfirst]
  split_ifs <;> rfl

theorem get?_update_followedBy {k : String} (h : k ≠ key id ∨ c.store.record? id ≠ some n) :
    (c.update {} id (d.followedBy e)).1.store.get? k = ((c.update {} id d).1.update {} id e).1.store.get? k := by
  have hs₁ := (update_effect {} id d c).isWellFormed hs
  rw [get?_update hs (update_followedBy_ok hs hfirst hsecond), get?_update hs₁ hsecond, get?_update hs hfirst,
    record?_update hs hfirst, if_pos rfl]
  rcases h with hk | hchanged
  · rw [if_neg fun h => hk h.1.symm, if_neg fun h => hk h.1.symm, if_neg fun h => hk h.1.symm]
  · by_cases hk : key id = k
    · rw [if_pos ⟨hk, hchanged⟩]
      by_cases hsame : m = n
      · rw [if_neg fun h => h.2 (congrArg some hsame), if_pos ⟨hk, by rwa [hsame]⟩, hsame]
      · rw [if_pos ⟨hk, fun h => hsame (Option.some.inj h)⟩]
    · rw [if_neg fun h => hk h.1, if_neg fun h => hk h.1, if_neg fun h => hk h.1]

end Updates

structure UpdateLaws (c : Catalogue) : Prop where
  others : ∀ (id : String) (d : Draft) (n : Notebook), (c.update {} id d).2 = .ok n →
    (∀ k, k ≠ key id → (c.update {} id d).1.store.get? k = c.store.get? k) ∧
      ∀ j, j ≠ id → (c.update {} id d).1.find? {} j = c.find? {} j
  kept : ∀ (id : String) (d : Draft) (n : Notebook), (c.update {} id d).2 = .ok n →
    ∃ before, c.find? {} id = some before ∧ (c.update {} id d).1.find? {} id = some n ∧ d.Keeps before n
  again : ∀ (id : String) (d : Draft) (n : Notebook), (c.update {} id d).2 = .ok n →
    ∀ o : Outage, o.read = false → (c.update {} id d).1.update o id d = ((c.update {} id d).1, .ok n)
  composed : ∀ (id : String) (d e : Draft) (m n : Notebook), (c.update {} id d).2 = .ok m →
    ((c.update {} id d).1.update {} id e).2 = .ok n →
    (c.update {} id (d.followedBy e)).2 = .ok n ∧
      (c.update {} id (d.followedBy e)).1.Alike ((c.update {} id d).1.update {} id e).1 ∧
      ∀ k, k ≠ key id ∨ c.find? {} id ≠ some n →
        (c.update {} id (d.followedBy e)).1.store.get? k = ((c.update {} id d).1.update {} id e).1.store.get? k

theorem updateLaws_of_isIndexed {c : Catalogue} (hs : c.store.IsWellFormed) (hc : c.IsIndexed) : c.UpdateLaws where
  others id d n hok := by
    constructor
    · intro k hk
      rw [get?_update hs hok, if_neg fun h => hk h.1.symm]
    · intro j hj
      rw [find?_calm, find?_calm, record?_update hs hok, if_neg hj]
  kept id d n hok := by
    obtain ⟨before, hfound, hn, -⟩ := update_of_ok hok
    refine ⟨before, (find?_calm c id).trans hfound, ?_, ?_⟩
    · rw [find?_calm, record?_update hs hok, if_pos rfl]
    · rw [hn]
      exact d.apply_keeps before
  again id d n hok o ho := update_again hs hok ho
  composed id d e m n hfirst hsecond := by
    refine ⟨update_followedBy_ok hs hfirst hsecond, ?_, ?_⟩
    · have hone := update_effect {} id (d.followedBy e) c
      have htwo := update_effect {} id d c
      have hthree := update_effect {} id e (c.update {} id d).1
      have hs₁ := htwo.isWellFormed hs
      exact alike_of_records (hone.isWellFormed hs) (hone.isIndexed hs hc) (hthree.isWellFormed hs₁)
        (hthree.isIndexed hs₁ (htwo.isIndexed hs hc)) (record?_update_followedBy hs hfirst hsecond)
    · intro k hk
      rw [find?_calm] at hk
      exact get?_update_followedBy hs hfirst hsecond hk

theorem updates_are_lawful {s : Store} (hs : s.IsWellFormed) :
    ∃ opened, ofStore {} s = .ok opened ∧
      ∀ history : List (Outage × Operation), (opened.run history).UpdateLaws := by
  have hopen : ofStore {} s = .ok (s.notebooks.foldl takeUp { store := s }) := by
    rw [ofStore, records_eq, if_neg (by decide)]
  refine ⟨_, hopen, ?_⟩
  intro history
  rw [← ofStore_store hopen] at hs
  obtain ⟨hstore, hindex⟩ := run_isIndexed hs (ofStore_isIndexed hopen) history
  exact updateLaws_of_isIndexed hstore hindex

theorem updates_are_lawful_on_detour :
    let s : Store := .holding [.plain "a" "A.example", .plain "b" "b.example"]
    let d : Draft := { rawName := some "", rawDomain := some "C.example" }
    let e : Draft := { rawDomain := some "a.EXAMPLE", watch := some true }
    let n : Notebook := { Notebook.plain "a" "a.example" with watch := true }
    s.IsWellFormed ∧ ∃ opened, ofStore {} s = .ok opened ∧
      (opened.update {} "a" d).2 = .ok (.plain "a" "c.example") ∧
      ((opened.update {} "a" d).1.update {} "a" e).2 = .ok n ∧
      (opened.update {} "a" (d.followedBy e)).2 = .ok n ∧
      (opened.update {} "a" (d.followedBy e)).1.Alike ((opened.update {} "a" d).1.update {} "a" e).1 := by
  intro s d e n
  have hs : s.IsWellFormed := Store.holding_isWellFormed (by decide)
  obtain ⟨opened, hopen, hlaws⟩ := updates_are_lawful hs
  have hstore : opened.store = s := ofStore_store hopen
  have hopened : opened.store.IsWellFormed := by
    rw [hstore]
    exact hs
  have ha : opened.store.record? "a" = some (.plain "a" "A.example") := by
    rw [hstore, Store.record?_holding]
    rfl
  have hfree {domain : String} (hb : sameLetters "b.example" domain = false) : opened.store.IsFreeFor "a" domain := by
    intro j m hm hdomain
    rw [hstore] at hm
    obtain ⟨hmem, rfl⟩ := Store.mem_of_record?_holding hm
    rcases List.mem_pair.mp hmem with rfl | rfl
    · rfl
    · change sameLetters "b.example" domain = true at hdomain
      rw [hb] at hdomain
      cases hdomain
  have hmoved : d.apply (.plain "a" "A.example") = .plain "a" "c.example" := by decide
  have hback : e.apply (.plain "a" "c.example") = n := by decide
  have hfirst : (opened.update {} "a" d).2 = .ok (.plain "a" "c.example") := by
    rw [← hmoved]
    exact update_ok hopened ha (hfree (by decide))
  have hsecond : ((opened.update {} "a" d).1.update {} "a" e).2 = .ok n := by
    rw [← hback]
    refine update_ok ((update_effect {} "a" d opened).isWellFormed hopened) ?_ ?_
    · rw [record?_update hopened hfirst, if_pos rfl]
    · intro j m hm hdomain
      rw [record?_update hopened hfirst] at hm
      by_contra hj
      rw [if_neg hj] at hm
      exact hj (hfree (by decide) j m hm hdomain)
  obtain ⟨hone, halike, -⟩ := (hlaws []).composed "a" d e _ _ hfirst hsecond
  exact ⟨hs, opened, hopen, hfirst, hsecond, hone, halike⟩

end Catalogue

end NotebookHost
