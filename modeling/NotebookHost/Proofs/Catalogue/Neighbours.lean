import NotebookHost.Proofs.Catalogue.Atomicity
import NotebookHost.Proofs.Catalogue.Lookup

namespace NotebookHost

open Text

namespace Store.IsKeyed

variable {s : Store} (hs : s.IsKeyed)
include hs

theorem put (n : Notebook) : (s.put (Catalogue.key n.id) n.encode).IsKeyed := by
  intro id m hm
  rw [record?_put] at hm
  split_ifs at hm with hid
  · cases hm
    exact hid
  · exact hs id m hm

theorem drop (id : String) : (s.drop (Catalogue.key id)).IsKeyed := by
  intro j m hm
  rw [record?_drop] at hm
  split_ifs at hm
  exact hs j m hm

end Store.IsKeyed

namespace Catalogue

theorem Effect.isKeyed {c c' : Catalogue} (h : Effect c c') (hc : c.store.IsKeyed) : c'.store.IsKeyed := by
  cases h with
  | nothing => exact hc
  | added _ _ =>
    rw [afterAdd_store]
    exact hc.put _
  | updated _ _ _ _ =>
    rw [afterUpdate_store]
    exact hc.put _
  | deleted _ =>
    rw [afterDelete_store]
    exact hc.drop _

theorem perform_isKeyed {c : Catalogue} (hc : c.store.IsKeyed) (o : Outage) (op : Operation) :
    (c.perform o op).1.store.IsKeyed := by
  cases op with
  | add birth d => exact (add_effect o birth d c).isKeyed hc
  | get id => exact hc
  | getByDomain domain => exact hc
  | list => exact hc
  | update id d => exact (update_effect o id d c).isKeyed hc
  | delete id => exact (delete_effect o id c).isKeyed hc
  | reopen =>
    rw [perform]
    split
    · next hopen =>
      rw [ofStore_store hopen]
      exact hc
    · exact hc

theorem run_isKeyed {c : Catalogue} (hc : c.store.IsKeyed) (history : List (Outage × Operation)) :
    (c.run history).store.IsKeyed := by
  induction history generalizing c with
  | nil => exact hc
  | cons turn history ih => exact ih (perform_isKeyed hc turn.1 turn.2)

def Operation.subject? : Operation → Option String
  | .add birth _ => some birth.id
  | .update id _ => some id
  | .delete id => some id
  | _ => none

/-- The operation gives its notebook another domain than the given one, which it has. -/
def Vacates (c : Catalogue) (domain : String) : Operation → Prop
  | .update id d => ∃ n, c.store.record? id = some n ∧ sameLetters n.domain domain = true ∧
      sameLetters (d.apply n).domain domain = false
  | _ => False

structure IsServed (c : Catalogue) (domain : String) : Prop where
  entry : (c.owners[Hostname.canonical domain]?).isSome
  record : ∃ id n, c.store.record? id = some n ∧ sameLetters n.domain domain = true

variable {c : Catalogue} {domain : String}

theorem IsServed.exists_found (h : c.IsServed domain) :
    ∃ m, c.findByDomain? {} domain = some m ∧ (∃ id, c.store.record? id = some m) ∧
      sameLetters m.domain domain = true := by
  obtain ⟨id, n, hn, hdomain⟩ := h.record
  have howner : (c.store.owner? domain).isSome := by
    rw [Option.isSome_iff_ne_none]
    intro hnone
    rw [Store.owner?_eq_none_iff.mp hnone id n hn] at hdomain
    cases hdomain
  obtain ⟨m, hm⟩ := Option.isSome_iff_exists.mp ((isSome_findByDomain?_iff h.entry).mpr howner)
  exact ⟨m, hm, findByDomain?_sound hm⟩

section Other

variable {j : String} {n : Notebook} (hentry : (c.owners[Hostname.canonical domain]?).isSome)
  (hrecord : c.store.record? j = some n) (hdomain : sameLetters n.domain domain = true)
include hentry hrecord hdomain

theorem afterAdd_isServed {m : Notebook} (hother : m.id ≠ j) : (c.afterAdd m).IsServed domain where
  entry := (isSome_claim (c := c.stored m)).mpr (.inr hentry)
  record := by
    refine ⟨j, n, ?_, hdomain⟩
    rw [afterAdd_store, Store.record?_put, if_neg hother]
    exact hrecord

theorem afterUpdate_isServed {before after : Notebook} (hother : after.id ≠ j)
    (hkept : sameLetters before.domain domain = true → sameLetters after.domain domain = true) :
    (c.afterUpdate before after).IsServed domain where
  entry := by
    unfold afterUpdate
    split_ifs with hsame
    · exact hentry
    · refine isSome_claim.mpr (.inr (isSome_release.mpr ⟨?_, hentry⟩))
      intro hgone
      have hbefore := Hostname.canonical_eq_iff.mp hgone
      have hafter := hkept hbefore
      rw [sameLetters_comm] at hbefore
      exact hsame (sameLetters_trans hafter hbefore)
  record := by
    refine ⟨j, n, ?_, hdomain⟩
    rw [afterUpdate_store, Store.record?_put, if_neg hother]
    exact hrecord

theorem afterDelete_isServed {id : String} {m : Notebook} (hother : id ≠ j)
    (hentries : Hostname.canonical m.domain = Hostname.canonical domain →
      c.owners[Hostname.canonical m.domain]? ≠ some id) : (c.afterDelete id m).IsServed domain where
  entry := by
    change (((releaseFrom _ _ id).owners)[_]?).isSome
    by_cases hsame : Hostname.canonical m.domain = Hostname.canonical domain
    · rw [releaseFrom, if_neg (hentries hsame)]
      exact hentry
    · exact isSome_releaseFrom hsame hentry
  record := by
    refine ⟨j, n, ?_, hdomain⟩
    rw [afterDelete_store, Store.record?_drop, if_neg hother]
    exact hrecord

end Other

theorem afterUpdate_no_entry {before after : Notebook} (canonical : Hostname.canonical after.domain = after.domain)
    (hbefore : sameLetters before.domain domain = true) (hafter : sameLetters after.domain domain = false) :
    (c.afterUpdate before after).owners[Hostname.canonical domain]? = none := by
  have hdiffers : ¬ sameLetters after.domain before.domain = true := by
    intro hsame
    rw [sameLetters_trans hsame hbefore] at hafter
    cases hafter
  unfold afterUpdate
  rw [if_neg hdiffers, ← Option.not_isSome_iff_eq_none]
  intro hsome
  rcases isSome_claim.mp hsome with hclaimed | hkept
  · rw [← canonical, Hostname.canonical_eq_iff, hafter] at hclaimed
    cases hclaimed
  · exact (isSome_release.mp hkept).1 (Hostname.canonical_eq_iff.mpr hbefore)

theorem reply_of_ok {α : Type} {f : α → Reply} {p : Catalogue × Except Failure α} {r : Reply}
    (h : (reply f p).2 = .ok r) : ∃ x, p.2 = .ok x := by
  obtain ⟨c', _ | x⟩ := p
  · cases h
  · exact ⟨x, rfl⟩

section Turn

variable {op : Operation} {r : Reply} (hok : (c.perform {} op).2 = .ok r)
include hok

theorem perform_isServed {a : String} {n : Notebook} (hsubject : op.subject? = some a)
    (hkey : ∀ m, c.store.record? a = some m → m.id = a) (hfound : c.findByDomain? {} domain = some n)
    (hother : n.id ≠ a) (hkept : ¬ c.Vacates domain op) : (c.perform {} op).1.IsServed domain := by
  obtain ⟨⟨j, hrecord⟩, hdomain⟩ := findByDomain?_sound hfound
  have hentry : (c.owners[Hostname.canonical domain]?).isSome := by
    obtain ⟨id, hid⟩ := exists_entry hfound
    exact Option.isSome_of_mem hid
  have hapart : a ≠ j := by
    rintro rfl
    exact hother (hkey n hrecord)
  cases op with
  | add birth d =>
    cases hsubject
    obtain ⟨m, hm⟩ := reply_of_ok hok
    obtain ⟨hdrawn, hafter⟩ := add_of_ok hm
    change (c.add {} birth d).1.IsServed domain
    rw [hafter]
    exact afterAdd_isServed hentry hrecord hdomain (by rwa [drawn?_id hdrawn])
  | update id d =>
    cases hsubject
    obtain ⟨after, hok⟩ := reply_of_ok hok
    obtain ⟨before, hbefore, rfl, ⟨-, hsame⟩ | ⟨-, hafter⟩⟩ := update_of_ok hok
    · change (c.update {} a d).1.IsServed domain
      rw [hsame]
      exact ⟨hentry, j, n, hrecord, hdomain⟩
    · change (c.update {} a d).1.IsServed domain
      rw [hafter]
      refine afterUpdate_isServed hentry hrecord hdomain (fun hid => hapart (.trans ?_ hid)) ?_
      · exact (hkey before hbefore).symm
      · intro hhad
        by_contra hlost
        exact hkept ⟨before, hbefore, hhad, Bool.eq_false_iff.mpr hlost⟩
  | delete id =>
    cases hsubject
    obtain ⟨_, hok⟩ := reply_of_ok hok
    obtain ⟨m, hm, hafter⟩ := delete_of_ok hok
    change (c.delete {} a).1.IsServed domain
    rw [hafter]
    refine afterDelete_isServed hentry hrecord hdomain hapart ?_
    -- An entry that names the deleted notebook, which has the domain, would have been found.
    intro hsame hnames
    rw [hsame] at hnames
    rw [findByDomain?_of_entry hnames, hm, Option.filter_some, if_pos (Hostname.canonical_eq_iff.mp hsame),
      Option.some_or] at hfound
    cases hfound
    exact hother (hkey n hm)
  | get | getByDomain | list | reopen => cases hsubject

theorem perform_no_entry (hleft : c.Vacates domain op) :
    (c.perform {} op).1.owners[Hostname.canonical domain]? = none := by
  cases op with
  | update id d =>
    obtain ⟨before, hbefore, hhad, hlost⟩ := hleft
    have hmoved : ¬ sameLetters (d.apply before).domain before.domain = true := by
      intro hsame
      rw [sameLetters_trans hsame hhad] at hlost
      cases hlost
    have hcanonical : Hostname.canonical (d.apply before).domain = (d.apply before).domain := by
      refine (apply_domain d before).resolve_left fun hsame => hmoved ?_
      rw [hsame]
      exact sameLetters_refl _
    obtain ⟨after, hok⟩ := reply_of_ok hok
    obtain ⟨m, hm, rfl, hafter⟩ := update_of_ok hok
    cases hm.symm.trans hbefore
    change (c.update {} id d).1.owners[_]? = none
    rcases hafter with ⟨hsame, -⟩ | ⟨-, hafter⟩
    · rw [hsame, hhad] at hlost
      cases hlost
    · rw [hafter]
      exact afterUpdate_no_entry hcanonical hhad hlost
  | add | get | getByDomain | list | delete | reopen => cases hleft

end Turn

theorem neighbours_stay_routed {s : Store} {opened : Catalogue} (hopen : ofStore {} s = .ok opened)
    (history : List Operation) :
    let c := opened.run (history.map fun op => ({}, op))
    (s.IsKeyed → c.store.IsKeyed) ∧
      ∀ (op : Operation) (a : String) (r : Reply) (domain : String) (n : Notebook), op.subject? = some a →
        (∀ m, c.store.record? a = some m → m.id = a) → (c.perform {} op).2 = .ok r →
        c.findByDomain? {} domain = some n → n.id ≠ a →
        let c' := (c.perform {} op).1
        (¬ c.Vacates domain op →
          ∃ m, c'.findByDomain? {} domain = some m ∧ (∃ id, c'.store.record? id = some m) ∧
            sameLetters m.domain domain = true) ∧
        (c.Vacates domain op → c'.findByDomain? {} domain = none) := by
  intro c
  constructor
  · intro hs
    refine run_isKeyed ?_ _
    rw [ofStore_store hopen]
    exact hs
  · intro op a r domain n hsubject hkey hok hfound hother
    constructor
    · intro hkept
      exact (perform_isServed hok hsubject hkey hfound hother hkept).exists_found
    · intro hleft
      exact findByDomain?_of_no_entry (perform_no_entry hok hleft) {}

theorem neighbours_stay_routed_after_deletions :
    let ns : List Notebook := [.plain "a" "x.example", .plain "b" "X.example", .plain "c" "x.example"]
    let opened : Catalogue := ns.foldl takeUp { store := .holding ns }
    let c := opened.run ([Operation.delete "a"].map fun op => ({}, op))
    ofStore {} (.holding ns) = .ok opened ∧ c.store.IsKeyed ∧
      c.findByDomain? {} "x.example" = some (.plain "c" "x.example") ∧
      (c.perform {} (.delete "b")).2 = .ok .done ∧ ¬ c.Vacates "x.example" (.delete "b") ∧
      ∃ m, (c.perform {} (.delete "b")).1.findByDomain? {} "x.example" = some m ∧
        sameLetters m.domain "x.example" = true := by
  intro ns opened c
  have hopen : ofStore {} (.holding ns) = .ok opened := ofStore_holding (by decide)
  have hdelete : c = opened.afterDelete "a" (.plain "a" "x.example") := by
    have ha : opened.find? {} "a" = some (.plain "a" "x.example") := by
      rw [find?_calm, ofStore_store hopen, Store.record?_holding]
      rfl
    have hperform : c = (opened.perform {} (.delete "a")).1 := rfl
    rw [hperform, perform, delete_eq, ha]
    rfl
  have hrecord (id : String) (hid : "a" ≠ id) : c.store.record? id = ns.find? (·.id == id) := by
    rw [hdelete, afterDelete_store, Store.record?_drop, if_neg hid, ofStore_store hopen, Store.record?_holding]
  have hentry : c.owners[Hostname.canonical "x.example"]? = some "c" := by
    rw [hdelete]
    decide +kernel
  have hfound : c.findByDomain? {} "x.example" = some (.plain "c" "x.example") := by
    rw [findByDomain?_of_entry hentry, hrecord "c" (by decide)]
    rfl
  have hok : (c.perform {} (.delete "b")).2 = .ok .done := by
    rw [perform, delete_eq, find?_calm, hrecord "b" (by decide)]
    rfl
  obtain ⟨hkeyed, hstays⟩ := neighbours_stay_routed hopen [.delete "a"]
  have hkeys : c.store.IsKeyed := hkeyed (Store.holding_isKeyed _)
  have hkept : ¬ c.Vacates "x.example" (.delete "b") := id
  obtain ⟨m, hm, -, hdomain⟩ :=
    (hstays (.delete "b") "b" .done "x.example" _ rfl (hkeys "b") hok hfound (by decide)).1 hkept
  exact ⟨hopen, hkeys, hfound, hok, hkept, m, hm, hdomain⟩

theorem neighbour_is_unrouted :
    let ns : List Notebook := [.plain "a" "x.example", .plain "b" "x.example"]
    let opened : Catalogue := ns.foldl takeUp { store := .holding ns }
    let move : Operation := .update "a" { rawDomain := some "y.example" }
    ofStore {} (.holding ns) = .ok opened ∧ opened.findByDomain? {} "x.example" = some (.plain "b" "x.example") ∧
      (opened.perform {} move).2 = .ok (.notebook (.plain "a" "y.example")) ∧
      (opened.perform {} move).1.store.record? "b" = some (.plain "b" "x.example") ∧
      (opened.perform {} move).1.findByDomain? {} "x.example" = none := by
  intro ns opened move
  have hopen : ofStore {} (.holding ns) = .ok opened := ofStore_holding (by decide)
  have hrecord (id : String) : opened.store.record? id = ns.find? (·.id == id) := by
    rw [ofStore_store hopen, Store.record?_holding]
  have hfree : opened.store.owner? "y.example" = none := by
    rw [ofStore_store hopen, Store.owner?, Store.notebooks_holding (by decide)]
    rfl
  have hmove : opened.perform {} move =
      (opened.afterUpdate (.plain "a" "x.example") (.plain "a" "y.example"),
        .ok (.notebook (.plain "a" "y.example"))) := by
    have hfound : ns.find? (·.id == "a") = some (.plain "a" "x.example") := rfl
    have happly : Draft.apply { rawDomain := some "y.example" } (.plain "a" "x.example") = .plain "a" "y.example" := by
      decide
    rw [perform, update_eq, find?_calm, hrecord, hfound]
    dsimp only
    rw [happly, if_neg (by decide), if_neg (by decide), if_neg (by decide)]
    change reply .notebook (if (opened.store.owner? "y.example").any _ = true then _ else _) = _
    rw [hfree, Option.any_none, if_neg (by decide), replace_eq, if_neg (by decide)]
    rfl
  have hentry : opened.owners[Hostname.canonical "x.example"]? = some "b" := by decide +kernel
  rw [hmove]
  refine ⟨hopen, ?_, rfl, ?_, ?_⟩
  · rw [findByDomain?_of_entry hentry, hrecord]
    rfl
  · rw [afterUpdate_store, Store.record?_put, if_neg (by decide), hrecord]
    rfl
  · exact findByDomain?_of_no_entry (afterUpdate_no_entry (by decide) (by decide) (by decide)) {}

end Catalogue

end NotebookHost
