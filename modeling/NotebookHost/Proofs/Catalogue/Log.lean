import NotebookHost.Proofs.Catalogue.Atomicity
import NotebookHost.Proofs.Catalogue.Roster

/-!
What a catalogue has announced since it was opened is a complete log of its records: who takes down
every announcement has what is stored.
-/

namespace NotebookHost

open Catalogue

namespace Roster

def hear (r : Roster) (e : Event) : Roster :=
  match e.change with
  | .added | .updated => r.insert e.notebook.id e.notebook
  | .deleted => r.erase e.notebook.id

def replay (l : List Event) : Roster := l.foldl hear ∅

/-- Only what is not there is added, an update changes something, and a deletion tells what went. -/
def Fits (r : Roster) (e : Event) : Prop :=
  match e.change with
  | .added => r[e.notebook.id]? = none
  | .updated => ∃ n, r[e.notebook.id]? = some n ∧ n ≠ e.notebook
  | .deleted => r[e.notebook.id]? = some e.notebook

@[simp] theorem getElem?_replay_nil (id : String) : (replay [])[id]? = none := Std.TreeMap.getElem?_emptyc

theorem replay_concat (l : List Event) (e : Event) : replay (l ++ [e]) = (replay l).hear e := by
  rw [replay, List.foldl_append]
  rfl

theorem getElem?_hear (r : Roster) (e : Event) (id : String) :
    (r.hear e)[id]? = if id = e.notebook.id then e.outcome else r[id]? := by
  obtain ⟨change, n⟩ := e
  cases change <;> simp only [hear, Event.outcome, getElem?_insert, getElem?_erase, eq_comm (a := id)] <;> rfl

end Roster

namespace Catalogue

def IsLog (l : List Event) : Prop :=
  ∀ (before : List Event) (e : Event), before ++ [e] <+: l → (Roster.replay before).Fits e

theorem IsLog.nil : IsLog [] := by
  intro before e hinit
  have h := List.eq_nil_of_prefix_nil hinit
  simp at h

theorem IsLog.concat {l : List Event} (h : IsLog l) {e : Event} (fits : (Roster.replay l).Fits e) :
    IsLog (l ++ [e]) := by
  intro before e' hinit
  rcases List.prefix_concat_iff.mp hinit with heq | hinit
  · obtain ⟨rfl, he⟩ := List.append_inj' heq rfl
    rw [List.singleton_inj.mp he]
    exact fits
  · exact h before e' hinit

structure IsLogged (c : Catalogue) : Prop where
  keyed : c.store.IsKeyed
  replayed : ∀ id, (Roster.replay c.announced)[id]? = c.store.record? id
  log : IsLog c.announced

theorem News.isLogged {c c' : Catalogue} {e : Event} (h : News c c' e) (hc : c.IsLogged)
    (fits : (Roster.replay c.announced).Fits e) : c'.IsLogged where
  keyed id n hn := by
    rw [h.record] at hn
    split_ifs at hn with hid
    · unfold Event.outcome at hn
      split_ifs at hn
      rw [hid, ← Option.some.inj hn]
    · exact hc.keyed id n hn
  replayed id := by
    rw [h.announced, Roster.replay_concat, Roster.getElem?_hear, h.record, hc.replayed]
  log := by
    rw [h.announced]
    exact hc.log.concat fits

theorem add_isLogged {c : Catalogue} (hc : c.IsLogged) (o : Outage) {birth : Birth}
    (fresh : c.store.record? birth.id = none) (d : Draft) : (c.add o birth d).1.IsLogged := by
  cases hreply : (c.add o birth d).2 with
  | error f =>
    rw [add_of_error hreply]
    exact hc
  | ok n =>
    obtain ⟨hdrawn, hafter⟩ := add_of_ok hreply
    rw [hafter]
    refine (afterAdd_news n c).isLogged hc ?_
    change (Roster.replay c.announced)[n.id]? = none
    rw [hc.replayed, drawn?_id hdrawn, fresh]

theorem update_isLogged {c : Catalogue} (hc : c.IsLogged) (o : Outage) (id : String) (d : Draft) :
    (c.update o id d).1.IsLogged := by
  cases hreply : (c.update o id d).2 with
  | error f =>
    rw [update_of_error hreply]
    exact hc
  | ok n =>
    obtain ⟨before, hfound, hn, ⟨-, hafter⟩ | ⟨hdiffers, hafter⟩⟩ := update_of_ok hreply
    · rw [hafter]
      exact hc
    · have hid : n.id = id := by
        rw [hn]
        exact hc.keyed id before hfound
      rw [hafter]
      refine (afterUpdate_news hfound hid).isLogged hc ⟨before, ?_, hdiffers.symm⟩
      rw [hc.replayed, hid, hfound]

theorem delete_isLogged {c : Catalogue} (hc : c.IsLogged) (o : Outage) (id : String) : (c.delete o id).1.IsLogged := by
  cases hreply : (c.delete o id).2 with
  | error f =>
    rw [delete_of_error hreply]
    exact hc
  | ok u =>
    obtain ⟨n, hfound, hafter⟩ := delete_of_ok hreply
    have hid : n.id = id := hc.keyed id n hfound
    rw [hafter]
    refine (afterDelete_news hfound hid).isLogged hc ?_
    change (Roster.replay c.announced)[n.id]? = some n
    rw [hc.replayed, hid, hfound]

def additions (ns : List Notebook) : List Event := ns.map fun n => ⟨.added, n⟩

theorem additions_concat (ns : List Notebook) (n : Notebook) :
    additions (ns ++ [n]) = additions ns ++ [⟨.added, n⟩] := by
  rw [additions, List.map_append, List.map_singleton, additions]

theorem getElem?_replay_additions {ns : List Notebook} (hns : ns.Pairwise fun m n => m.id ≠ n.id) (id : String)
    (n : Notebook) : (Roster.replay (additions ns))[id]? = some n ↔ n ∈ ns ∧ n.id = id := by
  induction ns using List.reverseRecOn with
  | nil => simp [additions]
  | append_singleton ns m ih =>
    obtain ⟨hns, -, hapart⟩ := List.pairwise_append.mp hns
    have hnew : ∀ n ∈ ns, n.id ≠ m.id := fun n hn => hapart n hn m (List.mem_singleton_self m)
    rw [additions_concat, Roster.replay_concat, Roster.getElem?_hear, List.mem_append, List.mem_singleton]
    split_ifs with hid
    · change some m = some n ↔ _
      rw [Option.some.injEq]
      constructor
      · rintro rfl
        exact ⟨.inr rfl, hid.symm⟩
      · rintro ⟨hn | hn, hid'⟩
        · exact absurd (hid'.trans hid) (hnew n hn)
        · exact hn.symm
    · rw [ih hns]
      constructor
      · rintro ⟨hn, hid'⟩
        exact ⟨.inl hn, hid'⟩
      · rintro ⟨hn | rfl, hid'⟩
        · exact ⟨hn, hid'⟩
        · exact absurd hid'.symm hid

theorem isLog_additions {ns : List Notebook} (hns : ns.Pairwise fun m n => m.id ≠ n.id) : IsLog (additions ns) := by
  induction ns using List.reverseRecOn with
  | nil => exact .nil
  | append_singleton ns m ih =>
    obtain ⟨hns, -, hapart⟩ := List.pairwise_append.mp hns
    rw [additions_concat]
    refine (ih hns).concat ?_
    change (Roster.replay (additions ns))[m.id]? = none
    rw [Option.eq_none_iff_forall_ne_some]
    intro n hn
    obtain ⟨hmem, hid⟩ := (getElem?_replay_additions hns m.id n).mp hn
    exact hapart n hmem m (List.mem_singleton_self m) hid

theorem ofStore_isLogged {o : Outage} {s : Store} (hs : s.IsKeyed) {c : Catalogue} (hopen : ofStore o s = .ok c) :
    c.IsLogged := by
  have hns : s.notebooks.Pairwise fun m n => m.id ≠ n.id :=
    hs.notebooks_ascending.imp fun hlt heq => String.ne_of_lt hlt heq
  have hannounced : c.announced = additions s.notebooks := ofStore_announced hopen
  refine ⟨?_, ?_, ?_⟩
  · rw [ofStore_store hopen]
    exact hs
  · intro id
    rw [hannounced, ofStore_store hopen]
    apply Option.ext
    intro n
    rw [getElem?_replay_additions hns, hs.mem_notebooks_iff]
    constructor
    · rintro ⟨hn, rfl⟩
      exact hn
    · intro hn
      have hid : n.id = id := hs id n hn
      exact ⟨by rw [hid, hn], hid⟩
  · rw [hannounced]
    exact isLog_additions hns

def Operation.drawnId? : Operation → Option String
  | .add birth _ => some birth.id
  | _ => none

/-- Ids are drawn at random: none is drawn that a record has. -/
def DrawsFresh (c : Catalogue) : List (Outage × Operation) → Prop
  | [] => True
  | (o, op) :: rest => op.drawnId?.bind c.store.record? = none ∧ (c.perform o op).1.DrawsFresh rest

theorem perform_isLogged {c : Catalogue} (hc : c.IsLogged) (o : Outage) {op : Operation}
    (fresh : op.drawnId?.bind c.store.record? = none) : (c.perform o op).1.IsLogged := by
  cases op with
  | add birth d => exact add_isLogged hc o fresh d
  | get id => exact hc
  | getByDomain domain => exact hc
  | list => exact hc
  | update id d => exact update_isLogged hc o id d
  | delete id => exact delete_isLogged hc o id
  | reopen =>
    rw [perform]
    split
    · next hopen => exact ofStore_isLogged hc.keyed hopen
    · exact hc

theorem run_isLogged {c : Catalogue} (hc : c.IsLogged) {history : List (Outage × Operation)}
    (fresh : c.DrawsFresh history) : (c.run history).IsLogged := by
  induction history generalizing c with
  | nil => exact hc
  | cons step history ih =>
    obtain ⟨hdrawn, hrest⟩ := fresh
    exact ih (perform_isLogged hc step.1 hdrawn) hrest

theorem announcements_replay_to_records (s : Store) (hs : s.IsKeyed) (o : Outage) (c : Catalogue)
    (hopen : ofStore o s = .ok c) (history : List (Outage × Operation)) (fresh : c.DrawsFresh history) :
    c.store = s ∧ (c.run history).IsLogged ∧
      ∀ (panics : ℕ → Event → Bool) (count : ℕ),
        ((Subscribers.ofCount count).hear panics {} (c.run history)).deliveries =
          List.replicate count { inbox := (c.run history).announced } := by
  refine ⟨ofStore_store hopen, run_isLogged (ofStore_isLogged hs hopen) fresh, ?_⟩
  intro panics count
  rw [Subscribers.hear, Subscribers.run_publish, Subscribers.told, Subscribers.ofCount, List.map_replicate]
  rfl

theorem announcements_replay_after_outage :
    let s : Store := .holding [.plain "b" "A.example", .plain "a" "a.example"]
    let history : List (Outage × Operation) :=
      [({}, .add ⟨"c", (Notebook.plain "c" "").createdAt⟩
          { rawName := some "c", rawPath := some "/c", rawDomain := some "c.example" }),
        ({}, .update "a" { rawName := some "other" }), ({ erase := true }, .delete "b"), ({}, .delete "b"),
        ({ scan := true }, .reopen)]
    s.IsKeyed ∧ ∃ c, ofStore {} s = .ok c ∧ c.store = s ∧ c.DrawsFresh history ∧
      (c.run history).IsLogged := by
  intro s history
  have hs : s.IsKeyed := Store.holding_isKeyed _
  obtain ⟨c, hopen⟩ : ∃ c, ofStore {} s = .ok c := ⟨_, by rw [ofStore, records_eq, if_neg (by decide)]⟩
  have hdrawn : c.store.record? "c" = none := by
    rw [ofStore_store hopen, Option.eq_none_iff_forall_ne_some]
    intro n hn
    obtain ⟨hmem, hid⟩ := Store.mem_of_record?_holding hn
    simp only [List.mem_cons, List.not_mem_nil, or_false] at hmem
    rcases hmem with rfl | rfl <;> exact absurd hid (by decide)
  have hfresh : c.DrawsFresh history := by
    simp only [history, DrawsFresh, Operation.drawnId?, Option.bind_some, Option.bind_none, hdrawn, and_self]
  obtain ⟨hsame, hlogged, -⟩ := announcements_replay_to_records s hs {} c hopen history hfresh
  exact ⟨hs, c, hopen, hsame, hfresh, hlogged⟩

end Catalogue

end NotebookHost
