import NotebookHost.Delivery.Basic
import NotebookHost.Proofs.Catalogue.Announcements

namespace NotebookHost

open Catalogue

def DeletionsAreFinal (l : List Event) : Prop :=
  l.Pairwise fun e f => e.change = .deleted → f.notebook.id ≠ e.notebook.id

instance : DecidablePred DeletionsAreFinal := fun l => inferInstanceAs (Decidable (l.Pairwise _))

theorem DeletionsAreFinal.not_before {l before after : List Event} (h : DeletionsAreFinal l) {f : Event}
    (hl : changesOf f.notebook.id l = before ++ f :: after) : ∀ e ∈ before, e.change ≠ .deleted := by
  intro e he hdeleted
  have hmem : e ∈ changesOf f.notebook.id l := by
    rw [hl]
    exact List.mem_append_left _ he
  have hpair : DeletionsAreFinal (changesOf f.notebook.id l) := h.sublist List.filter_sublist
  rw [hl, DeletionsAreFinal, List.pairwise_append] at hpair
  exact hpair.2.2 e he f List.mem_cons_self hdeleted (mem_changesOf.mp hmem).2.symm

def IsSole (rows : List (List Event)) (i : ℕ) : Prop :=
  ∀ (j : ℕ) (row : List Event), rows[j]? = some row → j ≠ i → row = []

namespace IsSole

variable {rows : List (List Event)} {i : ℕ}

theorem flatten (sole : IsSole rows i) {row : List Event} (hrow : rows[i]? = some row) : rows.flatten = row := by
  induction rows generalizing i with
  | nil => cases hrow
  | cons first rows ih =>
    rw [List.flatten_cons]
    cases i with
    | zero =>
      have hrest : rows.flatten = [] := by
        rw [List.flatten_eq_nil_iff]
        intro row hmem
        obtain ⟨j, hj⟩ := List.mem_iff_getElem?.mp hmem
        exact sole (j + 1) row hj (Nat.succ_ne_zero j)
      rw [hrest, List.append_nil]
      exact Option.some.inj hrow
    | succ i =>
      rw [sole 0 first rfl (Nat.succ_ne_zero i).symm, List.nil_append]
      exact ih (fun j row hj hne => sole (j + 1) row hj fun he => hne (Nat.succ.inj he)) hrow

theorem eq (sole : IsSole rows i) {j : ℕ} {row : List Event} (hrow : rows[j]? = some row) (hne : row ≠ []) :
    j = i := by
  by_contra hj
  exact hne (sole j row hrow hj)

theorem set (sole : IsSole rows i) (row : List Event) : IsSole (rows.set i row) i := by
  intro j row' hj hne
  rw [List.getElem?_set_ne hne.symm] at hj
  exact sole j row' hj hne

theorem flatten_set (sole : IsSole rows i) (hi : i < rows.length) (row : List Event) :
    (rows.set i row).flatten = row :=
  (sole.set row).flatten (List.getElem?_set_self hi)

theorem concat_nil (sole : IsSole rows i) : IsSole (rows ++ [[]]) i := by
  intro j row hj hne
  rcases Nat.lt_or_ge j rows.length with hlt | hge
  · rw [List.getElem?_append_left hlt] at hj
    exact sole j row hj hne
  · rw [List.getElem?_append_right hge] at hj
    exact List.mem_singleton.mp (List.mem_of_getElem? hj)

theorem concat (hnil : rows.flatten = []) (row : List Event) : IsSole (rows ++ [row]) rows.length := by
  intro j row' hj hne
  have hlt : j < rows.length := by
    have hle := (List.getElem?_eq_some_iff.mp hj).1
    rw [List.length_append, List.length_singleton] at hle
    omega
  rw [List.getElem?_append_left hlt] at hj
  exact List.flatten_eq_nil_iff.mp hnil row' (List.mem_of_getElem? hj)

end IsSole

namespace Delivery

def Step.published? : Step → Option Event
  | .publish e => some e
  | .dispatch => none
  | .work _ => none

def published (steps : List Step) : List Event := steps.filterMap (·.published?)

def rows (id : String) (d : Delivery) : List (List Event) := d.workers.map fun w => changesOf id w.queue

def dispatched (id : String) (d : Delivery) : List Event := changesOf id d.taken ++ (d.rows id).flatten

/-- Nothing is lost on its way: one worker at a time has the changes of a notebook, and a notebook without a worker is
new or was deleted. -/
structure IsFaithful (d : Delivery) (l : List Event) : Prop where
  kept : ∀ id, d.dispatched id ++ changesOf id d.inbox = changesOf id l
  alive : ∀ w ∈ d.workers, w.dead = false
  sole : ∀ id, ∃ i, IsSole (d.rows id) i
  assigned : ∀ (id : String) (i : ℕ), d.assigned[id]? = some i → i < d.workers.length ∧ IsSole (d.rows id) i
  unassigned : ∀ id : String, d.assigned[id]? = none →
    d.dispatched id = [] ∨ ∃ e ∈ d.dispatched id, e.change = .deleted

theorem IsFaithful.nil : IsFaithful {} [] where
  kept _ := rfl
  alive w hw := by cases hw
  sole _ := ⟨0, fun j row hj => by cases hj⟩
  assigned id i h := by simp at h
  unassigned _ _ := .inl rfl

theorem IsFaithful.publish {d : Delivery} {l : List Event} (h : d.IsFaithful l) (e : Event) :
    (d.publish e).IsFaithful (l ++ [e]) := by
  refine ⟨?_, h.alive, h.sole, h.assigned, h.unassigned⟩
  intro id
  have hkept := h.kept id
  rw [changesOf_append, ← hkept, List.append_assoc, ← changesOf_append]
  rfl

theorem rows_employ (e : Event) (d : Delivery) (id : String) : (d.employ e).rows id = d.rows id ++ [changesOf id [e]] :=
  List.map_append

theorem dispatched_employ (e : Event) (d : Delivery) (id : String) :
    (d.employ e).dispatched id = d.dispatched id ++ changesOf id [e] := by
  rw [dispatched, rows_employ, List.flatten_append, List.flatten_singleton, ← List.append_assoc]
  rfl

theorem assigned_employ (e : Event) (d : Delivery) (id : String) :
    (d.employ e).assigned[id]? = if e.notebook.id = id then some d.workers.length else d.assigned[id]? := by
  change (d.assigned.insert e.notebook.id d.workers.length)[id]? = _
  simp only [Std.TreeMap.getElem?_insert, Std.LawfulEqCmp.compare_eq_iff_eq]

theorem ne_of_unassigned {d : Delivery} {id id' : String} {i : ℕ} (hi : d.assigned[id']? = some i)
    (hnone : d.assigned[id]? = none) : id ≠ id' := by
  rintro rfl
  rw [hi] at hnone
  cases hnone

theorem dismiss_eq (e : Event) (d : Delivery) : d.dismiss e =
    { d with assigned := if e.change = .deleted then d.assigned.erase e.notebook.id else d.assigned } := by
  unfold dismiss
  split_ifs <;> rfl

theorem assigned_dismiss (e : Event) (d : Delivery) (id : String) : (d.dismiss e).assigned[id]? =
    if e.change = .deleted ∧ e.notebook.id = id then none else d.assigned[id]? := by
  rw [dismiss_eq]
  by_cases hdeleted : e.change = .deleted <;>
    simp [hdeleted, Std.TreeMap.getElem?_erase, Std.LawfulEqCmp.compare_eq_iff_eq]

theorem assigned_of_dismiss {e : Event} {d : Delivery} {id : String} {i : ℕ}
    (hi : (d.dismiss e).assigned[id]? = some i) : d.assigned[id]? = some i := by
  rw [assigned_dismiss] at hi
  split_ifs at hi
  exact hi

def setWorker (i : ℕ) (w : Worker) (d : Delivery) : Delivery := { d with workers := d.workers.set i w }

theorem enqueue_eq {d : Delivery} {i : ℕ} {w : Worker} (hw : d.workers[i]? = some w) (e : Event) :
    d.enqueue i e = d.setWorker i { w with queue := w.queue ++ [e] } := by
  have : Inhabited Worker := ⟨w⟩
  rw [enqueue, setWorker, List.modify_eq_set, hw]
  rfl

section SetWorker

variable {d : Delivery} {i : ℕ} {w : Worker} (hw : d.workers[i]? = some w) (w' : Worker)

theorem rows_setWorker (id : String) : (d.setWorker i w').rows id = (d.rows id).set i (changesOf id w'.queue) :=
  List.map_set

include hw

theorem getElem?_rows (id : String) : (d.rows id)[i]? = some (changesOf id w.queue) := by
  rw [rows, List.getElem?_map, hw]
  rfl

theorem rows_setWorker_same {id : String} (hsame : changesOf id w'.queue = changesOf id w.queue) :
    (d.setWorker i w').rows id = d.rows id := by
  obtain ⟨hi, hrow⟩ := List.getElem?_eq_some_iff.mp (getElem?_rows hw id)
  rw [rows_setWorker, hsame, ← hrow, List.set_getElem_self]

theorem alive_setWorker (alive : ∀ w ∈ d.workers, w.dead = false) (hdead : w'.dead = w.dead) :
    ∀ v ∈ (d.setWorker i w').workers, v.dead = false := by
  intro v hv
  rcases List.mem_or_eq_of_mem_set hv with hv | rfl
  · exact alive v hv
  · rw [hdead]
    exact alive w (List.mem_of_getElem? hw)

end SetWorker

theorem changesOf_singleton {id : String} {e : Event} (hid : id ≠ e.notebook.id) : changesOf id [e] = [] := by
  rw [changesOf_cons, if_neg hid]
  rfl

section Enqueue

variable {d : Delivery} {i : ℕ} {w : Worker} (hw : d.workers[i]? = some w) (e : Event)
include hw

theorem rows_enqueue_other {id : String} (hid : id ≠ e.notebook.id) : (d.enqueue i e).rows id = d.rows id := by
  rw [enqueue_eq hw]
  apply rows_setWorker_same hw
  rw [changesOf_append, changesOf_singleton hid, List.append_nil]

theorem dispatched_enqueue (sole : IsSole (d.rows e.notebook.id) i) (id : String) :
    (d.enqueue i e).dispatched id = d.dispatched id ++ changesOf id [e] := by
  have htaken : (d.enqueue i e).taken = d.taken := rfl
  rw [dispatched, dispatched, htaken]
  by_cases hid : id = e.notebook.id
  · subst hid
    have hi : i < (d.rows e.notebook.id).length := (List.getElem?_eq_some_iff.mp (getElem?_rows hw _)).1
    rw [enqueue_eq hw, rows_setWorker, sole.flatten_set hi, sole.flatten (getElem?_rows hw _), changesOf_append,
      List.append_assoc]
  · rw [rows_enqueue_other hw e hid, changesOf_singleton hid, List.append_nil]

end Enqueue

def unpacked (d : Delivery) : Delivery := { d with inbox := d.inbox.tail }

theorem dispatch_eq {d : Delivery} {e : Event} {rest : List Event} (hinbox : d.inbox = e :: rest) :
    d.dispatch = (d.unpacked.assign e).dismiss e := by
  rw [dispatch, unpacked, hinbox]
  rfl

theorem assign_inbox (e : Event) (d : Delivery) : (d.assign e).inbox = d.inbox := by
  unfold assign
  split
  · rfl
  · split_ifs <;> rfl

def advance (i : ℕ) (w : Worker) (e : Event) (rest : List Event) (d : Delivery) : Delivery :=
  { d.setWorker i { w with queue := rest } with taken := d.taken ++ [e] }

theorem tail_sublist {w : Worker} {e : Event} {rest : List Event} (hqueue : w.queue = e :: rest) :
    rest.Sublist w.queue := by
  rw [hqueue]
  exact List.sublist_cons_self e rest

section Advance

variable {d : Delivery} {i : ℕ} {w : Worker} (hw : d.workers[i]? = some w) {e : Event} {rest : List Event}
  (hqueue : w.queue = e :: rest)
include hw hqueue

theorem work_eq {panics : Event → Bool} (quiet : panics e = false) : d.work panics i = d.advance i w e rest := by
  rw [work, hw]
  dsimp only
  rw [hqueue]
  dsimp only
  rw [quiet, if_neg Bool.false_ne_true]
  rfl

theorem eq_of_isSole {j : ℕ} (sole : IsSole (d.rows e.notebook.id) j) : i = j := by
  refine sole.eq (getElem?_rows hw _) ?_
  rw [hqueue, changesOf_cons, if_pos rfl]
  exact List.cons_ne_nil _ _

theorem rows_advance_other {id : String} (hid : id ≠ e.notebook.id) : (d.advance i w e rest).rows id = d.rows id := by
  have hsame : changesOf id rest = changesOf id w.queue := by rw [hqueue, changesOf_cons, if_neg hid]
  exact rows_setWorker_same hw { w with queue := rest } hsame

theorem dispatched_advance (sole : IsSole (d.rows e.notebook.id) i) (id : String) :
    (d.advance i w e rest).dispatched id = d.dispatched id := by
  have htaken : (d.advance i w e rest).taken = d.taken ++ [e] := rfl
  rw [dispatched, dispatched, htaken, changesOf_append]
  by_cases hid : id = e.notebook.id
  · subst hid
    have hrows : (d.advance i w e rest).rows e.notebook.id =
        (d.rows e.notebook.id).set i (changesOf e.notebook.id rest) :=
      rows_setWorker ..
    have hi : i < (d.rows e.notebook.id).length := (List.getElem?_eq_some_iff.mp (getElem?_rows hw _)).1
    rw [hrows, sole.flatten_set hi, sole.flatten (getElem?_rows hw _), hqueue, List.append_assoc, ← changesOf_append]
    rfl
  · rw [rows_advance_other hw hqueue hid, changesOf_singleton hid, List.append_nil]

end Advance

structure IsAllotted (d : Delivery) : Prop where
  sole : ∀ id, ∃ i, IsSole (d.rows id) i
  assigned : ∀ (id : String) (i : ℕ), d.assigned[id]? = some i → i < d.workers.length ∧ IsSole (d.rows id) i

namespace IsAllotted

variable {d : Delivery} (h : d.IsAllotted) {e : Event}
include h

theorem employ (hnew : (d.rows e.notebook.id).flatten = []) : (d.employ e).IsAllotted := by
  have hown : IsSole ((d.employ e).rows e.notebook.id) d.workers.length := by
    have hsole := IsSole.concat hnew (changesOf e.notebook.id [e])
    have hlength : (d.rows e.notebook.id).length = d.workers.length := List.length_map _
    rwa [← rows_employ, hlength] at hsole
  have hother {id : String} (hid : id ≠ e.notebook.id) {i : ℕ} (hsole : IsSole (d.rows id) i) :
      IsSole ((d.employ e).rows id) i := by
    rw [rows_employ, changesOf_singleton hid]
    exact hsole.concat_nil
  have hlength : (d.employ e).workers.length = d.workers.length + 1 := List.length_append
  refine ⟨?_, ?_⟩
  · intro id
    by_cases hid : id = e.notebook.id
    · exact ⟨_, hid ▸ hown⟩
    · exact (h.sole id).imp fun i hsole => hother hid hsole
  · intro id i hi
    rw [hlength]
    rw [assigned_employ] at hi
    split_ifs at hi with hid
    · rw [← hid, ← Option.some.inj hi]
      exact ⟨Nat.lt_succ_self _, hown⟩
    · obtain ⟨hlt, hsole⟩ := h.assigned id i hi
      exact ⟨Nat.lt_succ_of_lt hlt, hother (Ne.symm hid) hsole⟩

theorem enqueue {i : ℕ} (hi : d.assigned[e.notebook.id]? = some i) : (d.enqueue i e).IsAllotted := by
  obtain ⟨hlt, hsole⟩ := h.assigned _ i hi
  have hw : d.workers[i]? = some d.workers[i] := List.getElem?_eq_getElem hlt
  have hown : IsSole ((d.enqueue i e).rows e.notebook.id) i := by
    rw [enqueue_eq hw, rows_setWorker]
    exact hsole.set _
  have hlength : (d.enqueue i e).workers.length = d.workers.length := List.length_modify ..
  refine ⟨?_, ?_⟩
  · intro id
    by_cases hid : id = e.notebook.id
    · exact ⟨i, hid ▸ hown⟩
    · rw [rows_enqueue_other hw e hid]
      exact h.sole id
  · intro id j hj
    change d.assigned[id]? = some j at hj
    rw [hlength]
    by_cases hid : id = e.notebook.id
    · rw [hid, hi] at hj
      rw [hid, ← Option.some.inj hj]
      exact ⟨hlt, hown⟩
    · rw [rows_enqueue_other hw e hid]
      exact h.assigned id j hj

theorem dismiss (e : Event) : (d.dismiss e).IsAllotted := by
  have hassigned {id : String} {i : ℕ} := @assigned_of_dismiss e d id i
  rw [dismiss_eq] at hassigned ⊢
  exact ⟨h.sole, fun id i hi => h.assigned id i (hassigned hi)⟩

theorem setWorker {i : ℕ} {w : Worker} (hw : d.workers[i]? = some w) (w' : Worker)
    (hless : w'.queue.Sublist w.queue) : (d.setWorker i w').IsAllotted := by
  have hsole {id : String} {j : ℕ} (sole : IsSole (d.rows id) j) : IsSole ((d.setWorker i w').rows id) j := by
    rw [rows_setWorker]
    by_cases hij : i = j
    · subst hij
      exact sole.set _
    · intro k row hk hne
      by_cases hki : k = i
      · subst hki
        have hnil := sole k _ (getElem?_rows hw id) hne
        rw [List.getElem?_set_self (List.getElem?_eq_some_iff.mp (getElem?_rows hw id)).1] at hk
        have hsub : (changesOf id w'.queue).Sublist (changesOf id w.queue) := hless.filter _
        rw [hnil, List.sublist_nil] at hsub
        rw [← Option.some.inj hk, hsub]
      · rw [List.getElem?_set_ne (Ne.symm hki)] at hk
        exact sole k row hk hne
  refine ⟨fun id => (h.sole id).imp fun j hj => hsole hj, fun id j hj => ?_⟩
  obtain ⟨hlt, hj⟩ := h.assigned id j hj
  refine ⟨?_, hsole hj⟩
  rw [Delivery.setWorker, List.length_set]
  exact hlt

variable {i : ℕ} {w : Worker} (hw : d.workers[i]? = some w) {rest : List Event} (hqueue : w.queue = e :: rest)
include hw hqueue

theorem isSole : IsSole (d.rows e.notebook.id) i := by
  obtain ⟨j, hj⟩ := h.sole e.notebook.id
  rw [eq_of_isSole hw hqueue hj]
  exact hj

theorem advance : (d.advance i w e rest).IsAllotted := by
  have hallotted := h.setWorker hw { w with queue := rest } (tail_sublist hqueue)
  exact ⟨hallotted.sole, hallotted.assigned⟩

end IsAllotted

namespace IsFaithful

theorem isAllotted {d : Delivery} {l : List Event} (h : d.IsFaithful l) : d.IsAllotted := ⟨h.sole, h.assigned⟩

section Assign

variable {d : Delivery} {l : List Event} (h : d.IsFaithful l) {e : Event} {rest : List Event}
    (hinbox : d.inbox = e :: rest)
include h hinbox

theorem kept_dispatched {d' : Delivery} (hrest : d'.inbox = d.unpacked.inbox)
    (hdispatched : ∀ id, d'.dispatched id = d.dispatched id ++ changesOf id [e]) (id : String) :
    d'.dispatched id ++ changesOf id d'.inbox = changesOf id l := by
  have hunpacked : d.unpacked.inbox = rest := by rw [unpacked, hinbox, List.tail_cons]
  rw [hdispatched, hrest, hunpacked, List.append_assoc, ← changesOf_append, List.singleton_append, ← hinbox, h.kept]

theorem employ (hnew : d.dispatched e.notebook.id = []) : (d.unpacked.employ e).IsFaithful l := by
  have hdispatched := dispatched_employ e d.unpacked
  have hunpacked : d.unpacked.IsAllotted := ⟨h.sole, h.assigned⟩
  have hallotted := hunpacked.employ (List.append_eq_nil_iff.mp hnew).2
  refine ⟨h.kept_dispatched hinbox rfl hdispatched, ?_, hallotted.sole, hallotted.assigned, ?_⟩
  · intro w hw
    rcases List.mem_append.mp hw with hw | hw
    · exact h.alive w hw
    · rw [List.mem_singleton.mp hw]
  · intro id hnone
    rw [assigned_employ] at hnone
    split_ifs at hnone with hid
    rw [hdispatched, changesOf_singleton (Ne.symm hid), List.append_nil]
    exact h.unassigned id hnone

theorem enqueue {i : ℕ} (hi : d.assigned[e.notebook.id]? = some i) :
    (d.unpacked.enqueue i e).IsFaithful l := by
  obtain ⟨hlt, hsole⟩ := h.assigned _ i hi
  have hw : d.unpacked.workers[i]? = some d.workers[i] := List.getElem?_eq_getElem hlt
  have hdispatched := dispatched_enqueue hw e hsole
  have hunpacked : d.unpacked.IsAllotted := ⟨h.sole, h.assigned⟩
  have hallotted := hunpacked.enqueue hi
  refine ⟨h.kept_dispatched hinbox rfl hdispatched, ?_, hallotted.sole, hallotted.assigned, ?_⟩
  · rw [enqueue_eq hw]
    exact alive_setWorker hw _ h.alive rfl
  · intro id hnone
    change d.assigned[id]? = none at hnone
    rw [hdispatched, changesOf_singleton (ne_of_unassigned hi hnone), List.append_nil]
    exact h.unassigned id hnone

theorem assign (final : DeletionsAreFinal l) : (d.unpacked.assign e).IsFaithful l := by
  unfold Delivery.assign
  split
  · next hnone =>
    have hnone : d.assigned[e.notebook.id]? = none := hnone
    refine h.employ hinbox ?_
    rcases h.unassigned _ hnone with hnil | ⟨f, hf, hdeleted⟩
    · exact hnil
    · have hl := h.kept e.notebook.id
      rw [hinbox, changesOf_cons, if_pos rfl] at hl
      exact absurd hdeleted (final.not_before hl.symm f hf)
  · next i hi =>
    have hi : d.assigned[e.notebook.id]? = some i := hi
    have hlt := (h.assigned _ i hi).1
    have halive : d.unpacked.isDead i = false := by
      change (d.workers[i]?).all (·.dead) = false
      rw [List.getElem?_eq_getElem hlt, Option.all_some]
      exact h.alive _ (List.getElem_mem hlt)
    rw [halive, if_neg Bool.false_ne_true]
    exact h.enqueue hinbox hi

end Assign

theorem dismiss {d : Delivery} {l : List Event} (h : d.IsFaithful l) {e : Event}
    (he : e ∈ d.dispatched e.notebook.id) : (d.dismiss e).IsFaithful l := by
  have hallotted := h.isAllotted.dismiss e
  have hassigned (id : String) := assigned_dismiss e d id
  rw [dismiss_eq] at hallotted hassigned ⊢
  refine ⟨h.kept, h.alive, h.sole, hallotted.assigned, ?_⟩
  intro id hnone
  rw [hassigned] at hnone
  split_ifs at hnone with hgone
  · exact .inr ⟨e, hgone.2 ▸ he, hgone.1⟩
  · exact h.unassigned id hnone

theorem dispatch {d : Delivery} {l : List Event} (h : d.IsFaithful l) (final : DeletionsAreFinal l) :
    d.dispatch.IsFaithful l := by
  cases hinbox : d.inbox with
  | nil =>
    rw [Delivery.dispatch, hinbox]
    exact h
  | cons e rest =>
    rw [dispatch_eq hinbox]
    have hassign := h.assign hinbox final
    refine hassign.dismiss ?_
    have hrest : (d.unpacked.assign e).inbox = rest := by rw [assign_inbox, unpacked, hinbox, List.tail_cons]
    have hkept := hassign.kept e.notebook.id
    rw [← h.kept, hrest, hinbox, changesOf_cons, if_pos rfl, List.append_cons] at hkept
    rw [List.append_cancel_right hkept]
    exact List.mem_append_right _ (List.mem_singleton_self e)

theorem advance {d : Delivery} {l : List Event} (h : d.IsFaithful l) {i : ℕ} {w : Worker}
    (hw : d.workers[i]? = some w) {e : Event} {rest : List Event} (hqueue : w.queue = e :: rest) :
    (d.advance i w e rest).IsFaithful l := by
  have hdispatched := dispatched_advance hw hqueue (h.isAllotted.isSole hw hqueue)
  have hallotted := h.isAllotted.advance hw hqueue
  refine ⟨?_, alive_setWorker hw _ h.alive rfl, hallotted.sole, hallotted.assigned, ?_⟩
  · intro id
    rw [hdispatched]
    exact h.kept id
  · intro id hnone
    rw [hdispatched]
    exact h.unassigned id hnone

theorem work {d : Delivery} {l : List Event} (h : d.IsFaithful l) {panics : Event → Bool}
    (quiet : ∀ e, panics e = false) (i : ℕ) : (d.work panics i).IsFaithful l := by
  cases hw : d.workers[i]? with
  | none =>
    rw [Delivery.work, hw]
    exact h
  | some w =>
    cases hqueue : w.queue with
    | nil =>
      rw [Delivery.work, hw]
      dsimp only
      rw [hqueue]
      exact h
    | cons e rest =>
      rw [work_eq hw hqueue (quiet e)]
      exact h.advance hw hqueue

end IsFaithful

theorem run_isFaithful {panics : Event → Bool} (quiet : ∀ e, panics e = false) {steps : List Step}
    (final : DeletionsAreFinal (published steps)) : (run panics {} steps).IsFaithful (published steps) := by
  induction steps using List.reverseRecOn with
  | nil => exact .nil
  | append_singleton steps s ih =>
    rw [published, List.filterMap_append] at final ⊢
    have h := ih (List.pairwise_append.mp final).1
    rw [run, List.foldl_append]
    cases s with
    | publish e => exact h.publish e
    | dispatch =>
      change IsFaithful (run panics {} steps).dispatch (published steps ++ [])
      rw [List.append_nil]
      exact h.dispatch (List.pairwise_append.mp final).1
    | work i =>
      change IsFaithful ((run panics {} steps).work panics i) (published steps ++ [])
      rw [List.append_nil]
      exact h.work quiet i

def IsIdle (d : Delivery) : Prop := d.inbox = [] ∧ ∀ w ∈ d.workers, w.queue = []

instance : DecidablePred IsIdle :=
  fun d => inferInstanceAs (Decidable (d.inbox = [] ∧ ∀ w ∈ d.workers, w.queue = []))

namespace IsFaithful

variable {d : Delivery} {l : List Event} (h : d.IsFaithful l)
include h

theorem taken_prefix (id : String) : changesOf id d.taken <+: changesOf id l := by
  rw [← h.kept id, dispatched, List.append_assoc]
  exact List.prefix_append _ _

theorem taken_of_isIdle (idle : d.IsIdle) (id : String) : changesOf id d.taken = changesOf id l := by
  obtain ⟨hinbox, hworkers⟩ := idle
  have hrows : (d.rows id).flatten = [] := by
    rw [List.flatten_eq_nil_iff]
    intro row hrow
    obtain ⟨w, hw, rfl⟩ := List.mem_map.mp hrow
    rw [hworkers w hw]
    rfl
  have hkept := h.kept id
  rw [dispatched, hrows, hinbox, List.append_nil] at hkept
  exact (List.append_nil _).symm.trans hkept

end IsFaithful

end Delivery

end NotebookHost
