import NotebookHost.Proofs.Delivery.Losses
import NotebookHost.Proofs.Delivery.Subscribers

/-!
A subscriber that panics. What it does not lose reaches it in the order of each notebook, and the others do not notice.
-/

namespace NotebookHost

open Catalogue

theorem flatten_set_sublist {rows : List (List Event)} {i : ℕ} {row row' : List Event} (hrow : rows[i]? = some row)
    (hless : row'.Sublist row) : (rows.set i row').flatten.Sublist rows.flatten := by
  obtain ⟨hi, hget⟩ := List.getElem?_eq_some_iff.mp hrow
  obtain ⟨before, after, hrows, -, hset⟩ := @List.exists_of_set _ i row' rows hi
  rw [hget] at hrows
  rw [hset, hrows, List.flatten_append, List.flatten_append, List.flatten_cons, List.flatten_cons]
  exact (hless.append_right _).append_left _

namespace Delivery

structure IsOrdered (d : Delivery) (sent : List Event) : Prop extends d.IsAllotted where
  kept : ∀ id, (d.dispatched id).Sublist (changesOf id sent)
  dead : ∀ w ∈ d.workers, w.dead = true → w.queue = []
  unassigned : ∀ id : String, d.assigned[id]? = none →
    (d.rows id).flatten = [] ∨ ∃ e ∈ sent, e.notebook.id = id ∧ e.change = .deleted

namespace IsOrdered

theorem nil : IsOrdered {} [] where
  sole _ := ⟨0, fun j row hj => by cases hj⟩
  assigned id i h := by simp at h
  kept _ := .refl _
  dead w hw := by cases hw
  unassigned _ _ := .inl rfl

variable {d : Delivery} {sent : List Event} (h : d.IsOrdered sent)
include h

theorem kept_concat {d' : Delivery} {e : Event}
    (hdispatched : ∀ id, d'.dispatched id = d.dispatched id ++ changesOf id [e])
    (id : String) : (d'.dispatched id).Sublist (changesOf id (sent ++ [e])) := by
  rw [hdispatched, changesOf_append]
  exact (h.kept id).append_right _

theorem employ {e : Event} (hnew : (d.rows e.notebook.id).flatten = []) : (d.employ e).IsOrdered (sent ++ [e]) := by
  refine { h.toIsAllotted.employ hnew with kept := h.kept_concat (dispatched_employ e d), dead := ?_, unassigned := ?_ }
  · intro w hw hdead
    rcases List.mem_append.mp hw with hw | hw
    · exact h.dead w hw hdead
    · rw [List.mem_singleton.mp hw] at hdead
      cases hdead
  · intro id hnone
    rw [assigned_employ] at hnone
    split_ifs at hnone with hid
    rw [rows_employ, changesOf_singleton (Ne.symm hid), List.flatten_append]
    rcases h.unassigned id hnone with hnil | ⟨f, hf, hrest⟩
    · rw [hnil]
      exact .inl rfl
    · exact .inr ⟨f, List.mem_append_left _ hf, hrest⟩

theorem enqueue {e : Event} {i : ℕ} (hi : d.assigned[e.notebook.id]? = some i) (halive : d.isDead i = false) :
    (d.enqueue i e).IsOrdered (sent ++ [e]) := by
  obtain ⟨hlt, hsole⟩ := h.assigned _ i hi
  have hw : d.workers[i]? = some d.workers[i] := List.getElem?_eq_getElem hlt
  refine { h.toIsAllotted.enqueue hi with
    kept := h.kept_concat (dispatched_enqueue hw e hsole)
    dead := ?_
    unassigned := ?_ }
  · intro w hmem hdead
    rw [isDead, hw, Option.all_some] at halive
    rw [enqueue_eq hw] at hmem
    rcases List.mem_or_eq_of_mem_set hmem with hmem | rfl
    · exact h.dead w hmem hdead
    · rw [halive] at hdead
      cases hdead
  · intro id hnone
    change d.assigned[id]? = none at hnone
    rw [rows_enqueue_other hw e (ne_of_unassigned hi hnone)]
    rcases h.unassigned id hnone with hnil | ⟨f, hf, hrest⟩
    · exact .inl hnil
    · exact .inr ⟨f, List.mem_append_left _ hf, hrest⟩

theorem assign {e : Event} (hfinal : ∀ f ∈ sent, f.notebook.id = e.notebook.id → f.change ≠ .deleted) :
    (d.assign e).IsOrdered (sent ++ [e]) := by
  unfold Delivery.assign
  split
  · next hnone =>
    refine h.employ ((h.unassigned _ hnone).resolve_right ?_)
    rintro ⟨f, hf, hid, hdeleted⟩
    exact hfinal f hf hid hdeleted
  · next i hi =>
    obtain ⟨hlt, hsole⟩ := h.assigned _ i hi
    have hw : d.workers[i]? = some d.workers[i] := List.getElem?_eq_getElem hlt
    cases hdead : d.isDead i with
    | true =>
      -- A dead worker leaves nothing behind, so that the next one has the notebook to itself.
      rw [isDead, hw, Option.all_some] at hdead
      refine h.employ ?_
      rw [hsole.flatten (getElem?_rows hw _), h.dead _ (List.getElem_mem hlt) hdead]
      rfl
    | false => exact h.enqueue hi hdead

theorem dismiss {e : Event} (he : e ∈ sent) : (d.dismiss e).IsOrdered sent := by
  have hallotted := h.toIsAllotted.dismiss e
  have hassigned (id : String) := assigned_dismiss e d id
  rw [dismiss_eq] at hallotted hassigned ⊢
  refine { hallotted with kept := h.kept, dead := h.dead, unassigned := ?_ }
  intro id hnone
  rw [hassigned] at hnone
  split_ifs at hnone with hgone
  · exact .inr ⟨e, he, hgone.2, hgone.1⟩
  · exact h.unassigned id hnone

theorem dispatch {e : Event} {rest : List Event} (hinbox : d.inbox = e :: rest)
    (hfinal : ∀ f ∈ sent, f.notebook.id = e.notebook.id → f.change ≠ .deleted) :
    d.dispatch.IsOrdered (sent ++ [e]) := by
  have hunpacked : d.unpacked.IsOrdered sent := ⟨⟨h.sole, h.assigned⟩, h.kept, h.dead, h.unassigned⟩
  rw [dispatch_eq hinbox]
  exact (hunpacked.assign hfinal).dismiss (List.mem_append_right _ (List.mem_singleton_self e))

theorem advance {i : ℕ} {w : Worker} (hw : d.workers[i]? = some w) {e : Event} {rest : List Event}
    (hqueue : w.queue = e :: rest) : (d.advance i w e rest).IsOrdered sent := by
  refine ⟨h.toIsAllotted.advance hw hqueue, ?_, ?_, ?_⟩
  · intro id
    rw [dispatched_advance hw hqueue (h.toIsAllotted.isSole hw hqueue)]
    exact h.kept id
  · intro v hv hdead
    rcases List.mem_or_eq_of_mem_set hv with hv | rfl
    · exact h.dead v hv hdead
    · rw [h.dead w (List.mem_of_getElem? hw) hdead] at hqueue
      cases hqueue
  · intro id hnone
    refine (h.unassigned id hnone).imp_left fun hnil => ?_
    have hrows := flatten_set_sublist (getElem?_rows hw id) ((tail_sublist hqueue).filter _)
    rw [hnil, List.sublist_nil] at hrows
    change ((d.setWorker i { w with queue := rest }).rows id).flatten = []
    rw [rows_setWorker]
    exact hrows

theorem collapse {i : ℕ} {w : Worker} (hw : d.workers[i]? = some w) : (d.collapse i).IsOrdered sent := by
  have hrows (id : String) : ((d.collapse i).rows id).flatten.Sublist (d.rows id).flatten := by
    rw [Delivery.collapse, rows_setWorker]
    exact flatten_set_sublist (getElem?_rows hw id) (List.nil_sublist _)
  have hallotted := h.toIsAllotted.setWorker hw ⟨[], true⟩ (List.nil_sublist _)
  refine ⟨hallotted, ?_, ?_, ?_⟩
  · intro id
    exact ((hrows id).append_left _).trans (h.kept id)
  · intro v hv hdead
    rcases List.mem_or_eq_of_mem_set hv with hv | rfl
    · exact h.dead v hv hdead
    · rfl
  · intro id hnone
    refine (h.unassigned id hnone).imp_left fun hnil => ?_
    have hless := hrows id
    rwa [hnil, List.sublist_nil] at hless

theorem work (panics : Event → Bool) (i : ℕ) : (d.work panics i).IsOrdered sent := by
  rcases work_cases panics i d with ⟨heq, -⟩ | ⟨w, e, rest, hw, hqueue, ⟨-, heq, -⟩ | ⟨-, heq, -⟩⟩ <;>
    rw [heq]
  · exact h
  · exact h.advance hw hqueue
  · exact h.collapse hw

theorem taken_sublist (id : String) : (changesOf id d.taken).Sublist (changesOf id sent) :=
  (List.sublist_append_left _ _).trans (h.kept id)

end IsOrdered

theorem run_isOrdered (panics : Event → Bool) {steps : List Step} (final : DeletionsAreFinal (published steps)) :
    ∃ sent, sent ++ (run panics {} steps).inbox = published steps ∧ (run panics {} steps).IsOrdered sent := by
  induction steps using List.reverseRecOn with
  | nil => exact ⟨[], rfl, .nil⟩
  | append_singleton steps step ih =>
    have hpublished : published (steps ++ [step]) = published steps ++ published [step] := List.filterMap_append
    have hrun : run panics {} (steps ++ [step]) = (run panics {} steps).step panics step := List.foldl_append
    rw [hpublished] at final ⊢
    rw [hrun]
    have hbefore := (List.pairwise_append.mp final).1
    obtain ⟨sent, hsent, h⟩ := ih hbefore
    generalize run panics {} steps = d at hsent h ⊢
    cases step with
    | publish e =>
      refine ⟨sent, ?_, ⟨⟨h.sole, h.assigned⟩, h.kept, h.dead, h.unassigned⟩⟩
      rw [← hsent, List.append_assoc]
      rfl
    | dispatch =>
      change ∃ sent, sent ++ d.dispatch.inbox = published steps ++ [] ∧ d.dispatch.IsOrdered sent
      rw [List.append_nil]
      cases hinbox : d.inbox with
      | nil =>
        have hdispatch : d.dispatch = d := by rw [dispatch, hinbox]
        rw [hdispatch]
        exact ⟨sent, hsent, h⟩
      | cons e rest =>
        have hrest : d.dispatch.inbox = rest := by
          have hdismiss (d : Delivery) : (d.dismiss e).inbox = d.inbox := by rw [dismiss_eq]
          rw [dispatch_eq hinbox, hdismiss, assign_inbox, unpacked, hinbox, List.tail_cons]
        rw [hinbox] at hsent
        rw [← hsent] at hbefore
        refine ⟨sent ++ [e], ?_, h.dispatch hinbox fun f hf hid hdeleted => ?_⟩
        · rw [hrest, List.append_assoc, ← hsent]
          rfl
        · exact (List.pairwise_append.mp hbefore).2.2 f hf e List.mem_cons_self hdeleted hid.symm
    | work i =>
      change ∃ sent, sent ++ (d.work panics i).inbox = published steps ++ [] ∧ (d.work panics i).IsOrdered sent
      have hinbox : (d.work panics i).inbox = d.inbox := by
        rcases work_cases panics i d with ⟨heq, -⟩ | ⟨w, e, rest, -, -, ⟨-, heq, -⟩ | ⟨-, heq, -⟩⟩ <;>
          rw [heq]
        · rfl
        · rfl
      rw [hinbox, List.append_nil]
      exact ⟨sent, hsent, h.work panics i⟩

structure Spares (panics : Event → Bool) (l lost : List Event) (d : Delivery) : Prop where
  quiet : ∀ e ∈ d.taken, panics e = false
  confined : ∀ e ∈ lost, ∃ f ∈ lost, panics f = true ∧ f.notebook.id = e.notebook.id
  accounted : d.IsIdle → (d.taken ++ lost).Perm l
  ordered : DeletionsAreFinal l → ∀ id, (changesOf id d.taken).Sublist (changesOf id l)
  complete : DeletionsAreFinal l → d.IsIdle → ∀ id,
    (changesOf id d.taken = (changesOf id l).filter (!panics ·) ↔ ∀ e ∈ changesOf id lost, panics e = true)

theorem run_spares (panics : Event → Bool) (steps : List Step) :
    Spares panics (published steps) (losses panics {} steps) (run panics {} steps) := by
  have hquiet : ∀ e ∈ (run panics {} steps).taken, panics e = false := run_taken steps fun e he => by cases he
  have hordered (final : DeletionsAreFinal (published steps)) (id : String) :
      (changesOf id (run panics {} steps).taken).Sublist (changesOf id (published steps)) := by
    obtain ⟨sent, hsent, h⟩ := run_isOrdered panics final
    rw [← hsent, changesOf_append]
    exact (h.taken_sublist id).trans (List.sublist_append_left _ _)
  refine ⟨hquiet, IsSorted.nil.losses_confined panics steps, taken_losses_perm, hordered, ?_⟩
  intro final idle id
  have htaken : (changesOf id (run panics {} steps).taken).filter (!panics ·) =
      changesOf id (run panics {} steps).taken := by
    rw [List.filter_eq_self]
    intro e he
    rw [hquiet e (mem_changesOf.mp he).1]
    rfl
  have hperm := ((taken_losses_perm idle).filter (·.notebook.id == id)).filter (!panics ·)
  change ((changesOf id _).filter _).Perm ((changesOf id _).filter _) at hperm
  rw [changesOf_append, List.filter_append, htaken] at hperm
  have hlength := hperm.length_eq
  rw [List.length_append] at hlength
  have hnone : (changesOf id (losses panics {} steps)).filter (!panics ·) = [] ↔
      ∀ e ∈ changesOf id (losses panics {} steps), panics e = true := by
    simp [List.filter_eq_nil_iff]
  rw [← hnone]
  constructor
  · intro hall
    rw [← hall] at hlength
    exact List.eq_nil_of_length_eq_zero (by omega)
  · intro hnil
    rw [hnil, List.length_nil, Nat.add_zero] at hlength
    have hsublist := (hordered final id).filter (!panics ·)
    rw [htaken] at hsublist
    exact hsublist.eq_of_length hlength

end Delivery

namespace Subscribers

theorem panics_are_confined (panics : ℕ → Event → Bool) (count : ℕ) (steps : List Step) (k : ℕ)
    (hk : k < count) :
    ∃ d, (∀ panics' : ℕ → Event → Bool, panics' k = panics k →
        ((ofCount count).run panics' steps).deliveries[k]? = some d) ∧
      d.Spares (panics k) (published steps) (Delivery.losses (panics k) {} (steps.filterMap (·.seenBy k))) := by
  have hspares := Delivery.run_spares (panics k) (steps.filterMap (·.seenBy k))
  rw [published_seenBy] at hspares
  refine ⟨_, fun panics' hsame => ?_, hspares⟩
  rw [run_deliveries, ofCount, List.getElem?_replicate, if_pos hk, hsame]
  rfl

theorem panics_are_confined_to_notebook :
    let a : Notebook := .plain "a" "a.example"
    let b : Notebook := .plain "b" "b.example"
    let panics (k : ℕ) (e : Event) : Bool := k == 1 && e == ⟨.added, a⟩
    let steps : List Step := [.publish ⟨.added, a⟩, .publish ⟨.updated, a⟩, .publish ⟨.added, b⟩,
      .dispatch 1, .dispatch 1, .dispatch 1, .work 1 0, .publish ⟨.deleted, a⟩, .dispatch 1, .work 1 1, .work 1 2]
    ∃ d, ((ofCount 2).run panics steps).deliveries[1]? = some d ∧ d.IsIdle ∧
      d.taken = [⟨.added, b⟩, ⟨.deleted, a⟩] ∧
      d.Spares (panics 1) (published steps) [⟨.added, a⟩, ⟨.updated, a⟩] := by
  intro a b panics steps
  obtain ⟨d, hd, hspares⟩ := panics_are_confined panics 2 steps 1 (by decide)
  have hrun : ((ofCount 2).run panics steps).deliveries[1]? =
      some (Delivery.run (panics 1) {} (steps.filterMap (·.seenBy 1))) := by
    rw [run_deliveries]
    rfl
  have hd := hd panics rfl
  have hlost : Delivery.losses (panics 1) {} (steps.filterMap (·.seenBy 1)) =
      [⟨.added, a⟩, ⟨.updated, a⟩] := by decide +kernel
  have htaken : (Delivery.run (panics 1) {} (steps.filterMap (·.seenBy 1))).IsIdle ∧
      (Delivery.run (panics 1) {} (steps.filterMap (·.seenBy 1))).taken = [⟨.added, b⟩, ⟨.deleted, a⟩] := by
    decide +kernel
  rw [hd] at hrun
  rw [← Option.some.inj hrun] at htaken
  rw [hlost] at hspares
  exact ⟨d, hd, htaken.1, htaken.2, hspares⟩

theorem waiting_change_is_lost :
    let a : Notebook := { Notebook.plain "a" "a.example" with name := "panic" }
    let e : Event := ⟨.updated, { a with name := "ok" }⟩
    let panics (k : ℕ) (e : Event) : Bool := k == 1 && e.notebook.name == "panic"
    let steps : List Step := [.publish ⟨.added, a⟩, .publish e, .dispatch 0, .dispatch 0, .dispatch 1, .dispatch 1,
      .work 0 0, .work 0 0, .work 1 0]
    DeletionsAreFinal (published steps) ∧ e ∈ published steps ∧ panics 1 e = false ∧
      (∃ d, ((ofCount 2).run panics steps).deliveries[0]? = some d ∧ d.IsIdle ∧ e ∈ d.taken) ∧
      ∃ d, ((ofCount 2).run panics steps).deliveries[1]? = some d ∧ d.IsIdle ∧ e ∉ d.taken := by
  intro a e panics steps
  refine ⟨by decide, by decide, by decide, ?_, ?_⟩
  · exact ⟨Delivery.run (panics 0) {} (steps.filterMap (·.seenBy 0)), by rw [run_deliveries]; rfl,
      by decide +kernel⟩
  · exact ⟨Delivery.run (panics 1) {} (steps.filterMap (·.seenBy 1)), by rw [run_deliveries]; rfl,
      by decide +kernel⟩

end Subscribers

end NotebookHost
