import NotebookHost.Delivery.Subscribers
import NotebookHost.Proofs.Delivery.Order

namespace NotebookHost

open Catalogue

theorem perm_of_changesOf {l l' : List Event} (h : ∀ id, changesOf id l = changesOf id l') : l.Perm l' := by
  rw [List.perm_iff_count]
  intro e
  have hcount (m : List Event) : (changesOf e.notebook.id m).count e = m.count e :=
    List.count_filter (beq_self_eq_true _)
  rw [← hcount l, ← hcount l', h]

namespace Subscribers

def Step.published? : Step → Option Event
  | .publish e => some e
  | .dispatch _ => none
  | .work _ _ => none

def published (steps : List Step) : List Event := steps.filterMap (·.published?)

def Step.seenBy (k : ℕ) : Step → Option Delivery.Step
  | .publish e => some (.publish e)
  | .dispatch k' => if k' = k then some .dispatch else none
  | .work k' i => if k' = k then some (.work i) else none

theorem published_seenBy (k : ℕ) (steps : List Step) :
    Delivery.published (steps.filterMap (·.seenBy k)) = published steps := by
  rw [Delivery.published, published, List.filterMap_filterMap]
  congr 1
  funext step
  cases step with
  | publish e => rfl
  | dispatch k' =>
    rw [Step.seenBy]
    split_ifs <;> rfl
  | work k' i =>
    rw [Step.seenBy]
    split_ifs <;> rfl

theorem step_deliveries (panics : ℕ → Event → Bool) (s : Subscribers) (step : Step) (k : ℕ) :
    (s.step panics step).deliveries[k]? =
      s.deliveries[k]?.map fun d => (step.seenBy k).elim d (d.step (panics k)) := by
  cases step with
  | publish e => exact List.getElem?_map
  | dispatch k' =>
    rw [Subscribers.step, List.getElem?_modify, Step.seenBy]
    split_ifs <;> rfl
  | work k' i =>
    rw [Subscribers.step, List.getElem?_modify, Step.seenBy]
    split_ifs with hk
    · rw [hk]
      rfl
    · rfl

theorem run_deliveries (panics : ℕ → Event → Bool) (s : Subscribers) (steps : List Step) (k : ℕ) :
    (s.run panics steps).deliveries[k]? =
      s.deliveries[k]?.map fun d => d.run (panics k) (steps.filterMap (·.seenBy k)) := by
  induction steps generalizing s with
  | nil => exact Option.map_id'.symm
  | cons step steps ih =>
    have h := ih (s.step panics step)
    rw [step_deliveries, Option.map_map] at h
    refine h.trans ?_
    congr 1
    funext d
    rw [List.filterMap_cons]
    cases step.seenBy k <;> rfl

theorem changes_delivered_in_order (panics : ℕ → Event → Bool) (count : ℕ) (steps : List Step)
    (final : DeletionsAreFinal (published steps)) (k : ℕ) (hk : k < count) (quiet : ∀ e, panics k e = false) :
    ∃ d, ((ofCount count).run panics steps).deliveries[k]? = some d ∧
      d = Delivery.run (panics k) {} (steps.filterMap (·.seenBy k)) ∧
      (∀ id, changesOf id d.taken <+: changesOf id (published steps)) ∧
      (d.IsIdle → (∀ id, changesOf id d.taken = changesOf id (published steps)) ∧
        d.taken.Perm (published steps)) := by
  have hd : ((ofCount count).run panics steps).deliveries[k]? =
      some (Delivery.run (panics k) {} (steps.filterMap (·.seenBy k))) := by
    rw [run_deliveries, ofCount, List.getElem?_replicate, if_pos hk]
    rfl
  have hpublished := published_seenBy k steps
  have h := Delivery.run_isFaithful quiet (hpublished.symm ▸ final)
  rw [hpublished] at h
  refine ⟨_, hd, rfl, h.taken_prefix, ?_⟩
  intro idle
  have htaken := h.taken_of_isIdle idle
  exact ⟨htaken, perm_of_changesOf htaken⟩

theorem changes_delivered_after_deletion :
    let a : Notebook := .plain "a" "a.example"
    let b : Notebook := .plain "b" "b.example"
    let steps : List Step := [.publish ⟨.added, a⟩, .publish ⟨.added, b⟩, .dispatch 0, .dispatch 1,
      .publish ⟨.updated, a⟩, .dispatch 0, .dispatch 0, .publish ⟨.deleted, a⟩, .dispatch 0,
      .work 0 1, .work 0 0, .work 0 0, .work 1 0, .work 0 0]
    DeletionsAreFinal (published steps) ∧
      ∃ d, ((ofCount 2).run (fun _ _ => false) steps).deliveries[0]? = some d ∧ d.IsIdle ∧
        d.taken = [⟨.added, b⟩, ⟨.added, a⟩, ⟨.updated, a⟩, ⟨.deleted, a⟩] ∧
        d.taken.Perm (published steps) := by
  intro a b steps
  have final : DeletionsAreFinal (published steps) := by decide
  obtain ⟨d, hd, hrun, -, hidle⟩ :=
    changes_delivered_in_order (fun _ _ => false) 2 steps final 0 (by decide) fun _ => rfl
  have htaken : (Delivery.run (fun _ => false) {} (steps.filterMap (·.seenBy 0))).IsIdle ∧
      (Delivery.run (fun _ => false) {} (steps.filterMap (·.seenBy 0))).taken =
        [⟨.added, b⟩, ⟨.added, a⟩, ⟨.updated, a⟩, ⟨.deleted, a⟩] := by decide +kernel
  rw [← hrun] at htaken
  exact ⟨final, d, hd, htaken.1, htaken.2, (hidle htaken.1).2⟩

end Subscribers

end NotebookHost
