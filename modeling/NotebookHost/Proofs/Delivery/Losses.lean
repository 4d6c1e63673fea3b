import NotebookHost.Proofs.Delivery.Order

namespace NotebookHost

open Catalogue

theorem count_cons_eq (x e : Event) (rest : List Event) : (e :: rest).count x = [e].count x + rest.count x := by
  rw [← List.count_append]
  rfl

namespace Delivery

/-- What a step loses: a change on which the subscriber panics, and all that its worker had to do after it. -/
def lost (panics : Event → Bool) (d : Delivery) : Step → List Event
  | .work i =>
    match d.workers[i]? with
    | some ⟨e :: rest, _⟩ => if panics e then e :: rest else []
    | _ => []
  | _ => []

def losses (panics : Event → Bool) (d : Delivery) : List Step → List Event
  | [] => []
  | step :: steps => d.lost panics step ++ (d.step panics step).losses panics steps

def collapse (i : ℕ) (d : Delivery) : Delivery := d.setWorker i ⟨[], true⟩

theorem work_cases (panics : Event → Bool) (i : ℕ) (d : Delivery) :
    d.work panics i = d ∧ d.lost panics (.work i) = [] ∨
    ∃ w e rest, d.workers[i]? = some w ∧ w.queue = e :: rest ∧
      (panics e = false ∧ d.work panics i = d.advance i w e rest ∧ d.lost panics (.work i) = [] ∨
        panics e = true ∧ d.work panics i = d.collapse i ∧ d.lost panics (.work i) = w.queue) := by
  cases hw : d.workers[i]? with
  | none => exact .inl (by simp [work, lost, hw])
  | some w =>
    obtain ⟨queue, dead⟩ := w
    cases queue with
    | nil => exact .inl (by simp [work, lost, hw])
    | cons e rest =>
      refine .inr ⟨_, e, rest, rfl, rfl, ?_⟩
      cases hpanics : panics e with
      | false => exact .inl ⟨rfl, by simp [work, hw, hpanics, advance, setWorker], by simp [lost, hw, hpanics]⟩
      | true => exact .inr ⟨rfl, by simp [work, hw, hpanics, collapse, setWorker], by simp [lost, hw, hpanics]⟩

def waiting (d : Delivery) : List Event := (d.workers.map (·.queue)).flatten

def held (x : Event) (d : Delivery) : ℕ := d.taken.count x + d.waiting.count x + d.inbox.count x

section Held

variable {panics : Event → Bool} (x : Event) {d : Delivery}

theorem count_waiting_setWorker {i : ℕ} {w : Worker} (hw : d.workers[i]? = some w) (w' : Worker) :
    (d.setWorker i w').waiting.count x + w.queue.count x = d.waiting.count x + w'.queue.count x := by
  obtain ⟨hi, hget⟩ := List.getElem?_eq_some_iff.mp hw
  obtain ⟨before, after, hworkers, -, hset⟩ := @List.exists_of_set _ i w' d.workers hi
  rw [hget] at hworkers
  have hafter : (d.setWorker i w').waiting = ((before ++ w' :: after).map (·.queue)).flatten := by
    rw [← hset]
    rfl
  rw [hafter, waiting, hworkers]
  simp only [List.map_append, List.map_cons, List.flatten_append, List.flatten_cons, List.count_append]
  omega

theorem held_assign (e : Event) (d : Delivery) : held x (d.assign e) = held x d + [e].count x := by
  have hemploy : held x (d.employ e) = held x d + [e].count x := by
    simp only [held, employ, waiting, List.map_append, List.flatten_append, List.count_append, List.map_cons,
      List.map_nil, List.flatten_cons, List.flatten_nil, List.append_nil]
    omega
  unfold assign
  split
  · exact hemploy
  · next i _ =>
    split_ifs with hdead
    · exact hemploy
    · cases hw : d.workers[i]? with
      | none =>
        rw [isDead, hw] at hdead
        exact absurd rfl hdead
      | some w =>
        have hcount := count_waiting_setWorker x hw { w with queue := w.queue ++ [e] }
        rw [List.count_append] at hcount
        rw [enqueue_eq hw]
        change d.taken.count x + _ + d.inbox.count x = _
        rw [held]
        omega

theorem held_dispatch (d : Delivery) : held x d.dispatch = held x d := by
  cases hinbox : d.inbox with
  | nil =>
    rw [dispatch, hinbox]
  | cons e rest =>
    have hdismiss (d : Delivery) : held x (d.dismiss e) = held x d := by rw [dismiss_eq]; rfl
    have hunpacked : held x d.unpacked + [e].count x = held x d := by
      change d.taken.count x + d.waiting.count x + d.inbox.tail.count x + _ = _
      rw [held, hinbox, List.tail_cons, count_cons_eq x e rest]
      omega
    rw [dispatch_eq hinbox, hdismiss, held_assign, hunpacked]

theorem held_work (i : ℕ) (d : Delivery) :
    held x (d.work panics i) + (d.lost panics (.work i)).count x = held x d := by
  rcases work_cases panics i d with
    ⟨heq, hlost⟩ | ⟨w, e, rest, hw, hqueue, ⟨-, heq, hlost⟩ | ⟨-, heq, hlost⟩⟩ <;>
    rw [heq, hlost]
  · rfl
  · have hcount := count_waiting_setWorker x hw { w with queue := rest }
    rw [hqueue, count_cons_eq] at hcount
    change _ = _ + rest.count x at hcount
    change (d.taken ++ [e]).count x + (d.setWorker i { w with queue := rest }).waiting.count x + d.inbox.count x + _ = _
    rw [held, List.count_append, List.count_nil]
    omega
  · have hcount := count_waiting_setWorker x hw ⟨[], true⟩
    rw [List.count_nil] at hcount
    change d.taken.count x + (d.setWorker i ⟨[], true⟩).waiting.count x + d.inbox.count x + _ = _
    rw [held]
    omega

theorem held_step (step : Step) (d : Delivery) :
    held x (d.step panics step) + (d.lost panics step).count x = held x d + step.published?.toList.count x := by
  cases step with
  | publish e =>
    change d.taken.count x + d.waiting.count x + (d.inbox ++ [e]).count x + [].count x = held x d + [e].count x
    rw [List.count_append, List.count_nil, held]
    omega
  | dispatch => exact held_dispatch x d
  | work i => exact held_work x i d

theorem held_run (steps : List Step) (d : Delivery) :
    held x (run panics d steps) + (d.losses panics steps).count x = held x d + (published steps).count x := by
  induction steps generalizing d with
  | nil => rfl
  | cons step steps ih =>
    have hfirst : held x (d.step panics step) + (d.lost panics step).count x =
        held x d + step.published?.toList.count x := held_step x step d
    have hrest := ih (d.step panics step)
    have hpublished : (published (step :: steps)).count x =
        step.published?.toList.count x + (published steps).count x := by
      rw [published, List.filterMap_cons, published]
      cases step.published? with
      | none => simp
      | some e => rw [Option.toList_some, ← List.count_append]; rfl
    rw [losses, List.count_append]
    change held x (run panics (d.step panics step) steps) + _ = _
    omega

end Held

theorem waiting_of_isIdle {d : Delivery} (idle : d.IsIdle) : d.waiting = [] := by
  rw [waiting, List.flatten_eq_nil_iff]
  intro queue hqueue
  obtain ⟨w, hw, rfl⟩ := List.mem_map.mp hqueue
  exact idle.2 w hw

theorem taken_losses_perm {panics : Event → Bool} {steps : List Step} (idle : (run panics {} steps).IsIdle) :
    ((run panics {} steps).taken ++ losses panics {} steps).Perm (published steps) := by
  rw [List.perm_iff_count]
  intro x
  have hheld := @held_run panics x steps {}
  have hempty : held x {} = 0 := rfl
  rw [held, waiting_of_isIdle idle, idle.1, List.count_nil, hempty] at hheld
  rw [List.count_append]
  omega

section Taken

variable {panics : Event → Bool} {d : Delivery}

theorem dispatch_taken (d : Delivery) : d.dispatch.taken = d.taken := by
  have hassign (e : Event) (d : Delivery) : (d.assign e).taken = d.taken := by
    unfold assign
    split
    · rfl
    · split_ifs <;> rfl
  have hdismiss (e : Event) (d : Delivery) : (d.dismiss e).taken = d.taken := by rw [dismiss_eq]
  cases hinbox : d.inbox with
  | nil => rw [dispatch, hinbox]
  | cons e rest =>
    rw [dispatch_eq hinbox, hdismiss, hassign]
    rfl

theorem step_taken (step : Step) (quiet : ∀ e ∈ d.taken, panics e = false) :
    ∀ e ∈ (d.step panics step).taken, panics e = false := by
  cases step with
  | publish e => exact quiet
  | dispatch =>
    change ∀ e ∈ d.dispatch.taken, _
    rwa [dispatch_taken]
  | work i =>
    change ∀ e ∈ (d.work panics i).taken, _
    rcases work_cases panics i d with ⟨heq, -⟩ | ⟨w, e, rest, -, -, ⟨hquiet, heq, -⟩ | ⟨-, heq, -⟩⟩ <;>
      rw [heq]
    · exact quiet
    · exact List.forall_mem_append.mpr ⟨quiet, List.forall_mem_singleton.mpr hquiet⟩
    · exact quiet

theorem run_taken (steps : List Step) (quiet : ∀ e ∈ d.taken, panics e = false) :
    ∀ e ∈ (run panics d steps).taken, panics e = false := by
  induction steps generalizing d with
  | nil => exact quiet
  | cons step steps ih => exact ih (step_taken step quiet)

end Taken

structure IsSorted (d : Delivery) : Prop where
  uniform : ∀ w ∈ d.workers, ∃ id, ∀ e ∈ w.queue, e.notebook.id = id
  assigned : ∀ (id : String) (i : ℕ), d.assigned[id]? = some i →
    ∃ w, d.workers[i]? = some w ∧ ∀ e ∈ w.queue, e.notebook.id = id
  apart : ∀ (id id' : String) (i : ℕ), d.assigned[id]? = some i → d.assigned[id']? = some i → id = id'

namespace IsSorted

theorem nil : IsSorted {} where
  uniform w hw := by cases hw
  assigned id i h := by simp at h
  apart id id' i h := by simp at h

variable {d : Delivery} (h : d.IsSorted)
include h

theorem lt_length {id : String} {i : ℕ} (hi : d.assigned[id]? = some i) : i < d.workers.length := by
  obtain ⟨w, hw, -⟩ := h.assigned id i hi
  exact (List.getElem?_eq_some_iff.mp hw).1

theorem employ (e : Event) : (d.employ e).IsSorted := by
  refine ⟨?_, ?_, ?_⟩
  · intro w hw
    rcases List.mem_append.mp hw with hw | hw
    · exact h.uniform w hw
    · rw [List.mem_singleton.mp hw]
      exact ⟨e.notebook.id, List.forall_mem_singleton.mpr rfl⟩
  · intro id i hi
    rw [assigned_employ] at hi
    split_ifs at hi with hid
    · rw [← Option.some.inj hi, ← hid]
      exact ⟨⟨[e], false⟩, List.getElem?_concat_length, List.forall_mem_singleton.mpr rfl⟩
    · obtain ⟨w, hw, hown⟩ := h.assigned id i hi
      exact ⟨w, (List.getElem?_append_left (h.lt_length hi)).trans hw, hown⟩
  · intro id id' i hi hi'
    rw [assigned_employ] at hi hi'
    split_ifs at hi hi' with hid hid' hid'
    · exact hid.symm.trans hid'
    · have := h.lt_length hi'
      have := Option.some.inj hi
      omega
    · have := h.lt_length hi
      have := Option.some.inj hi'
      omega
    · exact h.apart id id' i hi hi'

theorem setWorker {i : ℕ} {w' : Worker} (huniform : ∃ id, ∀ e ∈ w'.queue, e.notebook.id = id)
    (hown : ∀ id, d.assigned[id]? = some i → ∀ e ∈ w'.queue, e.notebook.id = id) :
    (d.setWorker i w').IsSorted := by
  refine ⟨?_, ?_, h.apart⟩
  · intro v hv
    rcases List.mem_or_eq_of_mem_set hv with hv | rfl
    · exact h.uniform v hv
    · exact huniform
  · intro id j hj
    change d.assigned[id]? = some j at hj
    change ∃ v, (d.workers.set i w')[j]? = some v ∧ _
    by_cases hij : i = j
    · subst hij
      exact ⟨w', List.getElem?_set_self (h.lt_length hj), hown id hj⟩
    · obtain ⟨v, hv, hrest⟩ := h.assigned id j hj
      exact ⟨v, (List.getElem?_set_ne hij).trans hv, hrest⟩

theorem shrink {i : ℕ} {w : Worker} (hw : d.workers[i]? = some w) {w' : Worker} (hless : w'.queue.Sublist w.queue) :
    (d.setWorker i w').IsSorted := by
  refine h.setWorker ?_ ?_
  · obtain ⟨id, hid⟩ := h.uniform w (List.mem_of_getElem? hw)
    exact ⟨id, fun e he => hid e (hless.subset he)⟩
  · intro id hi e he
    obtain ⟨v, hv, hown⟩ := h.assigned id i hi
    rw [hw] at hv
    cases hv
    exact hown e (hless.subset he)

theorem enqueue {e : Event} {i : ℕ} (hi : d.assigned[e.notebook.id]? = some i) : (d.enqueue i e).IsSorted := by
  obtain ⟨w, hw, hown⟩ := h.assigned _ i hi
  have hall : ∀ f ∈ w.queue ++ [e], f.notebook.id = e.notebook.id :=
    List.forall_mem_append.mpr ⟨hown, List.forall_mem_singleton.mpr rfl⟩
  rw [enqueue_eq hw]
  refine h.setWorker ⟨_, hall⟩ fun id hid => ?_
  rw [h.apart id _ i hid hi]
  exact hall

theorem assign (e : Event) : (d.assign e).IsSorted := by
  unfold Delivery.assign
  split
  · exact h.employ e
  · next i hi =>
    split_ifs
    · exact h.employ e
    · exact h.enqueue hi

theorem dismiss (e : Event) : (d.dismiss e).IsSorted := by
  have hassigned {id : String} {i : ℕ} := @assigned_of_dismiss e d id i
  rw [dismiss_eq] at hassigned ⊢
  exact ⟨h.uniform, fun id i hi => h.assigned id i (hassigned hi),
    fun id id' i hi hi' => h.apart id id' i (hassigned hi) (hassigned hi')⟩

theorem step (panics : Event → Bool) (step : Step) : (d.step panics step).IsSorted := by
  cases step with
  | publish e => exact ⟨h.uniform, h.assigned, h.apart⟩
  | dispatch =>
    change d.dispatch.IsSorted
    cases hinbox : d.inbox with
    | nil =>
      rw [Delivery.dispatch, hinbox]
      exact h
    | cons e rest =>
      have hunpacked : d.unpacked.IsSorted := ⟨h.uniform, h.assigned, h.apart⟩
      rw [dispatch_eq hinbox]
      exact (hunpacked.assign e).dismiss e
  | work i =>
    change (d.work panics i).IsSorted
    rcases work_cases panics i d with ⟨heq, -⟩ | ⟨w, e, rest, hw, hqueue, ⟨-, heq, -⟩ | ⟨-, heq, -⟩⟩ <;>
      rw [heq]
    · exact h
    · have hshrunk : (d.setWorker i { w with queue := rest }).IsSorted := h.shrink hw (tail_sublist hqueue)
      exact ⟨hshrunk.uniform, hshrunk.assigned, hshrunk.apart⟩
    · exact h.shrink hw (List.nil_sublist _)

theorem lost_confined (panics : Event → Bool) (step : Step) :
    ∀ e ∈ d.lost panics step, ∃ f ∈ d.lost panics step, panics f = true ∧ f.notebook.id = e.notebook.id := by
  cases step with
  | work i =>
    rcases work_cases panics i d with
      ⟨-, hlost⟩ | ⟨w, f, rest, hw, hqueue, ⟨-, -, hlost⟩ | ⟨hpanics, -, hlost⟩⟩ <;> rw [hlost]
    · simp
    · simp
    · intro e he
      obtain ⟨id, hid⟩ := h.uniform w (List.mem_of_getElem? hw)
      have hf : f ∈ w.queue := by
        rw [hqueue]
        exact List.mem_cons_self
      exact ⟨f, hf, hpanics, (hid f hf).trans (hid e he).symm⟩
  | _ =>
    intro e he
    cases he

theorem losses_confined (panics : Event → Bool) (steps : List Step) :
    ∀ e ∈ d.losses panics steps,
      ∃ f ∈ d.losses panics steps, panics f = true ∧ f.notebook.id = e.notebook.id := by
  induction steps generalizing d with
  | nil =>
    intro e he
    cases he
  | cons step steps ih =>
    intro e he
    rcases List.mem_append.mp he with he | he
    · obtain ⟨f, hf, hrest⟩ := h.lost_confined panics step e he
      exact ⟨f, List.mem_append_left _ hf, hrest⟩
    · obtain ⟨f, hf, hrest⟩ := ih (h.step panics step) e he
      exact ⟨f, List.mem_append_right _ hf, hrest⟩

end IsSorted

end Delivery

end NotebookHost
