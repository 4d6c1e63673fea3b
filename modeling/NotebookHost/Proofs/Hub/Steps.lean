import NotebookHost.Deployment.Run
import NotebookHost.Proofs.Catalogue.Uniqueness
import NotebookHost.Proofs.Supervisor.Ports

namespace NotebookHost.Hub

def asksPort (step : Step) (hub : Hub) : Bool :=
  match step with
  | .deliver id => (hub.pending.find? (·.notebook.id == id)).any fun e => hub.supervisor.asksPort (.follow e)
  | .supervise step => hub.supervisor.asksPort step
  | _ => false

def portRequests (hub : Hub) : List (Management.Circumstances × Step) → ℕ
  | [] => 0
  | (w, step) :: steps => (hub.asksPort step).toNat + (hub.perform w step).portRequests steps

inductive Change (m : Machine) (hub : Hub) : Hub → Prop
  | stored {c : Catalogue} (effect : Catalogue.Effect hub.catalogue c) : Change m hub (hub.setCatalogue c)
  | reloaded {id : String} {n : Notebook} (found : hub.catalogue.store.record? id = some n) :
      Change m hub { hub with supervisor := (hub.supervisor.perform m (.reload n)).1 }

inductive Effect (m : Machine) (hub : Hub) : Step → Hub → Prop
  | changed {step : Step} {hub' : Hub} (quiet : hub.asksPort step = false) (change : Change m hub hub') :
      Effect m hub step hub'
  | delivered {id : String} {e : Event} (first : hub.pending.find? (·.notebook.id == id) = some e) :
      Effect m hub (.deliver id)
        { hub with
          supervisor := (hub.supervisor.perform m (.follow e)).1
          pending := hub.pending.eraseP (·.notebook.id == id) }
  | supervised (step : Supervisor.Step) :
      Effect m hub (.supervise step) { hub with supervisor := (hub.supervisor.perform m step).1 }

theorem setCatalogue_self (hub : Hub) : hub.setCatalogue hub.catalogue = hub := by
  rw [setCatalogue, List.drop_length, List.append_nil]

theorem Change.nothing (m : Machine) (hub : Hub) : Change m hub hub := by
  have hchange : Change m hub (hub.setCatalogue hub.catalogue) := .stored .nothing
  rwa [setCatalogue_self] at hchange

theorem add_change (w : Management.Circumstances) (d : Draft) (hub : Hub) :
    Change w.machine hub (hub.onCatalogue (Catalogue.add w.outage w.birth d)).1 :=
  .stored (Catalogue.add_effect w.outage w.birth d hub.catalogue)

theorem update_change (w : Management.Circumstances) (id : String) (d : Draft) (hub : Hub) :
    Change w.machine hub (hub.onCatalogue (Catalogue.update w.outage id d)).1 :=
  .stored (Catalogue.update_effect w.outage id d hub.catalogue)

theorem delete_change (w : Management.Circumstances) (id : String) (hub : Hub) :
    Change w.machine hub (hub.onCatalogue (Catalogue.delete w.outage id)).1 :=
  .stored (Catalogue.delete_effect w.outage id hub.catalogue)

theorem reload_change (w : Management.Circumstances) (id : String) (hub : Hub) :
    Change w.machine hub (Management.reload w id hub).1 := by
  unfold Management.reload
  split
  · exact .nothing w.machine hub
  · next n hfound => exact .reloaded (Catalogue.record?_of_find? hfound)

theorem create_change (w : Management.Circumstances) (d : Draft) (hub : Hub) :
    Change w.machine hub (Management.create w d hub).1 := by
  unfold Management.create
  split_ifs
  · exact .nothing w.machine hub
  · exact add_change w d hub

theorem withDraft_change {m : Machine} {hub : Hub} {act : Draft → Hub × Http.Response}
    (h : ∀ d, Change m hub (act d).1) (body : Except String (List UInt8)) :
    Change m hub (Management.withDraft body hub act).1 := by
  unfold Management.withDraft
  split
  · exact .nothing m hub
  · split
    · exact .nothing m hub
    · next d _ => exact h d

theorem answer_change (w : Management.Circumstances) (method path : String) (body : Except String (List UInt8))
    (hub : Hub) :
    Change w.machine hub (Management.answer w method path body hub).1 := by
  unfold Management.answer
  cases Management.Route.ofRequest method path with
  | create => exact withDraft_change (fun d => create_change w d hub) body
  | update id => exact withDraft_change (fun d => update_change w id d hub) body
  | delete id => exact delete_change w id hub
  | reload id => exact reload_change w id hub
  | _ => exact .nothing w.machine hub

theorem perform_effect (w : Management.Circumstances) (step : Step) (hub : Hub) :
    Effect w.machine hub step (hub.perform w step) := by
  cases step with
  | request method path body => exact .changed rfl (answer_change w method path body hub)
  | add d => exact .changed rfl (add_change w d hub)
  | update id d => exact .changed rfl (update_change w id d hub)
  | delete id => exact .changed rfl (delete_change w id hub)
  | deliver id =>
    unfold perform deliver
    dsimp only
    split
    · next hnone =>
      refine .changed ?_ (.nothing w.machine hub)
      rw [asksPort, hnone, Option.any_none]
    · next e hfirst => exact .delivered hfirst
  | reload id => exact .changed rfl (reload_change w id hub)
  | supervise step => exact .supervised step

theorem Change.isWellFormed {m : Machine} {hub hub' : Hub} (h : Change m hub hub')
    (hstore : hub.catalogue.store.IsWellFormed) : hub'.catalogue.store.IsWellFormed := by
  cases h with
  | stored effect => exact effect.isWellFormed hstore
  | reloaded _ => exact hstore

theorem Effect.isWellFormed {m : Machine} {hub hub' : Hub} {step : Step} (h : Effect m hub step hub')
    (hstore : hub.catalogue.store.IsWellFormed) : hub'.catalogue.store.IsWellFormed := by
  cases h with
  | changed _ change => exact change.isWellFormed hstore
  | delivered _ => exact hstore
  | supervised _ => exact hstore

theorem Effect.move {m : Machine} {hub hub' : Hub} {step : Step} {t : Seating} (h : Effect m hub step hub')
    (ht : hub.supervisor.IsSeated t) :
    ∃ t', hub'.supervisor.IsSeated t' ∧ Seating.Move t (hub.asksPort step) t' := by
  cases h with
  | changed quiet change =>
    rw [quiet]
    cases change with
    | stored _ => exact ⟨t, ht, .stay⟩
    | @reloaded id n _ => exact ⟨t.adopt n, ht.perform m (.reload n), Seating.adopt_move n t⟩
  | @delivered id e first =>
    refine ⟨t.follow e, ht.perform m (.follow e), ?_⟩
    rw [asksPort, first, Option.any_some, ← ht.asksPort_eq]
    exact Seating.perform_move (.follow e) t
  | supervised step =>
    refine ⟨t.perform step, ht.perform m step, ?_⟩
    rw [asksPort, ← ht.asksPort_eq]
    exact Seating.perform_move step t

theorem portRequests_append (hub : Hub) (early late : List (Management.Circumstances × Step)) :
    hub.portRequests (early ++ late) = hub.portRequests early + (hub.run early).portRequests late := by
  induction early generalizing hub with
  | nil =>
    change hub.portRequests late = 0 + hub.portRequests late
    omega
  | cons turn early ih =>
    obtain ⟨w, step⟩ := turn
    have h := ih (hub.perform w step)
    change (hub.asksPort step).toNat + (hub.perform w step).portRequests (early ++ late) =
      (hub.asksPort step).toNat + (hub.perform w step).portRequests early +
        ((hub.perform w step).run early).portRequests late
    omega

theorem portRequests_le_length (hub : Hub) (steps : List (Management.Circumstances × Step)) :
    hub.portRequests steps ≤ steps.length := by
  induction steps generalizing hub with
  | nil => exact Nat.le_refl 0
  | cons turn steps ih =>
    obtain ⟨w, step⟩ := turn
    have hrest := ih (hub.perform w step)
    have hone : (hub.asksPort step).toNat ≤ 1 := Bool.toNat_le _
    change (hub.asksPort step).toNat + (hub.perform w step).portRequests steps ≤ steps.length + 1
    omega

theorem run_append (hub : Hub) (early late : List (Management.Circumstances × Step)) :
    hub.run (early ++ late) = (hub.run early).run late := List.foldl_append

theorem run_isWellFormed {hub : Hub} (hstore : hub.catalogue.store.IsWellFormed)
    (steps : List (Management.Circumstances × Step)) : (hub.run steps).catalogue.store.IsWellFormed := by
  induction steps generalizing hub with
  | nil => exact hstore
  | cons turn steps ih => exact ih ((perform_effect turn.1 turn.2 hub).isWellFormed hstore)

theorem run_moves {hub : Hub} {t : Seating} (ht : hub.supervisor.IsSeated t)
    (steps : List (Management.Circumstances × Step)) :
    ∃ t', (hub.run steps).supervisor.IsSeated t' ∧ t.Moves (hub.portRequests steps) t' := by
  induction steps generalizing hub t with
  | nil => exact ⟨t, ht, .none t⟩
  | cons turn steps ih =>
    obtain ⟨t', ht', hmove⟩ := (perform_effect turn.1 turn.2 hub).move ht
    obtain ⟨u, hu, hmoves⟩ := ih ht'
    exact ⟨u, hu, .step hmove hmoves⟩

theorem run_fixed {hub : Hub} {t : Seating} (ht : hub.supervisor.IsSeated t)
    (steps : List (Management.Circumstances × Step)) :
    (hub.run steps).supervisor.settings = t.settings ∧ (hub.run steps).supervisor.ports = t.ports := by
  obtain ⟨u, hu, hmoves⟩ := run_moves ht steps
  have hfixed := hmoves.fixed
  rwa [← hu.seating_eq] at hfixed

theorem run_seats {hub : Hub} {t : Seating} {k : ℕ} (ht : hub.supervisor.IsSeated t) (hasked : t.HasAsked k)
    (steps : List (Management.Circumstances × Step))
    (hroom : t.ports.first.toNat + (k + hub.portRequests steps) < 2 ^ 32) :
    ∃ t', (hub.run steps).supervisor.IsSeated t' ∧ t'.HasAsked (k + hub.portRequests steps) ∧ t.Later t' := by
  obtain ⟨u, hu, hmoves⟩ := run_moves ht steps
  exact ⟨u, hu, hmoves.seats hasked hroom⟩

theorem ofStore_catalogue {o : Outage} {store : Store} {supervisor : Supervisor} {hub : Hub}
    (h : ofStore o store supervisor = .ok hub) :
    Catalogue.ofStore o store = .ok hub.catalogue ∧ hub.supervisor = supervisor ∧
      hub.pending = hub.catalogue.announced := by
  unfold ofStore at h
  split at h
  · cases h
  · next c hc =>
    cases h
    exact ⟨hc, rfl, rfl⟩

def calm (id : String) : Management.Circumstances := { birth := ⟨id, (Notebook.plain id id).createdAt⟩ }

def admission (id domain : String) : List (Management.Circumstances × Step) :=
  [(calm id, .add { rawName := some id, rawPath := some ("/" ++ id), rawDomain := some domain }),
    (calm id, .deliver id)]

def revision (id path : String) : List (Management.Circumstances × Step) :=
  [(calm id, .update id { rawPath := some path }), (calm id, .deliver id)]

def departure (id : String) : List (Management.Circumstances × Step) :=
  [(calm id, .delete id), (calm id, .deliver id)]

def restart (id : String) : List (Management.Circumstances × Step) :=
  [(calm id, .supervise (.stop id)), (calm id, .supervise (.start id))]

end NotebookHost.Hub
