import NotebookHost.Proofs.Hub.Following
import NotebookHost.Proofs.Hub.Steps
import NotebookHost.Proofs.Supervisor.Processes

/-!
Once nothing waits to be followed, the supervisor has what the catalogue has, however operations,
deliveries, reloads and the ends of processes came between each other.
-/

namespace NotebookHost.Hub

open Catalogue

def Step.keepsToRecords : Step → Bool
  | .supervise (.follow _) => false
  | .supervise (.reload _) => false
  | _ => true

def view (hub : Hub) : View := ⟨hub.catalogue, hub.pending, hub.supervisor.seating⟩

structure IsSound (hub : Hub) : Prop where
  wellFormed : hub.catalogue.store.IsWellFormed
  seated : hub.supervisor.IsSeated hub.supervisor.seating
  linked : hub.view.IsLinked

theorem Change.turn {m : Machine} {hub hub' : Hub} (h : Change m hub hub') (hsound : hub.IsSound) :
    View.Turn hub.view hub'.view := by
  cases h with
  | @stored c effect =>
    rcases effect.news hsound.wellFormed with rfl | ⟨e, news⟩
    · have hview : (hub.setCatalogue hub.catalogue).view = hub.view := by
        rw [view, setCatalogue, List.drop_length, List.append_nil]
        rfl
      rw [hview]
      exact .stay
    · have hview : (hub.setCatalogue c).view = ⟨c, hub.view.pending ++ [e], hub.view.seats⟩ := by
        rw [view, setCatalogue, news.announced, List.drop_left]
        rfl
      rw [hview]
      exact .news news
  | @reloaded id n found =>
    have hseats := (hsound.seated.perform m (.reload n)).seating_eq
    have hview : View.mk hub.catalogue hub.pending (hub.supervisor.perform m (.reload n)).1.seating =
        { hub.view with seats := hub.view.seats.adopt n } := by rw [hseats]; rfl
    change View.Turn hub.view (View.mk hub.catalogue hub.pending _)
    rw [hview]
    exact .reloaded (v := hub.view) (hsound.wellFormed.record?_id found)

theorem Effect.turn {m : Machine} {hub hub' : Hub} {step : Step} (h : Effect m hub step hub')
    (hstep : step.keepsToRecords = true) (hsound : hub.IsSound) : View.Turn hub.view hub'.view := by
  cases h with
  | changed _ change => exact change.turn hsound
  | @delivered id e first =>
    have hid : e.notebook.id = id := beq_iff_eq.mp (List.find?_some (p := fun e : Event => e.notebook.id == id) first)
    subst hid
    have hseats := (hsound.seated.perform m (.follow e)).seating_eq
    change View.Turn hub.view (View.mk hub.catalogue _ (hub.supervisor.perform m (.follow e)).1.seating)
    rw [hseats]
    exact .followed (v := hub.view) first
  | supervised step =>
    have hseats := (hsound.seated.perform m step).seating_eq
    have hstay : hub.supervisor.seating.perform step = hub.supervisor.seating := by
      cases step with
      | follow e => cases hstep
      | reload n => cases hstep
      | _ => rfl
    change View.Turn hub.view (View.mk hub.catalogue hub.pending (hub.supervisor.perform m step).1.seating)
    rw [hseats, hstay]
    exact .stay

theorem Effect.isSound {m : Machine} {hub hub' : Hub} {step : Step} (h : Effect m hub step hub')
    (hstep : step.keepsToRecords = true) (hsound : hub.IsSound) : hub'.IsSound where
  wellFormed := h.isWellFormed hsound.wellFormed
  seated := by
    obtain ⟨t, ht, -⟩ := h.move hsound.seated
    rwa [ht.seating_eq]
  linked := (h.turn hstep hsound).isLinked hsound.linked

theorem Effect.isTidy {m : Machine} (hm : m.killError = none) {hub hub' : Hub} {step : Step}
    (h : Effect m hub step hub') (htidy : hub.supervisor.IsTidy) : hub'.supervisor.IsTidy := by
  cases h with
  | changed _ change =>
    cases change with
    | stored _ => exact htidy
    | @reloaded id n _ => exact htidy.perform hm (.reload n)
  | @delivered id e _ => exact htidy.perform hm (.follow e)
  | supervised step => exact htidy.perform hm step

section Opened

variable {o : Outage} {store : Store} {settings : LaunchSettings} {ports : PortRange} {hub : Hub}

theorem ofStore_seating (hopen : ofStore o store (.fresh settings ports) = .ok hub) :
    hub.supervisor.IsSeated ⟨settings, ports, ports.first.toUInt32, fun _ => none⟩ := by
  rw [(ofStore_catalogue hopen).2.1]
  exact Supervisor.fresh_isSeated settings ports

theorem ofStore_isSound (hstore : store.IsWellFormed) (hopen : ofStore o store (.fresh settings ports) = .ok hub) :
    hub.IsSound := by
  obtain ⟨hcatalogue, -, hpending⟩ := ofStore_catalogue hopen
  have hseated := ofStore_seating hopen
  have hseats := hseated.seating_eq
  refine ⟨?_, by rwa [hseats], ofStore_isTold hstore hcatalogue, ?_, ?_⟩
  · rwa [Catalogue.ofStore_store hcatalogue]
  · intro id
    change changesOf id hub.pending <:+ _
    rw [hpending]
    exact List.suffix_refl _
  · intro id seat _ hseat
    change hub.supervisor.seating.seat? id = _ at hseat
    rw [hseats] at hseat
    cases hseat

theorem ofStore_hasMet (hopen : ofStore o store (.fresh settings ports) = .ok hub) : hub.view.HasMet ∅ := by
  have hseats : hub.view.seats = _ := (ofStore_seating hopen).seating_eq
  have hpending : hub.view.pending = _ := (ofStore_catalogue hopen).2.2
  refine ⟨Finset.empty_subset _, ?_, ?_, fun id hid => absurd hid (Finset.notMem_empty id)⟩
  · rw [hseats]
    exact UInt16.toNat_toUInt32 ports.first
  · intro id _
    rw [hseats, hpending]
    exact ⟨rfl, rfl⟩

end Opened

section Run

variable {hub : Hub} {steps : List (Management.Circumstances × Step)}

theorem run_isSound (hsound : hub.IsSound) (hsteps : ∀ turn ∈ steps, turn.2.keepsToRecords = true) :
    (hub.run steps).IsSound := by
  induction steps generalizing hub with
  | nil => exact hsound
  | cons turn steps ih =>
    obtain ⟨hstep, hsteps⟩ := List.forall_mem_cons.mp hsteps
    exact ih ((perform_effect turn.1 turn.2 hub).isSound hstep hsound) hsteps

theorem run_isTidy (htidy : hub.supervisor.IsTidy) (hkill : ∀ turn ∈ steps, turn.1.machine.killError = none) :
    (hub.run steps).supervisor.IsTidy := by
  induction steps generalizing hub with
  | nil => exact htidy
  | cons turn steps ih =>
    obtain ⟨hm, hkill⟩ := List.forall_mem_cons.mp hkill
    exact ih ((perform_effect turn.1 turn.2 hub).isTidy hm htidy) hkill

theorem run_hasMet (hsound : hub.IsSound) (hmet : hub.view.HasMet ∅)
    (hsteps : ∀ turn ∈ steps, turn.2.keepsToRecords = true)
    (hfresh : NoIdReturns (hub.run steps).catalogue.announced)
    (hroom : (announcedIds (hub.run steps).catalogue.announced).card ≤
      hub.supervisor.ports.last.toNat - hub.supervisor.ports.first.toNat) :
    ∃ met, (hub.run steps).view.HasMet met := by
  -- From the end, since what is asked of the announcements is asked of the last ones.
  induction steps using List.reverseRecOn with
  | nil => exact ⟨∅, hmet⟩
  | append_singleton steps turn ih =>
    obtain ⟨hsteps, hstep⟩ := List.forall_mem_append.mp hsteps
    have hbefore := run_isSound hsound hsteps
    have hports := (run_fixed hsound.seated (steps ++ [turn])).2
    rw [run_append] at hfresh hroom hports ⊢
    have hturn :=
      (perform_effect turn.1 turn.2 (hub.run steps)).turn (hstep turn (List.mem_singleton_self turn)) hbefore
    have hinit := hturn.announced
    obtain ⟨met, hmet⟩ := ih hsteps (hfresh.sublist hinit.sublist)
      ((Finset.card_le_card (announcedIds_subset hinit)).trans hroom)
    have hseats : ((hub.run steps).perform turn.1 turn.2).view.seats.ports = hub.supervisor.ports := hports
    refine hturn.hasMet hbefore.linked hmet hfresh ?_
    rw [hseats]
    exact hroom

end Run

theorem supervisor_converges {o : Outage} {store : Store} {settings : LaunchSettings} {ports : PortRange} {hub : Hub}
    (hstore : store.IsWellFormed) (hopen : ofStore o store (.fresh settings ports) = .ok hub)
    (steps : List (Management.Circumstances × Step)) (hsteps : ∀ turn ∈ steps, turn.2.keepsToRecords = true)
    (hidle : (hub.run steps).pending = []) :
    hub.catalogue.store = store ∧
    (∀ (id : String) (h : Handle), (hub.run steps).supervisor.handles[id]? = some h →
      (hub.run steps).catalogue.store.record? id = some h.notebook) ∧
    (NoIdReturns (hub.run steps).catalogue.announced →
      (announcedIds (hub.run steps).catalogue.announced).card ≤ ports.last.toNat - ports.first.toNat →
      ∀ (id : String) (n : Notebook), (hub.run steps).catalogue.store.record? id = some n →
        ∃ h, (hub.run steps).supervisor.handles[id]? = some h) ∧
    ((∀ turn ∈ steps, turn.1.machine.killError = none) → ∀ p ∈ (hub.run steps).supervisor.alive,
      ∃ n h, (hub.run steps).catalogue.store.record? p.id = some n ∧
        (hub.run steps).supervisor.handles[p.id]? = some h ∧ h.process = some p ∧ p.port = h.port ∧
        p.args = settings.commandLine n h.port) := by
  obtain ⟨hcatalogue, hsupervisor, -⟩ := ofStore_catalogue hopen
  have hstart := ofStore_isSound hstore hopen
  have hseated := ofStore_seating hopen
  have hsound := run_isSound hstart hsteps
  have hnone (id : String) : changesOf id (hub.run steps).view.pending = [] := by
    change changesOf id (hub.run steps).pending = []
    rw [hidle]
    rfl
  have hcurrent (id : String) (h : Handle) (hfound : (hub.run steps).supervisor.handles[id]? = some h) :
      (hub.run steps).catalogue.store.record? id = some h.notebook := by
    have hseat := hsound.seated.seat?_eq id
    rw [hfound] at hseat
    exact hsound.linked.current (hnone id) hseat
  refine ⟨Catalogue.ofStore_store hcatalogue, hcurrent, ?_, ?_⟩
  · intro hfresh hroom id n hrecord
    have hports : hub.supervisor.ports = ports := congrArg Seating.ports hseated.seating_eq
    obtain ⟨met, hmet⟩ := run_hasMet hstart (ofStore_hasMet hopen) hsteps hfresh (by rwa [hports])
    have hseat : ((hub.run steps).supervisor.seating.seat? id).isSome = true :=
      hmet.isSome_of_record hsound.linked (hnone id) hrecord
    rw [hsound.seated.seat?_eq, Option.isSome_map] at hseat
    exact Option.isSome_iff_exists.mp hseat
  · intro hkill p hp
    have htidy : hub.supervisor.IsTidy := by
      rw [hsupervisor]
      exact Supervisor.fresh_isTidy settings ports
    obtain ⟨h, hfound, hprocess, hruns, -⟩ := (run_isTidy htidy hkill).handle_of_alive hp
    have hargs := hruns.args
    rw [(run_fixed hseated steps).1] at hargs
    exact ⟨h.notebook, h, hcurrent p.id h hfound, hfound, hprocess, hruns.port, hargs⟩

theorem supervisor_converges_after_restart :
    let ns : List Notebook := [.plain "a" "a.example", .plain "b" "b.example"]
    let hub : Hub :=
      { catalogue := ns.foldl takeUp { store := .holding ns }
        supervisor := .fresh {} ⟨9000, 9003⟩
        pending := ns.map fun n => ⟨.added, n⟩ }
    let steps := [(calm "b", .deliver "b"), (calm "a", .deliver "a")] ++ departure "b" ++ admission "c" "c.example" ++
      revision "a" "/new"
    ofStore {} (.holding ns) (.fresh {} ⟨9000, 9003⟩) = .ok hub ∧ hub.catalogue.store = .holding ns ∧
      (hub.run steps).pending = [] ∧
      (∃ n h, (hub.run steps).catalogue.store.record? "a" = some n ∧ n.path = "/new" ∧
        (hub.run steps).supervisor.handles["a"]? = some h ∧ h.notebook = n) ∧
      (hub.run steps).supervisor.alive.map (·.id) = ["c", "a"] ∧
      ∀ p ∈ (hub.run steps).supervisor.alive, ∃ n h, (hub.run steps).catalogue.store.record? p.id = some n ∧
        (hub.run steps).supervisor.handles[p.id]? = some h ∧ p.args = LaunchSettings.commandLine {} n h.port := by
  intro ns hub steps
  have hopen : ofStore {} (.holding ns) (.fresh {} ⟨9000, 9003⟩) = .ok hub := by
    rw [ofStore, Catalogue.ofStore_holding (by decide)]
    rfl
  obtain ⟨hidle, hrecord, halive, hfresh, hroom⟩ : (hub.run steps).pending = [] ∧
      ((hub.run steps).catalogue.store.record? "a").map (·.path) = some "/new" ∧
      (hub.run steps).supervisor.alive.map (·.id) = ["c", "a"] ∧
      NoIdReturns (hub.run steps).catalogue.announced ∧
      (announcedIds (hub.run steps).catalogue.announced).card ≤ 3 := by
    decide +kernel
  obtain ⟨hsame, hcurrent, hhandle, hlive⟩ :=
    supervisor_converges (Store.holding_isWellFormed (by decide)) hopen steps (by decide) hidle
  obtain ⟨n, hn, hpath⟩ := Option.map_eq_some_iff.mp hrecord
  obtain ⟨h, hh⟩ := hhandle hfresh hroom "a" n hn
  have hnotebook : h.notebook = n := Option.some.inj ((hcurrent "a" h hh).symm.trans hn)
  refine ⟨hopen, hsame, hidle, ⟨n, h, hn, hpath, hh, hnotebook⟩, halive, ?_⟩
  intro p hp
  obtain ⟨n', h', hn', hh', -, -, hargs⟩ := hlive (by decide) p hp
  exact ⟨n', h', hn', hh', hargs⟩

end NotebookHost.Hub
