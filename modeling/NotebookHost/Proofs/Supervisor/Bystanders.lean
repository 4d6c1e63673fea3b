import NotebookHost.Proofs.Supervisor.Twins

namespace NotebookHost

open Relator

structure Handle.IsOf (id : String) (h : Handle) : Prop where
  keyed : h.id = id
  process : ∀ p, h.process = some p → p.id = id

theorem Handle.IsTwin.isOf {settings : LaunchSettings} {ρ : Port → Port → Prop} {id : String} {h k : Handle}
    (hk : h.IsTwin settings ρ id k) : h.IsOf id := by
  refine ⟨hk.left, ?_⟩
  intro p hp
  rcases optionRel_cases hk.process with ⟨hnone, -⟩ | ⟨p', q, hp', -, hpq⟩
  · rw [hp] at hnone
    cases hnone
  · rw [hp] at hp'
    cases hp'
    exact hpq.left

namespace Supervisor

structure Unmoved (id : String) (s s' : Supervisor) : Prop where
  settings : s'.settings = s.settings
  signal : s'.signal = s.signal
  handle : s'.handles[id]? = s.handles[id]?
  alive : s'.processesOf id = s.processesOf id
  launches : s'.launchesOf id = s.launchesOf id

variable {settings : LaunchSettings} {ρ : Port → Port → Prop} {id j : String} {s s' s'' t t' : Supervisor}
    {h : Handle}

theorem IsTwin.isOf_left (hst : IsTwin settings ρ id s t) (h : Handle) (hfound : s.handles[id]? = some h) :
    h.IsOf id := by
  rcases optionRel_cases hst.handle with ⟨hnone, -⟩ | ⟨h', k, hs, -, hk⟩
  · rw [hfound] at hnone
    cases hnone
  · rw [hfound] at hs
    cases hs
    exact hk.isOf

theorem IsTwin.of_unmoved (hst : IsTwin settings ρ id s t) (hs : Unmoved id s s') (ht : Unmoved id t t') :
    IsTwin settings ρ id s' t' where
  left := hs.settings.trans hst.left
  right := ht.settings.trans hst.right
  signal := hs.signal.trans (hst.signal.trans ht.signal.symm)
  alive := by
    rw [hs.alive, ht.alive]
    exact hst.alive
  launches := by
    rw [hs.launches, ht.launches]
    exact hst.launches
  handle := by
    rw [hs.handle, ht.handle]
    exact hst.handle

namespace Unmoved

theorem refl (id : String) (s : Supervisor) : Unmoved id s s := ⟨rfl, rfl, rfl, rfl, rfl⟩

theorem trans (hs : Unmoved id s s') (hs' : Unmoved id s' s'') : Unmoved id s s'' where
  settings := hs'.settings.trans hs.settings
  signal := hs'.signal.trans hs.signal
  handle := hs'.handle.trans hs.handle
  alive := hs'.alive.trans hs.alive
  launches := hs'.launches.trans hs.launches

theorem setHandle (hs : Unmoved id s s') (hid : h.id ≠ id) : Unmoved id s (s'.setHandle h) :=
  { hs with
    handle := by
      rw [getElem?_setHandle, if_neg hid.symm]
      exact hs.handle }

theorem keep {α : Type} {x : Supervisor × Handle × α} (hs : Unmoved id s x.1) (hid : x.2.1.id ≠ id) :
    Unmoved id s (keep x).1 := hs.setHandle hid

theorem bury {p : Process} (hid : p.id ≠ id) : Unmoved id s (s.bury p) :=
  ⟨rfl, rfl, rfl, processesOf_bury_other hid.symm, rfl⟩

theorem launchLocked (m : Machine) (hid : h.id ≠ id) : Unmoved id s (launchLocked m h s).1 := by
  unfold Supervisor.launchLocked
  split_ifs
  · exact .refl id s
  · exact .refl id s
  · dsimp only
    split
    · exact .refl id s
    · have hother (p : Process) (hp : p.id = h.id) (ps : List Process) :
          (ps ++ [p]).filter (·.id == id) = ps.filter (·.id == id) := by
        rw [List.filter_append, List.filter_cons_of_neg, List.filter_nil, List.append_nil]
        rw [beq_iff_eq, hp]
        exact hid
      exact ⟨rfl, rfl, rfl, hother _ rfl _, hother _ rfl _⟩

theorem stopLocked (m : Machine) (hof : h.IsOf j) (hj : j ≠ id) : Unmoved id s (stopLocked m h s).1 := by
  unfold Supervisor.stopLocked
  split
  · exact .refl id s
  · next p hp =>
    split
    · exact .bury (by rwa [hof.process p hp])
    · exact .refl id s

theorem relaunchLocked (m : Machine) (n : Notebook) (startIdle : Bool) (hof : h.IsOf j) (hj : j ≠ id) :
    Unmoved id s (relaunchLocked m n startIdle h s).1 := by
  have hadopt : (h.adopt n).IsOf j := ⟨hof.keyed, hof.process⟩
  have hid : (h.adopt n).id ≠ id := by rwa [hadopt.keyed]
  have hstop := stopLocked (s := s) m hadopt hj
  have hseat := (stopLocked_seat m (h.adopt n) s).1
  unfold Supervisor.relaunchLocked
  dsimp only
  split_ifs
  · generalize Supervisor.stopLocked m (h.adopt n) s = x at hstop hseat
    obtain ⟨s', h', answer⟩ := x
    cases answer with
    | error e => exact hstop
    | ok => exact hstop.trans (launchLocked m (by rwa [hseat]))
  · exact launchLocked m hid
  · exact .refl id s

end Unmoved

section Others

variable (hj : j ≠ id) (hof : ∀ h, s.handles[j]? = some h → h.IsOf j)
include hj hof

theorem start_unmoved (m : Machine) : Unmoved id s (s.start m j).1 := by
  unfold start
  split
  · exact .refl id s
  · next h hfind =>
    have hid : h.id ≠ id := by rwa [(hof h (find_eq_ok_iff.mp hfind)).keyed]
    have hseat : (launchLocked m h s).2.1.id ≠ id := by rwa [(launchLocked_seat m h s).1]
    exact (Unmoved.launchLocked m hid).keep hseat

theorem stop_unmoved (m : Machine) : Unmoved id s (s.stop m j).1 := by
  unfold stop
  split
  · exact .refl id s
  · next h hfind =>
    have hh := hof h (find_eq_ok_iff.mp hfind)
    have hseat : (stopLocked m h s).2.1.id ≠ id := by rwa [(stopLocked_seat m h s).1, hh.keyed]
    exact (Unmoved.stopLocked m hh hj).keep hseat

theorem relaunch_unmoved (m : Machine) (n : Notebook) (startIdle : Bool) (hfound : s.handles[j]? = some h) :
    Unmoved id s (keep (relaunchLocked m n startIdle h s)).1 := by
  have hh := hof h hfound
  have hseat : (relaunchLocked m n startIdle h s).2.1.id ≠ id := by
    rwa [(relaunchLocked_seat m n startIdle h s).1, hh.keyed]
  exact (Unmoved.relaunchLocked m n startIdle hh hj).keep hseat

theorem reload_unmoved (m : Machine) {n : Notebook} (hn : n.id = j) : Unmoved id s (s.reload m n).1 := by
  unfold reload
  rw [hn]
  split
  · exact .refl id s
  · next h hfind => exact relaunch_unmoved hj hof m n true (find_eq_ok_iff.mp hfind)

theorem takeOver_unmoved (m : Machine) {n : Notebook} (hn : n.id = j) : Unmoved id s (s.takeOver m n) := by
  subst hn
  cases hfound : s.handles[n.id]? with
  | some h =>
    rw [takeOver_known m hfound]
    exact relaunch_unmoved hj hof m n false hfound
  | none =>
    rw [takeOver_unknown m hfound]
    have hcount : Unmoved id s { s with counter := s.counter + 1 } := ⟨rfl, rfl, rfl, rfl, rfl⟩
    cases portOf? s.ports (s.counter + 1) with
    | none => exact hcount
    | some port =>
      have hnew := hcount.setHandle (h := .ofNotebook n port) hj
      refine hnew.trans (start_unmoved hj ?_ m)
      intro h hget
      rw [getElem?_setHandle, if_pos (by rfl)] at hget
      cases hget
      exact ⟨rfl, fun p hp => by cases hp⟩

theorem remove_unmoved (m : Machine) : Unmoved id s (s.remove m j) := by
  unfold remove
  split
  · exact .refl id s
  · next h hfound =>
    have herase : Unmoved id s { s with handles := s.handles.erase j } := by
      refine ⟨rfl, rfl, ?_, rfl, rfl⟩
      simp only [Std.TreeMap.getElem?_erase, Std.LawfulEqCmp.compare_eq_iff_eq, if_neg hj]
    exact herase.trans (Unmoved.stopLocked m (hof h hfound) hj)

theorem follow_unmoved (m : Machine) {e : Event} (he : e.notebook.id = j) : Unmoved id s (s.follow m e) := by
  obtain ⟨change, n⟩ := e
  dsimp only at he
  cases change with
  | added => exact takeOver_unmoved hj hof m he
  | updated => exact takeOver_unmoved hj hof m he
  | deleted =>
    subst he
    exact remove_unmoved hj hof m

theorem react_unmoved {p : Process} (hp : p.id = j) {act : Handle → Handle} (hact : ∀ h, (act h).id = h.id) :
    Unmoved id s ((s.bury p).react p act) := by
  have hbury : Unmoved id s (s.bury p) := .bury (by rwa [hp])
  unfold react
  split
  · exact hbury
  · next h hfound =>
    rw [hp] at hfound
    split_ifs
    · exact hbury.setHandle (by rwa [hact, (hof h hfound).keyed])
    · exact hbury

theorem exit_unmoved {p : Process} (hp : p.id = j) (ending : Ending) : Unmoved id s (s.exit p ending) := by
  unfold exit
  split_ifs
  · refine react_unmoved hj hof hp fun h => ?_
    unfold Handle.exited
    split_ifs <;> rfl
  · exact .refl id s

theorem heedSignal_unmoved {p : Process} (hp : p.id = j) : Unmoved id s (s.heedSignal p) := by
  unfold heedSignal
  split_ifs
  · refine react_unmoved hj hof hp fun h => ?_
    unfold Handle.signalled
    split_ifs <;> rfl
  · exact .refl id s

theorem perform_unmoved (m : Machine) {step : Step} (hown : step.owner? = some j) :
    Unmoved id s (s.perform m step).1 := by
  cases step with
  | follow e => exact follow_unmoved hj hof m (Option.some.inj hown)
  | start i =>
    obtain rfl : i = j := Option.some.inj hown
    exact start_unmoved hj hof m
  | stop i =>
    obtain rfl : i = j := Option.some.inj hown
    exact stop_unmoved hj hof m
  | reload n => exact reload_unmoved hj hof m (Option.some.inj hown)
  | exit i ending =>
    obtain rfl : i = j := Option.some.inj hown
    exact onProcess_induction (motive := Unmoved id s) (.refl id s) fun p _ hp => exit_unmoved hj hof hp ending
  | heedSignal i =>
    obtain rfl : i = j := Option.some.inj hown
    exact onProcess_induction (motive := Unmoved id s) (.refl id s) fun p _ hp => heedSignal_unmoved hj hof hp
  | shutdown => cases hown
  | giveSignal => cases hown
  | loseSignal => cases hown

end Others

theorem IsTwin.perform_self (hρ : BiUnique ρ) (hs : ∀ id, IsTwin settings ρ id s s) (m : Machine) {step : Step}
    (hown : step.owner? = some j)
    (hports : s.asksPort step = true →
      Option.Rel ρ (portOf? s.ports (s.counter + 1)) (portOf? s.ports (s.counter + 1))) (id : String) :
    IsTwin settings ρ id (s.perform m step).1 (s.perform m step).1 := by
  by_cases hj : j = id
  · subst hj
    exact ((hs j).perform hρ m hown hports).twin
  · have hmoved : Unmoved id s (s.perform m step).1 := perform_unmoved hj (hs j).isOf_left m hown
    exact (hs id).of_unmoved hmoved hmoved

theorem IsTwin.shutdown_self (hρ : BiUnique ρ) (hs : ∀ id, IsTwin settings ρ id s s) (m : Machine) (id : String) :
    IsTwin settings ρ id (s.shutdown m) (s.shutdown m) := by
  unfold shutdown
  generalize s.handles.keys = ids
  induction ids generalizing s with
  | nil => exact hs id
  | cons i ids ih =>
    have hown : (Step.stop i).owner? = some i := rfl
    exact ih (IsTwin.perform_self hρ hs m hown fun hasks => by cases hasks)

end Supervisor

end NotebookHost
