import NotebookHost.Proofs.Supervisor.Seats

namespace NotebookHost

structure Process.RunsFor (settings : LaunchSettings) (h : Handle) (p : Process) : Prop where
  id : p.id = h.id
  port : p.port = h.port
  generation : p.generation = h.generation
  args : p.args = settings.commandLine h.notebook h.port

/-- A handle between two operations, with the live processes of its id. -/
inductive Handle.IsAtRest (settings : LaunchSettings) (id : String) : Option Handle → List Process → Prop
  | absent : IsAtRest settings id none []
  | idle {h : Handle} (keyed : h.id = id) (gone : h.process = none)
      (ended : h.status = .stopped ∨ h.status = .error) :
      IsAtRest settings id (some h) []
  | running {h : Handle} {p : Process} (keyed : h.id = id) (live : h.process = some p) (status : h.status = .running)
      (runs : p.RunsFor settings h) : IsAtRest settings id (some h) [p]

namespace Supervisor

open Handle

def processesOf (s : Supervisor) (id : String) : List Process := s.alive.filter (·.id == id)

def IsTidyAt (s : Supervisor) (id : String) : Prop := IsAtRest s.settings id s.handles[id]? (s.processesOf id)

def IsTidy (s : Supervisor) : Prop := ∀ id, s.IsTidyAt id

structure Settled (s s' : Supervisor) (id : String) (h : Handle) : Prop where
  table : SameTable s s'
  others : ∀ i, i ≠ id → s'.processesOf i = s.processesOf i
  rest : IsAtRest s.settings id (some h) (s'.processesOf id)

theorem keyed_of_rest {settings : LaunchSettings} {id : String} {h : Handle} {ps : List Process}
    (hrest : IsAtRest settings id (some h) ps) : h.id = id := by
  cases hrest with
  | idle keyed _ _ => exact keyed
  | running keyed _ _ _ => exact keyed

theorem mem_processesOf {s : Supervisor} {id : String} {p : Process} :
    p ∈ s.processesOf id ↔ p ∈ s.alive ∧ p.id = id := by
  rw [processesOf, List.mem_filter, beq_iff_eq]

theorem processesOf_bury (p : Process) (s : Supervisor) (id : String) :
    (s.bury p).processesOf id = (s.processesOf id).filter (· != p) := List.filter_comm _ _ _

theorem processesOf_bury_other {p : Process} {s : Supervisor} {id : String} (h : id ≠ p.id) :
    (s.bury p).processesOf id = s.processesOf id := by
  rw [processesOf_bury, List.filter_eq_self]
  intro q hq
  rw [bne_iff_ne]
  rintro rfl
  exact h (mem_processesOf.mp hq).2.symm

theorem processesOf_bury_own {p : Process} {s : Supervisor} {id : String} (h : s.processesOf id = [p]) :
    (s.bury p).processesOf id = [] := by
  rw [processesOf_bury, h, List.filter_cons_of_neg (by simp), List.filter_nil]

theorem launchLocked_settled (m : Machine) {s : Supervisor} {id : String} {h : Handle} (hid : h.id = id)
    (hgone : h.process = none) (hnone : s.processesOf id = []) :
    Settled s (launchLocked m h s).1 id (launchLocked m h s).2.1 := by
  have hfail (e : Failure) : Settled s s id (h.settle .error) := by
    refine ⟨.refl s, fun _ _ => rfl, ?_⟩
    rw [hnone]
    exact .idle hid hgone (.inr rfl)
  unfold launchLocked
  rw [if_neg (by rw [hgone]; decide)]
  split_ifs with hsignal
  · exact hfail (.launch h.id "")
  · dsimp only
    split
    · exact hfail (.launch h.id "")
    · next pid _ =>
      let p : Process := ⟨pid, h.id, h.port, h.generation + 1, s.settings.commandLine h.notebook h.port⟩
      have hprocesses (i : String) : (s.alive ++ [p]).filter (·.id == i) =
          s.processesOf i ++ [p].filter (·.id == i) :=
        List.filter_append _ _
      refine ⟨⟨rfl, rfl, rfl, rfl⟩, ?_, ?_⟩
      · intro i hi
        rw [processesOf, hprocesses, List.filter_cons_of_neg, List.filter_nil, List.append_nil]
        rw [beq_iff_eq]
        exact fun h' => hi (h'.symm.trans hid)
      · rw [processesOf, hprocesses, hnone, List.nil_append, List.filter_cons_of_pos, List.filter_nil]
        · exact .running hid rfl rfl ⟨rfl, rfl, rfl, rfl⟩
        · rw [beq_iff_eq]
          exact hid

theorem launchLocked_rest (m : Machine) {s : Supervisor} {id : String} {h : Handle}
    (hrest : IsAtRest s.settings id (some h) (s.processesOf id)) :
    Settled s (launchLocked m h s).1 id (launchLocked m h s).2.1 := by
  generalize hps : s.processesOf id = ps at hrest
  cases hrest with
  | idle keyed gone _ => exact launchLocked_settled m keyed gone hps
  | running keyed live status runs =>
    have hlive : h.process.isSome = true := by rw [live]; rfl
    unfold launchLocked
    rw [if_pos hlive]
    refine ⟨.refl s, fun _ _ => rfl, ?_⟩
    rw [hps]
    exact .running keyed live status runs

theorem stopLocked_of_live {m : Machine} (hm : m.killError = none) {s : Supervisor} {h : Handle} {p : Process}
    (hlive : h.process = some p) : stopLocked m h s = (s.bury p, h.release.settle .stopped, .ok ()) := by
  unfold stopLocked
  rw [hlive, hm]

theorem stopLocked_of_gone (m : Machine) {s : Supervisor} {h : Handle} (hgone : h.process = none) :
    stopLocked m h s = (s, h, .error (.notRunning h.id)) := by
  unfold stopLocked
  rw [hgone]

theorem bury_settled {s : Supervisor} {id : String} {h : Handle} {p : Process} (hid : h.id = id)
    (hgone : h.process = none) (hended : h.status = .stopped ∨ h.status = .error) (hp : p.id = id)
    (hps : s.processesOf id = [p]) : Settled s (s.bury p) id h := by
  refine ⟨⟨rfl, rfl, rfl, rfl⟩, fun i hi => processesOf_bury_other (by rwa [hp]), ?_⟩
  rw [processesOf_bury_own hps]
  exact .idle hid hgone hended

theorem stopLocked_rest {m : Machine} (hm : m.killError = none) {s : Supervisor} {id : String} {h : Handle}
    (hrest : IsAtRest s.settings id (some h) (s.processesOf id)) :
    Settled s (stopLocked m h s).1 id (stopLocked m h s).2.1 := by
  generalize hps : s.processesOf id = ps at hrest
  cases hrest with
  | idle keyed gone ended =>
    rw [stopLocked_of_gone m gone]
    refine ⟨.refl s, fun _ _ => rfl, ?_⟩
    rw [hps]
    exact .idle keyed gone ended
  | running keyed live _ runs =>
    rw [stopLocked_of_live hm live]
    exact bury_settled keyed rfl (.inl rfl) (runs.id.trans keyed) hps

theorem stopLocked_processesOf {m : Machine} (hm : m.killError = none) {s : Supervisor} {id : String} {h : Handle}
    (hrest : IsAtRest s.settings id (some h) (s.processesOf id)) : (stopLocked m h s).1.processesOf id = [] := by
  generalize hps : s.processesOf id = ps at hrest
  cases hrest with
  | idle _ gone _ =>
    rw [stopLocked_of_gone m gone]
    exact hps
  | running _ live _ _ =>
    rw [stopLocked_of_live hm live]
    exact processesOf_bury_own hps

theorem Settled.trans {s s' s'' : Supervisor} {id : String} {h h' : Handle} (hs : Settled s s' id h)
    (hs' : Settled s' s'' id h') : Settled s s'' id h' where
  table := hs.table.trans hs'.table
  others i hi := (hs'.others i hi).trans (hs.others i hi)
  rest := by
    rw [← hs.table.settings]
    exact hs'.rest

theorem relaunchLocked_rest {m : Machine} (hm : m.killError = none) (n : Notebook) (startIdle : Bool) {s : Supervisor}
    {id : String} {h : Handle} (hrest : IsAtRest s.settings id (some h) (s.processesOf id)) :
    Settled s (relaunchLocked m n startIdle h s).1 id (relaunchLocked m n startIdle h s).2.1 := by
  generalize hps : s.processesOf id = ps at hrest
  unfold relaunchLocked
  dsimp only
  cases hrest with
  | idle keyed gone ended =>
    rw [if_neg (by rw [gone]; decide)]
    split_ifs
    · exact launchLocked_settled m (h := h.adopt n) keyed gone hps
    · have hstatus : (h.adopt n).status = h.status := by rw [adopt, gone]; rfl
      refine ⟨.refl s, fun _ _ => rfl, ?_⟩
      rw [hps]
      exact .idle (h := h.adopt n) keyed gone (by rwa [hstatus])
  | @running h p keyed live _ runs =>
    have hlive : (h.adopt n).process = some p := live
    rw [if_pos (by rw [live]; rfl), stopLocked_of_live hm hlive]
    have hstopped : Settled s (s.bury p) id ((h.adopt n).release.settle .stopped) :=
      bury_settled keyed rfl (.inl rfl) (runs.id.trans keyed) hps
    exact hstopped.trans (launchLocked_settled m (h := (h.adopt n).release.settle .stopped) keyed rfl
      (processesOf_bury_own hps))

theorem Settled.isTidy {s s' : Supervisor} {id : String} {h : Handle} (hsettled : Settled s s' id h)
    (hs : ∀ i, i ≠ id → s.IsTidyAt i) : (s'.setHandle h).IsTidy := by
  intro i
  have hkeyed := keyed_of_rest hsettled.rest
  unfold IsTidyAt
  rw [getElem?_setHandle, hkeyed]
  change IsAtRest s'.settings i _ (s'.processesOf i)
  rw [hsettled.table.settings]
  by_cases hi : i = id
  · rw [if_pos hi, hi]
    exact hsettled.rest
  · rw [if_neg hi, hsettled.others i hi, hsettled.table.handles]
    exact hs i hi

namespace IsTidy

variable {s : Supervisor} (hs : s.IsTidy)
include hs

theorem rest {id : String} {h : Handle} (hfound : s.handles[id]? = some h) :
    IsAtRest s.settings id (some h) (s.processesOf id) := by
  have h := hs id
  rwa [IsTidyAt, hfound] at h

theorem processesOf_unknown {id : String} (hfound : s.handles[id]? = none) : s.processesOf id = [] := by
  have h := hs id
  rw [IsTidyAt, hfound] at h
  generalize s.processesOf id = ps at h
  cases h
  rfl

theorem handle_of_alive {p : Process} (hp : p ∈ s.alive) :
    ∃ h, s.handles[p.id]? = some h ∧ h.process = some p ∧ p.RunsFor s.settings h ∧
      s.processesOf p.id = [p] := by
  have hmem : p ∈ s.processesOf p.id := mem_processesOf.mpr ⟨hp, rfl⟩
  have h := hs p.id
  unfold IsTidyAt at h
  generalize hps : s.processesOf p.id = ps at h hmem
  generalize s.handles[p.id]? = found at h
  cases h with
  | absent => cases hmem
  | idle _ _ _ => cases hmem
  | @running h q _ live _ runs =>
    rw [List.mem_singleton.mp hmem] at *
    exact ⟨h, rfl, live, runs, rfl⟩

theorem start (m : Machine) (id : String) : (s.start m id).1.IsTidy := by
  unfold Supervisor.start
  split
  · exact hs
  · next h hfind => exact (launchLocked_rest m (hs.rest (find_eq_ok_iff.mp hfind))).isTidy fun i _ => hs i

theorem react {p : Process} (hp : p ∈ s.alive) {act : Handle → Handle} (status : Status)
    (hact : ∀ h, h.heeds p.generation = true → act h = { h with process := none, status })
    (hended : status = .stopped ∨ status = .error) : ((s.bury p).react p act).IsTidy := by
  obtain ⟨h, hfound, hlive, hruns, hps⟩ := hs.handle_of_alive hp
  have hheeds : h.heeds p.generation = true := by
    rw [heeds, hlive, hruns.generation, beq_self_eq_true]
    rfl
  have hfound' : (s.bury p).handles[p.id]? = some h := hfound
  unfold Supervisor.react
  rw [hfound']
  dsimp only
  rw [if_pos hruns.port.symm, hact h hheeds]
  have hsettled := bury_settled (h := { h with process := none, status }) hruns.id.symm rfl hended rfl hps
  exact hsettled.isTidy fun i _ => hs i

theorem exit (p : Process) (ending : Ending) : (s.exit p ending).IsTidy := by
  unfold Supervisor.exit
  split_ifs with hp
  · apply hs.react (List.contains_iff_mem.mp hp) ending.status
    · intro h hheeds
      rw [exited, if_pos hheeds]
    · cases ending
      · exact .inl rfl
      · exact .inr rfl
  · exact hs

theorem heedSignal (p : Process) : (s.heedSignal p).IsTidy := by
  unfold Supervisor.heedSignal
  split_ifs with hp
  · apply hs.react hp.2 .stopped
    · intro h hheeds
      rw [signalled, if_pos hheeds]
    · exact .inl rfl
  · exact hs

variable {m : Machine} (hm : m.killError = none)
include hm

theorem stop (id : String) : (s.stop m id).1.IsTidy := by
  unfold Supervisor.stop
  split
  · exact hs
  · next h hfind => exact (stopLocked_rest hm (hs.rest (find_eq_ok_iff.mp hfind))).isTidy fun i _ => hs i

theorem reload (n : Notebook) : (s.reload m n).1.IsTidy := by
  unfold Supervisor.reload
  split
  · exact hs
  · next h hfind => exact (relaunchLocked_rest hm n true (hs.rest (find_eq_ok_iff.mp hfind))).isTidy fun i _ => hs i

theorem takeOver (n : Notebook) : (s.takeOver m n).IsTidy := by
  cases hfound : s.handles[n.id]? with
  | some h =>
    rw [takeOver_known m hfound]
    exact (relaunchLocked_rest hm n false (hs.rest hfound)).isTidy fun i _ => hs i
  | none =>
    rw [takeOver_unknown m hfound]
    split
    · exact hs
    · next port _ =>
      -- The new handle is at rest only after its start.
      let s' : Supervisor := ({ s with counter := s.counter + 1 } : Supervisor).setHandle (.ofNotebook n port)
      have hget (i : String) : s'.handles[i]? = if i = n.id then some (.ofNotebook n port) else s.handles[i]? :=
        getElem?_setHandle _ _ i
      have hfind : s'.find n.id = .ok (.ofNotebook n port) := find_eq_ok_iff.mpr (by rw [hget, if_pos rfl])
      have hothers (i : String) (hi : i ≠ n.id) : s'.IsTidyAt i := by
        unfold IsTidyAt
        rw [hget, if_neg hi]
        exact hs i
      change (s'.start m n.id).1.IsTidy
      unfold Supervisor.start
      rw [hfind]
      have hsettled :=
        launchLocked_settled m (s := s') (h := .ofNotebook n port) rfl rfl (hs.processesOf_unknown hfound)
      exact hsettled.isTidy hothers

theorem remove (id : String) : (s.remove m id).IsTidy := by
  unfold Supervisor.remove
  split
  · exact hs
  · next h hfound =>
    let s' : Supervisor := { s with handles := s.handles.erase id }
    have hget (i : String) : s'.handles[i]? = if i = id then none else s.handles[i]? := by
      simp only [s', Std.TreeMap.getElem?_erase, Std.LawfulEqCmp.compare_eq_iff_eq, eq_comm (a := i)]
    have hrest : IsAtRest s'.settings id (some h) (s'.processesOf id) := hs.rest hfound
    have hsettled := stopLocked_rest hm hrest
    intro i
    unfold IsTidyAt
    rw [hsettled.table.handles, hsettled.table.settings, hget]
    by_cases hi : i = id
    · rw [if_pos hi, hi, stopLocked_processesOf hm hrest]
      exact .absent
    · rw [if_neg hi, hsettled.others i hi]
      exact hs i

theorem follow (e : Event) : (s.follow m e).IsTidy := by
  obtain ⟨change, n⟩ := e
  cases change with
  | added => exact hs.takeOver hm n
  | updated => exact hs.takeOver hm n
  | deleted => exact hs.remove hm n.id

theorem shutdown : (s.shutdown m).IsTidy := by
  unfold Supervisor.shutdown
  generalize s.handles.keys = ids
  induction ids generalizing s with
  | nil => exact hs
  | cons id ids ih => exact ih (hs.stop hm id)

theorem perform (step : Step) : (s.perform m step).1.IsTidy := by
  cases step with
  | follow e => exact hs.follow hm e
  | start id => exact hs.start m id
  | stop id => exact hs.stop hm id
  | reload n => exact hs.reload hm n
  | shutdown => exact hs.shutdown hm
  | exit id ending => exact onProcess_induction (motive := IsTidy) hs fun p _ _ => hs.exit p ending
  | giveSignal => exact hs
  | loseSignal => exact hs
  | heedSignal id => exact onProcess_induction (motive := IsTidy) hs fun p _ _ => hs.heedSignal p

end IsTidy

theorem fresh_isTidy (settings : LaunchSettings) (ports : PortRange) : (fresh settings ports).IsTidy := by
  intro id
  have hhandles : (fresh settings ports).handles[id]? = none := by simp [fresh]
  rw [IsTidyAt, hhandles]
  exact .absent

end Supervisor

end NotebookHost
