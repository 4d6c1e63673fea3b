import NotebookHost.Proofs.Supervisor.Processes
import NotebookHost.Proofs.Supervisor.Stopping

namespace NotebookHost

def Operation.outcome (m : Machine) (op : Operation) (h : Handle) (s : Supervisor) :
    Supervisor × Handle × Except Failure Unit :=
  match op with
  | .start => Supervisor.launchLocked m h s
  | .stop => Supervisor.stopLocked m h s
  | .update n => Supervisor.relaunchLocked m n false h s
  | .reload n => Supervisor.relaunchLocked m n true h s

theorem Monitor.ask_generation (m : Monitor) : m.ask.generation = m.generation := rfl

namespace Cell

def proceed (settings : LaunchSettings) (m : Machine) (c : Cell) : Cell :=
  match c.stage with
  | some (.await p _) => c.run settings [.accept p.generation, .kill p.generation m.killError, .advance m]
  | _ => c.advance settings m

inductive Leads (settings : LaunchSettings) (m : Machine) : Cell → Cell → Prop
  | here (c : Cell) : Leads settings m c c
  | next {c d e : Cell} (first : c.proceed settings m = d) (rest : Leads settings m d e) : Leads settings m c e

structure IsAttended (c : Cell) : Prop where
  upToDate : c.handle.IsUpToDate
  watched : ∀ p, c.handle.process = some p → c.monitor? p.generation = some { generation := p.generation }
  past : ∀ g ∈ c.monitors.map (·.generation), g ≤ c.handle.generation

structure Shows (signal : Signal) (h : Handle) (c : Cell) : Prop where
  idle : c.stage = none
  attended : c.IsAttended
  handle : c.handle = h
  signal : c.signal = signal

/-- An operation that `c` has undertaken is over at `d`, and its outcome is that of the supervisor. -/
structure Agrees (c : Cell) (outcome : Supervisor × Handle × Except Failure Unit) (d : Cell) : Prop extends
    Shows c.signal outcome.2.1 d where
  results : d.results = c.results ++ [outcome.2.2]

variable {settings : LaunchSettings} {m : Machine} {c d : Cell} {s : Supervisor}

theorem Leads.trans {e : Cell} (h : Leads settings m c d) (h' : Leads settings m d e) : Leads settings m c e := by
  induction h with
  | here c => exact h'
  | next first _ ih => exact .next first (ih h')

theorem Agrees.of_same {e : Cell} {outcome : Supervisor × Handle × Except Failure Unit} (h : e.Agrees outcome d)
    (hresults : e.results = c.results) (hsignal : e.signal = c.signal) : c.Agrees outcome d :=
  ⟨⟨h.idle, h.attended, h.handle, h.signal.trans hsignal⟩, hresults ▸ h.results⟩

theorem generations_onMonitor {g : ℕ} {act : Monitor → Monitor} (hact : ∀ m, (act m).generation = m.generation)
    (c : Cell) :
    (c.onMonitor g act).monitors.map (·.generation) = c.monitors.map (·.generation) := by
  rw [onMonitor, List.map_map]
  refine List.map_congr_left fun m _ => ?_
  dsimp only [Function.comp]
  split_ifs
  · exact hact m
  · rfl

theorem monitor?_generation {g : ℕ} {m : Monitor} (h : c.monitor? g = some m) : m.generation = g :=
  beq_iff_eq.mp (List.find?_some (p := fun m : Monitor => m.generation == g) h)

theorem monitor?_onMonitor_eq {g : ℕ} {act : Monitor → Monitor} (hact : ∀ m, (act m).generation = m.generation)
    (c : Cell) (g' : ℕ) :
    (c.onMonitor g act).monitor? g' = (c.monitor? g').map fun m => if m.generation = g then act m else m := by
  have hfind : ((fun m : Monitor => m.generation == g') ∘ fun m => if m.generation = g then act m else m) =
      fun m : Monitor => m.generation == g' := by
    funext m
    dsimp only [Function.comp]
    split_ifs
    · rw [hact m]
    · rfl
  unfold monitor? onMonitor
  rw [List.find?_map, hfind]

theorem monitor?_onMonitor {g : ℕ} {act : Monitor → Monitor} (hact : ∀ m, (act m).generation = m.generation)
    (c : Cell) :
    (c.onMonitor g act).monitor? g = (c.monitor? g).map act := by
  rw [monitor?_onMonitor_eq hact]
  exact Option.map_congr fun m hm => if_pos (monitor?_generation hm)

namespace IsAttended

theorem of_gone (hc : c.IsAttended) (hgone : d.handle.process = none)
    (hgeneration : d.handle.generation = c.handle.generation)
    (hmonitors : d.monitors.map (·.generation) = c.monitors.map (·.generation)) : d.IsAttended where
  upToDate p hp := by
    rw [hgone] at hp
    cases hp
  watched p hp := by
    rw [hgone] at hp
    cases hp
  past g hg := by
    rw [hmonitors] at hg
    rw [hgeneration]
    exact hc.past g hg

theorem opened (n : Notebook) (port : Port) (signal : Signal) : (Cell.opened n port signal).IsAttended where
  upToDate p hp := by cases hp
  watched p hp := by cases hp
  past g hg := by cases hg

theorem launched {p : Process} (hc : c.IsAttended) (hp : p.generation = c.handle.generation + 1)
    (hhandle : d.handle = c.handle.launched p)
    (hmonitors : d.monitors = c.monitors ++ [{ generation := p.generation }]) :
    d.IsAttended where
  upToDate := by
    rw [hhandle]
    exact (Handle.Touched.launched hp).isUpToDate hc.upToDate
  watched q hq := by
    rw [hhandle] at hq
    cases hq
    have hnew : c.monitor? p.generation = none := by
      refine List.find?_eq_none.mpr fun m hm heq => ?_
      have hpast := hc.past m.generation (List.mem_map_of_mem hm)
      have hsame := beq_iff_eq.mp heq
      omega
    unfold monitor? at hnew ⊢
    rw [hmonitors, List.find?_append, hnew]
    simp
  past g hg := by
    rw [hmonitors, List.map_append, List.mem_append] at hg
    rw [hhandle]
    change g ≤ p.generation
    rcases hg with hg | hg
    · have := hc.past g hg
      omega
    · exact Nat.le_of_eq (List.mem_singleton.mp hg)

end IsAttended

theorem spawn_of_error {n : Notebook} {cause : String}
    (h : m.start settings.program (settings.commandLine n c.handle.port) = .error cause) :
    c.spawn settings m n = c.goTo (.refuse cause) := by
  rw [spawn, h]

theorem spawn_of_ok {n : Notebook} {pid : ℕ}
    (h : m.start settings.program (settings.commandLine n c.handle.port) = .ok pid) :
    c.spawn settings m n = c.goTo (.record n pid) := by
  rw [spawn, h]

theorem launch_agrees (hc : c.IsAttended) (hstage : c.stage = some .check)
    (hsignal : s.signal = .given ↔ c.signal = .given) :
    ∃ d, Leads s.settings m c d ∧ c.Agrees (Supervisor.launchLocked m c.handle s) d := by
  obtain ⟨h, monitors, signal, stage, results⟩ := c
  cases hstage
  unfold Supervisor.launchLocked
  by_cases hlive : h.process.isSome = true
  · rw [if_pos hlive]
    refine ⟨_, .next (if_pos hlive) (.here _), ⟨rfl, ?_, rfl, rfl⟩, rfl⟩
    exact ⟨hc.upToDate, hc.watched, hc.past⟩
  · rw [if_neg hlive]
    have hgone := Option.not_isSome_iff_eq_none.mp hlive
    by_cases hgiven : s.signal = .given
    · rw [if_pos hgiven]
      refine ⟨_, .next (if_neg hlive) (.next (if_pos (hsignal.mp hgiven)) (.next rfl (.here _))),
        ⟨rfl, ?_, rfl, rfl⟩, rfl⟩
      exact hc.of_gone hgone rfl rfl
    · rw [if_neg hgiven]
      have hwaiting : signal ≠ .given := fun h => hgiven (hsignal.mpr h)
      dsimp only
      cases hstart : m.start s.settings.program (s.settings.commandLine h.notebook h.port) with
      | error cause =>
        have hspawn := spawn_of_error (c := ⟨h, monitors, signal, some (.spawn h.notebook), results⟩) hstart
        refine ⟨_, .next (if_neg hlive) (.next (if_neg hwaiting) (.next hspawn (.next rfl (.here _)))),
          ⟨rfl, ?_, rfl, rfl⟩, rfl⟩
        exact hc.of_gone hgone rfl rfl
      | ok pid =>
        have hspawn := spawn_of_ok (c := ⟨h, monitors, signal, some (.spawn h.notebook), results⟩) hstart
        refine ⟨_, .next (if_neg hlive) (.next (if_neg hwaiting) (.next hspawn (.next rfl (.here _)))),
          ⟨rfl, ?_, rfl, rfl⟩, rfl⟩
        exact hc.launched rfl rfl rfl

def dispatched (g : ℕ) (m : Machine) (c : Cell) : Cell :=
  ((c.onMonitor g .ask).onMonitor g .accept).onMonitor g (.kill m.killError)

theorem dispatched_generations (g : ℕ) (m : Machine) (c : Cell) :
    (c.dispatched g m).monitors.map (·.generation) = c.monitors.map (·.generation) := by
  unfold dispatched
  rw [generations_onMonitor fun m' => (Monitor.kill_byItself _ m').generation,
    generations_onMonitor fun m => (Monitor.accept_byItself m).generation, generations_onMonitor Monitor.ask_generation]

theorem dispatched_call? {g : ℕ} (m : Machine) (hwatched : c.monitor? g = some { generation := g }) :
    (c.dispatched g m).call? g = some (.answered m.killError) := by
  unfold dispatched call?
  rw [monitor?_onMonitor fun m' => (Monitor.kill_byItself _ m').generation,
    monitor?_onMonitor fun m => (Monitor.accept_byItself m).generation,
    monitor?_onMonitor Monitor.ask_generation, hwatched]
  rfl

theorem await_of_answered {p : Process} {error : Option String} (goal : Goal)
    (h : c.call? p.generation = some (.answered error)) : c.await p goal = c.goTo (.settle p error goal) := by
  rw [await, h]

structure HasKilled (m : Machine) (p : Process) (goal : Goal) (c d : Cell) : Prop where
  attended : d.IsAttended
  stage : d.stage = some (.settle p m.killError goal)
  handle : d.handle = c.handle.release
  results : d.results = c.results
  signal : d.signal = c.signal

theorem HasKilled.gone {p : Process} {goal : Goal} (h : HasKilled m p goal c d) : d.handle.process = none := by
  rw [h.handle]
  rfl

theorem take_leads (settings : LaunchSettings) (m : Machine) {p : Process} {goal : Goal} (hc : c.IsAttended)
    (hstage : c.stage = some (.take goal)) (hlive : c.handle.process = some p) :
    ∃ d, Leads settings m c d ∧ HasKilled m p goal c d := by
  have hwatched := hc.watched p hlive
  have htake : c.proceed settings m = (c.onHandle .release).goTo (.ask p goal) := by
    unfold proceed
    rw [hstage]
    exact advance_take m hstage hlive
  have hask : ((c.onHandle .release).goTo (.ask p goal)).isWatched p.generation = true := by
    change (c.monitor? p.generation).any (·.duty == .watching) = true
    rw [hwatched]
    rfl
  have hanswer := await_of_answered goal
    (dispatched_call? m (c := (c.onHandle .release).goTo (.await p goal)) hwatched)
  refine ⟨_, .next htake (.next (if_pos hask) (.next hanswer (.here _))), ?_, rfl, rfl, rfl, rfl⟩
  exact hc.of_gone rfl rfl (dispatched_generations p.generation m _)

theorem proceed_of_settle {p : Process} {error : Option String} {goal : Goal}
    (h : c.stage = some (.settle p error goal)) :
    c.proceed settings m = c.settle p error goal := by
  unfold proceed advance
  rw [h]

theorem proceed_of_take {goal : Goal} (h : c.stage = some (.take goal)) : c.proceed settings m = c.take goal := by
  unfold proceed advance
  rw [h]

theorem stopLocked_of_failed {cause : String} (hm : m.killError = some cause) {h : Handle} {p : Process}
    (hlive : h.process = some p) :
    Supervisor.stopLocked m h s = (s, h.release.settle .error, .error (.kill p.pid cause)) := by
  unfold Supervisor.stopLocked
  rw [hlive, hm]

theorem stop_agrees (hc : c.IsAttended) (hstage : c.stage = some (.take .rest)) :
    ∃ d, Leads settings m c d ∧ c.Agrees (Supervisor.stopLocked m c.handle s) d := by
  cases hlive : c.handle.process with
  | none =>
    rw [Supervisor.stopLocked_of_gone m hlive]
    have htake : c.proceed settings m = c.leave (.error (.notRunning c.handle.id)) := by
      rw [proceed_of_take hstage, take, hlive]
      rfl
    exact ⟨_, .next htake (.here _), ⟨rfl, hc.of_gone hlive rfl rfl, rfl, rfl⟩, rfl⟩
  | some p =>
    obtain ⟨d, hleads, hd⟩ := take_leads settings m hc hstage hlive
    have hsettle := hd.stage
    cases hkill : m.killError with
    | none =>
      rw [Supervisor.stopLocked_of_live hkill hlive]
      rw [hkill] at hsettle
      refine ⟨_, hleads.trans (.next (proceed_of_settle hsettle) (.here _)),
        ⟨rfl, hd.attended.of_gone hd.gone rfl rfl, ?_, hd.signal⟩, ?_⟩
      · exact congrArg (Handle.settle .stopped) hd.handle
      · exact congrArg (· ++ [.ok ()]) hd.results
    | some cause =>
      rw [stopLocked_of_failed hkill hlive]
      rw [hkill] at hsettle
      refine ⟨_, hleads.trans (.next (proceed_of_settle hsettle) (.here _)),
        ⟨rfl, hd.attended.of_gone hd.gone rfl rfl, ?_, hd.signal⟩, ?_⟩
      · exact congrArg (Handle.settle .error) hd.handle
      · exact congrArg (· ++ [.error (.kill p.pid cause)]) hd.results

theorem relaunch_agrees {n : Notebook} {startIdle : Bool} (hc : c.IsAttended)
    (hstage : c.stage = some (.adopt n startIdle)) (hsignal : s.signal = .given ↔ c.signal = .given) :
    ∃ d, Leads s.settings m c d ∧ c.Agrees (Supervisor.relaunchLocked m n startIdle c.handle s) d := by
  have hadopt : c.proceed s.settings m = c.adopt n startIdle := by
    unfold proceed advance
    rw [hstage]
  have hadopted (stage : Option Stage) : ({ c with handle := c.handle.adopt n, stage } : Cell).IsAttended :=
    ⟨hc.upToDate, hc.watched, hc.past⟩
  unfold Supervisor.relaunchLocked
  unfold adopt at hadopt
  dsimp only at hadopt ⊢
  cases hlive : c.handle.process with
  | none =>
    rw [hlive] at hadopt
    cases startIdle with
    | false => exact ⟨_, .next hadopt (.here _), ⟨rfl, (hadopted none).of_gone hlive rfl rfl, rfl, rfl⟩, rfl⟩
    | true =>
      obtain ⟨d, hleads, hagrees⟩ := launch_agrees (m := m) (hadopted (some .check)) rfl hsignal
      exact ⟨d, .next hadopt hleads, hagrees.of_same rfl rfl⟩
  | some p =>
    rw [hlive] at hadopt
    obtain ⟨d, hleads, hd⟩ := take_leads s.settings m (hadopted (some (.take .launch))) rfl hlive
    have hsettle := hd.stage
    have hadoptedLive : (c.handle.adopt n).process = some p := hlive
    rw [if_pos (Option.isSome_some)]
    cases hkill : m.killError with
    | none =>
      rw [Supervisor.stopLocked_of_live hkill hadoptedLive]
      rw [hkill] at hsettle
      let e : Cell := (d.onHandle (·.settle .stopped)).goTo .check
      have he : e.IsAttended := hd.attended.of_gone hd.gone rfl rfl
      have hhandle : e.handle = (c.handle.adopt n).release.settle .stopped :=
        congrArg (Handle.settle .stopped) hd.handle
      have hsame : e.signal = c.signal := hd.signal
      obtain ⟨f, hlaunch, hagrees⟩ := launch_agrees (s := s.bury p) (m := m) he rfl (by rwa [hsame])
      rw [hhandle] at hagrees
      refine ⟨f, .next hadopt (hleads.trans (.next (proceed_of_settle hsettle) hlaunch)), ?_⟩
      exact hagrees.of_same hd.results hsame
    | some cause =>
      rw [stopLocked_of_failed hkill hadoptedLive]
      rw [hkill] at hsettle
      -- The failure is settled twice, by the stop and by the launch that it keeps from coming.
      have hblame : ((d.onHandle (·.settle .error)).goTo (.blame (.kill p.pid cause))).proceed s.settings m =
          (d.onHandle fun h => (h.settle .error).settle .error).leave (.error (.kill p.pid cause)) := rfl
      refine ⟨_, .next hadopt (hleads.trans (.next (proceed_of_settle hsettle) (.next hblame (.here _)))),
        ⟨rfl, hd.attended.of_gone hd.gone rfl rfl, ?_, hd.signal⟩, ?_⟩
      · exact congrArg (fun h => (Handle.settle .error h).settle .error) hd.handle
      · exact congrArg (· ++ [.error (.kill p.pid cause)]) hd.results

theorem undertake_agrees {signal : Signal} {h : Handle} (hc : c.Shows signal h)
    (hsignal : s.signal = .given ↔ signal = .given) (m : Machine) (op : Operation) :
    ∃ d, Leads s.settings m (c.undertake op) d ∧ c.Agrees (op.outcome m h s) d := by
  obtain ⟨hidle, hattended, rfl, rfl⟩ := hc
  have hfirst : c.undertake op = c.goTo op.firstStage := by
    rw [undertake, hidle]
    rfl
  have hgo : (c.goTo op.firstStage).IsAttended := ⟨hattended.upToDate, hattended.watched, hattended.past⟩
  rw [hfirst]
  have hagrees : ∃ d, Leads s.settings m (c.goTo op.firstStage) d ∧
      (c.goTo op.firstStage).Agrees (op.outcome m (c.goTo op.firstStage).handle s) d := by
    cases op with
    | start => exact launch_agrees hgo rfl hsignal
    | stop => exact stop_agrees hgo rfl
    | update n => exact relaunch_agrees hgo rfl hsignal
    | reload n => exact relaunch_agrees hgo rfl hsignal
  obtain ⟨d, hleads, hd⟩ := hagrees
  exact ⟨d, hleads, hd.of_same rfl rfl⟩

section Reports

variable {signal : Signal} {h : Handle} {p : Process}

theorem heeds_of_live (hc : c.Shows signal h) (hlive : h.process = some p) : h.heeds p.generation = true := by
  obtain ⟨-, hattended, rfl, -⟩ := hc
  rw [Handle.heeds, hlive, hattended.upToDate p hlive, beq_self_eq_true]
  rfl

theorem report_shows {ms : List Monitor} {touch : Handle → Handle} (hc : c.Shows signal h)
    (hgenerations : ms.map (·.generation) = c.monitors.map (·.generation)) (status : Status)
    (htouch : touch h = { h with process := none, status }) :
    Shows signal (touch h)
      ((({ c with monitors := ms } : Cell).onHandle touch).onMonitor p.generation (.turnTo .released)) := by
  obtain ⟨hidle, hattended, rfl, hsignal⟩ := hc
  have hturn (m : Monitor) : (m.turnTo .released).generation = m.generation := rfl
  have hgone : (touch c.handle).process = none := by rw [htouch]
  have hgeneration : (touch c.handle).generation = c.handle.generation := by rw [htouch]
  exact ⟨hidle, hattended.of_gone hgone hgeneration ((generations_onMonitor hturn _).trans hgenerations),
    rfl, hsignal⟩

theorem exit_shows (hc : c.Shows signal h) (hlive : h.process = some p) (ending : Ending) :
    Shows signal (h.exited p.generation ending)
      (c.run settings [.exit p.generation ending, .seeEnd p.generation, .report p.generation]) := by
  let e : Cell := (c.onMonitor p.generation (.exit ending)).onMonitor p.generation .seeEnd
  have hexit (m : Monitor) := (Monitor.exit_byItself ending m).generation
  have hsee (m : Monitor) := (Monitor.seeEnd_byItself m).generation
  have hwatched := hc.attended.watched p (by rwa [hc.handle])
  have hduty : e.duty? p.generation = some (.reporting ending) := by
    rw [duty?, monitor?_onMonitor hsee, monitor?_onMonitor hexit, hwatched]
    rfl
  change Shows signal _ (e.report p.generation)
  rw [report, hduty]
  refine report_shows (c := c) hc ?_ ending.status ?_
  · exact (generations_onMonitor hsee _).trans (generations_onMonitor hexit c)
  · rw [Handle.exited, if_pos (heeds_of_live hc hlive)]

theorem signal_shows (hc : c.Shows .given h) (hlive : h.process = some p) :
    Shows .given (h.signalled p.generation)
      (c.run settings [.seeSignal p.generation, .quell p.generation, .report p.generation]) := by
  let e : Cell := (c.onMonitor p.generation .seeSignal).onMonitor p.generation .quell
  have hsee (m : Monitor) := (Monitor.seeSignal_byItself m).generation
  have hquell (m : Monitor) := (Monitor.quell_byItself m).generation
  have hwatched := hc.attended.watched p (by rwa [hc.handle])
  have hduty : e.duty? p.generation = some .clearing := by
    rw [duty?, monitor?_onMonitor hquell, monitor?_onMonitor hsee, hwatched]
    rfl
  have hseen : c.step settings (.seeSignal p.generation) = c.onMonitor p.generation .seeSignal := if_pos hc.signal
  change Shows .given _
    (((c.step settings (.seeSignal p.generation)).onMonitor p.generation .quell).report p.generation)
  rw [hseen]
  change Shows .given _ (e.report p.generation)
  rw [report, hduty]
  refine report_shows (c := c) hc ?_ .stopped ?_
  · exact (generations_onMonitor hquell _).trans (generations_onMonitor hsee c)
  · rw [Handle.signalled, if_pos (heeds_of_live hc hlive)]

end Reports

end Cell

end NotebookHost
