import NotebookHost.Supervisor.Sections
import Mathlib.Data.Nat.Notation
import Mathlib.Tactic.SplitIfs

/-!
What the monitors of a handle can do to it, whatever comes between the sections of an operation. Only the monitor of the
process that the handle records is heeded, so that the end of a process says nothing once somebody has taken it away.
-/

namespace NotebookHost

namespace Handle

/-- The handle does not heed the monitor of the generation now, and will not again. -/
def IsDeafTo (generation : ℕ) (h : Handle) : Prop :=
  generation ≤ h.generation ∧ (h.generation = generation → h.process = none)

inductive Touched (h : Handle) : Handle → Prop
  | kept : Touched h h
  | adopted (n : Notebook) : Touched h (h.adopt n)
  | taken : Touched h h.release
  | settled (status : Status) : Touched h (h.settle status)
  | launched {p : Process} (next : p.generation = h.generation + 1) : Touched h (h.launched p)
  | reported (status : Status) : Touched h { h with process := none, status }

theorem isDeafTo_of_lt {generation : ℕ} {h : Handle} (hlt : generation < h.generation) : h.IsDeafTo generation :=
  ⟨Nat.le_of_lt hlt, fun heq => by omega⟩

theorem isDeafTo_of_gone {generation : ℕ} {h : Handle} (hle : generation ≤ h.generation)
    (hgone : h.process = none) :
    h.IsDeafTo generation := ⟨hle, fun _ => hgone⟩

theorem heeds_of_gone {generation : ℕ} {h : Handle} (hgone : h.process = none) : h.heeds generation = false := by
  rw [heeds, hgone, Option.isSome_none, Bool.and_false]

theorem heeds_of_isDeafTo {generation : ℕ} {h : Handle} (hdeaf : h.IsDeafTo generation) :
    h.heeds generation = false := by
  by_cases heq : h.generation = generation
  · exact heeds_of_gone (hdeaf.2 heq)
  · rw [heeds, beq_eq_false_iff_ne.mpr heq, Bool.false_and]

theorem Touched.isDeafTo {h h' : Handle} (htouch : Touched h h') {generation : ℕ} (hdeaf : h.IsDeafTo generation) :
    h'.IsDeafTo generation := by
  cases htouch with
  | kept => exact hdeaf
  | adopted n => exact hdeaf
  | taken => exact ⟨hdeaf.1, fun _ => rfl⟩
  | settled status => exact hdeaf
  | @launched p next =>
    refine isDeafTo_of_lt ?_
    change generation < p.generation
    have := hdeaf.1
    omega
  | reported status => exact ⟨hdeaf.1, fun _ => rfl⟩

def IsUpToDate (h : Handle) : Prop := ∀ p, h.process = some p → p.generation = h.generation

theorem Touched.isUpToDate {h h' : Handle} (htouch : Touched h h') (hup : h.IsUpToDate) : h'.IsUpToDate := by
  cases htouch with
  | kept => exact hup
  | adopted n => exact hup
  | taken => exact fun p hp => by cases hp
  | settled status => exact hup
  | launched next =>
    intro q hq
    cases hq
    rfl
  | reported status => exact fun p hp => by cases hp

theorem exited_touched (generation : ℕ) (ending : Ending) (h : Handle) : Touched h (h.exited generation ending) := by
  unfold exited
  split_ifs
  · exact .reported ending.status
  · exact .kept

theorem signalled_touched (generation : ℕ) (h : Handle) : Touched h (h.signalled generation) := by
  unfold signalled
  split_ifs
  · exact .reported .stopped
  · exact .kept

theorem exited_of_not_heeds {generation : ℕ} {ending : Ending} {h : Handle} (hheeds : h.heeds generation = false) :
    h.exited generation ending = h := by
  rw [exited, hheeds]
  rfl

theorem signalled_of_not_heeds {generation : ℕ} {h : Handle} (hheeds : h.heeds generation = false) :
    h.signalled generation = h := by
  rw [signalled, hheeds]
  rfl

end Handle

namespace Monitor

def IsCalled (m : Monitor) : Prop := m.call ≠ .idle ∨ m.duty = .killing

structure ByItself (failed : Option String) (m m' : Monitor) : Prop where
  generation : m'.generation = m.generation
  called : m'.IsCalled → m.IsCalled
  answered : ∀ cause, m'.call = .answered (some cause) → m.call = .answered (some cause) ∨ failed = some cause

theorem ByItself.same {failed : Option String} {m m' : Monitor} (hgeneration : m'.generation = m.generation)
    (hcall : m'.call = m.call) (hduty : m'.duty = .killing → m.IsCalled) : ByItself failed m m' where
  generation := hgeneration
  called hcalled := hcalled.elim (fun h => .inl (by rwa [hcall] at h)) hduty
  answered cause h := .inl (by rwa [hcall] at h)

theorem turnTo_byItself {duty : Duty} (h : duty ≠ .killing) (m : Monitor) : ByItself none m (m.turnTo duty) where
  generation := rfl
  called hcalled := by
    refine .inl fun hidle => ?_
    rcases hcalled with hcall | hduty
    · simp [turnTo, hidle] at hcall
    · exact h hduty
  answered cause hcall := by
    unfold turnTo at hcall
    dsimp only at hcall
    split_ifs at hcall
    exact .inl hcall

theorem exit_byItself (ending : Ending) (m : Monitor) : ByItself none m (m.exit ending) := by
  unfold exit
  split_ifs <;> exact .same rfl rfl .inr

theorem bury_byItself (m : Monitor) : ByItself none m m.bury := by
  unfold bury
  split_ifs <;> exact .same rfl rfl .inr

theorem seeEnd_byItself (m : Monitor) : ByItself none m m.seeEnd := by
  unfold seeEnd
  split
  · exact turnTo_byItself (by simp) m
  · exact .same rfl rfl .inr

theorem accept_byItself (m : Monitor) : ByItself none m m.accept := by
  unfold accept
  split_ifs with hasked
  · refine .same rfl rfl fun _ => .inl ?_
    rw [hasked.2]
    decide
  · exact .same rfl rfl .inr

theorem kill_byItself (error : Option String) (m : Monitor) : ByItself error m (m.kill error) := by
  unfold kill
  by_cases hduty : m.duty = .killing
  · rw [if_pos hduty]
    refine ⟨?_, fun _ => .inr hduty, ?_⟩
    · dsimp only
      split_ifs
      · exact (bury_byItself m).generation
      · rfl
    · intro cause hcall
      cases hcall
      exact .inr rfl
  · rw [if_neg hduty]
    exact .same rfl rfl .inr

theorem seeSignal_byItself (m : Monitor) : ByItself none m m.seeSignal := by
  unfold seeSignal
  split_ifs
  · exact turnTo_byItself (by simp) m
  · exact .same rfl rfl .inr

theorem bury_call (m : Monitor) : m.bury.call = m.call := by
  unfold bury
  split_ifs <;> rfl

theorem quell_byItself (m : Monitor) : ByItself none m m.quell := by
  unfold quell
  split_ifs
  · exact .same (bury_byItself m).generation (bury_call m) fun h => by cases h
  · exact .same rfl rfl .inr

end Monitor

namespace Cell

def Move.monitor? : Move → Option ℕ
  | .exit g _ | .seeEnd g | .accept g | .kill g _ | .seeSignal g | .quell g | .report g => some g
  | _ => none

def Move.failed? : Move → Option String
  | .kill _ error => error
  | _ => none

theorem Move.eq_kill {move : Move} {g : ℕ} {cause : String} (hmonitor : move.monitor? = some g)
    (hfailed : move.failed? = some cause) : move = .kill g (some cause) := by
  cases move with
  | kill g' error =>
    cases hmonitor
    cases hfailed
    rfl
  | _ => cases hfailed

/-- What a move can do. Of the monitors' moves only reports touch the handle, and only if it heeds them. -/
inductive Turn (settings : LaunchSettings) (c : Cell) : Move → Cell → Prop
  | stayed {move : Move} : Turn settings c move c
  | undertook {op : Operation} (idle : c.stage = none) : Turn settings c (.undertake op) (c.goTo op.firstStage)
  | advanced (m : Machine) : Turn settings c (.advance m) (c.advance settings m)
  | signalled : Turn settings c .giveSignal { c with signal := c.signal.give }
  | watched {move : Move} {g : ℕ} {act : Monitor → Monitor} (of : move.monitor? = some g)
      (own : ∀ m, Monitor.ByItself move.failed? m (act m)) : Turn settings c move (c.onMonitor g act)
  | reported {g : ℕ} {touch : Handle → Handle} {act : Monitor → Monitor}
      (touched : ∀ h, Handle.Touched h (touch h))
      (ignored : ∀ h, h.heeds g = false → touch h = h) (own : ∀ m, Monitor.ByItself none m (act m)) :
      Turn settings c (.report g) ((c.onHandle touch).onMonitor g act)

theorem step_turn (settings : LaunchSettings) (c : Cell) (move : Move) :
    Turn settings c move (c.step settings move) := by
  cases move with
  | undertake op =>
    change Turn settings c _ (c.undertake op)
    unfold undertake
    split_ifs with hidle
    · exact .undertook (Option.isNone_iff_eq_none.mp hidle)
    · exact .stayed
  | advance m => exact .advanced m
  | giveSignal => exact .signalled
  | exit g ending => exact .watched rfl (Monitor.exit_byItself ending)
  | seeEnd g => exact .watched rfl Monitor.seeEnd_byItself
  | accept g => exact .watched rfl Monitor.accept_byItself
  | kill g error => exact .watched rfl (Monitor.kill_byItself error)
  | seeSignal g =>
    change Turn settings c _ (if c.signal = .given then c.onMonitor g .seeSignal else c)
    split_ifs
    · exact .watched rfl Monitor.seeSignal_byItself
    · exact .stayed
  | quell g => exact .watched rfl Monitor.quell_byItself
  | report g =>
    have hown (m : Monitor) : Monitor.ByItself none m (m.turnTo .released) := Monitor.turnTo_byItself (by decide) m
    change Turn settings c _ (c.report g)
    unfold report
    split
    · next ending _ =>
      exact .reported (Handle.exited_touched g ending) (fun h => Handle.exited_of_not_heeds) hown
    · exact .reported (Handle.signalled_touched g) (fun h => Handle.signalled_of_not_heeds) hown
    · exact .stayed

end Cell

namespace Stage

def taken? : Stage → Option Process
  | .ask p _ | .await p _ | .settle p _ _ => some p
  | _ => none

def goal? : Stage → Option Goal
  | .take goal | .ask _ goal | .await _ goal | .settle _ _ goal => some goal
  | _ => none

end Stage

namespace Cell

def taken? (c : Cell) : Option Process := c.stage.bind Stage.taken?

def goal? (c : Cell) : Option Goal := c.stage.bind Stage.goal?

inductive Passage (c : Cell) : Cell → Prop
  | waited (idle : c.stage = none ∨ ∃ p goal, c.stage = some (.await p goal)) : Passage c c
  | moved {h : Handle} {stage : Stage} (touched : Handle.Touched c.handle h) (free : stage.taken? = none)
      (launching : c.goal? ≠ some .rest) : Passage c { c with handle := h, stage := some stage }
  | took {p : Process} {goal : Goal} (stage : c.stage = some (.take goal)) (live : c.handle.process = some p) :
      Passage c ((c.onHandle .release).goTo (.ask p goal))
  | asked {p : Process} {goal : Goal} (stage : c.stage = some (.ask p goal)) :
      Passage c ((c.onMonitor p.generation .ask).goTo (.await p goal))
  | heard {p : Process} {goal : Goal} {error : Option String}
      (stage : c.stage = some (.ask p goal) ∨ c.stage = some (.await p goal))
      (answer : ∀ cause, error = some cause → c.call? p.generation = some (.answered (some cause))) :
      Passage c (c.goTo (.settle p error goal))
  | left {h : Handle} {r : Except Failure Unit} (touched : Handle.Touched c.handle h)
      (stopped : c.goal? = some .rest → r = .ok () → (∃ p, c.taken? = some p) ∧ h = c.handle.settle .stopped) :
      Passage c (({ c with handle := h } : Cell).leave r)
  | recorded {p : Process} (launching : c.goal? ≠ some .rest) (next : p.generation = c.handle.generation + 1) :
      Passage c
        (({ c with
          handle := c.handle.launched p
          monitors := c.monitors ++ [{ generation := p.generation }] } : Cell).leave (.ok ()))

theorem stopFailed_passage {c : Cell} {h : Handle} (touched : Handle.Touched c.handle h) {goal : Goal}
    (hgoal : c.goal? = some goal) (e : Failure) : Passage c (({ c with handle := h } : Cell).stopFailed goal e) := by
  cases goal with
  | rest => exact .left touched fun _ hr => by cases hr
  | launch => exact .moved touched rfl (by rw [hgoal]; decide)

theorem advance_passage (settings : LaunchSettings) (m : Machine) (c : Cell) : Passage c (c.advance settings m) := by
  unfold advance
  cases hstage : c.stage with
  | none => exact .waited (.inl hstage)
  | some stage =>
    have hgoal : c.goal? = stage.goal? := by rw [goal?, hstage]; rfl
    have htaken : c.taken? = stage.taken? := by rw [taken?, hstage]; rfl
    cases stage with
    | adopt n startIdle =>
      have hlaunching : c.goal? ≠ some .rest := by rw [hgoal]; simp [Stage.goal?]
      dsimp only
      unfold adopt
      dsimp only
      split_ifs
      · exact .moved (.adopted n) rfl hlaunching
      · exact .moved (.adopted n) rfl hlaunching
      · exact .left (.adopted n) fun h => absurd h hlaunching
    | take goal =>
      dsimp only
      unfold take
      split
      · exact stopFailed_passage .kept hgoal _
      · next p hlive => exact .took hstage hlive
    | ask p goal =>
      dsimp only
      unfold ask
      split_ifs
      · exact .asked hstage
      · exact .heard (.inl hstage) fun cause h => by cases h
    | await p goal =>
      dsimp only
      unfold await
      split
      · next error hcall => exact .heard (.inr hstage) fun cause h => by rw [hcall, h]
      · exact .heard (.inr hstage) fun cause h => by cases h
      · exact .waited (.inr ⟨p, goal, hstage⟩)
    | settle p error goal =>
      dsimp only
      unfold settle
      split
      · exact .left (.settled .stopped) fun _ _ => ⟨⟨p, htaken⟩, rfl⟩
      · exact .moved (.settled .stopped) rfl (by rw [hgoal]; simp [Stage.goal?])
      · exact stopFailed_passage (.settled .error) hgoal _
    | blame e => exact .left (.settled .error) fun h => by rw [hgoal] at h; cases h
    | check =>
      have hlaunching : c.goal? ≠ some .rest := by rw [hgoal]; simp [Stage.goal?]
      dsimp only
      unfold check
      split_ifs
      · exact .left .kept fun h => absurd h hlaunching
      · exact .moved .kept rfl hlaunching
    | guard n =>
      have hlaunching : c.goal? ≠ some .rest := by rw [hgoal]; simp [Stage.goal?]
      dsimp only
      unfold guard
      split_ifs
      · exact .moved .kept rfl hlaunching
      · exact .moved .kept rfl hlaunching
    | spawn n =>
      have hlaunching : c.goal? ≠ some .rest := by rw [hgoal]; simp [Stage.goal?]
      dsimp only
      unfold spawn
      split
      · exact .moved .kept rfl hlaunching
      · exact .moved .kept rfl hlaunching
    | refuse cause => exact .left (.settled .error) fun h => by rw [hgoal] at h; cases h
    | record n pid => exact .recorded (by rw [hgoal]; simp [Stage.goal?]) rfl

theorem Passage.touched {c c' : Cell} (h : Passage c c') : Handle.Touched c.handle c'.handle := by
  cases h with
  | waited _ => exact .kept
  | moved touched _ _ => exact touched
  | took _ _ => exact .taken
  | asked _ => exact .kept
  | heard _ _ => exact .kept
  | left touched _ => exact touched
  | recorded _ next => exact .launched next

theorem Passage.taken {c c' : Cell} (h : Passage c c') {p : Process} (htaken : c'.taken? = some p) :
    c.taken? = some p ∧ c'.handle = c.handle ∨ c.handle.process = some p ∧ c'.handle = c.handle.release := by
  cases h with
  | waited _ => exact .inl ⟨htaken, rfl⟩
  | moved _ free _ =>
    change Stage.taken? _ = some p at htaken
    rw [free] at htaken
    cases htaken
  | took _ live =>
    cases htaken
    exact .inr ⟨live, rfl⟩
  | asked stage =>
    rw [← htaken, taken?, stage]
    exact .inl ⟨rfl, rfl⟩
  | heard stage _ =>
    left
    rw [← htaken, taken?]
    rcases stage with stage | stage <;> rw [stage] <;> exact ⟨rfl, rfl⟩
  | left _ _ => cases htaken
  | recorded _ _ => cases htaken

theorem Turn.touched {settings : LaunchSettings} {c c' : Cell} {move : Move} (h : Turn settings c move c') :
    Handle.Touched c.handle c'.handle := by
  cases h with
  | advanced m => exact (advance_passage settings m c).touched
  | reported touched _ _ => exact touched c.handle
  | _ => exact .kept

theorem mem_onMonitor {c : Cell} {g : ℕ} {act : Monitor → Monitor} {failed : Option String}
    (own : ∀ m, Monitor.ByItself failed m (act m)) {m' : Monitor} (h : m' ∈ (c.onMonitor g act).monitors) :
    ∃ m ∈ c.monitors, Monitor.ByItself failed m m' ∧ (m' = m ∨ m'.generation = g) := by
  obtain ⟨m, hm, rfl⟩ := List.mem_map.mp h
  refine ⟨m, hm, ?_⟩
  split_ifs with hg
  · exact ⟨own m, .inr ((own m).generation.trans hg)⟩
  · exact ⟨.same rfl rfl .inr, .inl rfl⟩

/-- A taken process is on no record, and a monitor is called only when its process was taken. -/
structure IsCoherent (c : Cell) : Prop where
  upToDate : c.handle.IsUpToDate
  taken : ∀ {p : Process}, c.taken? = some p → c.handle.process = none ∧ p.generation ≤ c.handle.generation
  called : ∀ m ∈ c.monitors, m.IsCalled → c.handle.IsDeafTo m.generation

theorem Passage.isCoherent {c c' : Cell} (h : Passage c c') (hc : c.IsCoherent) : c'.IsCoherent := by
  have htouched := h.touched
  refine ⟨htouched.isUpToDate hc.upToDate, ?_, ?_⟩
  · intro p hp
    rcases h.taken hp with ⟨hbefore, hhandle⟩ | ⟨hlive, hhandle⟩
    · rw [hhandle]
      exact hc.taken hbefore
    · rw [hhandle]
      exact ⟨rfl, Nat.le_of_eq (hc.upToDate p hlive)⟩
  · intro m hm hcalled
    have hbefore (hm : m ∈ c.monitors) : c'.handle.IsDeafTo m.generation := htouched.isDeafTo (hc.called m hm hcalled)
    cases h with
    | @asked p goal stage =>
      obtain ⟨m, hmem, rfl⟩ := List.mem_map.mp hm
      split_ifs at hcalled ⊢ with hg
      · obtain ⟨hgone, hle⟩ := hc.taken (p := p) (by rw [taken?, stage]; rfl)
        change c.handle.IsDeafTo m.generation
        rw [hg]
        exact Handle.isDeafTo_of_gone hle hgone
      · exact hc.called m hmem hcalled
    | recorded _ _ =>
      rcases List.mem_append.mp hm with hm | hm
      · exact hbefore hm
      · rw [List.mem_singleton.mp hm] at hcalled
        rcases hcalled with hcall | hduty
        · exact absurd rfl hcall
        · cases hduty
    | _ => exact hbefore hm

theorem Turn.isCoherent {settings : LaunchSettings} {c c' : Cell} {move : Move} (h : Turn settings c move c')
    (hc : c.IsCoherent) : c'.IsCoherent := by
  cases h with
  | stayed => exact hc
  | @undertook op idle =>
    refine ⟨hc.upToDate, ?_, hc.called⟩
    intro p hp
    cases op <;> cases hp
  | advanced m => exact (advance_passage settings m c).isCoherent hc
  | signalled => exact ⟨hc.upToDate, hc.taken, hc.called⟩
  | watched _ own =>
    refine ⟨hc.upToDate, hc.taken, ?_⟩
    intro m' hm' hcalled
    obtain ⟨m, hm, hown, -⟩ := mem_onMonitor own hm'
    rw [hown.generation]
    exact hc.called m hm (hown.called hcalled)
  | @reported g touch act touched ignored own =>
    refine ⟨(touched c.handle).isUpToDate hc.upToDate, ?_, ?_⟩
    · intro p hp
      obtain ⟨hgone, hle⟩ := hc.taken hp
      change (touch c.handle).process = none ∧ p.generation ≤ (touch c.handle).generation
      rw [ignored c.handle (Handle.heeds_of_gone hgone)]
      exact ⟨hgone, hle⟩
    · intro m' hm' hcalled
      obtain ⟨m, hm, hown, -⟩ := mem_onMonitor (c := c.onHandle touch) own hm'
      rw [hown.generation]
      exact (touched c.handle).isDeafTo (hc.called m hm (hown.called hcalled))

def IsIndifferentTo (settings : LaunchSettings) (generation : ℕ) (c : Cell) : Prop :=
  ∀ move : Move, move.monitor? = some generation → (c.step settings move).handle = c.handle

theorem isIndifferentTo_of_isDeafTo (settings : LaunchSettings) {generation : ℕ} {c : Cell}
    (hdeaf : c.handle.IsDeafTo generation) : c.IsIndifferentTo settings generation := by
  intro move hmove
  have hturn := step_turn settings c move
  generalize c.step settings move = c' at hturn
  cases hturn with
  | reported _ ignored _ =>
    cases hmove
    exact ignored c.handle (Handle.heeds_of_isDeafTo hdeaf)
  | stayed => rfl
  | watched _ _ => rfl
  | _ => cases hmove

end Cell

end NotebookHost
