import NotebookHost.Proofs.Supervisor.Signal
import NotebookHost.Proofs.Supervisor.Watch

namespace NotebookHost

namespace Monitor

/-- The process is alive, its monitor is not about to kill it on the signal, and has not tried to kill it in vain. -/
def IsAtLarge (m : Monitor) : Prop :=
  m.vital = .alive ∧ m.duty ≠ .quelling ∧ ∀ cause, m.call ≠ .answered (some cause)

inductive IsSound (m : Monitor) : Prop
  | watching (duty : m.duty = .watching) (call : m.call = .idle ∨ m.call = .asked)
  | killing (duty : m.duty = .killing) (call : m.call = .asked)
  | finished (captive : ¬ m.IsAtLarge) (call : m.call ≠ .asked)

theorem turnTo_call (duty : Duty) (m : Monitor) : (m.turnTo duty).call ≠ .asked := by
  unfold turnTo
  dsimp only
  split_ifs with h
  · simp
  · exact h

theorem IsSound.not_isAtLarge {m : Monitor} (h : m.IsSound) (hduty : m.duty ≠ .watching) (hcalled : ¬ m.IsCalled) :
    ¬ m.IsAtLarge := by
  cases h with
  | watching duty _ => exact absurd duty hduty
  | killing duty _ => exact absurd (.inr duty) hcalled
  | finished captive _ => exact captive

theorem IsSound.not_isAtLarge_of_told {m : Monitor} (h : m.IsSound)
    (htold : m.call = .dropped ∨ ∃ error, m.call = .answered error) : ¬ m.IsAtLarge := by
  cases h with
  | watching _ call => rcases call with call | call <;> simp [call] at htold
  | killing _ call => simp [call] at htold
  | finished captive _ => exact captive

end Monitor

namespace Cell.Move

variable {move : Move} {signal : Signal} {m : Monitor}

theorem act_isAtLarge (h : (move.act signal m).IsAtLarge) : m.IsAtLarge := by
  have hacted := move.act_acted signal m
  generalize move.act signal m = m' at hacted h
  obtain ⟨hvital, hduty, hcall⟩ := h
  cases hacted with
  | same => exact ⟨hvital, hduty, hcall⟩
  | ended _ _ => cases hvital
  | saw _ vital => cases vital.symm.trans hvital
  | accepted duty call => exact ⟨hvital, by simp [duty], by simp [call]⟩
  | killed _ => exact absurd hvital (Monitor.bury_vital m)
  | spared _ _ => exact absurd rfl (hcall _)
  | heeded _ _ => exact absurd rfl hduty
  | quelled _ => exact absurd hvital (Monitor.bury_vital m)
  | told duty =>
    refine ⟨hvital, ?_, ?_⟩
    · rcases duty with duty | ⟨ending, duty⟩ <;> simp [duty]
    · intro cause hanswered
      have hsame := Monitor.turnTo_call_of_ne (m := m) (by simp [hanswered]) .released
      exact hcall cause (hsame.trans hanswered)

theorem act_not_asked (h : m.call ≠ .asked) : (move.act signal m).call ≠ .asked := by
  have hacted := move.act_acted signal m
  generalize move.act signal m = m' at hacted
  cases hacted with
  | saw _ _ => exact Monitor.turnTo_call _ m
  | heeded _ _ => exact Monitor.turnTo_call _ m
  | told _ => exact Monitor.turnTo_call _ m
  | killed _ => simp
  | spared _ _ => simp
  | quelled _ => exact m.bury_call.symm ▸ h
  | _ => exact h

theorem act_isSound (h : m.IsSound) : (move.act signal m).IsSound := by
  cases h with
  | finished captive call => exact .finished (fun hlarge => captive (act_isAtLarge hlarge)) (act_not_asked call)
  | watching duty call =>
    have hacted := move.act_acted signal m
    generalize move.act signal m = m' at hacted
    cases hacted with
    | same => exact .watching duty call
    | ended _ _ => exact .watching duty call
    | saw _ vital => exact .finished (fun hlarge => by cases vital.symm.trans hlarge.1) (Monitor.turnTo_call _ m)
    | accepted _ asked => exact .killing rfl asked
    | heeded _ _ => exact .finished (fun hlarge => hlarge.2.1 rfl) (Monitor.turnTo_call _ m)
    | killed other => cases duty.symm.trans other
    | spared other _ => cases duty.symm.trans other
    | quelled other => cases duty.symm.trans other
    | told other => rcases other with other | ⟨ending, other⟩ <;> cases duty.symm.trans other
  | killing duty call =>
    have hacted := move.act_acted signal m
    generalize move.act signal m = m' at hacted
    cases hacted with
    | same => exact .killing duty call
    | ended _ _ => exact .killing duty call
    | killed _ => exact .finished (fun hlarge => Monitor.bury_vital m hlarge.1) (by simp)
    | spared _ _ => exact .finished (fun hlarge => hlarge.2.2 _ rfl) (by simp)
    | saw other _ => cases duty.symm.trans other
    | accepted other _ => cases duty.symm.trans other
    | heeded other _ => cases duty.symm.trans other
    | quelled other => cases duty.symm.trans other
    | told other => rcases other with other | ⟨ending, other⟩ <;> cases duty.symm.trans other

theorem act_quelling (h : (move.act signal m).duty = .quelling) : m.duty = .quelling ∨ signal = .given := by
  have hacted := move.act_acted signal m
  generalize move.act signal m = m' at hacted h
  cases hacted with
  | same => exact .inl h
  | ended _ _ => exact .inl h
  | heeded _ given => exact .inr given
  | _ => cases h

end Cell.Move

namespace Stage

def held? : Stage → Option Process
  | .ask p _ | .await p _ => some p
  | _ => none

def isLaunching : Stage → Bool
  | .guard _ | .spawn _ | .refuse _ | .record _ _ => true
  | _ => false

end Stage

namespace Cell

def held? (c : Cell) : Option Process := c.stage.bind Stage.held?

def Holds (c : Cell) (g : ℕ) : Prop :=
  ∃ p : Process, p.generation = g ∧ (c.handle.process = some p ∨ c.held? = some p)

/-- Every process at large is held, and no operation launches one over another. -/
structure IsAccounted (c : Cell) : Prop where
  sound : ∀ {g : ℕ} {m : Monitor}, c.monitor? g = some m → m.IsSound
  signalled : ∀ {g : ℕ} {m : Monitor}, c.monitor? g = some m → m.duty = .quelling → c.signal = .given
  held : ∀ {g : ℕ} {m : Monitor}, c.monitor? g = some m → m.IsAtLarge → c.Holds g
  uncalled : ∀ {p : Process} {goal : Goal}, c.stage = some (.ask p goal) →
    ∀ m, c.monitor? p.generation = some m → ¬ m.IsCalled
  vacant : ∀ {s : Stage}, c.stage = some s → s.isLaunching = true → c.handle.process = none

variable {settings : LaunchSettings} {c d : Cell} {move : Move}

theorem opened_isAccounted (n : Notebook) (port : Port) (signal : Signal) : (opened n port signal).IsAccounted where
  sound h := by cases h
  signalled h := by cases h
  held h := by cases h
  uncalled h := by cases h
  vacant h := by cases h

theorem not_isCalled_of_heeded (hc : c.IsCoherent) {g : ℕ} {m : Monitor} (hm : c.monitor? g = some m)
    (hheeds : c.handle.heeds g = true) : ¬ m.IsCalled := by
  intro hcalled
  have hdeaf := hc.called m (List.mem_of_find?_eq_some hm) hcalled
  rw [monitor?_generation hm] at hdeaf
  rw [Handle.heeds_of_isDeafTo hdeaf] at hheeds
  cases hheeds

theorem heeds_of_recorded (hc : c.IsCoherent) {p : Process} (hlive : c.handle.process = some p) :
    c.handle.heeds p.generation = true := by
  rw [Handle.heeds, hlive, hc.upToDate p hlive, beq_self_eq_true]
  rfl

namespace IsAccounted

variable (hc : c.IsAccounted)
include hc

theorem observed (hcoherent : c.IsCoherent) {g : ℕ} (hmove : move.monitor? = some g) :
    (c.step settings move).IsAccounted := by
  have h := step_observes settings c hmove
  refine ⟨?_, ?_, ?_, ?_, ?_⟩
  · intro g' m' hm'
    obtain ⟨m, hm, rfl⟩ := h.monitor?_eq_some_iff.mp hm'
    split_ifs
    · exact Move.act_isSound (hc.sound hm)
    · exact hc.sound hm
  · intro g' m' hm' hquelling
    rw [h.signal]
    obtain ⟨m, hm, rfl⟩ := h.monitor?_eq_some_iff.mp hm'
    split_ifs at hquelling
    · exact (Move.act_quelling hquelling).elim (hc.signalled hm) fun hgiven => hgiven
    · exact hc.signalled hm hquelling
  · intro g' m' hm' hlarge
    obtain ⟨m, hm, rfl⟩ := h.monitor?_eq_some_iff.mp hm'
    have hbefore : m.IsAtLarge := by
      split_ifs at hlarge
      · exact Move.act_isAtLarge hlarge
      · exact hlarge
    obtain ⟨p, rfl, hlive | hheld⟩ := hc.held hm hbefore
    · rcases h.handle with hsame | ⟨hheeds, hduty, -⟩
      · exact ⟨p, rfl, .inl (by rw [hsame, hlive])⟩
      · -- What the monitor of the recorded process tells is that this one is not at large.
        have hg : p.generation = g := by
          rw [Handle.heeds, Bool.and_eq_true, beq_iff_eq] at hheeds
          rw [hcoherent.upToDate p hlive, hheeds.1]
        have hwatching : m.duty ≠ .watching := fun hw => hduty (by rw [← hg, duty?, hm, Option.map_some, hw])
        have hcalled := not_isCalled_of_heeded hcoherent hm (heeds_of_recorded hcoherent hlive)
        exact absurd hbefore ((hc.sound hm).not_isAtLarge hwatching hcalled)
    · exact ⟨p, rfl, .inr (by rw [held?, h.stage]; exact hheld)⟩
  · intro p goal hstage m' hm'
    obtain ⟨m, hm, rfl⟩ := h.monitor?_eq_some_iff.mp hm'
    have hbefore := hc.uncalled (h.stage.symm.trans hstage) m hm
    split_ifs
    · exact fun hcalled => hbefore ((move.act_byItself c.signal m).called hcalled)
    · exact hbefore
  · intro s hstage hlaunching
    have hgone := hc.vacant (h.stage.symm.trans hstage) hlaunching
    rw [h.kept_of_gone hgone, hgone]

theorem goOn (hmonitors : d.monitors = c.monitors) (hsignal : d.signal = c.signal)
    (hprocess : d.handle.process = c.handle.process)
    (hheld : ∀ p, c.held? = some p → ∀ m, c.monitor? p.generation = some m → ¬ m.IsAtLarge)
    (hnext : ∀ s, d.stage = some s → s.held? = none ∧ (s.isLaunching = true → c.handle.process = none)) :
    d.IsAccounted := by
  have hmonitor (g : ℕ) : d.monitor? g = c.monitor? g := by rw [monitor?, hmonitors, monitor?]
  refine ⟨?_, ?_, ?_, ?_, ?_⟩
  · intro g m hm
    exact hc.sound (hmonitor g ▸ hm)
  · intro g m hm hquelling
    rw [hsignal]
    exact hc.signalled (hmonitor g ▸ hm) hquelling
  · intro g m hm hlarge
    rw [hmonitor] at hm
    obtain ⟨p, rfl, hlive | htaken⟩ := hc.held hm hlarge
    · exact ⟨p, rfl, .inl (hprocess.trans hlive)⟩
    · exact absurd hlarge (hheld p htaken m hm)
  · intro p goal hstage
    cases (hnext _ hstage).1
  · intro s hstage hlaunching
    rw [hprocess]
    exact (hnext s hstage).2 hlaunching

theorem took (hcoherent : c.IsCoherent) {p : Process} {goal : Goal} (hstage : c.stage = some (.take goal))
    (hlive : c.handle.process = some p) : ((c.onHandle .release).goTo (.ask p goal)).IsAccounted := by
  refine ⟨hc.sound, hc.signalled, ?_, ?_, ?_⟩
  · intro g m hm hlarge
    obtain ⟨q, rfl, hq | hq⟩ := hc.held hm hlarge
    · cases hlive.symm.trans hq
      exact ⟨p, rfl, .inr rfl⟩
    · rw [held?, hstage] at hq
      cases hq
  · rintro _ _ ⟨⟩ m hm
    exact not_isCalled_of_heeded hcoherent hm (heeds_of_recorded hcoherent hlive)
  · rintro _ ⟨⟩ hlaunching
    cases hlaunching

theorem asked (hgone : c.handle.process = none) {p : Process} {goal : Goal} (hstage : c.stage = some (.ask p goal))
    (hwatched : c.isWatched p.generation = true) :
    ((c.onMonitor p.generation .ask).goTo (.await p goal)).IsAccounted := by
  have h := onMonitor_observes p.generation Monitor.ask_generation c
  obtain ⟨w, hw, hduty⟩ := isWatched_iff.mp hwatched
  refine ⟨?_, ?_, ?_, ?_, ?_⟩
  · intro g m' hm'
    obtain ⟨m, hm, rfl⟩ := h.monitor?_eq_some_iff.mp hm'
    split_ifs with hg
    · rw [hg, hw] at hm
      cases hm
      exact .watching hduty (.inr rfl)
    · exact hc.sound hm
  · intro g m' hm' hquelling
    obtain ⟨m, hm, rfl⟩ := h.monitor?_eq_some_iff.mp hm'
    refine hc.signalled hm ?_
    split_ifs at hquelling <;> exact hquelling
  · intro g m' hm' hlarge
    obtain ⟨m, hm, rfl⟩ := h.monitor?_eq_some_iff.mp hm'
    split_ifs at hlarge with hg
    · exact ⟨p, hg.symm, .inr rfl⟩
    · obtain ⟨q, rfl, hq | hq⟩ := hc.held hm hlarge
      · cases hgone.symm.trans hq
      · rw [held?, hstage] at hq
        cases hq
        exact absurd rfl hg
  · rintro _ _ ⟨⟩
  · rintro _ ⟨⟩ hlaunching
    cases hlaunching

theorem recorded {n : Notebook} {pid : ℕ} (hstage : c.stage = some (.record n pid)) :
    (c.record settings n pid).IsAccounted := by
  have hgone := hc.vacant hstage rfl
  have hmonitor {g : ℕ} {m : Monitor} (hm : (c.record settings n pid).monitor? g = some m) :
      c.monitor? g = some m ∨ m = { generation := c.handle.generation + 1 } ∧ g = c.handle.generation + 1 := by
    change (c.monitors ++ [({ generation := c.handle.generation + 1 } : Monitor)]).find? (·.generation == g) =
      some m at hm
    rw [List.find?_append, Option.or_eq_some_iff] at hm
    refine hm.imp_right fun ⟨_, hm⟩ => ?_
    have hg := List.find?_some (p := fun m : Monitor => m.generation == g) hm
    have hsame := List.mem_singleton.mp (List.mem_of_find?_eq_some hm)
    rw [hsame] at hg
    exact ⟨hsame, (beq_iff_eq.mp hg).symm⟩
  refine ⟨?_, ?_, ?_, ?_, ?_⟩
  · intro g m hm
    rcases hmonitor hm with hm | ⟨rfl, -⟩
    · exact hc.sound hm
    · exact .watching rfl (.inl rfl)
  · intro g m hm hquelling
    rcases hmonitor hm with hm | ⟨rfl, -⟩
    · exact hc.signalled hm hquelling
    · cases hquelling
  · intro g m hm hlarge
    rcases hmonitor hm with hm | ⟨-, hg⟩
    · obtain ⟨q, rfl, hq | hq⟩ := hc.held hm hlarge
      · cases hgone.symm.trans hq
      · rw [held?, hstage] at hq
        cases hq
    · exact ⟨_, hg.symm, .inl rfl⟩
  · rintro _ _ ⟨⟩
  · rintro _ ⟨⟩

theorem advanced (hcoherent : c.IsCoherent) (m : Machine) : (c.advance settings m).IsAccounted := by
  cases hstage : c.stage with
  | none => rwa [advance_of_idle m hstage]
  | some s =>
    have hfree (hs : s.held? = none) (p : Process) (hp : c.held? = some p) :
        ∀ m, c.monitor? p.generation = some m → ¬ m.IsAtLarge := by
      rw [held?, hstage] at hp
      cases hs.symm.trans hp
    -- Most sections hold nothing before and after.
    have hgoOn {h : Handle} {next : Stage} (hprocess : h.process = c.handle.process) (hs : s.held? = none)
        (hnext : next.held? = none) (hvacant : next.isLaunching = true → c.handle.process = none) :
        ({ c with handle := h, stage := some next } : Cell).IsAccounted := by
      refine hc.goOn rfl rfl hprocess (hfree hs) ?_
      rintro _ ⟨⟩
      exact ⟨hnext, hvacant⟩
    have hleave {h : Handle} {r : Except Failure Unit} (hprocess : h.process = c.handle.process) (hs : s.held? = none) :
        (({ c with handle := h } : Cell).leave r).IsAccounted :=
      hc.goOn rfl rfl hprocess (hfree hs) fun _ hnext => by cases hnext
    have hsettle (p : Process) {error : Option String} {goal : Goal} (hs : s.held? = some p)
        (hcaptive : ∀ m, c.monitor? p.generation = some m → ¬ m.IsAtLarge) :
        (c.goTo (.settle p error goal)).IsAccounted := by
      refine hc.goOn rfl rfl rfl ?_ ?_
      · intro q hq
        rw [held?, hstage] at hq
        cases hs.symm.trans hq
        exact hcaptive
      · rintro _ ⟨⟩
        exact ⟨rfl, fun hl => by cases hl⟩
    have hstopFailed {h : Handle} {e : Failure} (goal : Goal) (hprocess : h.process = c.handle.process)
        (hs : s.held? = none) :
        (({ c with handle := h } : Cell).stopFailed goal e).IsAccounted := by
      cases goal with
      | rest => exact hleave hprocess hs
      | launch => exact hgoOn hprocess hs rfl fun hl => by cases hl
    have hvacant := hc.vacant hstage
    unfold advance
    rw [hstage]
    cases s with
    | adopt n startIdle =>
      dsimp only
      unfold adopt
      dsimp only
      split_ifs
      · exact hgoOn rfl rfl rfl fun hl => by cases hl
      · exact hgoOn rfl rfl rfl fun hl => by cases hl
      · exact hleave rfl rfl
    | take goal =>
      dsimp only
      unfold take
      split
      · exact hstopFailed goal rfl rfl
      · next p hlive => exact hc.took hcoherent hstage hlive
    | ask p goal =>
      have hgone := (hcoherent.taken (p := p) (by rw [taken?, hstage]; rfl)).1
      dsimp only
      unfold ask
      split_ifs with hwatched
      · exact hc.asked hgone hstage hwatched
      · refine hsettle p rfl fun w hw => ?_
        have hwatching : w.duty ≠ .watching := fun hduty => hwatched (isWatched_iff.mpr ⟨w, hw, hduty⟩)
        exact (hc.sound hw).not_isAtLarge hwatching (hc.uncalled hstage w hw)
    | await p goal =>
      have htold {w : Monitor} (hw : c.monitor? p.generation = some w) : c.call? p.generation = some w.call := by
        rw [call?, hw]
        rfl
      dsimp only
      unfold await
      split
      · next error hcall =>
        refine hsettle p rfl fun w hw => (hc.sound hw).not_isAtLarge_of_told (.inr ⟨error, ?_⟩)
        exact Option.some.inj ((htold hw).symm.trans hcall)
      · next hcall =>
        refine hsettle p rfl fun w hw => (hc.sound hw).not_isAtLarge_of_told (.inl ?_)
        exact Option.some.inj ((htold hw).symm.trans hcall)
      · exact hc
    | settle p error goal =>
      dsimp only
      unfold settle
      split
      · exact hleave rfl rfl
      · exact hgoOn rfl rfl rfl fun hl => by cases hl
      · exact hstopFailed _ rfl rfl
    | blame e => exact hleave rfl rfl
    | check =>
      dsimp only
      unfold check
      split_ifs with hlive
      · exact hleave rfl rfl
      · exact hgoOn rfl rfl rfl fun _ => Option.not_isSome_iff_eq_none.mp hlive
    | guard n =>
      dsimp only
      unfold guard
      split_ifs <;> exact hgoOn rfl rfl rfl fun _ => hvacant rfl
    | spawn n =>
      dsimp only
      unfold spawn
      split <;> exact hgoOn rfl rfl rfl fun _ => hvacant rfl
    | refuse cause => exact hleave rfl rfl
    | record n pid => exact hc.recorded hstage

theorem step (hcoherent : c.IsCoherent) (settings : LaunchSettings) (move : Move) :
    (c.step settings move).IsAccounted := by
  cases hmove : move.monitor? with
  | some g => exact hc.observed hcoherent hmove
  | none =>
    cases move with
    | advance m => exact hc.advanced hcoherent m
    | undertake op =>
      change (c.undertake op).IsAccounted
      unfold undertake
      split_ifs with hidle
      · have hheld : c.held? = none := by rw [held?, Option.isNone_iff_eq_none.mp hidle]; rfl
        refine hc.goOn rfl rfl rfl (fun p hp => by cases hheld.symm.trans hp) ?_
        rintro _ ⟨⟩
        cases op <;> exact ⟨rfl, fun hl => by cases hl⟩
      · exact hc
    | giveSignal =>
      refine ⟨hc.sound, ?_, hc.held, hc.uncalled, hc.vacant⟩
      intro g m hm hquelling
      change c.signal.give = .given
      rw [hc.signalled hm hquelling]
      rfl
    | _ => cases hmove

end IsAccounted

structure IsGuarded (c : Cell) : Prop where
  coherent : c.IsCoherent
  numbered : c.IsNumbered
  accounted : c.IsAccounted

theorem IsGuarded.step (hc : c.IsGuarded) (settings : LaunchSettings) (move : Move) :
    (c.step settings move).IsGuarded where
  coherent := (step_turn settings c move).isCoherent hc.coherent
  numbered := (step_turn settings c move).isNumbered hc.numbered
  accounted := hc.accounted.step hc.coherent settings move

theorem opened_run_isGuarded (settings : LaunchSettings) (n : Notebook) (port : Port) (signal : Signal)
    (moves : List Move) :
    ((opened n port signal).run settings moves).IsGuarded := by
  have hrun {c : Cell} (hc : c.IsGuarded) : (c.run settings moves).IsGuarded := by
    induction moves generalizing c with
    | nil => exact hc
    | cons move moves ih => exact ih (hc.step settings move)
  exact hrun ⟨opened_isCoherent n port signal, opened_isNumbered n port signal, opened_isAccounted n port signal⟩

end Cell

end NotebookHost
