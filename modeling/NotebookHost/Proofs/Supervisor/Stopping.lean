import NotebookHost.Proofs.Supervisor.Monitors
import NotebookHost.Proofs.Catalogue.Uniqueness
import Mathlib.Data.List.Basic

namespace NotebookHost.Cell

variable {settings : LaunchSettings}

def opened (n : Notebook) (port : Port) (signal : Signal) : Cell := { handle := .ofNotebook n port, signal }

theorem opened_isCoherent (n : Notebook) (port : Port) (signal : Signal) : (opened n port signal).IsCoherent where
  upToDate p hp := by cases hp
  taken hp := by cases hp
  called m hm := by cases hm

theorem run_isCoherent {c : Cell} (hc : c.IsCoherent) (moves : List Move) : (c.run settings moves).IsCoherent := by
  induction moves generalizing c with
  | nil => exact hc
  | cons move moves ih => exact ih ((step_turn settings c move).isCoherent hc)

theorem run_isDeafTo {c : Cell} {generation : ℕ} (hdeaf : c.handle.IsDeafTo generation) (moves : List Move) :
    (c.run settings moves).handle.IsDeafTo generation := by
  induction moves generalizing c with
  | nil => exact hdeaf
  | cons move moves ih => exact ih ((step_turn settings c move).touched.isDeafTo hdeaf)

theorem call?_eq_some {c : Cell} {generation : ℕ} {call : KillCall} (h : c.call? generation = some call) :
    ∃ m ∈ c.monitors, m.generation = generation ∧ m.call = call := by
  obtain ⟨m, hm, hcall⟩ := Option.map_eq_some_iff.mp h
  have hg := List.find?_some (p := fun m : Monitor => m.generation == generation) hm
  exact ⟨m, List.mem_of_find?_eq_some hm, beq_iff_eq.mp hg, hcall⟩

structure ErrorsAreKills (generation : ℕ) (moves : List Move) (c : Cell) : Prop where
  answered : ∀ m ∈ c.monitors, m.generation = generation → ∀ cause, m.call = .answered (some cause) →
    .kill generation (some cause) ∈ moves
  settling : ∀ (p : Process) (cause : String) (goal : Goal), p.generation = generation →
    c.stage = some (.settle p (some cause) goal) → .kill generation (some cause) ∈ moves

theorem ErrorsAreKills.weaken {generation : ℕ} {moves moves' : List Move} {c : Cell}
    (h : ErrorsAreKills generation moves c) (hsub : moves ⊆ moves') : ErrorsAreKills generation moves' c where
  answered m hm hg cause hcall := hsub (h.answered m hm hg cause hcall)
  settling p cause goal hg hstage := hsub (h.settling p cause goal hg hstage)

theorem Passage.errorsAreKills {c c' : Cell} (h : Passage c c') {generation : ℕ} {moves : List Move}
    (hc : ErrorsAreKills generation moves c) : ErrorsAreKills generation moves c' := by
  cases h with
  | waited _ => exact hc
  | @moved _ stage _ free _ =>
    refine ⟨hc.answered, ?_⟩
    intro p cause goal _ hstage
    cases hstage
    cases free
  | took _ _ => exact ⟨hc.answered, fun p cause goal _ hstage => by cases hstage⟩
  | asked _ =>
    refine ⟨?_, fun p cause goal _ hstage => by cases hstage⟩
    intro m' hm' hg cause hcall
    obtain ⟨m, hm, rfl⟩ := List.mem_map.mp hm'
    split_ifs at hg hcall
    · cases hcall
    · exact hc.answered m hm hg cause hcall
  | heard _ answer =>
    refine ⟨hc.answered, ?_⟩
    intro p cause goal hg hstage
    cases hstage
    obtain ⟨m, hm, hmg, hcall⟩ := call?_eq_some (answer cause rfl)
    exact hc.answered m hm (hmg.trans hg) cause hcall
  | left _ _ => exact ⟨hc.answered, fun p cause goal _ hstage => by cases hstage⟩
  | recorded _ _ =>
    refine ⟨?_, fun p cause goal _ hstage => by cases hstage⟩
    intro m hm hg cause hcall
    rcases List.mem_append.mp hm with hm | hm
    · exact hc.answered m hm hg cause hcall
    · rw [List.mem_singleton.mp hm] at hcall
      cases hcall

theorem Turn.errorsAreKills {c c' : Cell} {move : Move} (h : Turn settings c move c') {generation : ℕ}
    {past : List Move} (hc : ErrorsAreKills generation past c) : ErrorsAreKills generation (past ++ [move]) c' := by
  have hpast := hc.weaken (List.subset_append_left past [move])
  cases h with
  | stayed => exact hpast
  | @undertook op _ =>
    refine ⟨hpast.answered, ?_⟩
    intro p cause goal _ hstage
    cases op <;> cases hstage
  | advanced m => exact (advance_passage settings m c).errorsAreKills hpast
  | signalled => exact ⟨hpast.answered, hpast.settling⟩
  | watched of own =>
    refine ⟨?_, hpast.settling⟩
    intro m' hm' hg cause hcall
    obtain ⟨m, hm, hown, hsame⟩ := mem_onMonitor own hm'
    rcases hown.answered cause hcall with hbefore | hfailed
    · exact hpast.answered m hm (hown.generation.symm.trans hg) cause hbefore
    · rcases hsame with rfl | hmonitor
      · exact hpast.answered m' hm hg cause hcall
      · rw [Move.eq_kill of hfailed, ← hmonitor, hg]
        exact List.mem_append_right past (List.mem_singleton_self _)
  | @reported _ touch _ _ _ own =>
    refine ⟨?_, hpast.settling⟩
    intro m' hm' hg cause hcall
    obtain ⟨m, hm, hown, -⟩ := mem_onMonitor (c := c.onHandle touch) own hm'
    rcases hown.answered cause hcall with hbefore | hfailed
    · exact hpast.answered m hm (hown.generation.symm.trans hg) cause hbefore
    · cases hfailed

theorem run_errorsAreKills {c : Cell} {generation : ℕ} {past : List Move} (hc : ErrorsAreKills generation past c)
    (moves : List Move) : ErrorsAreKills generation (past ++ moves) (c.run settings moves) := by
  induction moves generalizing c past with
  | nil => rwa [List.append_nil]
  | cons move moves ih =>
    have hnext := ih ((step_turn settings c move).errorsAreKills hc)
    rwa [List.append_assoc, List.singleton_append] at hnext

section Taken

variable {c : Cell} {p : Process} {goal : Goal}

theorem advance_take (m : Machine) (hstage : c.stage = some (.take goal)) (hlive : c.handle.process = some p) :
    c.advance settings m = (c.onHandle .release).goTo (.ask p goal) := by
  unfold advance
  rw [hstage]
  dsimp only
  unfold take
  rw [hlive]

theorem take_isDeafTo (hc : c.IsCoherent) (hlive : c.handle.process = some p) :
    c.handle.release.IsDeafTo p.generation := Handle.isDeafTo_of_gone (Nat.le_of_eq (hc.upToDate p hlive)) rfl

theorem take_errorsAreKills (hc : c.IsCoherent) (hlive : c.handle.process = some p) :
    ErrorsAreKills p.generation [] ((c.onHandle .release).goTo (.ask p goal)) := by
  refine ⟨?_, fun p cause goal _ hstage => by cases hstage⟩
  intro m hm hg cause hcall
  have hdeaf := hc.called m hm (.inl (by simp [hcall]))
  have hgone := hdeaf.2 ((hc.upToDate p hlive).symm.trans hg.symm)
  rw [hlive] at hgone
  cases hgone

theorem advance_settle (hc : c.IsCoherent) (m : Machine) (hstage : c.stage = some (.settle p none goal)) :
    (c.advance settings m).handle.status = .stopped ∧ (c.advance settings m).handle.process = none := by
  have hgone := (hc.taken (p := p) (by rw [taken?, hstage]; rfl)).1
  unfold advance
  rw [hstage]
  dsimp only
  unfold settle
  cases goal <;> exact ⟨rfl, hgone⟩

end Taken

def undertaken (c : Cell) : ℕ := c.results.length + if c.stage.isSome then 1 else 0

theorem Passage.undertaken {c c' : Cell} (h : Passage c c') : c.undertaken ≤ c'.undertaken := by
  have hbefore : c.undertaken ≤ c.results.length + 1 := by
    unfold Cell.undertaken
    split_ifs <;> omega
  cases h with
  | waited _ => exact Nat.le_refl _
  | left _ _ =>
    refine Nat.le_trans hbefore ?_
    simp [Cell.undertaken, leave]
  | recorded _ _ =>
    refine Nat.le_trans hbefore ?_
    simp [Cell.undertaken, leave]
  | _ => exact hbefore

theorem Turn.undertaken {c c' : Cell} {move : Move} (h : Turn settings c move c') : c.undertaken ≤ c'.undertaken := by
  cases h with
  | @undertook op idle =>
    simp [Cell.undertaken, idle, goTo]
  | advanced m => exact (advance_passage settings m c).undertaken
  | _ => exact Nat.le_refl _

inductive StopPhase (rs : List (Except Failure Unit)) (c : Cell) : Prop
  | stopping (goal : c.goal? = some .rest) (results : c.results = rs)
  | returned {r : Except Failure Unit} (idle : c.stage = none) (results : c.results = rs ++ [r])
      (stopped : r = .ok () → c.handle.status = .stopped ∧ c.handle.process = none)
  | past (more : rs.length + 1 < c.undertaken)

theorem Passage.stopPhase {c c' : Cell} (h : Passage c c') (hc : c.IsCoherent) (hgoal : c.goal? = some .rest) :
    StopPhase c.results c' := by
  cases h with
  | waited _ => exact .stopping hgoal rfl
  | moved _ _ launching => exact absurd hgoal launching
  | took stage _ =>
    rw [goal?, stage] at hgoal
    exact .stopping hgoal rfl
  | asked stage =>
    rw [goal?, stage] at hgoal
    exact .stopping hgoal rfl
  | heard stage _ =>
    rcases stage with stage | stage <;> rw [goal?, stage] at hgoal <;> exact .stopping hgoal rfl
  | left _ stopped =>
    refine .returned rfl rfl ?_
    intro hr
    obtain ⟨⟨p, hp⟩, rfl⟩ := stopped hgoal hr
    exact ⟨rfl, (hc.taken hp).1⟩
  | recorded launching _ => exact absurd hgoal launching

theorem advance_of_idle (m : Machine) {c : Cell} (hidle : c.stage = none) : c.advance settings m = c := by
  unfold advance
  rw [hidle]

theorem Turn.stopPhase {c c' : Cell} {move : Move} (h : Turn settings c move c') (hc : c.IsCoherent)
    {rs : List (Except Failure Unit)} (hphase : StopPhase rs c) : StopPhase rs c' := by
  have hcount := h.undertaken
  cases hphase with
  | past more => exact .past (Nat.lt_of_lt_of_le more hcount)
  | stopping goal results =>
    cases h with
    | undertook idle =>
      rw [goal?, idle] at goal
      cases goal
    | advanced m =>
      rw [← results]
      exact (advance_passage settings m c).stopPhase hc goal
    | _ => exact .stopping goal results
  | returned idle results stopped =>
    cases h with
    | undertook _ =>
      refine .past ?_
      simp [Cell.undertaken, goTo, results]
    | advanced m =>
      rw [advance_of_idle m idle]
      exact .returned idle results stopped
    | @reported _ touch _ _ ignored _ =>
      refine .returned idle results ?_
      intro hr
      change (touch c.handle).status = .stopped ∧ (touch c.handle).process = none
      rw [ignored c.handle (Handle.heeds_of_gone (stopped hr).2)]
      exact stopped hr
    | _ => exact .returned idle results stopped

theorem run_stopPhase {c : Cell} (hc : c.IsCoherent) {rs : List (Except Failure Unit)} (hphase : StopPhase rs c)
    (moves : List Move) : StopPhase rs (c.run settings moves) := by
  induction moves generalizing c with
  | nil => exact hphase
  | cons move moves ih =>
    have hturn := step_turn settings c move
    exact ih (hturn.isCoherent hc) (hturn.stopPhase hc hphase)

structure IsAtEase (c : Cell) : Prop where
  idle : c.stage = none
  stopped : c.handle.status = .stopped
  gone : c.handle.process = none

theorem Turn.isAtEase {c c' : Cell} {move : Move} (h : Turn settings c move c') (hmove : ∀ op, move ≠ .undertake op)
    (hc : c.IsAtEase) : c'.IsAtEase := by
  cases h with
  | undertook _ => exact absurd rfl (hmove _)
  | advanced m =>
    rw [advance_of_idle m hc.idle]
    exact hc
  | @reported _ touch _ _ ignored _ =>
    have hsame := ignored c.handle (Handle.heeds_of_gone hc.gone)
    refine ⟨hc.idle, ?_, ?_⟩
    · change (touch c.handle).status = .stopped
      rw [hsame, hc.stopped]
    · change (touch c.handle).process = none
      rw [hsame, hc.gone]
  | _ => exact ⟨hc.idle, hc.stopped, hc.gone⟩

theorem run_isAtEase {c : Cell} (hc : c.IsAtEase) {moves : List Move} (hmoves : ∀ op, .undertake op ∉ moves) :
    (c.run settings moves).IsAtEase := by
  induction moves generalizing c with
  | nil => exact hc
  | cons move moves ih =>
    have hmove (op : Operation) : move ≠ .undertake op := by
      rintro rfl
      exact hmoves op List.mem_cons_self
    exact ih ((step_turn settings c move).isAtEase hmove hc) fun op hop => hmoves op (List.mem_cons_of_mem _ hop)

theorem stopping_is_no_crash (settings : LaunchSettings) (n : Notebook) (port : Port) (signal : Signal)
    (early : List Move) :
    let c := (opened n port signal).run settings early
    (∀ generation < c.handle.generation, c.IsIndifferentTo settings generation) ∧
    (∀ (p : Process) (goal : Goal), c.stage = some (.take goal) → c.handle.process = some p →
      ∀ (m : Machine) (late : List Move), let d := c.run settings (.advance m :: late)
      d.IsIndifferentTo settings p.generation ∧
      (∀ (cause : String) (goal : Goal), d.stage = some (.settle p (some cause) goal) →
        .kill p.generation (some cause) ∈ late) ∧
      ∀ goal : Goal, d.stage = some (.settle p none goal) → ∀ m : Machine,
        (d.step settings (.advance m)).handle.status = .stopped ∧
          (d.step settings (.advance m)).handle.process = none) ∧
    (c.stage = none → ∀ mid : List Move, let d := (c.step settings (.undertake .stop)).run settings mid
      d.stage = none → d.results = c.results ++ [.ok ()] →
        ∀ late : List Move, (∀ op, .undertake op ∉ late) →
        (d.run settings late).handle.status = .stopped ∧ (d.run settings late).handle.process = none) := by
  intro c
  have hc : c.IsCoherent := run_isCoherent (opened_isCoherent n port signal) early
  refine ⟨?_, ?_, ?_⟩
  · intro generation hlt
    exact isIndifferentTo_of_isDeafTo settings (Handle.isDeafTo_of_lt hlt)
  · intro p goal hstage hlive m late d
    have hd : d = ((c.onHandle .release).goTo (.ask p goal)).run settings late :=
      congrArg (run settings · late) (advance_take m hstage hlive)
    have hcoherent : d.IsCoherent := run_isCoherent hc (.advance m :: late)
    have hdeaf : d.handle.IsDeafTo p.generation := by
      rw [hd]
      exact run_isDeafTo (c := (c.onHandle .release).goTo (.ask p goal)) (take_isDeafTo hc hlive) late
    have herrors : ErrorsAreKills p.generation late d := by
      rw [hd]
      exact run_errorsAreKills (take_errorsAreKills hc hlive) late
    refine ⟨isIndifferentTo_of_isDeafTo settings hdeaf, ?_, ?_⟩
    · intro cause goal hsettle
      exact herrors.settling p cause goal rfl hsettle
    · intro goal hsettle m
      exact advance_settle hcoherent m hsettle
  · intro hidle mid d hend hresults late hlate
    have hstart : c.step settings (.undertake .stop) = c.goTo (.take .rest) := by
      change c.undertake .stop = _
      rw [undertake, hidle]
      rfl
    have hphase : StopPhase c.results d := by
      refine run_stopPhase ((step_turn settings c _).isCoherent hc) ?_ mid
      rw [hstart]
      exact .stopping rfl rfl
    have hease : d.IsAtEase := by
      cases hphase with
      | stopping goal _ =>
        rw [goal?, hend] at goal
        cases goal
      | returned _ results stopped =>
        rw [results, List.append_cancel_left_eq, List.singleton_inj] at hresults
        exact ⟨hend, (stopped hresults).1, (stopped hresults).2⟩
      | past more => simp [undertaken, hend, hresults] at more
    have hlast : (d.run settings late).IsAtEase := run_isAtEase hease hlate
    exact ⟨hlast.stopped, hlast.gone⟩

theorem stopping_beats_exit :
    let early : List Move := [.undertake .start, .advance {}, .advance {}, .advance {}, .advance {}, .exit 1 .failure]
    let c := (opened (.plain "a" "a") 9001 .waiting).run {} early
    let mid : List Move := [.advance {}, .seeEnd 1, .advance {}, .advance {}]
    let d := (c.step {} (.undertake .stop)).run {} mid
    c.handle.status = .running ∧ c.stage = none ∧ d.stage = none ∧ d.results = c.results ++ [.ok ()] ∧
      d.duty? 1 = some (.reporting .failure) ∧ (d.run {} [.report 1]).handle.status = .stopped := by
  intro early c mid d
  obtain ⟨hrunning, hidle, hend, hresults, hduty⟩ : c.handle.status = .running ∧ c.stage = none ∧
      d.stage = none ∧ d.results = c.results ++ [.ok ()] ∧ d.duty? 1 = some (.reporting .failure) := by
    decide +kernel
  have hstopped :=
    (stopping_is_no_crash {} (.plain "a" "a") 9001 .waiting early).2.2 hidle mid hend hresults [.report 1]
    (by simp)
  exact ⟨hrunning, hidle, hend, hresults, hduty, hstopped.1⟩

end NotebookHost.Cell
