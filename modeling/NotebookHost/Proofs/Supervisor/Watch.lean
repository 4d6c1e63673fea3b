import NotebookHost.Proofs.Supervisor.Agreement
import Mathlib.Data.List.Nodup

namespace NotebookHost

def Happens {σ μ : Type} (step : σ → μ → σ) (P : σ → μ → Prop) (s : σ) (moves : List μ) : Prop :=
  ∃ early move late, moves = early ++ move :: late ∧ P (early.foldl step s) move

section Happens

variable {σ μ : Type} {step : σ → μ → σ} {P : σ → μ → Prop} {s : σ}

theorem not_happens_nil : ¬ Happens step P s [] := by
  rintro ⟨early, move, late, hmoves, -⟩
  simp at hmoves

theorem happens_cons {move : μ} {moves : List μ} :
    Happens step P s (move :: moves) ↔ P s move ∨ Happens step P (step s move) moves := by
  constructor
  · rintro ⟨_ | ⟨first, early⟩, next, late, hmoves, hP⟩
    · cases hmoves
      exact .inl hP
    · cases hmoves
      exact .inr ⟨early, next, late, rfl, hP⟩
  · rintro (hP | ⟨early, next, late, rfl, hP⟩)
    · exact ⟨[], move, moves, rfl, hP⟩
    · exact ⟨move :: early, next, late, rfl, hP⟩

end Happens

theorem Handle.Touched.generation_le {h h' : Handle} (htouch : Touched h h') : h.generation ≤ h'.generation := by
  cases htouch with
  | @launched p next =>
    change h.generation ≤ p.generation
    omega
  | _ => exact Nat.le_refl _

def Monitor.tell (m : Monitor) : Monitor :=
  match m.duty with
  | .reporting _ | .clearing => m.turnTo .released
  | _ => m

theorem Monitor.turnTo_call_of_ne {m : Monitor} (h : m.call ≠ .asked) (duty : Duty) :
    (m.turnTo duty).call = m.call := if_neg h

inductive Monitor.Acted (signal : Signal) (failed : Option String) (m : Monitor) : Monitor → Prop
  | same : Acted signal failed m m
  | ended (ending : Ending) (alive : m.vital = .alive) : Acted signal failed m { m with vital := .ended ending }
  | saw {ending : Ending} (duty : m.duty = .watching) (vital : m.vital = .ended ending) :
      Acted signal failed m (m.turnTo (.reporting ending))
  | accepted (duty : m.duty = .watching) (call : m.call = .asked) : Acted signal failed m { m with duty := .killing }
  | killed (duty : m.duty = .killing) : Acted signal failed m { m.bury with duty := .released, call := .answered none }
  | spared {cause : String} (duty : m.duty = .killing) (error : failed = some cause) :
      Acted signal failed m { m with duty := .released, call := .answered (some cause) }
  | heeded (duty : m.duty = .watching) (given : signal = .given) : Acted signal failed m (m.turnTo .quelling)
  | quelled (duty : m.duty = .quelling) : Acted signal failed m { m.bury with duty := .clearing }
  | told (duty : m.duty = .clearing ∨ ∃ ending, m.duty = .reporting ending) :
      Acted signal failed m (m.turnTo .released)

namespace Cell

def Move.act (signal : Signal) : Move → Monitor → Monitor
  | .exit _ ending => .exit ending
  | .seeEnd _ => .seeEnd
  | .accept _ => .accept
  | .kill _ error => .kill error
  | .seeSignal _ => if signal = .given then .seeSignal else id
  | .quell _ => .quell
  | .report _ => .tell
  | _ => id

theorem Move.act_byItself (signal : Signal) (move : Move) (m : Monitor) :
    m.ByItself move.failed? (move.act signal m) := by
  cases move with
  | exit _ ending => exact Monitor.exit_byItself ending m
  | seeEnd _ => exact Monitor.seeEnd_byItself m
  | accept _ => exact Monitor.accept_byItself m
  | kill _ error => exact Monitor.kill_byItself error m
  | seeSignal _ =>
    change m.ByItself none ((if signal = .given then Monitor.seeSignal else id) m)
    split_ifs
    · exact Monitor.seeSignal_byItself m
    · exact .same rfl rfl .inr
  | quell _ => exact Monitor.quell_byItself m
  | report _ =>
    change m.ByItself none m.tell
    unfold Monitor.tell
    split
    · exact Monitor.turnTo_byItself (by decide) m
    · exact Monitor.turnTo_byItself (by decide) m
    · exact .same rfl rfl .inr
  | _ => exact .same rfl rfl .inr

theorem Move.act_acted (signal : Signal) (move : Move) (m : Monitor) :
    m.Acted signal move.failed? (move.act signal m) := by
  cases move with
  | exit _ ending =>
    change m.Acted signal none (m.exit ending)
    unfold Monitor.exit
    split_ifs with halive
    · exact .ended ending halive
    · exact .same
  | seeEnd _ =>
    change m.Acted signal none m.seeEnd
    unfold Monitor.seeEnd
    split
    · next hduty hvital => exact .saw hduty hvital
    · exact .same
  | accept _ =>
    change m.Acted signal none m.accept
    unfold Monitor.accept
    split_ifs with hasked
    · exact .accepted hasked.1 hasked.2
    · exact .same
  | kill _ error =>
    change m.Acted signal error (m.kill error)
    unfold Monitor.kill
    by_cases hduty : m.duty = .killing
    · rw [if_pos hduty]
      cases error with
      | none => exact .killed hduty
      | some cause => exact .spared hduty rfl
    · rw [if_neg hduty]
      exact .same
  | seeSignal _ =>
    change m.Acted signal none ((if signal = .given then Monitor.seeSignal else id) m)
    unfold Monitor.seeSignal
    split_ifs with hgiven
    · dsimp only
      split_ifs with hduty
      · exact .heeded hduty hgiven
      · exact .same
    · exact .same
  | quell _ =>
    change m.Acted signal none m.quell
    unfold Monitor.quell
    split_ifs with hduty
    · exact .quelled hduty
    · exact .same
  | report _ =>
    change m.Acted signal none m.tell
    unfold Monitor.tell
    split
    · next ending hduty => exact .told (.inr ⟨ending, hduty⟩)
    · next hduty => exact .told (.inl hduty)
    · exact .same
  | _ => exact .same

variable {settings : LaunchSettings} {c c' : Cell}

theorem isWatched_iff {g : ℕ} : c.isWatched g = true ↔ ∃ m, c.monitor? g = some m ∧ m.duty = .watching := by
  rw [isWatched, Option.any_eq_true]
  simp only [beq_iff_eq]

theorem monitor?_onMonitor_other {g g' : ℕ} (hne : g' ≠ g) {act : Monitor → Monitor}
    (hact : ∀ m, (act m).generation = m.generation) (c : Cell) : (c.onMonitor g act).monitor? g' = c.monitor? g' := by
  rw [monitor?_onMonitor_eq hact]
  refine (Option.map_congr fun m hm => ?_).trans (Option.map_id' (x := c.monitor? g'))
  rw [if_neg]
  exact fun hg => hne ((monitor?_generation hm).symm.trans hg)

theorem Passage.signal (h : Passage c c') : c'.signal = c.signal := by
  cases h <;> rfl

theorem Turn.signal {move : Move} (h : Turn settings c move c') (hmove : move ≠ .giveSignal) :
    c'.signal = c.signal := by
  cases h with
  | advanced m => exact (advance_passage settings m c).signal
  | signalled => exact absurd rfl hmove
  | _ => rfl

/-- What a move of the monitor of a generation leaves alone, and when it takes the process off the record. -/
structure Observes (g : ℕ) (act : Monitor → Monitor) (c c' : Cell) : Prop where
  stage : c'.stage = c.stage
  results : c'.results = c.results
  signal : c'.signal = c.signal
  own : c'.monitor? g = (c.monitor? g).map act
  others : ∀ g', g' ≠ g → c'.monitor? g' = c.monitor? g'
  handle : c'.handle = c.handle ∨
    c.handle.heeds g = true ∧ c.duty? g ≠ some .watching ∧
      ∃ status, c'.handle = { c.handle with process := none, status }

theorem Observes.monitor?_eq_some_iff {g g' : ℕ} {act : Monitor → Monitor} (h : Observes g act c c')
    {m' : Monitor} :
    c'.monitor? g' = some m' ↔ ∃ m, c.monitor? g' = some m ∧ m' = if g' = g then act m else m := by
  by_cases hg : g' = g
  · simp only [if_pos hg]
    rw [hg, h.own, Option.map_eq_some_iff]
    exact exists_congr fun m => and_congr_right fun _ => eq_comm
  · simp only [if_neg hg]
    rw [h.others g' hg]
    constructor
    · exact fun hm => ⟨m', hm, rfl⟩
    · rintro ⟨m, hm, rfl⟩
      exact hm

theorem Observes.kept_of_gone {g : ℕ} {act : Monitor → Monitor} (h : Observes g act c c')
    (hgone : c.handle.process = none) : c'.handle = c.handle := by
  refine h.handle.resolve_right fun ⟨hheeds, _⟩ => ?_
  rw [Handle.heeds_of_gone hgone] at hheeds
  cases hheeds

theorem Observes.kept_of_watching {g : ℕ} {act : Monitor → Monitor} (h : Observes g act c c')
    (hup : c.handle.IsUpToDate)
    {p : Process} (hlive : c.handle.process = some p) (hduty : c.duty? p.generation = some .watching) :
    c'.handle = c.handle := by
  refine h.handle.resolve_right fun ⟨hheeds, hother, _⟩ => ?_
  rw [Handle.heeds, Bool.and_eq_true, beq_iff_eq, ← hup p hlive] at hheeds
  rw [hheeds.1] at hduty
  exact hother hduty

theorem onMonitor_observes (g : ℕ) {act : Monitor → Monitor} (hact : ∀ m, (act m).generation = m.generation)
    (c : Cell) :
    Observes g act c (c.onMonitor g act) where
  stage := rfl
  results := rfl
  signal := rfl
  own := monitor?_onMonitor hact c
  others _ hne := monitor?_onMonitor_other hne hact c
  handle := .inl rfl

theorem report_observes (g : ℕ) (c : Cell) : Observes g .tell c (c.report g) := by
  have htold {touch : Handle → Handle} (duty : Duty) (hduty : c.duty? g = some duty) (hwatching : duty ≠ .watching)
      (htell : ∀ m : Monitor, m.duty = duty → m.tell = m.turnTo .released)
      (ignored : ∀ h, h.heeds g = false → touch h = h)
      (heeded : ∀ h, h.heeds g = true → ∃ status, touch h = { h with process := none, status }) :
      Observes g .tell c ((c.onHandle touch).onMonitor g (.turnTo .released)) := by
    have hturn (m : Monitor) : (m.turnTo .released).generation = m.generation := rfl
    have hbase := onMonitor_observes g hturn (c.onHandle touch)
    refine ⟨rfl, rfl, rfl, ?_, hbase.others, ?_⟩
    · refine hbase.own.trans (Option.map_congr fun m hm => (htell m ?_).symm)
      have hm : c.monitor? g = some m := hm
      rw [duty?, hm] at hduty
      exact Option.some.inj hduty
    · by_cases hheeds : c.handle.heeds g = true
      · exact .inr ⟨hheeds, fun h => hwatching (Option.some.inj (hduty.symm.trans h)), heeded c.handle hheeds⟩
      · exact .inl (ignored c.handle (Bool.not_eq_true _ ▸ hheeds))
  unfold report
  split
  · next ending hduty =>
    refine htold _ hduty (by simp) (fun m hm => by rw [Monitor.tell, hm]) (fun h => Handle.exited_of_not_heeds) ?_
    intro h hheeds
    exact ⟨ending.status, if_pos hheeds⟩
  · next hduty =>
    refine htold _ hduty (by simp) (fun m hm => by rw [Monitor.tell, hm]) (fun h => Handle.signalled_of_not_heeds) ?_
    intro h hheeds
    exact ⟨.stopped, if_pos hheeds⟩
  · next hreporting hclearing =>
    refine ⟨rfl, rfl, rfl, ?_, fun _ _ => rfl, .inl rfl⟩
    cases hm : c.monitor? g with
    | none => rfl
    | some m =>
      have hduty : c.duty? g = some m.duty := by rw [duty?, hm]; rfl
      have htell : m.tell = m := by
        unfold Monitor.tell
        split
        · next ending h => exact absurd (hduty.trans (congrArg some h)) (hreporting ending)
        · next h => exact absurd (hduty.trans (congrArg some h)) hclearing
        · rfl
      rw [Option.map_some, htell]

theorem step_observes (settings : LaunchSettings) (c : Cell) {move : Move} {g : ℕ} (hmove : move.monitor? = some g) :
    Observes g (move.act c.signal) c (c.step settings move) := by
  have hact (m : Monitor) : (move.act c.signal m).generation = m.generation := (move.act_byItself c.signal m).generation
  have hbase := onMonitor_observes g hact c
  cases move with
  | report _ =>
    cases hmove
    exact report_observes g c
  | seeSignal _ =>
    cases hmove
    change Observes g _ c (if c.signal = .given then c.onMonitor g .seeSignal else c)
    unfold Move.act at hbase ⊢
    split_ifs at hbase ⊢
    · exact hbase
    · exact ⟨rfl, rfl, rfl, (congrFun Option.map_id _).symm, fun _ _ => rfl, .inl rfl⟩
  | exit | seeEnd | accept | kill | quell =>
    cases hmove
    exact hbase
  | _ => cases hmove

structure IsNumbered (c : Cell) : Prop where
  apart : (c.monitors.map (·.generation)).Nodup
  past : ∀ g ∈ c.monitors.map (·.generation), g ≤ c.handle.generation

theorem IsNumbered.of_same (hc : c.IsNumbered)
    (hsame : c'.monitors.map (·.generation) = c.monitors.map (·.generation))
    (htouch : Handle.Touched c.handle c'.handle) : c'.IsNumbered := by
  refine ⟨by rw [hsame]; exact hc.apart, fun g hg => ?_⟩
  rw [hsame] at hg
  exact Nat.le_trans (hc.past g hg) htouch.generation_le

theorem IsNumbered.monitor?_of_mem (hc : c.IsNumbered) {m : Monitor} (hm : m ∈ c.monitors) :
    c.monitor? m.generation = some m := by
  have hsome : (c.monitor? m.generation).isSome := List.find?_isSome.mpr ⟨m, hm, beq_self_eq_true _⟩
  obtain ⟨m', hm'⟩ := Option.isSome_iff_exists.mp hsome
  rw [hm', List.inj_on_of_nodup_map hc.apart (List.mem_of_find?_eq_some hm') hm (monitor?_generation hm')]

theorem IsNumbered.monitor?_of_lt (hc : c.IsNumbered) {g : ℕ} (hg : c.handle.generation < g) :
    c.monitor? g = none := by
  refine List.find?_eq_none.mpr fun m hm heq => ?_
  have hpast := hc.past m.generation (List.mem_map_of_mem hm)
  have hsame := beq_iff_eq.mp heq
  omega

theorem record_monitor? (hc : c.IsNumbered) (settings : LaunchSettings) (n : Notebook) (pid : ℕ) :
    (c.record settings n pid).monitor? (c.handle.generation + 1) = some { generation := c.handle.generation + 1 } := by
  have hnew : c.monitor? (c.handle.generation + 1) = none := hc.monitor?_of_lt (Nat.lt_succ_self _)
  unfold monitor? record leave at *
  rw [List.find?_append, hnew]
  simp

theorem Passage.isNumbered (h : Passage c c') (hc : c.IsNumbered) : c'.IsNumbered := by
  have htouched := h.touched
  cases h with
  | @recorded p _ next =>
    have hnew : c.handle.generation < p.generation := by omega
    refine ⟨?_, ?_⟩
    · simp only [leave, List.map_append, List.map_cons, List.map_nil]
      refine hc.apart.append (List.nodup_singleton _) ?_
      intro g hg hp
      have hle := hc.past g hg
      have heq := List.mem_singleton.mp hp
      omega
    · intro g hg
      change g ≤ p.generation
      simp only [leave, List.map_append, List.map_cons, List.map_nil, List.mem_append, List.mem_singleton] at hg
      rcases hg with hg | rfl
      · exact Nat.le_trans (hc.past g hg) (Nat.le_of_lt hnew)
      · exact Nat.le_refl _
  | asked _ => exact hc.of_same (generations_onMonitor Monitor.ask_generation c) htouched
  | _ => exact hc.of_same rfl htouched

theorem Turn.isNumbered {move : Move} (h : Turn settings c move c') (hc : c.IsNumbered) : c'.IsNumbered := by
  have htouched := h.touched
  cases h with
  | advanced m => exact (advance_passage settings m c).isNumbered hc
  | watched _ own => exact hc.of_same (generations_onMonitor (fun m => (own m).generation) c) htouched
  | @reported _ touch _ _ _ own =>
    exact hc.of_same (generations_onMonitor (fun m => (own m).generation) (c.onHandle touch)) htouched
  | _ => exact hc.of_same rfl htouched

theorem run_isNumbered (hc : c.IsNumbered) (moves : List Move) : (c.run settings moves).IsNumbered := by
  induction moves generalizing c with
  | nil => exact hc
  | cons move moves ih => exact ih ((step_turn settings c move).isNumbered hc)

theorem opened_isNumbered (n : Notebook) (port : Port) (signal : Signal) : (opened n port signal).IsNumbered where
  apart := List.nodup_nil
  past g hg := by cases hg

end Cell

end NotebookHost
