import NotebookHost.Proofs.Supervisor.Simulation
import NotebookHost.Proofs.Supervisor.Watch

/-!
A reload among the moves of the monitors. It brings up a process of the new record or says that none could be launched,
unless the end of the old process is told just between the look at the handle and the stop that follows: then it finds
nothing to stop, and gives up.
-/

namespace NotebookHost

namespace Monitor

inductive IsBidden (m : Monitor) : ℕ → Prop
  | asked (call : m.call = .asked) (duty : m.duty = .watching) : IsBidden m 2
  | heard (call : m.call = .asked) (duty : m.duty = .killing) : IsBidden m 1
  | told (call : m.call = .dropped ∨ m.call = .answered none) : IsBidden m 0

end Monitor

namespace Cell

def Move.IsCalm (move : Move) : Prop := move ≠ .giveSignal ∧ move.failed? = none

section Acts

variable {move : Move} {signal : Signal} {m : Monitor}

theorem Move.act_ended {ending : Ending} (h : m.vital = .ended ending) : (move.act signal m).vital = .ended ending := by
  have hbury : m.bury.vital = .ended ending := by rwa [Monitor.bury, if_neg (by rw [h]; simp)]
  have hacted := move.act_acted signal m
  generalize move.act signal m = m' at hacted
  cases hacted with
  | ended _ alive => cases h.symm.trans alive
  | killed _ => exact hbury
  | quelled _ => exact hbury
  | _ => exact h

theorem Move.act_fresh (hquiet : signal ≠ .given) (move : Move) (g : ℕ) :
    move.act signal { generation := g } = { generation := g } ∨
      ∃ ending, (move.act signal { generation := g }).vital = .ended ending := by
  cases move with
  | exit _ ending => exact .inr ⟨ending, rfl⟩
  | seeSignal _ =>
    left
    rw [Move.act, if_neg hquiet]
    rfl
  | _ => exact .inl rfl

end Acts

/-- The end of the process is told between the look at the handle, by which a stop is due, and the stop. -/
def Overtakes (settings : LaunchSettings) (c : Cell) (move : Move) : Prop :=
  c.stage = some (.take .launch) ∧ (∃ g, move = .report g) ∧ c.handle.process ≠ none ∧
    (c.step settings move).handle.process = none

def IsOvertaken (settings : LaunchSettings) (c : Cell) (moves : List Move) : Prop :=
  Happens (step settings) (Overtakes settings) c moves

inductive ReloadOutcome (settings : LaunchSettings) (n : Notebook) (c d : Cell) : Except Failure Unit → Prop
  | launched {p : Process} {m : Monitor} (port : p.port = c.handle.port)
      (args : p.args = settings.commandLine n c.handle.port) (generation : p.generation = c.handle.generation + 1)
      (kept : d.handle.port = c.handle.port ∧ d.handle.notebook = n) (monitor : d.monitor? p.generation = some m)
      (runs : m = { generation := p.generation } ∧ d.handle.process = some p ∧ d.handle.status = .running ∨
        ∃ ending, m.vital = .ended ending) : ReloadOutcome settings n c d (.ok ())
  | refused {cause : String} (status : d.handle.status = .error) (gone : d.handle.process = none) :
      ReloadOutcome settings n c d (.error (.launch c.handle.id cause))
  | defeated (status : d.handle.status = .error) (gone : d.handle.process = none) :
      ReloadOutcome settings n c d (.error (.notRunning c.handle.id))

/-- The stages of a reload after the old process is off the record, by the sections that are left. -/
inductive IsAhead (n : Notebook) (id : String) (overtaken : Prop) : ℕ → Stage → Prop
  | settle {p : Process} (free : ¬ overtaken) : IsAhead n id overtaken 5 (.settle p none .launch)
  | check (free : ¬ overtaken) : IsAhead n id overtaken 4 .check
  | guard (free : ¬ overtaken) : IsAhead n id overtaken 3 (.guard n)
  | spawn (free : ¬ overtaken) : IsAhead n id overtaken 2 (.spawn n)
  | refuse {cause : String} (free : ¬ overtaken) : IsAhead n id overtaken 1 (.refuse cause)
  | record {pid : ℕ} (free : ¬ overtaken) : IsAhead n id overtaken 1 (.record n pid)
  | blame (hit : overtaken) : IsAhead n id overtaken 1 (.blame (.notRunning id))

structure IsUnderWay (c d : Cell) : Prop where
  id : d.handle.id = c.handle.id
  port : d.handle.port = c.handle.port
  generation : d.handle.generation = c.handle.generation
  results : d.results = c.results

inductive ReloadPhase (settings : LaunchSettings) (n : Notebook) (c : Cell) (overtaken : Prop) : ℕ → Cell → Prop
  | adopting {d : Cell} (way : IsUnderWay c d) (stage : d.stage = some (.adopt n true)) (free : ¬ overtaken) :
      ReloadPhase settings n c overtaken 11 d
  | taking {d : Cell} (way : IsUnderWay c d) (adopted : d.handle.notebook = n) (stage : d.stage = some (.take .launch))
      (hit : d.handle.process = none ↔ overtaken) : ReloadPhase settings n c overtaken 10 d
  | asking {d : Cell} {p : Process} (way : IsUnderWay c d) (adopted : d.handle.notebook = n)
      (gone : d.handle.process = none) (stage : d.stage = some (.ask p .launch)) (free : ¬ overtaken)
      (old : p.generation = c.handle.generation)
      (uncalled : ∀ m, d.monitor? p.generation = some m → ¬ m.IsCalled) :
      ReloadPhase settings n c overtaken 9 d
  | awaiting {d : Cell} {p : Process} {m : Monitor} (way : IsUnderWay c d) (adopted : d.handle.notebook = n)
      (gone : d.handle.process = none) (stage : d.stage = some (.await p .launch)) (free : ¬ overtaken)
      (old : p.generation = c.handle.generation) (monitor : d.monitor? p.generation = some m) {left : ℕ}
      (bidden : m.IsBidden left) : ReloadPhase settings n c overtaken (6 + left) d
  | ahead {d : Cell} {s : Stage} {left : ℕ} (way : IsUnderWay c d) (adopted : d.handle.notebook = n)
      (gone : d.handle.process = none) (stage : d.stage = some s) (next : IsAhead n c.handle.id overtaken left s) :
      ReloadPhase settings n c overtaken left d
  | returned {d : Cell} {r : Except Failure Unit} (idle : d.stage = none) (results : d.results = c.results ++ [r])
      (outcome : ReloadOutcome settings n c d r) (hit : r = .error (.notRunning c.handle.id) ↔ overtaken) :
      ReloadPhase settings n c overtaken 0 d
  | past {d : Cell} (more : c.results.length + 1 < d.undertaken) : ReloadPhase settings n c overtaken 0 d

/-- The moves that a reload waits for, by what is left of it: the monitor of the old process takes the request up and
answers it, and all the rest is its own. -/
def Helps (generation left : ℕ) : Move → Prop
  | .accept g => g = generation ∧ left = 8
  | .kill g _ => g = generation ∧ left = 7
  | .advance _ => left ≠ 8 ∧ left ≠ 7 ∧ left ≠ 0
  | _ => False

theorem Move.act_told {move : Move} {m : Monitor} (hcalm : move.failed? = none) (signal : Signal)
    (h : m.call = .dropped ∨ m.call = .answered none) :
    (move.act signal m).call = .dropped ∨ (move.act signal m).call = .answered none := by
  have hnotasked : m.call ≠ .asked := by rcases h with h | h <;> rw [h] <;> decide
  have hacted := move.act_acted signal m
  generalize move.act signal m = m' at hacted
  cases hacted with
  | saw _ _ => rwa [Monitor.turnTo_call_of_ne hnotasked]
  | heeded _ _ => rwa [Monitor.turnTo_call_of_ne hnotasked]
  | told _ => rwa [Monitor.turnTo_call_of_ne hnotasked]
  | killed _ => exact .inr rfl
  | spared _ error => cases hcalm.symm.trans error
  | quelled _ => exact m.bury_call.symm ▸ h
  | _ => exact h

theorem Move.act_bidden {move : Move} {m : Monitor} {left g : ℕ} (hcalm : move.failed? = none)
    (hmove : move.monitor? = some g) (signal : Signal) (hm : m.IsBidden left) :
    ∃ left' ≤ left, (move.act signal m).IsBidden left' ∧ (Helps g (6 + left) move → left' < left) := by
  obtain ⟨generation, vital, call, duty⟩ := m
  cases hm with
  | told call =>
    refine ⟨0, Nat.le_refl _, .told (act_told hcalm signal call), fun h => ?_⟩
    cases move with
    | accept _ => exact absurd h.2 (by decide)
    | kill _ _ => exact absurd h.2 (by decide)
    | advance _ => cases hmove
    | _ => cases h
  | asked call duty =>
    cases call
    cases duty
    cases move with
    | accept _ => exact ⟨1, by decide, .heard rfl rfl, fun _ => by decide⟩
    | seeEnd _ =>
      cases vital with
      | ended _ => exact ⟨0, by decide, .told (.inl rfl), fun h => by cases h⟩
      | _ => exact ⟨2, Nat.le_refl _, .asked rfl rfl, fun h => by cases h⟩
    | seeSignal _ =>
      unfold act
      split_ifs
      · exact ⟨0, by decide, .told (.inl rfl), fun h => by cases h⟩
      · exact ⟨2, Nat.le_refl _, .asked rfl rfl, fun h => by cases h⟩
    | kill _ _ => exact ⟨2, Nat.le_refl _, .asked rfl rfl, fun h => absurd h.2 (by decide)⟩
    | exit _ _ => cases vital <;> exact ⟨2, Nat.le_refl _, .asked rfl rfl, fun h => by cases h⟩
    | quell | report => exact ⟨2, Nat.le_refl _, .asked rfl rfl, fun h => by cases h⟩
    | _ => cases hmove
  | heard call duty =>
    cases call
    cases duty
    cases move with
    | kill _ error =>
      cases hcalm
      exact ⟨0, by decide, .told (.inr rfl), fun _ => by decide⟩
    | seeSignal _ =>
      unfold act
      split_ifs <;> exact ⟨1, Nat.le_refl _, .heard rfl rfl, fun h => by cases h⟩
    | accept _ => exact ⟨1, Nat.le_refl _, .heard rfl rfl, fun h => absurd h.2 (by decide)⟩
    | exit _ _ => cases vital <;> exact ⟨1, Nat.le_refl _, .heard rfl rfl, fun h => by cases h⟩
    | seeEnd | quell | report => exact ⟨1, Nat.le_refl _, .heard rfl rfl, fun h => by cases h⟩
    | _ => cases hmove

variable {settings : LaunchSettings} {n : Notebook} {c d d' : Cell} {overtaken : Prop} {left : ℕ} {move : Move}

theorem overtakes_of_stage (hstage : d.stage ≠ some (.take .launch)) :
    (overtaken ∨ Overtakes settings d move) = overtaken := by
  refine propext (or_iff_left ?_)
  rintro ⟨htake, -⟩
  exact hstage htake

theorem is_report_of_gone {g : ℕ} (hmove : move.monitor? = some g) (hbefore : d.handle.process ≠ none)
    (hgone : (d.step settings move).handle.process = none) : ∃ g, move = .report g := by
  have hturn := step_turn settings d move
  generalize d.step settings move = d' at hturn hgone
  cases hturn with
  | @reported g _ _ _ _ _ => exact ⟨g, rfl⟩
  | stayed => exact absurd hgone hbefore
  | watched _ _ => exact absurd hgone hbefore
  | _ => cases hmove

theorem IsUnderWay.goTo (way : IsUnderWay c d) (s : Stage) : IsUnderWay c (d.goTo s) :=
  ⟨way.id, way.port, way.generation, way.results⟩

theorem IsUnderWay.observed {g : ℕ} {act : Monitor → Monitor} (way : IsUnderWay c d) (h : Observes g act d d') :
    IsUnderWay c d' := by
  rcases h.handle with hsame | ⟨-, -, status, hsame⟩
  · exact ⟨hsame ▸ way.id, hsame ▸ way.port, hsame ▸ way.generation, h.results.trans way.results⟩
  · exact ⟨by rw [hsame]; exact way.id, by rw [hsame]; exact way.port, by rw [hsame]; exact way.generation,
      h.results.trans way.results⟩

theorem ReloadOutcome.observed {g : ℕ} {r : Except Failure Unit} (outcome : ReloadOutcome settings n c d r)
    (hc : d.IsCoherent) (hquiet : d.signal ≠ .given) (hmove : move.monitor? = some g) :
    ReloadOutcome settings n c (d.step settings move) r := by
  have h := step_observes settings d hmove
  cases outcome with
  | refused status gone =>
    have hsame := h.kept_of_gone gone
    exact .refused (by rw [hsame, status]) (by rw [hsame, gone])
  | defeated status gone =>
    have hsame := h.kept_of_gone gone
    exact .defeated (by rw [hsame, status]) (by rw [hsame, gone])
  | @launched p m port args generation kept monitor runs =>
    have hkept : (d.step settings move).handle.port = c.handle.port ∧ (d.step settings move).handle.notebook = n := by
      rcases h.handle with hsame | ⟨-, -, status, hsame⟩
      · rw [hsame]
        exact kept
      · rw [hsame]
        exact kept
    have hmonitor := h.monitor?_eq_some_iff.mpr ⟨m, monitor, rfl⟩
    refine .launched port args generation hkept hmonitor ?_
    rcases runs with ⟨rfl, hlive, hstatus⟩ | ⟨ending, hended⟩
    · have hsame : (d.step settings move).handle = d.handle :=
        h.kept_of_watching hc.upToDate hlive (by rw [duty?, monitor]; rfl)
      rw [hsame]
      split_ifs
      · exact (Move.act_fresh hquiet move p.generation).imp_left fun hfresh => ⟨hfresh, hlive, hstatus⟩
      · exact .inl ⟨rfl, hlive, hstatus⟩
    · right
      split_ifs
      · exact ⟨ending, Move.act_ended hended⟩
      · exact ⟨ending, hended⟩

theorem ReloadPhase.observed {g : ℕ} (phase : ReloadPhase settings n c overtaken left d) (hc : d.IsCoherent)
    (hquiet : d.signal ≠ .given) (hcalm : move.failed? = none) (hmove : move.monitor? = some g) :
    ∃ left' ≤ left, ReloadPhase settings n c (overtaken ∨ Overtakes settings d move) left'
      (d.step settings move) ∧
      (Helps c.handle.generation left move → left' < left) := by
  have h := step_observes settings d hmove
  have hfar {left : ℕ} (hleft : left ≠ 8 ∧ left ≠ 7) : ¬ Helps c.handle.generation left move := by
    intro hhelps
    cases move with
    | accept _ => exact hleft.1 hhelps.2
    | kill _ _ => exact hleft.2 hhelps.2
    | advance _ => cases hmove
    | _ => cases hhelps
  cases phase with
  | adopting way stage free =>
    rw [overtakes_of_stage (by simp [stage])]
    exact ⟨11, Nat.le_refl _, .adopting (way.observed h) (h.stage.trans stage) free,
      fun hh => absurd hh (hfar (by decide))⟩
  | taking way adopted stage hit =>
    refine ⟨10, Nat.le_refl _, .taking (way.observed h) ?_ (h.stage.trans stage) ?_,
      fun hh => absurd hh (hfar (by decide))⟩
    · rcases h.handle with hsame | ⟨-, -, status, hsame⟩ <;> rw [hsame] <;> exact adopted
    · rw [← hit]
      constructor
      · intro hgone
        by_cases hbefore : d.handle.process = none
        · exact .inl hbefore
        · exact .inr ⟨stage, is_report_of_gone hmove hbefore hgone, hbefore, hgone⟩
      · rintro (hgone | hover)
        · rw [h.kept_of_gone hgone, hgone]
        · exact hover.2.2.2
  | asking way adopted gone stage free old uncalled =>
    have hsame := h.kept_of_gone gone
    rw [overtakes_of_stage (by simp [stage])]
    refine ⟨9, Nat.le_refl _, .asking (way.observed h) (hsame ▸ adopted) (hsame ▸ gone)
      (h.stage.trans stage) free old ?_, fun hh => absurd hh (hfar (by decide))⟩
    intro m' hm'
    obtain ⟨m, hm, rfl⟩ := h.monitor?_eq_some_iff.mp hm'
    split_ifs
    · exact fun hcalled => uncalled m hm ((move.act_byItself d.signal m).called hcalled)
    · exact uncalled m hm
  | @awaiting _ p m way adopted gone stage free old monitor left bidden =>
    have hsame := h.kept_of_gone gone
    have hmonitor := h.monitor?_eq_some_iff.mpr ⟨m, monitor, rfl⟩
    rw [overtakes_of_stage (by simp [stage])]
    by_cases hg : p.generation = g
    · rw [if_pos hg] at hmonitor
      obtain ⟨left', hle, hbidden, hhelps⟩ := Move.act_bidden hcalm hmove d.signal bidden
      refine ⟨6 + left', Nat.add_le_add_left hle 6, .awaiting (way.observed h) (hsame ▸ adopted) (hsame ▸ gone)
        (h.stage.trans stage) free old hmonitor hbidden, fun hh => ?_⟩
      exact Nat.add_lt_add_left (hhelps (by rwa [← hg, old])) 6
    · rw [if_neg hg] at hmonitor
      refine ⟨6 + left, Nat.le_refl _,
        .awaiting (way.observed h) (hsame ▸ adopted) (hsame ▸ gone) (h.stage.trans stage) free
        old hmonitor bidden, fun hh => ?_⟩
      cases move with
      | accept _ =>
        cases hmove
        exact absurd (old.trans hh.1.symm) hg
      | kill _ _ =>
        cases hmove
        exact absurd (old.trans hh.1.symm) hg
      | advance _ => cases hmove
      | _ => cases hh
  | ahead way adopted gone stage next =>
    have hsame := h.kept_of_gone gone
    have hstage : d.stage ≠ some (.take .launch) := by
      rw [stage]
      rintro ⟨⟩
      cases next
    rw [overtakes_of_stage hstage]
    refine ⟨left, Nat.le_refl _, .ahead (way.observed h) (hsame ▸ adopted) (hsame ▸ gone)
      (h.stage.trans stage) next, fun hh => absurd hh (hfar ?_)⟩
    cases next <;> decide
  | returned idle results outcome hit =>
    rw [overtakes_of_stage (by simp [idle])]
    exact ⟨0, Nat.le_refl _, .returned (h.stage.trans idle) (h.results.trans results)
      (outcome.observed hc hquiet hmove) hit, fun hh => absurd hh (hfar (by decide))⟩
  | past more =>
    refine ⟨0, Nat.le_refl _, .past (Nat.lt_of_lt_of_le more (step_turn settings d move).undertaken),
      fun hh => absurd hh (hfar (by decide))⟩

theorem ahead_advanced {s : Stage} (way : IsUnderWay c d) (adopted : d.handle.notebook = n)
    (gone : d.handle.process = none) (stage : d.stage = some s) (next : IsAhead n c.handle.id overtaken left s)
    (hn : d.IsNumbered) (hquiet : d.signal ≠ .given) (m : Machine) :
    ∃ left' < left, ReloadPhase settings n c overtaken left' (d.advance settings m) := by
  have hgo {left : ℕ} {s : Stage} (next : IsAhead n c.handle.id overtaken left s) :
      ReloadPhase settings n c overtaken left (d.goTo s) :=
    .ahead (way.goTo s) adopted gone rfl next
  unfold advance
  rw [stage]
  cases next with
  | settle free =>
    exact ⟨4, by decide,
      .ahead ⟨way.id, way.port, way.generation, way.results⟩ adopted gone rfl (.check free)⟩
  | check free =>
    dsimp only
    rw [check, if_neg (by rw [gone]; decide), adopted]
    exact ⟨3, by decide, hgo (.guard free)⟩
  | guard free =>
    dsimp only
    rw [guard, if_neg hquiet]
    exact ⟨2, by decide, hgo (.spawn free)⟩
  | spawn free =>
    dsimp only
    unfold spawn
    split
    · exact ⟨1, by decide, hgo (.refuse free)⟩
    · exact ⟨1, by decide, hgo (.record free)⟩
  | refuse free =>
    refine ⟨0, by decide, .returned rfl (congrArg (· ++ [_]) way.results) ?_ ?_⟩
    · rw [way.id]
      exact .refused rfl gone
    · simp [free]
  | @record pid free =>
    refine ⟨0, by decide, .returned rfl (congrArg (· ++ [_]) way.results) ?_ (by simp [free])⟩
    refine .launched way.port (by rw [← way.port]) (congrArg (· + 1) way.generation) ⟨way.port, adopted⟩ ?_
      (.inl ⟨rfl, rfl, rfl⟩)
    exact record_monitor? hn settings n pid
  | blame hit =>
    exact ⟨0, by decide,
      .returned rfl (congrArg (· ++ [_]) way.results) (.defeated rfl gone) (by simp [hit])⟩

theorem ReloadPhase.advanced (phase : ReloadPhase settings n c overtaken left d) (hc : d.IsCoherent) (hn : d.IsNumbered)
    (hquiet : d.signal ≠ .given) (m : Machine) :
    ∃ left' ≤ left, ReloadPhase settings n c overtaken left' (d.advance settings m) ∧
      (Helps c.handle.generation left (.advance m) → left' < left) := by
  cases phase with
  | adopting way stage free =>
    have hway (stage : Stage) : IsUnderWay c ((d.onHandle (·.adopt n)).goTo stage) :=
      ⟨way.id, way.port, way.generation, way.results⟩
    have hadopt : d.advance settings m = d.adopt n true := by
      unfold advance
      rw [stage]
    rw [hadopt]
    unfold adopt
    dsimp only
    by_cases hlive : d.handle.process.isSome = true
    · rw [if_pos hlive]
      refine ⟨10, by decide, .taking (hway _) rfl rfl ?_, fun _ => by decide⟩
      exact ⟨fun hgone => absurd hlive (Option.not_isSome_iff_eq_none.mpr hgone), fun hit => absurd hit free⟩
    · rw [if_neg hlive]
      exact ⟨4, by decide, .ahead (hway _) rfl (Option.not_isSome_iff_eq_none.mp hlive) rfl (.check free),
        fun _ => by decide⟩
  | taking way adopted stage hit =>
    cases hlive : d.handle.process with
    | none =>
      have htake : d.advance settings m = d.goTo (.blame (.notRunning d.handle.id)) := by
        unfold advance
        rw [stage]
        dsimp only
        unfold take
        rw [hlive]
        rfl
      rw [htake, way.id]
      exact ⟨1, by decide, .ahead (way.goTo _) adopted hlive rfl (.blame (hit.mp hlive)), fun _ => by decide⟩
    | some p =>
      rw [advance_take m stage hlive]
      have hway : IsUnderWay c ((d.onHandle .release).goTo (.ask p .launch)) :=
        ⟨way.id, way.port, way.generation, way.results⟩
      refine ⟨9, by decide, .asking hway adopted rfl rfl ?_ ?_ ?_, fun _ => by decide⟩
      · intro hover
        rw [hit.mpr hover] at hlive
        cases hlive
      · exact (hc.upToDate p hlive).trans way.generation
      · -- Nobody has called the monitor of a process that is still recorded.
        intro m hm hcalled
        have hdeaf := hc.called m (List.mem_of_find?_eq_some hm) hcalled
        rw [monitor?_generation hm] at hdeaf
        rw [hdeaf.2 (hc.upToDate p hlive).symm] at hlive
        cases hlive
  | @asking _ p way adopted gone stage free old uncalled =>
    have hask : d.advance settings m = d.ask p .launch := by
      unfold advance
      rw [stage]
    rw [hask]
    unfold ask
    split_ifs with hwatched
    · obtain ⟨w, hw, hduty⟩ := isWatched_iff.mp hwatched
      have hway : IsUnderWay c ((d.onMonitor p.generation .ask).goTo (.await p .launch)) :=
        ⟨way.id, way.port, way.generation, way.results⟩
      have hbidden : w.ask.IsBidden 2 := .asked rfl hduty
      refine ⟨6 + 2, by decide, .awaiting hway adopted gone rfl free old ?_ hbidden, fun _ => by decide⟩
      change (d.onMonitor p.generation .ask).monitor? p.generation = _
      rw [monitor?_onMonitor Monitor.ask_generation, hw]
      rfl
    · exact ⟨5, by decide, .ahead (way.goTo _) adopted gone rfl (.settle free), fun _ => by decide⟩
  | @awaiting _ p w way adopted gone stage free old monitor left bidden =>
    have hawait : d.advance settings m = d.await p .launch := by
      unfold advance
      rw [stage]
    have hcall : d.call? p.generation = some w.call := by rw [call?, monitor]; rfl
    rw [hawait]
    cases bidden with
    | asked call duty =>
      rw [call] at hcall
      rw [await, hcall]
      exact ⟨8, Nat.le_refl _, .awaiting way adopted gone stage free old monitor (.asked call duty),
        fun hh => absurd rfl hh.1⟩
    | heard call duty =>
      rw [call] at hcall
      rw [await, hcall]
      exact ⟨7, Nat.le_refl _, .awaiting way adopted gone stage free old monitor (.heard call duty),
        fun hh => absurd rfl hh.2.1⟩
    | told call =>
      have hsettle : d.await p .launch = d.goTo (.settle p none .launch) := by
        unfold await
        rcases call with call | call <;> rw [hcall, call]
      rw [hsettle]
      exact ⟨5, by decide, .ahead (way.goTo _) adopted gone rfl (.settle free), fun _ => by decide⟩
  | ahead way adopted gone stage next =>
    obtain ⟨left', hlt, hnext⟩ := ahead_advanced way adopted gone stage next hn hquiet m
    exact ⟨left', Nat.le_of_lt hlt, hnext, fun _ => hlt⟩
  | returned idle results outcome hit =>
    rw [advance_of_idle m idle]
    exact ⟨0, Nat.le_refl _, .returned idle results outcome hit, fun hh => absurd rfl hh.2.2⟩
  | past more =>
    exact ⟨0, Nat.le_refl _, .past (Nat.lt_of_lt_of_le more (advance_passage settings m d).undertaken),
      fun hh => absurd rfl hh.2.2⟩

theorem ReloadPhase.of_idle (phase : ReloadPhase settings n c overtaken left d) (hidle : d.stage = none) :
    (∃ r, d.results = c.results ++ [r] ∧ ReloadOutcome settings n c d r ∧
      (r = .error (.notRunning c.handle.id) ↔ overtaken)) ∨
      c.results.length + 1 < d.results.length := by
  cases phase with
  | adopting _ stage _ => cases hidle.symm.trans stage
  | taking _ _ stage _ => cases hidle.symm.trans stage
  | asking _ _ _ stage _ _ _ => cases hidle.symm.trans stage
  | awaiting _ _ _ stage _ _ _ _ => cases hidle.symm.trans stage
  | ahead _ _ _ stage _ => cases hidle.symm.trans stage
  | returned _ results outcome hit => exact .inl ⟨_, results, outcome, hit⟩
  | past more =>
    rw [Cell.undertaken, hidle] at more
    exact .inr more

theorem ReloadPhase.undertaken (phase : ReloadPhase settings n c overtaken left d) (op : Operation) :
    ∃ left' ≤ left, ReloadPhase settings n c overtaken left' (d.undertake op) := by
  unfold undertake
  split_ifs with hidle
  · refine ⟨0, Nat.zero_le _, .past ?_⟩
    change _ < d.results.length + 1
    rcases phase.of_idle (Option.isNone_iff_eq_none.mp hidle) with ⟨r, hresults, -⟩ | hmore
    · simp [hresults]
    · omega
  · exact ⟨left, Nat.le_refl _, phase⟩

theorem ReloadPhase.step (phase : ReloadPhase settings n c overtaken left d) (hc : d.IsCoherent) (hn : d.IsNumbered)
    (hquiet : d.signal ≠ .given) (hcalm : move.IsCalm) :
    ∃ left' ≤ left, ReloadPhase settings n c (overtaken ∨ Overtakes settings d move) left'
      (d.step settings move) ∧
      (Helps c.handle.generation left move → left' < left) := by
  cases hmove : move.monitor? with
  | some g => exact phase.observed hc hquiet hcalm.2 hmove
  | none =>
    have hover : (overtaken ∨ Overtakes settings d move) = overtaken := by
      refine propext (or_iff_left ?_)
      rintro ⟨-, ⟨g, rfl⟩, -⟩
      cases hmove
    rw [hover]
    cases move with
    | advance m => exact phase.advanced hc hn hquiet m
    | undertake op =>
      obtain ⟨left', hle, hphase⟩ := phase.undertaken op
      exact ⟨left', hle, hphase, fun hh => by cases hh⟩
    | giveSignal => exact absurd rfl hcalm.1
    | _ => cases hmove

theorem run_quiet {moves : List Move} (hquiet : d.signal ≠ .given) (hcalm : ∀ move ∈ moves, move.IsCalm) :
    (d.run settings moves).signal ≠ .given := by
  induction moves generalizing d with
  | nil => exact hquiet
  | cons move moves ih =>
    obtain ⟨hfirst, hrest⟩ := List.forall_mem_cons.mp hcalm
    exact ih (by rwa [(step_turn settings d move).signal hfirst.1]) hrest

theorem ReloadPhase.run (phase : ReloadPhase settings n c overtaken left d) (hc : d.IsCoherent) (hn : d.IsNumbered)
    (hquiet : d.signal ≠ .given) {moves : List Move} (hcalm : ∀ move ∈ moves, move.IsCalm) :
    ∃ left' ≤ left, ReloadPhase settings n c (overtaken ∨ IsOvertaken settings d moves) left'
      (d.run settings moves) ∧
      ((∃ move ∈ moves, Helps c.handle.generation left move) → left' < left) := by
  induction moves generalizing d overtaken left with
  | nil =>
    have hover : (overtaken ∨ IsOvertaken settings d []) = overtaken := propext (or_iff_left not_happens_nil)
    rw [hover]
    exact ⟨left, Nat.le_refl _, phase, fun ⟨move, hmove, _⟩ => by cases hmove⟩
  | cons move moves ih =>
    obtain ⟨hfirst, hrest⟩ := List.forall_mem_cons.mp hcalm
    have hturn := step_turn settings d move
    obtain ⟨middle, hmiddle, hstep, hhelp⟩ := phase.step hc hn hquiet hfirst
    obtain ⟨last, hlast, hrun, hhelps⟩ :=
      ih hstep (hturn.isCoherent hc) (hturn.isNumbered hn) (by rwa [hturn.signal hfirst.1]) hrest
    have hover : (overtaken ∨ IsOvertaken settings d (move :: moves)) =
        ((overtaken ∨ Overtakes settings d move) ∨ IsOvertaken settings (d.step settings move) moves) := by
      rw [IsOvertaken, happens_cons, or_assoc]
      rfl
    rw [hover]
    refine ⟨last, Nat.le_trans hlast hmiddle, hrun, ?_⟩
    rintro ⟨helper, hmem, hhelper⟩
    rcases List.mem_cons.mp hmem with rfl | hmem
    · exact Nat.lt_of_le_of_lt hlast (hhelp hhelper)
    · rcases Nat.lt_or_eq_of_le hmiddle with hlt | rfl
      · exact Nat.lt_of_le_of_lt hlast hlt
      · exact hhelps ⟨helper, hmem, hhelper⟩

structure IsRound (generation : ℕ) (moves : List Move) : Prop where
  accepts : .accept generation ∈ moves
  kills : .kill generation none ∈ moves
  advances : ∃ m, .advance m ∈ moves

theorem IsRound.helps {g : ℕ} {moves : List Move} (h : IsRound g moves) (hleft : left ≠ 0) :
    ∃ move ∈ moves, Helps g left move := by
  by_cases haccept : left = 8
  · exact ⟨_, h.accepts, rfl, haccept⟩
  · by_cases hkill : left = 7
    · exact ⟨_, h.kills, rfl, hkill⟩
    · obtain ⟨m, hm⟩ := h.advances
      exact ⟨_, hm, haccept, hkill, hleft⟩

theorem ReloadPhase.rounds (phase : ReloadPhase settings n c overtaken left d) (hc : d.IsCoherent) (hn : d.IsNumbered)
    (hquiet : d.signal ≠ .given) {rounds : List (List Move)} (hcalm : ∀ move ∈ rounds.flatten, move.IsCalm)
    (hrounds : ∀ round ∈ rounds, IsRound c.handle.generation round) :
    ∃ overtaken', ∃ left' ≤ left - rounds.length,
      ReloadPhase settings n c overtaken' left' (d.run settings rounds.flatten) := by
  induction rounds generalizing d overtaken left with
  | nil => exact ⟨overtaken, left, Nat.le_refl _, phase⟩
  | cons round rounds ih =>
    rw [List.flatten_cons, List.forall_mem_append] at hcalm
    obtain ⟨hround, hrest⟩ := List.forall_mem_cons.mp hrounds
    obtain ⟨middle, hmiddle, hrun, hhelps⟩ := phase.run hc hn hquiet hcalm.1
    have hless : middle ≤ left - 1 := by
      by_cases hleft : left = 0
      · omega
      · have hlt := hhelps (hround.helps hleft)
        omega
    obtain ⟨overtaken', last, hlast, hlater⟩ :=
      ih hrun (run_isCoherent hc round) (run_isNumbered hn round) (run_quiet hquiet hcalm.1) hcalm.2 hrest
    refine ⟨overtaken', last, ?_, ?_⟩
    · rw [List.length_cons]
      omega
    · rw [List.flatten_cons, run_append]
      exact hlater

theorem ReloadPhase.is_over (phase : ReloadPhase settings n c overtaken left d) (hleft : left = 0) :
    c.results.length < d.results.length := by
  cases phase with
  | ahead _ _ _ _ next => cases next <;> cases hleft
  | awaiting => omega
  | returned _ results _ _ => simp [results]
  | past more =>
    unfold Cell.undertaken at more
    split_ifs at more <;> omega
  | _ => cases hleft

theorem reload_brings_up (settings : LaunchSettings) (n₀ : Notebook) (port : Port) (signal : Signal)
    (early : List Move) (n : Notebook) (moves : List Move) :
    let c := (opened n₀ port signal).run settings early
    let begun := c.step settings (.undertake (.reload n))
    let d := begun.run settings moves
    c.stage = none → c.signal ≠ .given → (∀ move ∈ moves, move.IsCalm) →
      (∀ r, d.stage = none → d.results = c.results ++ [r] →
        ReloadOutcome settings n c d r ∧
          (r = .error (.notRunning c.handle.id) ↔ begun.IsOvertaken settings moves)) ∧
      ∀ rounds : List (List Move), moves = rounds.flatten → 11 ≤ rounds.length →
        (∀ round ∈ rounds, IsRound c.handle.generation round) → c.results.length < d.results.length := by
  intro c begun d hidle hquiet hcalm
  have hturn := step_turn settings c (.undertake (.reload n))
  have hc : begun.IsCoherent := hturn.isCoherent (run_isCoherent (opened_isCoherent n₀ port signal) early)
  have hn : begun.IsNumbered := hturn.isNumbered (run_isNumbered (opened_isNumbered n₀ port signal) early)
  have hsignal : begun.signal ≠ .given := by rwa [hturn.signal (by simp)]
  have hbegun : begun = c.goTo (.adopt n true) := by
    change c.undertake _ = _
    rw [undertake, hidle]
    rfl
  have hphase : ReloadPhase settings n c False 11 begun := by
    rw [hbegun]
    exact .adopting ⟨rfl, rfl, rfl, rfl⟩ rfl not_false
  constructor
  · intro r hend hresults
    obtain ⟨left, -, hlast, -⟩ := hphase.run hc hn hsignal hcalm
    rcases hlast.of_idle hend with ⟨r', hresults', outcome, hit⟩ | hmore
    · rw [hresults', List.append_cancel_left_eq, List.singleton_inj] at hresults
      rw [← hresults]
      exact ⟨outcome, hit.trans (or_iff_right not_false)⟩
    · simp [d, hresults] at hmore
  · rintro rounds rfl hmany hrounds
    obtain ⟨overtaken, left, hleft, hlast⟩ := hphase.rounds hc hn hsignal hcalm hrounds
    exact hlast.is_over (by omega)

theorem reload_brings_up_after_crash :
    let early : List Move := [.undertake .start, .advance {}, .advance {}, .advance {}, .advance {}]
    let c := (opened (.plain "a" "a") 9001 .waiting).run {} early
    let round : List Move := [.accept 1, .kill 1 none, .seeEnd 1, .report 1, .advance {}]
    let rounds := [.advance {}, .advance {}, .exit 1 .failure, .accept 1, .kill 1 none] :: List.replicate 10 round
    let begun := c.step {} (.undertake (.reload (.plain "a" "b")))
    let d := begun.run {} rounds.flatten
    c.stage = none ∧ c.signal ≠ .given ∧ (∀ move ∈ rounds.flatten, move.IsCalm) ∧
      (∀ round ∈ rounds, IsRound c.handle.generation round) ∧ c.results.length < d.results.length ∧
      d.stage = none ∧ d.results = c.results ++ [.ok ()] ∧ ReloadOutcome {} (.plain "a" "b") c d (.ok ()) ∧
      ¬ begun.IsOvertaken {} rounds.flatten := by
  intro early c round rounds begun d
  obtain ⟨hidle, hquiet, hgeneration, hend, hresults⟩ : c.stage = none ∧ c.signal ≠ .given ∧
      c.handle.generation = 1 ∧ d.stage = none ∧ d.results = c.results ++ [.ok ()] := by decide +kernel
  have hround : ∀ round ∈ rounds, IsRound c.handle.generation round := by
    rw [hgeneration]
    intro r hr
    rcases List.mem_cons.mp hr with rfl | hr
    · exact ⟨by simp, by simp, {}, by simp⟩
    · rw [List.eq_of_mem_replicate hr]
      exact ⟨by simp [round], by simp [round], {}, by simp [round]⟩
  have hcalm : ∀ move ∈ rounds.flatten, move.IsCalm := by
    simp [rounds, round, Move.IsCalm, Move.failed?]
  obtain ⟨hsafe, hlive⟩ :=
    reload_brings_up {} (.plain "a" "a") 9001 .waiting early (.plain "a" "b") rounds.flatten hidle hquiet hcalm
  obtain ⟨houtcome, hover⟩ := hsafe (.ok ()) hend hresults
  exact ⟨hidle, hquiet, hcalm, hround, hlive rounds rfl (by decide) hround, hend, hresults, houtcome,
    fun h => by cases hover.mpr h⟩

theorem reload_is_defeated :
    let early : List Move := [.undertake .start, .advance {}, .advance {}, .advance {}, .advance {}]
    let c := (opened (.plain "a" "a") 9001 .waiting).run {} early
    let moves : List Move := [.advance {}, .exit 1 .failure, .seeEnd 1, .report 1, .advance {}, .advance {}]
    let d := (c.step {} (.undertake (.reload (.plain "a" "b")))).run {} moves
    c.handle.status = .running ∧ c.stage = none ∧ c.signal ≠ .given ∧ (∀ move ∈ moves, move.IsCalm) ∧
      d.stage = none ∧
      d.results = c.results ++ [.error (.notRunning "a")] ∧ d.handle.status = .error ∧ d.handle.process = none := by
  intro early c moves d
  have hcalm : ∀ move ∈ moves, move.IsCalm := by simp [moves, Move.IsCalm, Move.failed?]
  obtain ⟨hrunning, hidle, hquiet, hend⟩ : c.handle.status = .running ∧ c.stage = none ∧ c.signal ≠ .given ∧
      d.stage = none ∧ d.results = c.results ++ [.error (.notRunning "a")] ∧ d.handle.status = .error ∧
      d.handle.process = none := by decide +kernel
  exact ⟨hrunning, hidle, hquiet, hcalm, hend⟩

end Cell

end NotebookHost
