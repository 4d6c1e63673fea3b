import NotebookHost.Proofs.Supervisor.Custody
import NotebookHost.Supervisor.Callers

/-!
What becomes of a handle that is removed while others have it. Whoever gets hold of it before the one that removes it
comes too early to do harm; only a caller that launches and gets hold of it afterwards leaves a process that nobody
finds.
-/

namespace NotebookHost

def Operation.launches : Operation → Bool
  | .start | .reload _ => true
  | .stop | .update _ => false

namespace Cell

inductive IsEmptying (c : Cell) : Prop
  | empty (idle : c.stage = none) (gone : c.handle.process = none)
  | updating {n : Notebook} (stage : c.stage = some (.adopt n false)) (gone : c.handle.process = none)
  | stopping (goal : c.goal? = some .rest)

namespace IsEmptying

variable {settings : LaunchSettings} {c : Cell}

theorem observed (h : c.IsEmptying) {move : Move} {g : ℕ} (hmove : move.monitor? = some g) :
    (c.step settings move).IsEmptying := by
  have ho := step_observes settings c hmove
  cases h with
  | empty idle gone => exact .empty (ho.stage.trans idle) (by rw [ho.kept_of_gone gone, gone])
  | updating stage gone => exact .updating (ho.stage.trans stage) (by rw [ho.kept_of_gone gone, gone])
  | stopping goal => exact .stopping (by rw [goal?, ho.stage]; exact goal)

theorem undertaken (h : c.IsEmptying) {op : Operation} (hop : op.launches = false) : (c.undertake op).IsEmptying := by
  unfold undertake
  split_ifs with hidle
  · cases h with
    | empty _ gone =>
      cases op with
      | stop => exact .stopping rfl
      | update n => exact .updating rfl gone
      | start | reload => cases hop
    | updating stage _ =>
      rw [stage] at hidle
      cases hidle
    | stopping goal =>
      rw [goal?, Option.isNone_iff_eq_none.mp hidle] at goal
      cases goal
  · exact h

theorem advanced (h : c.IsEmptying) (hc : c.IsCoherent) (m : Machine) : (c.advance settings m).IsEmptying := by
  cases h with
  | empty idle gone =>
    rw [advance_of_idle m idle]
    exact .empty idle gone
  | @updating n stage gone =>
    unfold advance
    rw [stage]
    dsimp only
    unfold adopt
    rw [if_neg (by rw [gone]; decide)]
    exact .empty rfl gone
  | stopping goal =>
    cases hstage : c.stage with
    | none =>
      rw [goal?, hstage] at goal
      cases goal
    | some s =>
      have hgoal : s.goal? = some .rest := by rwa [goal?, hstage] at goal
      unfold advance
      rw [hstage]
      cases s with
      | take goal =>
        cases hgoal
        dsimp only
        unfold take
        split
        · next hgone => exact .empty rfl hgone
        · exact .stopping rfl
      | ask p goal =>
        cases hgoal
        dsimp only
        unfold ask
        split_ifs <;> exact .stopping rfl
      | await p goal =>
        cases hgoal
        dsimp only
        unfold await
        split
        · exact .stopping rfl
        · exact .stopping rfl
        · exact .stopping goal
      | settle p error goal =>
        cases hgoal
        have hgone := (hc.taken (p := p) (by rw [taken?, hstage]; rfl)).1
        cases error <;> exact .empty rfl hgone
      | _ => cases hgoal

theorem step (h : c.IsEmptying) (hc : c.IsCoherent) {move : Move} (hmove : Site.isUndertaking move = false) :
    (c.step settings move).IsEmptying := by
  cases hmonitor : move.monitor? with
  | some g => exact h.observed hmonitor
  | none =>
    cases move with
    | advance m => exact h.advanced hc m
    | giveSignal =>
      cases h with
      | empty idle gone => exact .empty idle gone
      | updating stage gone => exact .updating stage gone
      | stopping goal => exact .stopping goal
    | undertake op => cases hmove
    | _ => cases hmonitor

end IsEmptying

end Cell

namespace Site

variable {settings : LaunchSettings} {s : Site} {i : ℕ} {move : Move}

theorem mem_eraseIdx_of_ne {callers : List Caller} {x y : Caller} {k : ℕ} (hx : x ∈ callers)
    (hy : callers[k]? = some y) (hne : x ≠ y) : x ∈ callers.eraseIdx k := by
  obtain ⟨j, hj⟩ := List.mem_iff_getElem?.mp hx
  refine List.mem_eraseIdx_iff_getElem?.mpr ⟨j, ?_, hj⟩
  rintro rfl
  exact hne (Option.some.inj (hj.symm.trans hy))

theorem mem_set_of_ne {callers : List Caller} {x y z : Caller} {k : ℕ} (hx : x ∈ callers)
    (hy : callers[k]? = some y) (hne : x ≠ y) : x ∈ callers.set k z := by
  obtain ⟨j, hj⟩ := List.mem_iff_getElem?.mp hx
  refine List.mem_iff_getElem?.mpr ⟨j, ?_⟩
  rw [List.getElem?_set_ne, hj]
  rintro rfl
  exact hne (Option.some.inj (hj.symm.trans hy))

inductive IsTended (i : ℕ) (s : Site) : Prop
  | current (found : s.current = some i)
  | removing (waits : ⟨.remove, some i⟩ ∈ s.callers)
  | emptying (cells : ∀ c, s.cells[i]? = some c → c.IsEmptying)

/-- A caller that launches gets hold of the handle when it cannot be found any more and the one that removed it is
through. -/
def ComesLate (i : ℕ) (s : Site) (move : Move) : Prop :=
  ∃ k op, move = .enter k ∧ s.callers[k]? = some ⟨.perform op, some i⟩ ∧ op.launches = true ∧
    (s.cells[i]?).any (·.stage.isNone) = true ∧ s.current ≠ some i ∧ ⟨.remove, some i⟩ ∉ s.callers

theorem IsTended.lookUp (h : s.IsTended i) (k : ℕ) : (s.lookUp k).IsTended i := by
  unfold Site.lookUp
  split
  · next errand j hcaller hcurrent =>
    cases h with
    | current found =>
      rw [hcurrent] at found
      cases found
      by_cases herrand : errand = .remove
      · refine .removing ?_
        rw [herrand]
        exact List.mem_set (List.getElem?_eq_some_iff.mp hcaller).1 _
      · exact .current (by rw [if_neg herrand, hcurrent])
    | removing waits => exact .removing (mem_set_of_ne waits hcaller (by simp))
    | emptying cells => exact .emptying cells
  · next errand hcaller hcurrent =>
    cases h with
    | current found => cases hcurrent.symm.trans found
    | removing waits => exact .removing (mem_eraseIdx_of_ne waits hcaller (by simp))
    | emptying cells => exact .emptying cells
  · exact h

theorem IsTended.enter (h : s.IsTended i) {k : ℕ} (hlate : ¬ s.ComesLate i (.enter k)) : (s.enter k).IsTended i := by
  unfold Site.enter
  split
  · next errand j hcaller =>
    split_ifs with hidle
    · have hstays {x : Caller} (hx : x ∈ s.callers) (hne : x ≠ ⟨errand, some j⟩) :
          x ∈ s.callers.eraseIdx k :=
        mem_eraseIdx_of_ne hx hcaller hne
      have hcell {c : Cell} (hc : (s.cells.modify j (·.undertake errand.operation))[i]? = some c) :
          ∃ b, s.cells[i]? = some b ∧ c = if j = i then b.undertake errand.operation else b := by
        rw [List.getElem?_modify] at hc
        obtain ⟨b, hb, rfl⟩ := Option.map_eq_some_iff.mp hc
        refine ⟨b, hb, ?_⟩
        split_ifs <;> rfl
      by_cases hj : j = i
      · subst hj
        cases errand with
        | remove =>
          -- Now the one that removes the handle stops its process.
          refine .emptying fun c hc => ?_
          obtain ⟨b, hb, rfl⟩ := hcell hc
          rw [hb, Option.any_some] at hidle
          rw [if_pos rfl, Cell.undertake, if_pos hidle]
          exact .stopping rfl
        | perform op =>
          by_cases hcurrent : s.current = some j
          · exact .current hcurrent
          · by_cases hwaits : ⟨.remove, some j⟩ ∈ s.callers
            · exact .removing (hstays hwaits (by simp))
            · have hop : op.launches = false := by
                rw [Bool.eq_false_iff]
                exact fun hop => hlate ⟨k, op, rfl, hcaller, hop, hidle, hcurrent, hwaits⟩
              cases h with
              | current found => exact absurd found hcurrent
              | removing waits => exact absurd waits hwaits
              | emptying cells =>
                refine .emptying fun c hc => ?_
                obtain ⟨b, hb, rfl⟩ := hcell hc
                rw [if_pos rfl]
                exact (cells b hb).undertaken hop
      · cases h with
        | current found => exact .current found
        | removing waits => exact .removing (hstays waits (by simp [Ne.symm hj]))
        | emptying cells =>
          refine .emptying fun c hc => ?_
          obtain ⟨b, hb, rfl⟩ := hcell hc
          rw [if_neg hj]
          exact cells b hb
    · exact h
  · exact h

theorem IsTended.inside (h : s.IsTended i) (hs : ∀ c ∈ s.cells, c.IsGuarded) {j : ℕ} {move : Cell.Move}
    (hmove : isUndertaking move = false) :
    ({ s with cells := s.cells.modify j (Cell.step settings · move) } : Site).IsTended i := by
  cases h with
  | current found => exact .current found
  | removing waits => exact .removing waits
  | emptying cells =>
    refine .emptying fun c hc => ?_
    rw [List.getElem?_modify] at hc
    obtain ⟨c, hc', rfl⟩ := Option.map_eq_some_iff.mp hc
    split_ifs
    · exact (cells c hc').step (hs c (List.mem_of_getElem? hc')).coherent hmove
    · exact cells c hc'

theorem IsTended.step (h : s.IsTended i) (hs : ∀ c ∈ s.cells, c.IsGuarded) (hlate : ¬ s.ComesLate i move) :
    (s.step settings move).IsTended i := by
  cases move with
  | arrive errand =>
    cases h with
    | current found => exact .current found
    | removing waits => exact .removing (List.mem_append_left _ waits)
    | emptying cells => exact .emptying cells
  | lookUp k => exact h.lookUp k
  | enter k => exact h.enter hlate
  | inside j move =>
    change (if isUndertaking move = true then s else _).IsTended i
    split_ifs with hmove
    · exact h
    · exact h.inside hs (Bool.eq_false_iff.mpr hmove)

theorem lookUp_cells (s : Site) (k : ℕ) : (s.lookUp k).cells = s.cells := by
  unfold Site.lookUp
  split <;> rfl

theorem step_guarded (hs : ∀ c ∈ s.cells, c.IsGuarded) (move : Move) :
    ∀ c ∈ (s.step settings move).cells, c.IsGuarded := by
  have hmodify (j : ℕ) {act : Cell → Cell} (hact : ∀ c : Cell, c.IsGuarded → (act c).IsGuarded) :
      ∀ c ∈ s.cells.modify j act, c.IsGuarded := by
    intro c hc
    obtain ⟨k, hk⟩ := List.mem_iff_getElem?.mp hc
    rw [List.getElem?_modify] at hk
    obtain ⟨b, hb, rfl⟩ := Option.map_eq_some_iff.mp hk
    have hguarded := hs b (List.mem_of_getElem? hb)
    split_ifs
    · exact hact b hguarded
    · exact hguarded
  cases move with
  | arrive errand => exact hs
  | lookUp k =>
    change ∀ c ∈ (s.lookUp k).cells, c.IsGuarded
    rwa [lookUp_cells]
  | enter k =>
    change ∀ c ∈ (s.enter k).cells, c.IsGuarded
    unfold Site.enter
    split
    · next errand j _ =>
      split_ifs
      · exact hmodify j fun c hc => hc.step settings (.undertake errand.operation)
      · exact hs
    · exact hs
  | inside j move =>
    change ∀ c ∈ (if isUndertaking move = true then s else _).cells, c.IsGuarded
    split_ifs
    · exact hs
    · exact hmodify j fun c hc => hc.step settings move

theorem run_guarded (hs : ∀ c ∈ s.cells, c.IsGuarded) (moves : List Move) :
    ∀ c ∈ (s.run settings moves).cells, c.IsGuarded := by
  induction moves generalizing s with
  | nil => exact hs
  | cons move moves ih => exact ih (step_guarded hs move)

theorem run_isTended (h : s.IsTended i) (hs : ∀ c ∈ s.cells, c.IsGuarded) (moves : List Move) :
    (s.run settings moves).IsTended i ∨ Happens (step settings) (ComesLate i) s moves := by
  induction moves generalizing s with
  | nil => exact .inl h
  | cons move moves ih =>
    rw [happens_cons]
    by_cases hlate : s.ComesLate i move
    · exact .inr (.inl hlate)
    · exact (ih (h.step hs hlate) (step_guarded hs move)).imp_right .inr

structure IsSettled (settings : LaunchSettings) (s : Site) : Prop where
  alone : s.callers = []
  reached : ∀ c ∈ s.cells, c.stage = none ∧
    ∃ n port signal moves, c = (Cell.opened n port signal).run settings moves
  gone : ∀ i c, s.cells[i]? = some c → s.current ≠ some i → c.handle.process = none

theorem IsSettled.guarded (hs : s.IsSettled settings) : ∀ c ∈ s.cells, c.IsGuarded := by
  intro c hc
  obtain ⟨-, n, port, signal, moves, rfl⟩ := hs.reached c hc
  exact Cell.opened_run_isGuarded settings n port signal moves

theorem IsSettled.isTended (hs : s.IsSettled settings) (i : ℕ) : s.IsTended i := by
  by_cases hcurrent : s.current = some i
  · exact .current hcurrent
  · exact .emptying fun c hc => .empty (hs.reached c (List.mem_of_getElem? hc)).1 (hs.gone i c hc hcurrent)

theorem removal_leaves_no_orphan {settings : LaunchSettings} {s : Site} (hs : s.IsSettled settings)
    (moves : List Move) :
    let t := s.run settings moves
    t.isQuiet = true → ∀ (i : ℕ) (c : Cell), t.cells[i]? = some c → ∀ m ∈ c.monitors, m.vital = .alive →
      m.duty = .quelling ∧ c.signal = .given ∨ (∃ cause, m.call = .answered (some cause)) ∨
      ∃ p, p.generation = m.generation ∧ c.handle.process = some p ∧
        (∀ machine, ((c.undertake .stop).advance settings machine).stage = some (.ask p .rest)) ∧
        (t.current = some i ∨ Happens (step settings) (ComesLate i) s moves) := by
  intro t hquiet i c hc m hm halive
  have hguarded : c.IsGuarded := run_guarded hs.guarded moves c (List.mem_of_getElem? hc)
  have hmonitor := hguarded.numbered.monitor?_of_mem hm
  obtain ⟨hcallers, hidle⟩ := Bool.and_eq_true_iff.mp hquiet
  have hrest : c.stage = none := Option.isNone_iff_eq_none.mp (List.all_eq_true.mp hidle c (List.mem_of_getElem? hc))
  by_cases hquelling : m.duty = .quelling
  · exact .inl ⟨hquelling, hguarded.accounted.signalled hmonitor hquelling⟩
  by_cases hspared : ∃ cause, m.call = .answered (some cause)
  · exact .inr (.inl hspared)
  have hlarge : m.IsAtLarge := ⟨halive, hquelling, fun cause hcall => hspared ⟨cause, hcall⟩⟩
  obtain ⟨p, hp, hlive | hheld⟩ := hguarded.accounted.held hmonitor hlarge
  · refine .inr (.inr ⟨p, hp, hlive, ?_, ?_⟩)
    · intro machine
      have hstop : c.undertake .stop = c.goTo (.take .rest) := by
        rw [Cell.undertake, if_pos (by rw [hrest]; rfl)]
        rfl
      have htake : (c.goTo (.take .rest)).advance settings machine =
          ((c.goTo (.take .rest)).onHandle .release).goTo (.ask p .rest) := Cell.advance_take machine rfl hlive
      rw [hstop, htake]
      rfl
    · refine (run_isTended (hs.isTended i) hs.guarded moves).imp_left fun htended => ?_
      cases htended with
      | current found => exact found
      | removing waits =>
        rw [List.isEmpty_iff.mp hcallers] at waits
        cases waits
      | emptying cells =>
        cases cells c hc with
        | empty _ gone => cases gone.symm.trans hlive
        | updating stage _ => cases hrest.symm.trans stage
        | stopping goal =>
          rw [Cell.goal?, hrest] at goal
          cases goal
  · rw [Cell.held?, hrest] at hheld
    cases hheld

theorem removal_leaves_no_orphan_after_reload :
    let running : Cell := (Cell.opened (.plain "a" "a") 9002 .waiting).run {}
      [.undertake .start, .advance {}, .advance {}, .advance {}, .advance {}]
    let s : Site := { cells := [.opened (.plain "a" "a") 9001 .waiting, running], current := some 1 }
    let moves : List Move := [.arrive (.perform (.reload (.plain "a" "b"))), .lookUp 0, .enter 0,
      .inside 1 (.advance {}), .inside 1 (.advance {}), .inside 1 (.exit 1 .success), .inside 1 (.seeEnd 1),
      .inside 1 (.advance {}), .inside 1 (.advance {}), .inside 1 (.advance {}), .inside 1 (.advance {}),
      .inside 1 (.advance {}), .inside 1 (.advance {})]
    let t := s.run {} moves
    s.IsSettled {} ∧ t.isQuiet = true ∧ ∃ c, t.cells[1]? = some c ∧ { generation := 2 } ∈ c.monitors ∧
      ∃ p, p.generation = 2 ∧ c.handle.process = some p ∧
        (t.current = some 1 ∨ Happens (step {}) (ComesLate 1) s moves) := by
  intro running s moves t
  have hsettled : s.IsSettled {} := by
    refine ⟨rfl, ?_, ?_⟩
    · intro c hc
      simp only [s, List.mem_cons, List.not_mem_nil, or_false] at hc
      rcases hc with rfl | rfl
      · exact ⟨rfl, .plain "a" "a", 9001, .waiting, [], rfl⟩
      · exact ⟨by decide +kernel, _, _, _, _, rfl⟩
    · intro i c hc hcurrent
      rcases i with _ | _ | i
      · cases hc
        rfl
      · exact absurd rfl hcurrent
      · cases hc
  obtain ⟨hquiet, hlast⟩ : t.isQuiet = true ∧
      (t.cells[1]?).map (·.monitors.getLast?) = some (some { generation := 2 }) := by
    decide +kernel
  obtain ⟨c, hc, hmonitors⟩ := Option.map_eq_some_iff.mp hlast
  have hm : { generation := 2 } ∈ c.monitors := List.mem_of_getLast? hmonitors
  obtain ⟨hquelling, -⟩ | ⟨cause, hspared⟩ | ⟨p, hp, hlive, -, hfound⟩ :=
    removal_leaves_no_orphan hsettled moves hquiet 1 c hc _ hm rfl
  · cases hquelling
  · cases hspared
  · exact ⟨hsettled, hquiet, c, hc, hm, p, hp, hlive, hfound⟩

theorem late_start_leaves_orphan :
    let s : Site := { cells := [.opened (.plain "a" "a") 9001 .waiting], current := some 0 }
    let moves : List Move := [.arrive (.perform .start), .lookUp 0, .arrive .remove, .lookUp 1, .enter 1,
      .inside 0 (.advance {}), .enter 0, .inside 0 (.advance {}), .inside 0 (.advance {}), .inside 0 (.advance {}),
      .inside 0 (.advance {})]
    let t := s.run {} moves
    s.IsSettled {} ∧ t.isQuiet = true ∧ t.current = none ∧
      ∃ c, t.cells[0]? = some c ∧ c.handle.status = .running ∧
      c.handle.process.isSome = true ∧ c.monitors = [{ generation := 1 }] := by
  intro s moves t
  have hsettled : s.IsSettled {} := by
    refine ⟨rfl, ?_, ?_⟩
    · intro c hc
      rw [List.mem_singleton.mp hc]
      exact ⟨rfl, .plain "a" "a", 9001, .waiting, [], rfl⟩
    · intro i c hc hcurrent
      rcases i with _ | i
      · exact absurd rfl hcurrent
      · cases hc
  obtain ⟨hquiet, hcurrent, hcell⟩ : t.isQuiet = true ∧ t.current = none ∧
      (t.cells[0]?).map (fun c => (c.handle.status, c.handle.process.isSome, c.monitors)) =
        some (.running, true, [{ generation := 1 }]) := by decide +kernel
  obtain ⟨c, hc, hfields⟩ := Option.map_eq_some_iff.mp hcell
  simp only [Prod.mk.injEq] at hfields
  exact ⟨hsettled, hquiet, hcurrent, c, hc, hfields⟩

end Site

end NotebookHost
