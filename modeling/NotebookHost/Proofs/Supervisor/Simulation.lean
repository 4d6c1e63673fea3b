import NotebookHost.Proofs.Supervisor.Agreement
import NotebookHost.Supervisor.Run

namespace NotebookHost

def Signal.seen : Signal → Signal
  | .given => .given
  | _ => .waiting

theorem Signal.seen_eq_given_iff {signal : Signal} : signal.seen = .given ↔ signal = .given := by
  cases signal <;> decide

namespace Cell

variable {settings : LaunchSettings} {m : Machine} {c d : Cell}

theorem run_append (c : Cell) (early late : List Move) :
    c.run settings (early ++ late) = (c.run settings early).run settings late := List.foldl_append

theorem Leads.exists_run (h : Leads settings m c d) : ∃ moves, c.run settings moves = d := by
  have hproceed (c : Cell) : ∃ moves, c.run settings moves = c.proceed settings m := by
    unfold proceed
    split
    · exact ⟨_, rfl⟩
    · exact ⟨[.advance m], rfl⟩
  induction h with
  | here c => exact ⟨[], rfl⟩
  | @next c d e first _ ih =>
    obtain ⟨early, hearly⟩ := hproceed c
    obtain ⟨late, hlate⟩ := ih
    refine ⟨early ++ late, ?_⟩
    rw [run_append, hearly, first, hlate]

end Cell

namespace Handle

open Cell

def IsReached (settings : LaunchSettings) (signal : Signal) (h : Handle) : Prop :=
  ∃ (n : Notebook) (port : Port) (start : Signal) (moves : List Move),
    ((opened n port start).run settings moves).Shows signal.seen h

namespace IsReached

variable {settings : LaunchSettings} {signal signal' : Signal} {h h' : Handle}

theorem ofNotebook (settings : LaunchSettings) (signal : Signal) (n : Notebook) (port : Port) :
    IsReached settings signal (.ofNotebook n port) := ⟨n, port, signal.seen, [], rfl, .opened n port _, rfl, rfl⟩

theorem further (hh : h.IsReached settings signal)
    (hmoves : ∀ c : Cell, c.Shows signal.seen h → ∃ moves, (c.run settings moves).Shows signal'.seen h') :
    h'.IsReached settings signal' := by
  obtain ⟨n, port, start, early, hearly⟩ := hh
  obtain ⟨late, hlate⟩ := hmoves _ hearly
  exact ⟨n, port, start, early ++ late, by rwa [Cell.run_append]⟩

theorem outcome {s : Supervisor} (hh : h.IsReached s.settings s.signal) (m : Machine) (op : Operation) :
    (op.outcome m h s).2.1.IsReached s.settings s.signal := by
  refine hh.further fun c hc => ?_
  obtain ⟨d, hleads, hd⟩ := undertake_agrees hc Signal.seen_eq_given_iff.symm m op
  obtain ⟨moves, rfl⟩ := hleads.exists_run
  exact ⟨.undertake op :: moves, hd.idle, hd.attended, hd.handle, hd.signal.trans hc.signal⟩

theorem exists_process {c : Cell} (hc : c.Shows signal h) {generation : ℕ} (hheeds : h.heeds generation = true) :
    ∃ p, h.process = some p ∧ p.generation = generation := by
  rw [heeds, Bool.and_eq_true, beq_iff_eq] at hheeds
  obtain ⟨p, hp⟩ := Option.isSome_iff_exists.mp hheeds.2
  obtain ⟨-, hattended, rfl, -⟩ := hc
  exact ⟨p, hp, (hattended.upToDate p hp).trans hheeds.1⟩

theorem exited (hh : h.IsReached settings signal) (generation : ℕ) (ending : Ending) :
    (h.exited generation ending).IsReached settings signal := by
  by_cases hheeds : h.heeds generation = true
  · refine hh.further fun c hc => ?_
    obtain ⟨p, hp, rfl⟩ := exists_process hc hheeds
    exact ⟨_, exit_shows hc hp ending⟩
  · rwa [exited_of_not_heeds (Bool.not_eq_true _ ▸ hheeds)]

theorem signalled (hh : h.IsReached settings .given) (generation : ℕ) :
    (h.signalled generation).IsReached settings .given := by
  by_cases hheeds : h.heeds generation = true
  · refine hh.further fun c hc => ?_
    obtain ⟨p, hp, rfl⟩ := exists_process hc hheeds
    exact ⟨_, signal_shows hc hp⟩
  · rwa [signalled_of_not_heeds (Bool.not_eq_true _ ▸ hheeds)]

theorem give (hh : h.IsReached settings signal) : h.IsReached settings signal.give := by
  cases signal with
  | lost => exact hh
  | _ =>
    refine hh.further fun c hc => ⟨[.giveSignal], hc.idle, ?_, hc.handle, ?_⟩
    · exact ⟨hc.attended.upToDate, hc.attended.watched, hc.attended.past⟩
    · exact congrArg Signal.give hc.signal

theorem lose (hh : h.IsReached settings signal) : h.IsReached settings signal.lose := by
  have hseen : signal.lose.seen = signal.seen := by cases signal <;> rfl
  unfold IsReached
  rwa [hseen]

end IsReached

end Handle

namespace Supervisor

open Handle

theorem launchLocked_signal (m : Machine) (h : Handle) (s : Supervisor) : (launchLocked m h s).1.signal = s.signal := by
  unfold launchLocked
  split_ifs
  · rfl
  · rfl
  · dsimp only
    split <;> rfl

theorem stopLocked_signal (m : Machine) (h : Handle) (s : Supervisor) : (stopLocked m h s).1.signal = s.signal := by
  unfold stopLocked
  split
  · rfl
  · split <;> rfl

theorem relaunchLocked_signal (m : Machine) (n : Notebook) (startIdle : Bool) (h : Handle) (s : Supervisor) :
    (relaunchLocked m n startIdle h s).1.signal = s.signal := by
  have hstop := stopLocked_signal m (h.adopt n) s
  unfold relaunchLocked
  dsimp only
  split_ifs
  · split
    · next hs => rw [hs] at hstop; exact hstop
    · next s' h' hs =>
      rw [hs] at hstop
      exact (launchLocked_signal m h' s').trans hstop
  · exact launchLocked_signal m (h.adopt n) s
  · rfl

theorem outcome_table (m : Machine) (op : Operation) (h : Handle) (s : Supervisor) :
    SameTable s (op.outcome m h s).1 ∧ (op.outcome m h s).1.signal = s.signal := by
  cases op with
  | start => exact ⟨launchLocked_table m h s, launchLocked_signal m h s⟩
  | stop => exact ⟨stopLocked_table m h s, stopLocked_signal m h s⟩
  | update n => exact ⟨relaunchLocked_table m n false h s, relaunchLocked_signal m n false h s⟩
  | reload n => exact ⟨relaunchLocked_table m n true h s, relaunchLocked_signal m n true h s⟩

def IsInterleaved (s : Supervisor) : Prop :=
  ∀ (id : String) (h : Handle), s.handles[id]? = some h → h.IsReached s.settings s.signal

namespace IsInterleaved

variable {s : Supervisor} (hs : s.IsInterleaved)
include hs

theorem setHandle {s' : Supervisor} (htable : SameTable s s') (hsignal : s'.signal = s.signal) {h : Handle}
    (hh : h.IsReached s.settings s.signal) : (s'.setHandle h).IsInterleaved := by
  intro id h' hfound
  change h'.IsReached s'.settings s'.signal
  rw [htable.settings, hsignal]
  rw [getElem?_setHandle, htable.handles] at hfound
  split_ifs at hfound
  · cases hfound
    exact hh
  · exact hs id h' hfound

theorem keep (m : Machine) (op : Operation) {id : String} {h : Handle} (hfound : s.handles[id]? = some h) :
    (Supervisor.keep (op.outcome m h s)).1.IsInterleaved := by
  obtain ⟨htable, hsignal⟩ := outcome_table m op h s
  exact hs.setHandle htable hsignal ((hs id h hfound).outcome m op)

theorem start (m : Machine) (id : String) : (s.start m id).1.IsInterleaved := by
  unfold Supervisor.start
  split
  · exact hs
  · next h hfind => exact hs.keep m .start (find_eq_ok_iff.mp hfind)

theorem stop (m : Machine) (id : String) : (s.stop m id).1.IsInterleaved := by
  unfold Supervisor.stop
  split
  · exact hs
  · next h hfind => exact hs.keep m .stop (find_eq_ok_iff.mp hfind)

theorem reload (m : Machine) (n : Notebook) : (s.reload m n).1.IsInterleaved := by
  unfold Supervisor.reload
  split
  · exact hs
  · next h hfind => exact hs.keep m (.reload n) (find_eq_ok_iff.mp hfind)

theorem takeOver (m : Machine) (n : Notebook) : (s.takeOver m n).IsInterleaved := by
  cases hfound : s.handles[n.id]? with
  | some h =>
    rw [takeOver_known m hfound]
    exact hs.keep m (.update n) hfound
  | none =>
    have hcount : ({ s with counter := s.counter + 1 } : Supervisor).IsInterleaved := hs
    rw [takeOver_unknown m hfound]
    split
    · exact hcount
    · next port _ => exact (hcount.setHandle (.refl _) rfl (.ofNotebook _ _ n port)).start m n.id

theorem remove (m : Machine) (id : String) : (s.remove m id).IsInterleaved := by
  unfold Supervisor.remove
  split
  · exact hs
  · next h _ =>
    let s' : Supervisor := { s with handles := s.handles.erase id }
    have htable : SameTable s' (stopLocked m h s').1 := stopLocked_table m h s'
    have hsignal : (stopLocked m h s').1.signal = s.signal := stopLocked_signal m h s'
    intro i h' hfound
    rw [htable.handles] at hfound
    simp only [s', Std.TreeMap.getElem?_erase, Std.LawfulEqCmp.compare_eq_iff_eq] at hfound
    rw [htable.settings, hsignal]
    split_ifs at hfound
    exact hs i h' hfound

theorem follow (m : Machine) (e : Event) : (s.follow m e).IsInterleaved := by
  obtain ⟨change, n⟩ := e
  cases change with
  | added => exact hs.takeOver m n
  | updated => exact hs.takeOver m n
  | deleted => exact hs.remove m n.id

theorem react (p : Process) {act : Handle → Handle}
    (hact : ∀ h, h.IsReached s.settings s.signal → (act h).IsReached s.settings s.signal) :
    (s.react p act).IsInterleaved := by
  unfold Supervisor.react
  split
  · exact hs
  · next h hfound =>
    split_ifs
    · exact hs.setHandle (.refl s) rfl (hact h (hs p.id h hfound))
    · exact hs

theorem bury (p : Process) : (s.bury p).IsInterleaved := hs

theorem exit (p : Process) (ending : Ending) : (s.exit p ending).IsInterleaved := by
  unfold Supervisor.exit
  split_ifs
  · exact (hs.bury p).react p fun h hh => hh.exited p.generation ending
  · exact hs

theorem heedSignal (p : Process) : (s.heedSignal p).IsInterleaved := by
  unfold Supervisor.heedSignal
  split_ifs with hheeds
  · refine (hs.bury p).react p fun h hh => ?_
    change h.IsReached s.settings s.signal at hh
    change (h.signalled p.generation).IsReached s.settings s.signal
    rw [hheeds.1] at hh ⊢
    exact hh.signalled p.generation
  · exact hs

theorem shutdown (m : Machine) : (s.shutdown m).IsInterleaved := by
  unfold Supervisor.shutdown
  generalize s.handles.keys = ids
  induction ids generalizing s with
  | nil => exact hs
  | cons id ids ih => exact ih (hs.stop m id)

theorem perform (m : Machine) (step : Step) : (s.perform m step).1.IsInterleaved := by
  cases step with
  | follow e => exact hs.follow m e
  | start id => exact hs.start m id
  | stop id => exact hs.stop m id
  | reload n => exact hs.reload m n
  | shutdown => exact hs.shutdown m
  | exit id ending => exact onProcess_induction (motive := IsInterleaved) hs fun p _ _ => hs.exit p ending
  | giveSignal => exact fun id h hfound => (hs id h hfound).give
  | loseSignal => exact fun id h hfound => (hs id h hfound).lose
  | heedSignal id => exact onProcess_induction (motive := IsInterleaved) hs fun p _ _ => hs.heedSignal p

theorem run (steps : List (Machine × Step)) : (s.run steps).IsInterleaved := by
  induction steps generalizing s with
  | nil => exact hs
  | cons turn steps ih => exact ih (hs.perform turn.1 turn.2)

end IsInterleaved

theorem fresh_run_isInterleaved (settings : LaunchSettings) (ports : PortRange) (steps : List (Machine × Step)) :
    ((fresh settings ports).run steps).IsInterleaved := by
  refine IsInterleaved.run ?_ steps
  intro id h hfound
  simp [fresh] at hfound

end Supervisor

end NotebookHost
