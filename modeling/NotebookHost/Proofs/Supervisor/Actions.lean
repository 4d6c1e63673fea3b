import NotebookHost.Proofs.Supervisor.Simulation
import Mathlib.Logic.Relation

namespace NotebookHost.Supervisor

open Handle

theorem launchLocked_cases (m : Machine) (h : Handle) (s : Supervisor) :
    h.process.isSome = true ∧ launchLocked m h s = (s, h, .error (.alreadyRunning h.id)) ∨
    h.process = none ∧ (∃ cause, launchLocked m h s = (s, h.settle .error, .error (.launch h.id cause))) ∨
    h.process = none ∧ s.signal ≠ .given ∧ ∃ p : Process, p.id = h.id ∧ p.port = h.port ∧
      p.generation = h.generation + 1 ∧ launchLocked m h s =
        ({ s with alive := s.alive ++ [p], launches := s.launches ++ [p] }, h.launched p, .ok ()) := by
  unfold launchLocked
  split_ifs with hlive hgiven
  · exact .inl ⟨hlive, rfl⟩
  · exact .inr (.inl ⟨Option.not_isSome_iff_eq_none.mp hlive, _, rfl⟩)
  · have hgone := Option.not_isSome_iff_eq_none.mp hlive
    dsimp only
    split
    · exact .inr (.inl ⟨hgone, _, rfl⟩)
    · exact .inr (.inr ⟨hgone, hgiven, _, rfl, rfl, rfl, rfl⟩)

theorem stopLocked_cases (m : Machine) (h : Handle) (s : Supervisor) :
    h.process = none ∧ stopLocked m h s = (s, h, .error (.notRunning h.id)) ∨
    ∃ p, h.process = some p ∧
      (m.killError = none ∧ stopLocked m h s = (s.bury p, h.release.settle .stopped, .ok ()) ∨
        ∃ cause, m.killError = some cause ∧
          stopLocked m h s = (s, h.release.settle .error, .error (.kill p.pid cause))) := by
  unfold stopLocked
  cases hprocess : h.process with
  | none => exact .inl ⟨rfl, rfl⟩
  | some p =>
    refine .inr ⟨p, rfl, ?_⟩
    cases hkill : m.killError with
    | none => exact .inl ⟨rfl, rfl⟩
    | some cause => exact .inr ⟨cause, rfl, rfl⟩

theorem relaunchLocked_cases (m : Machine) (n : Notebook) (startIdle : Bool) (h : Handle) (s : Supervisor) :
    h.process = none ∧ startIdle = false ∧ relaunchLocked m n startIdle h s = (s, h.adopt n, .ok ()) ∨
    h.process = none ∧ startIdle = true ∧ relaunchLocked m n startIdle h s = launchLocked m (h.adopt n) s ∨
    ∃ p, h.process = some p ∧
      (m.killError = none ∧ relaunchLocked m n startIdle h s =
          launchLocked m ((h.adopt n).release.settle .stopped) (s.bury p) ∨
        ∃ cause, m.killError = some cause ∧
          relaunchLocked m n startIdle h s = (s, (h.adopt n).release.settle .error, .error (.kill p.pid cause))) := by
  unfold relaunchLocked
  dsimp only
  cases hprocess : h.process with
  | none =>
    cases startIdle with
    | false => exact .inl ⟨rfl, rfl, rfl⟩
    | true => exact .inr (.inl ⟨rfl, rfl, rfl⟩)
  | some p =>
    refine .inr (.inr ⟨p, rfl, ?_⟩)
    rw [if_pos Option.isSome_some]
    rcases stopLocked_cases m (h.adopt n) s with ⟨hgone, -⟩ | ⟨q, hlive, hstop⟩
    · rw [adopt, hprocess] at hgone
      cases hgone
    · obtain rfl : p = q := by
        rw [adopt, hprocess] at hlive
        exact Option.some.inj hlive
      rcases hstop with ⟨hkill, hstop⟩ | ⟨cause, hkill, hstop⟩
      · rw [hstop]
        exact .inl ⟨hkill, rfl⟩
      · rw [hstop]
        exact .inr ⟨cause, hkill, rfl⟩

inductive Action (m : Machine) (s : Supervisor) : Supervisor → Prop
  | operated {id : String} {h : Handle} (found : s.handles[id]? = some h) (op : Operation) :
      Action m s (keep (op.outcome m h s)).1
  | counted : Action m s { s with counter := s.counter + 1 }
  | enrolled {n : Notebook} (unknown : s.handles[n.id]? = none) (port : Port) :
      Action m s (keep (launchLocked m (.ofNotebook n port)
        (({ s with counter := s.counter + 1 } : Supervisor).setHandle (.ofNotebook n port)))).1
  | removed {id : String} {h : Handle} (found : s.handles[id]? = some h) :
      Action m s (stopLocked m h { s with handles := s.handles.erase id }).1
  | exited {p : Process} (alive : p ∈ s.alive) (ending : Ending) :
      Action m s ((s.bury p).react p (·.exited p.generation ending))
  | heeded {p : Process} (alive : p ∈ s.alive) :
      Action m s ((s.bury p).react p (·.signalled p.generation))
  | signalled {signal : Signal} (lasting : s.signal = .given → signal = .given) : Action m s { s with signal }

open Relation

theorem keep_actions (m : Machine) (op : Operation) {s : Supervisor} {id : String} {h : Handle}
    (hfound : s.handles[id]? = some h) : ReflTransGen (Action m) s (keep (op.outcome m h s)).1 :=
  .single (.operated hfound op)

theorem stop_actions (m : Machine) (id : String) (s : Supervisor) : ReflTransGen (Action m) s (s.stop m id).1 := by
  unfold stop
  split
  · exact .refl
  · next h hfind => exact keep_actions m .stop (find_eq_ok_iff.mp hfind)

theorem takeOver_actions (m : Machine) (n : Notebook) (s : Supervisor) :
    ReflTransGen (Action m) s (s.takeOver m n) := by
  cases hfound : s.handles[n.id]? with
  | some h =>
    rw [takeOver_known m hfound]
    exact keep_actions m (.update n) hfound
  | none =>
    rw [takeOver_unknown m hfound]
    split
    · exact .single .counted
    · next port _ =>
      have hfind : (({ s with counter := s.counter + 1 } : Supervisor).setHandle (.ofNotebook n port)).find n.id =
          .ok (.ofNotebook n port) := by
        rw [find_eq_ok_iff, getElem?_setHandle]
        exact if_pos rfl
      rw [start, hfind]
      exact .single (.enrolled hfound port)

theorem perform_actions (m : Machine) (step : Step) (s : Supervisor) :
    ReflTransGen (Action m) s (s.perform m step).1 := by
  cases step with
  | follow e =>
    obtain ⟨change, n⟩ := e
    cases change with
    | added => exact takeOver_actions m n s
    | updated => exact takeOver_actions m n s
    | deleted =>
      change ReflTransGen (Action m) s (s.remove m n.id)
      unfold remove
      split
      · exact .refl
      · next h hfound => exact .single (.removed hfound)
  | start id =>
    change ReflTransGen (Action m) s (s.start m id).1
    unfold start
    split
    · exact .refl
    · next h hfind => exact keep_actions m .start (find_eq_ok_iff.mp hfind)
  | stop id => exact stop_actions m id s
  | reload n =>
    change ReflTransGen (Action m) s (s.reload m n).1
    unfold reload
    split
    · exact .refl
    · next h hfind => exact keep_actions m (.reload n) (find_eq_ok_iff.mp hfind)
  | shutdown =>
    change ReflTransGen (Action m) s (s.shutdown m)
    unfold shutdown
    generalize s.handles.keys = ids
    induction ids generalizing s with
    | nil => exact .refl
    | cons id ids ih => exact (stop_actions m id s).trans (ih _)
  | exit id ending =>
    refine onProcess_induction (motive := ReflTransGen (Action m) s) .refl fun p hp _ => ?_
    unfold exit
    rw [if_pos (List.contains_iff_mem.mpr hp)]
    exact .single (.exited hp ending)
  | giveSignal => exact .single (.signalled fun hgiven => by rw [hgiven]; rfl)
  | loseSignal => exact .single (.signalled fun hgiven => by rw [hgiven]; rfl)
  | heedSignal id =>
    refine onProcess_induction (motive := ReflTransGen (Action m) s) .refl fun p hp _ => ?_
    unfold heedSignal
    split_ifs
    · exact .single (.heeded hp)
    · exact .refl

theorem run_induction {motive : Supervisor → Prop}
    (haction : ∀ {m : Machine} {s s' : Supervisor}, Action m s s' → motive s → motive s')
    {s : Supervisor} (hs : motive s) (steps : List (Machine × Step)) : motive (s.run steps) := by
  have hactions {m : Machine} {s s' : Supervisor} (h : ReflTransGen (Action m) s s') (hs : motive s) : motive s' := by
    induction h with
    | refl => exact hs
    | tail _ haction' ih => exact haction haction' ih
  induction steps generalizing s with
  | nil => exact hs
  | cons turn steps ih => exact ih (hactions (perform_actions turn.1 turn.2 s) hs)

end NotebookHost.Supervisor
