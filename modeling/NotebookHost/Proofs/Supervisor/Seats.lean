import NotebookHost.Supervisor.Run
import Mathlib.Data.List.Basic
import Mathlib.Logic.Function.Basic
import Mathlib.Order.Basic

namespace NotebookHost

structure Seat where
  port : Port
  notebook : Notebook

def Handle.seat (h : Handle) : Seat := ⟨h.port, h.notebook⟩

structure Seating where
  settings : LaunchSettings
  ports : PortRange
  counter : UInt32
  seat? : String → Option Seat

namespace Seating

def put (id : String) (seat : Option Seat) (t : Seating) : Seating :=
  { t with seat? := Function.update t.seat? id seat }

def adopt (n : Notebook) (t : Seating) : Seating :=
  match t.seat? n.id with
  | none => t
  | some seat => t.put n.id (some ⟨seat.port, n⟩)

def enrol (n : Notebook) (t : Seating) : Seating :=
  let count := t.counter + 1
  ({ t with counter := count } : Seating).put n.id ((Supervisor.portOf? t.ports count).map fun port => ⟨port, n⟩)

def takeOver (n : Notebook) (t : Seating) : Seating := if (t.seat? n.id).isSome then t.adopt n else t.enrol n

def follow (e : Event) (t : Seating) : Seating :=
  match e.change with
  | .added | .updated => t.takeOver e.notebook
  | .deleted => t.put e.notebook.id none

def perform (step : Supervisor.Step) (t : Seating) : Seating :=
  match step with
  | .follow e => t.follow e
  | .reload n => t.adopt n
  | _ => t

@[simp] theorem put_seat? (id : String) (seat : Option Seat) (t : Seating) (i : String) :
    (t.put id seat).seat? i = if i = id then seat else t.seat? i := Function.update_apply _ _ _ _

theorem put_eq_self {t : Seating} {id : String} {seat : Option Seat} (h : t.seat? id = seat) : t.put id seat = t := by
  rw [put, ← h, Function.update_eq_self]

theorem adopt_of_seat {t : Seating} {n : Notebook} {seat : Seat} (h : t.seat? n.id = some seat) :
    t.adopt n = t.put n.id (some ⟨seat.port, n⟩) := by
  unfold adopt
  rw [h]

theorem adopt_of_none {t : Seating} {n : Notebook} (h : t.seat? n.id = none) : t.adopt n = t := by
  unfold adopt
  rw [h]

@[simp] theorem adopt_counter (t : Seating) (n : Notebook) : (t.adopt n).counter = t.counter := by
  unfold adopt
  split <;> rfl

@[simp] theorem adopt_ports (t : Seating) (n : Notebook) : (t.adopt n).ports = t.ports := by
  unfold adopt
  split <;> rfl

theorem adopt_isSome (t : Seating) (n : Notebook) (id : String) :
    ((t.adopt n).seat? id).isSome = (t.seat? id).isSome := by
  cases hseat : t.seat? n.id with
  | none => rw [adopt_of_none hseat]
  | some seat =>
    rw [adopt_of_seat hseat, put_seat?]
    split_ifs with hid
    · rw [hid, hseat]
      rfl
    · rfl

theorem enrol_of_room {t : Seating} {n : Notebook} {port : Port}
    (h : Supervisor.portOf? t.ports (t.counter + 1) = some port) :
    t.enrol n = ({ t with counter := t.counter + 1 } : Seating).put n.id (some ⟨port, n⟩) := by
  unfold enrol
  dsimp only
  rw [h, Option.map_some]

theorem enrol_of_full {t : Seating} {n : Notebook} (hseat : t.seat? n.id = none)
    (h : Supervisor.portOf? t.ports (t.counter + 1) = none) : t.enrol n = { t with counter := t.counter + 1 } := by
  unfold enrol
  dsimp only
  rw [h, Option.map_none]
  exact put_eq_self hseat

theorem follow_deleted {t : Seating} {e : Event} (h : e.change = .deleted) : t.follow e = t.put e.notebook.id none := by
  unfold follow
  rw [h]

theorem follow_kept {t : Seating} {e : Event} (h : e.change ≠ .deleted) : t.follow e = t.takeOver e.notebook := by
  unfold follow
  split
  · rfl
  · rfl
  · next hdeleted => exact absurd hdeleted h

@[simp] theorem follow_ports (t : Seating) (e : Event) : (t.follow e).ports = t.ports := by
  by_cases hdeleted : e.change = .deleted
  · rw [follow_deleted hdeleted]
    rfl
  · rw [follow_kept hdeleted, takeOver]
    split_ifs
    · rw [adopt_ports]
    · rfl

theorem follow_counter {t : Seating} {e : Event} (h : (t.seat? e.notebook.id).isSome = true) :
    (t.follow e).counter = t.counter := by
  by_cases hdeleted : e.change = .deleted
  · rw [follow_deleted hdeleted]
    rfl
  · rw [follow_kept hdeleted, takeOver, if_pos h, adopt_counter]

theorem follow_other {t : Seating} {e : Event} {id : String} (h : id ≠ e.notebook.id) :
    (t.follow e).seat? id = t.seat? id := by
  by_cases hdeleted : e.change = .deleted
  · rw [follow_deleted hdeleted, put_seat?, if_neg h]
  · rw [follow_kept hdeleted, takeOver]
    split_ifs with hseat
    · obtain ⟨seat, hseat⟩ := Option.isSome_iff_exists.mp hseat
      rw [adopt_of_seat hseat, put_seat?, if_neg h]
    · unfold enrol
      rw [put_seat?, if_neg h]

theorem takeOver_own {t : Seating} {n : Notebook} {seat : Seat} (h : (t.takeOver n).seat? n.id = some seat) :
    seat.notebook = n := by
  unfold takeOver at h
  split_ifs at h with hseat
  · obtain ⟨old, hold⟩ := Option.isSome_iff_exists.mp hseat
    rw [adopt_of_seat hold, put_seat?, if_pos rfl] at h
    cases h
    rfl
  · unfold enrol at h
    rw [put_seat?, if_pos rfl] at h
    obtain ⟨port, -, rfl⟩ := Option.map_eq_some_iff.mp h
    rfl

end Seating

namespace Supervisor

def seating (s : Supervisor) : Seating where
  settings := s.settings
  ports := s.ports
  counter := s.counter
  seat? id := (s.handles[id]?).map Handle.seat

structure IsSeated (s : Supervisor) (t : Seating) : Prop where
  seating_eq : s.seating = t
  keyed : ∀ {id : String} {h : Handle}, s.handles[id]? = some h → h.id = id

structure SameTable (s s' : Supervisor) : Prop where
  handles : s'.handles = s.handles
  counter : s'.counter = s.counter
  ports : s'.ports = s.ports
  settings : s'.settings = s.settings

theorem SameTable.refl (s : Supervisor) : SameTable s s := ⟨rfl, rfl, rfl, rfl⟩

theorem SameTable.trans {s t u : Supervisor} (h : SameTable s t) (h' : SameTable t u) : SameTable s u :=
  ⟨h'.handles.trans h.handles, h'.counter.trans h.counter, h'.ports.trans h.ports, h'.settings.trans h.settings⟩

theorem SameTable.isSeated {s s' : Supervisor} {t : Seating} (h : SameTable s s') (hs : s.IsSeated t) :
    s'.IsSeated t where
  seating_eq := by
    rw [seating, h.handles, h.counter, h.ports, h.settings]
    exact hs.seating_eq
  keyed hfound := hs.keyed (h.handles ▸ hfound)

theorem launchLocked_table (m : Machine) (h : Handle) (s : Supervisor) : SameTable s (launchLocked m h s).1 := by
  unfold launchLocked
  split_ifs
  · exact .refl s
  · exact .refl s
  · dsimp only
    split <;> exact ⟨rfl, rfl, rfl, rfl⟩

theorem launchLocked_seat (m : Machine) (h : Handle) (s : Supervisor) :
    (launchLocked m h s).2.1.id = h.id ∧ (launchLocked m h s).2.1.seat = h.seat := by
  unfold launchLocked
  split_ifs
  · exact ⟨rfl, rfl⟩
  · exact ⟨rfl, rfl⟩
  · dsimp only
    split <;> exact ⟨rfl, rfl⟩

theorem stopLocked_table (m : Machine) (h : Handle) (s : Supervisor) : SameTable s (stopLocked m h s).1 := by
  unfold stopLocked
  split
  · exact .refl s
  · split <;> exact ⟨rfl, rfl, rfl, rfl⟩

theorem stopLocked_seat (m : Machine) (h : Handle) (s : Supervisor) :
    (stopLocked m h s).2.1.id = h.id ∧ (stopLocked m h s).2.1.seat = h.seat := by
  unfold stopLocked
  split
  · exact ⟨rfl, rfl⟩
  · split <;> exact ⟨rfl, rfl⟩

theorem relaunchLocked_table (m : Machine) (n : Notebook) (startIdle : Bool) (h : Handle) (s : Supervisor) :
    SameTable s (relaunchLocked m n startIdle h s).1 := by
  have hstop := stopLocked_table m (h.adopt n) s
  unfold relaunchLocked
  dsimp only
  split_ifs
  · split
    · next hs => rw [hs] at hstop; exact hstop
    · next s' h' hs =>
      rw [hs] at hstop
      exact hstop.trans (launchLocked_table m h' s')
  · exact launchLocked_table m (h.adopt n) s
  · exact .refl s

theorem relaunchLocked_seat (m : Machine) (n : Notebook) (startIdle : Bool) (h : Handle) (s : Supervisor) :
    (relaunchLocked m n startIdle h s).2.1.id = h.id ∧
      (relaunchLocked m n startIdle h s).2.1.seat = ⟨h.port, n⟩ := by
  have hstop := stopLocked_seat m (h.adopt n) s
  unfold relaunchLocked
  dsimp only
  split_ifs
  · split
    · next hs => rw [hs] at hstop; exact hstop
    · next s' h' hs =>
      rw [hs] at hstop
      have hlaunch := launchLocked_seat m h' s'
      exact ⟨hlaunch.1.trans hstop.1, hlaunch.2.trans hstop.2⟩
  · exact launchLocked_seat m (h.adopt n) s
  · exact ⟨rfl, rfl⟩

theorem getElem?_setHandle (s : Supervisor) (h : Handle) (id : String) :
    (s.setHandle h).handles[id]? = if id = h.id then some h else s.handles[id]? := by
  simp only [setHandle, Std.TreeMap.getElem?_insert, Std.LawfulEqCmp.compare_eq_iff_eq, eq_comm (a := id)]

theorem seating_setHandle (s : Supervisor) (h : Handle) :
    (s.setHandle h).seating = s.seating.put h.id (some h.seat) := by
  have hseat : (fun id => ((s.setHandle h).handles[id]?).map Handle.seat) =
      Function.update s.seating.seat? h.id (some h.seat) := by
    funext id
    rw [getElem?_setHandle, Function.update_apply]
    split_ifs <;> rfl
  rw [seating, hseat]
  rfl

theorem find_eq_ok_iff {s : Supervisor} {id : String} {h : Handle} : s.find id = .ok h ↔ s.handles[id]? = some h := by
  unfold find
  cases s.handles[id]? with
  | none => simp
  | some h' => simp

theorem find_eq_error {s : Supervisor} {id : String} {e : Failure} (h : s.find id = .error e) :
    s.handles[id]? = none := by
  unfold find at h
  cases hfound : s.handles[id]? with
  | none => rfl
  | some h' => rw [hfound] at h; cases h

theorem takeOver_known {s : Supervisor} (m : Machine) {n : Notebook} {h : Handle} (hfound : s.handles[n.id]? = some h) :
    s.takeOver m n = (keep (relaunchLocked m n false h s)).1 := by
  unfold takeOver
  rw [hfound]

theorem takeOver_unknown {s : Supervisor} (m : Machine) {n : Notebook} (hfound : s.handles[n.id]? = none) :
    s.takeOver m n =
      match portOf? s.ports (s.counter + 1) with
      | none => { s with counter := s.counter + 1 }
      | some port =>
        ((({ s with counter := s.counter + 1 } : Supervisor).setHandle (.ofNotebook n port)).start m n.id).1 := by
  unfold takeOver
  rw [hfound]
  unfold allocate
  dsimp only
  cases portOf? s.ports (s.counter + 1) <;> rfl

theorem onProcess_induction {motive : Supervisor → Prop} {act : Process → Supervisor → Supervisor} {id : String}
    {s : Supervisor} (hs : motive s) (hact : ∀ p ∈ s.alive, p.id = id → motive (act p s)) :
    motive (s.onProcess act id) := by
  unfold onProcess
  split
  · exact hs
  · next p hp =>
    have hid := List.find?_some (p := fun p : Process => p.id == id) hp
    exact hact p (List.mem_of_find?_eq_some hp) (beq_iff_eq.mp hid)

namespace IsSeated

variable {s : Supervisor} {t : Seating} (hs : s.IsSeated t)
include hs

theorem seat?_eq (id : String) : t.seat? id = (s.handles[id]?).map Handle.seat := by
  rw [← hs.seating_eq]
  rfl

theorem setHandle (h : Handle) : (s.setHandle h).IsSeated (t.put h.id (some h.seat)) where
  seating_eq := by rw [seating_setHandle, hs.seating_eq]
  keyed {id h'} hfound := by
    rw [getElem?_setHandle] at hfound
    split_ifs at hfound with hid
    · cases hfound
      exact hid.symm
    · exact hs.keyed hfound

theorem keep {s' : Supervisor} {id : String} {h h' : Handle} (hfound : s.handles[id]? = some h)
    (htable : SameTable s s') (hid : h'.id = h.id) : (s'.setHandle h').IsSeated (t.put id (some h'.seat)) := by
  have hseated := (htable.isSeated hs).setHandle h'
  rwa [hid, hs.keyed hfound] at hseated

theorem keep_same {s' : Supervisor} {id : String} {h h' : Handle} (hfound : s.handles[id]? = some h)
    (htable : SameTable s s') (hid : h'.id = h.id) (hseat : h'.seat = h.seat) : (s'.setHandle h').IsSeated t := by
  have hseated := hs.keep hfound htable hid
  rwa [Seating.put_eq_self (by rw [hs.seat?_eq, hfound, hseat]; rfl)] at hseated

theorem start (m : Machine) (id : String) : (s.start m id).1.IsSeated t := by
  unfold Supervisor.start
  split
  · exact hs
  · next h hfind =>
    obtain ⟨hid, hseat⟩ := launchLocked_seat m h s
    exact hs.keep_same (find_eq_ok_iff.mp hfind) (launchLocked_table m h s) hid hseat

theorem stop (m : Machine) (id : String) : (s.stop m id).1.IsSeated t := by
  unfold Supervisor.stop
  split
  · exact hs
  · next h hfind =>
    obtain ⟨hid, hseat⟩ := stopLocked_seat m h s
    exact hs.keep_same (find_eq_ok_iff.mp hfind) (stopLocked_table m h s) hid hseat

theorem relaunch (m : Machine) (n : Notebook) (startIdle : Bool) {h : Handle} (hfound : s.handles[n.id]? = some h) :
    (Supervisor.keep (relaunchLocked m n startIdle h s)).1.IsSeated (t.adopt n) := by
  obtain ⟨hid, hseat⟩ := relaunchLocked_seat m n startIdle h s
  have hseated := hs.keep hfound (relaunchLocked_table m n startIdle h s) hid
  rw [hseat] at hseated
  rw [Seating.adopt, hs.seat?_eq, hfound]
  exact hseated

theorem reload (m : Machine) (n : Notebook) : (s.reload m n).1.IsSeated (t.adopt n) := by
  unfold Supervisor.reload
  split
  · next e hfind =>
    rw [Seating.adopt, hs.seat?_eq, find_eq_error hfind]
    exact hs
  · next h hfind => exact hs.relaunch m n true (find_eq_ok_iff.mp hfind)

theorem count : ({ s with counter := s.counter + 1 } : Supervisor).IsSeated { t with counter := t.counter + 1 } where
  seating_eq := by rw [← hs.seating_eq]; rfl
  keyed := hs.keyed

theorem takeOver (m : Machine) (n : Notebook) : (s.takeOver m n).IsSeated (t.takeOver n) := by
  have hseat := hs.seat?_eq n.id
  unfold Seating.takeOver
  cases hfound : s.handles[n.id]? with
  | some h =>
    rw [takeOver_known m hfound, if_pos (by rw [hseat, hfound]; rfl)]
    exact hs.relaunch m n false hfound
  | none =>
    rw [hfound] at hseat
    have hcount : portOf? t.ports (t.counter + 1) = portOf? s.ports (s.counter + 1) := by rw [← hs.seating_eq]; rfl
    rw [takeOver_unknown m hfound, if_neg (by rw [hseat]; decide)]
    cases hport : portOf? s.ports (s.counter + 1) with
    | none =>
      rw [Seating.enrol_of_full hseat (hcount.trans hport)]
      exact hs.count
    | some port =>
      rw [Seating.enrol_of_room (hcount.trans hport)]
      exact (hs.count.setHandle (.ofNotebook n port)).start m n.id

theorem eraseHandle (id : String) :
    ({ s with handles := s.handles.erase id } : Supervisor).IsSeated (t.put id none) where
  seating_eq := by
    have hseat : (fun i => ((s.handles.erase id)[i]?).map Handle.seat) = Function.update s.seating.seat? id none := by
      funext i
      simp only [Std.TreeMap.getElem?_erase, Std.LawfulEqCmp.compare_eq_iff_eq, Function.update_apply, eq_comm (a := i)]
      split_ifs <;> rfl
    rw [← hs.seating_eq, seating]
    dsimp only
    rw [hseat]
    rfl
  keyed {i h} hfound := by
    simp only [Std.TreeMap.getElem?_erase, Std.LawfulEqCmp.compare_eq_iff_eq] at hfound
    split_ifs at hfound
    exact hs.keyed hfound

theorem remove (m : Machine) (id : String) : (s.remove m id).IsSeated (t.put id none) := by
  unfold Supervisor.remove
  split
  · next hfound =>
    rw [Seating.put_eq_self (by rw [hs.seat?_eq, hfound]; rfl)]
    exact hs
  · next h hfound => exact (stopLocked_table m h _).isSeated (hs.eraseHandle id)

theorem follow (m : Machine) (e : Event) : (s.follow m e).IsSeated (t.follow e) := by
  obtain ⟨change, n⟩ := e
  cases change with
  | added => exact hs.takeOver m n
  | updated => exact hs.takeOver m n
  | deleted => exact hs.remove m n.id

theorem react (p : Process) {act : Handle → Handle} (hact : ∀ h, (act h).id = h.id ∧ (act h).seat = h.seat) :
    (s.react p act).IsSeated t := by
  unfold Supervisor.react
  split
  · exact hs
  · next h hfound =>
    split_ifs
    · exact hs.keep_same hfound (.refl s) (hact h).1 (hact h).2
    · exact hs

theorem bury (p : Process) : (s.bury p).IsSeated t := SameTable.isSeated (s := s) ⟨rfl, rfl, rfl, rfl⟩ hs

theorem exit (p : Process) (ending : Ending) : (s.exit p ending).IsSeated t := by
  unfold Supervisor.exit
  split_ifs
  · refine (hs.bury p).react p ?_
    intro h
    unfold Handle.exited
    split_ifs <;> exact ⟨rfl, rfl⟩
  · exact hs

theorem heedSignal (p : Process) : (s.heedSignal p).IsSeated t := by
  unfold Supervisor.heedSignal
  split_ifs
  · refine (hs.bury p).react p ?_
    intro h
    unfold Handle.signalled
    split_ifs <;> exact ⟨rfl, rfl⟩
  · exact hs

theorem shutdown (m : Machine) : (s.shutdown m).IsSeated t := by
  unfold Supervisor.shutdown
  generalize s.handles.keys = ids
  induction ids generalizing s with
  | nil => exact hs
  | cons id ids ih => exact ih (hs.stop m id)

theorem perform (m : Machine) (step : Step) : (s.perform m step).1.IsSeated (t.perform step) := by
  cases step with
  | follow e => exact hs.follow m e
  | start id => exact hs.start m id
  | stop id => exact hs.stop m id
  | reload n => exact hs.reload m n
  | shutdown => exact hs.shutdown m
  | exit id ending => exact onProcess_induction (motive := (IsSeated · t)) hs fun p _ _ => hs.exit p ending
  | giveSignal => exact SameTable.isSeated (s := s) ⟨rfl, rfl, rfl, rfl⟩ hs
  | loseSignal => exact SameTable.isSeated (s := s) ⟨rfl, rfl, rfl, rfl⟩ hs
  | heedSignal id => exact onProcess_induction (motive := (IsSeated · t)) hs fun p _ _ => hs.heedSignal p

end IsSeated

end Supervisor

end NotebookHost
