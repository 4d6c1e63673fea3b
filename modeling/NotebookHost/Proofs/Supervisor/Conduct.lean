import NotebookHost.Proofs.Supervisor.Allocation
import NotebookHost.Proofs.Supervisor.Processes

namespace NotebookHost.Supervisor

open Handle

def IsLive (s : Supervisor) (h : Handle) : Prop := ∃ p ∈ s.alive, h.process = some p

structure IsOrderly (settings : LaunchSettings) (s : Supervisor) : Prop where
  keyed : ∀ {id : String} {h : Handle}, s.handles[id]? = some h → h.id = id
  running_iff : ∀ {id : String} {h : Handle}, s.handles[id]? = some h → (h.status = .running ↔ s.IsLive h)
  ended : ∀ {id : String} {h : Handle}, s.handles[id]? = some h → ¬ s.IsLive h →
    h.process = none ∧ (h.status = .stopped ∨ h.status = .error)
  single : ∀ id, (s.processesOf id).length ≤ 1
  owned : ∀ {p : Process}, p ∈ s.alive →
    ∃ h, s.handles[p.id]? = some h ∧ h.process = some p ∧ p.port = h.port ∧
      p.args = settings.commandLine h.notebook h.port
  start_running : ∀ (m : Machine) (id : String),
    (s.start m id).2 = .error (.alreadyRunning id) ↔ ∃ h, s.handles[id]? = some h ∧ s.IsLive h
  stop_ended : ∀ (m : Machine) (id : String),
    (s.stop m id).2 = .error (.notRunning id) ↔ ∃ h, s.handles[id]? = some h ∧ ¬ s.IsLive h
  start_unknown : ∀ (m : Machine) (id : String), (s.start m id).2 = .error (.unknown id) ↔ s.handles[id]? = none
  stop_unknown : ∀ (m : Machine) (id : String), (s.stop m id).2 = .error (.unknown id) ↔ s.handles[id]? = none

theorem start_of_unknown {s : Supervisor} {id : String} (hfound : s.handles[id]? = none) (m : Machine) :
    (s.start m id).2 = .error (.unknown id) := by
  unfold start find
  rw [hfound]

theorem start_of_known {s : Supervisor} {id : String} {h : Handle} (hfound : s.handles[id]? = some h) (m : Machine) :
    (s.start m id).2 = (launchLocked m h s).2.2 := by
  unfold start
  rw [find_eq_ok_iff.mpr hfound]
  rfl

theorem stop_of_unknown {s : Supervisor} {id : String} (hfound : s.handles[id]? = none) (m : Machine) :
    (s.stop m id).2 = .error (.unknown id) := by
  unfold stop find
  rw [hfound]

theorem stop_of_known {s : Supervisor} {id : String} {h : Handle} (hfound : s.handles[id]? = some h) (m : Machine) :
    (s.stop m id).2 = (stopLocked m h s).2.2 := by
  unfold stop
  rw [find_eq_ok_iff.mpr hfound]
  rfl

theorem launchLocked_alreadyRunning_iff (m : Machine) (h : Handle) (s : Supervisor) :
    (launchLocked m h s).2.2 = .error (.alreadyRunning h.id) ↔ h.process.isSome = true := by
  unfold launchLocked
  split_ifs with hlive hsignal
  · simp [hlive]
  · simp [hlive]
  · dsimp only
    split <;> simp [hlive]

theorem launchLocked_ne_unknown (m : Machine) (h : Handle) (s : Supervisor) (id : String) :
    (launchLocked m h s).2.2 ≠ .error (.unknown id) := by
  unfold launchLocked
  split_ifs
  · simp
  · simp
  · dsimp only
    split <;> simp

theorem stopLocked_notRunning_iff (m : Machine) (h : Handle) (s : Supervisor) :
    (stopLocked m h s).2.2 = .error (.notRunning h.id) ↔ h.process = none := by
  unfold stopLocked
  cases h.process with
  | none => simp
  | some p =>
    dsimp only
    split <;> simp

theorem stopLocked_ne_unknown (m : Machine) (h : Handle) (s : Supervisor) (id : String) :
    (stopLocked m h s).2.2 ≠ .error (.unknown id) := by
  unfold stopLocked
  cases h.process with
  | none => simp
  | some p =>
    dsimp only
    split <;> simp

namespace IsTidy

variable {s : Supervisor} (hs : s.IsTidy)
include hs

theorem handle_cases {id : String} {h : Handle} (hfound : s.handles[id]? = some h) :
    s.IsLive h ∧ h.process.isSome = true ∧ h.status = .running ∨
      ¬ s.IsLive h ∧ h.process = none ∧ (h.status = .stopped ∨ h.status = .error) := by
  have hrest := hs.rest hfound
  generalize hps : s.processesOf id = ps at hrest
  cases hrest with
  | idle _ gone ended =>
    refine .inr ⟨?_, gone, ended⟩
    rintro ⟨p, -, hlive⟩
    rw [gone] at hlive
    cases hlive
  | @running _ p _ live status _ =>
    have hmem : p ∈ s.processesOf id := by
      rw [hps]
      exact List.mem_singleton_self p
    exact .inl ⟨⟨p, (mem_processesOf.mp hmem).1, live⟩, Option.isSome_iff_exists.mpr ⟨p, live⟩, status⟩

theorem keyed {id : String} {h : Handle} (hfound : s.handles[id]? = some h) : h.id = id :=
  keyed_of_rest (hs.rest hfound)

theorem isSome_iff {id : String} {h : Handle} (hfound : s.handles[id]? = some h) :
    h.process.isSome = true ↔ s.IsLive h := by
  rcases hs.handle_cases hfound with ⟨hlive, hsome, -⟩ | ⟨hlive, hnone, -⟩
  · simp [hlive, hsome]
  · simp [hlive, hnone]

theorem running_iff {id : String} {h : Handle} (hfound : s.handles[id]? = some h) :
    h.status = .running ↔ s.IsLive h := by
  rcases hs.handle_cases hfound with ⟨hlive, -, hstatus⟩ | ⟨hlive, -, hstatus | hstatus⟩ <;>
    simp [hlive, hstatus]

theorem single (id : String) : (s.processesOf id).length ≤ 1 := by
  have h := hs id
  unfold IsTidyAt at h
  generalize s.processesOf id = ps at h
  generalize s.handles[id]? = found at h
  cases h <;> simp

theorem start_running_iff (m : Machine) (id : String) :
    (s.start m id).2 = .error (.alreadyRunning id) ↔ ∃ h, s.handles[id]? = some h ∧ s.IsLive h := by
  cases hfound : s.handles[id]? with
  | none => simp [start_of_unknown hfound]
  | some h =>
    have hresult := launchLocked_alreadyRunning_iff m h s
    rw [hs.keyed hfound, hs.isSome_iff hfound] at hresult
    simp [start_of_known hfound, hresult]

theorem stop_ended_iff (m : Machine) (id : String) :
    (s.stop m id).2 = .error (.notRunning id) ↔ ∃ h, s.handles[id]? = some h ∧ ¬ s.IsLive h := by
  cases hfound : s.handles[id]? with
  | none => simp [stop_of_unknown hfound]
  | some h =>
    have hresult := stopLocked_notRunning_iff m h s
    rw [hs.keyed hfound, ← Option.not_isSome_iff_eq_none, hs.isSome_iff hfound] at hresult
    simp [stop_of_known hfound, hresult]

theorem run {steps : List (Machine × Step)} (hkill : ∀ turn ∈ steps, turn.1.killError = none) :
    (s.run steps).IsTidy := by
  induction steps generalizing s with
  | nil => exact hs
  | cons turn steps ih =>
    obtain ⟨hm, hkill⟩ := List.forall_mem_cons.mp hkill
    exact ih (hs.perform hm turn.2) hkill

end IsTidy

theorem start_unknown_iff (s : Supervisor) (m : Machine) (id : String) :
    (s.start m id).2 = .error (.unknown id) ↔ s.handles[id]? = none := by
  cases hfound : s.handles[id]? with
  | none => simp [start_of_unknown hfound]
  | some h => simp [start_of_known hfound, launchLocked_ne_unknown]

theorem stop_unknown_iff (s : Supervisor) (m : Machine) (id : String) :
    (s.stop m id).2 = .error (.unknown id) ↔ s.handles[id]? = none := by
  cases hfound : s.handles[id]? with
  | none => simp [stop_of_unknown hfound]
  | some h => simp [stop_of_known hfound, stopLocked_ne_unknown]

theorem fresh_run_settings (settings : LaunchSettings) (ports : PortRange) (steps : List (Machine × Step)) :
    ((fresh settings ports).run steps).settings = settings := ((fresh_isSeated settings ports).run_fixed steps).1

theorem run_is_orderly (settings : LaunchSettings) (ports : PortRange) (steps : List (Machine × Step))
    (hkill : ∀ turn ∈ steps, turn.1.killError = none) : ((fresh settings ports).run steps).IsOrderly settings := by
  have hs := (fresh_isTidy settings ports).run hkill
  refine ⟨hs.keyed, hs.running_iff, ?_, hs.single, ?_, hs.start_running_iff, hs.stop_ended_iff, start_unknown_iff _,
    stop_unknown_iff _⟩
  · intro id h hfound hended
    exact ((hs.handle_cases hfound).resolve_left fun hlive => hended hlive.1).2
  · intro p hp
    obtain ⟨h, hfound, hprocess, hruns, -⟩ := hs.handle_of_alive hp
    have hargs := hruns.args
    rw [fresh_run_settings] at hargs
    exact ⟨h, hfound, hprocess, hruns.port, hargs⟩

theorem run_is_orderly_after_crash :
    let steps : List (Machine × Step) := [({}, .follow ⟨.added, .plain "a" "a"⟩),
      ({ launch := .error "no such program" }, .follow ⟨.added, .plain "b" "b"⟩), ({}, .exit "a" .failure),
      ({}, .start "a"), ({}, .follow ⟨.updated, .plain "a" "c"⟩)]
    (∀ turn ∈ steps, turn.1.killError = none) ∧
      ((fresh {} ⟨9000, 9010⟩).run steps).status "a" = .ok .running ∧
      ((fresh {} ⟨9000, 9010⟩).run steps).status "b" = .ok .error ∧
      ((fresh {} ⟨9000, 9010⟩).run steps).IsOrderly {} := by
  intro steps
  have hkill : ∀ turn ∈ steps, turn.1.killError = none := by decide
  obtain ⟨ha, hb⟩ : ((fresh {} ⟨9000, 9010⟩).run steps).status "a" = .ok .running ∧
      ((fresh {} ⟨9000, 9010⟩).run steps).status "b" = .ok .error := by decide +kernel
  exact ⟨hkill, ha, hb, run_is_orderly {} ⟨9000, 9010⟩ steps hkill⟩

end NotebookHost.Supervisor
