import NotebookHost.Relay
import Mathlib.Data.List.Induction

namespace NotebookHost

@[simp] theorem Side.other_other (side : Side) : side.other.other = side := by cases side <;> rfl

theorem Side.other_ne (side : Side) : side.other ≠ side := by cases side <;> decide

theorem Side.eq_or_eq_other (s side : Side) : s = side ∨ s = side.other := by cases s <;> cases side <;> decide

theorem Side.eq_other_iff {s side : Side} : s = side.other ↔ side = s.other := by cases s <;> cases side <;> decide

namespace Occurrence

/-- What ends a session, and the side that counts as having ended it. -/
inductive Ends : Occurrence → Side → Prop
  | closed (side : Side) (reason : Option (ℕ × String)) (sendable : Bool) :
      Ends ⟨side, .frame (.close reason), sendable⟩ side
  | faulty (side : Side) (sendable : Bool) : Ends ⟨side, .fault, sendable⟩ side
  | exhausted (side : Side) (sendable : Bool) : Ends ⟨side, .ending, sendable⟩ side
  | unsent (side : Side) {f : Frame} (data : f.isData = true) : Ends ⟨side, .frame f, false⟩ side.other

def GoesOn (o : Occurrence) : Prop := ∀ side, ¬ o.Ends side

def data? (side : Side) (o : Occurrence) : Option Frame :=
  match o.arrival with
  | .frame f => if o.source = side ∧ f.isData = true then some f else none
  | _ => none

theorem isData_of_data? {side : Side} {o : Occurrence} {f : Frame} (h : o.data? side = some f) : f.isData = true := by
  unfold data? at h
  split at h
  · split_ifs at h with hdata
    cases h
    exact hdata.2
  · cases h

theorem data?_of_not_isData {side source : Side} {f : Frame} {sendable : Bool} (hf : f.isData = false) :
    data? side ⟨source, .frame f, sendable⟩ = none := by
  simp [data?, hf]

theorem Ends.data?_cases {o : Occurrence} {side : Side} (h : o.Ends side) (s : Side) :
    o.data? s = none ∨ ∃ f, o = ⟨s, .frame f, false⟩ ∧ o.data? s = some f := by
  cases h with
  | closed => exact .inl (data?_of_not_isData rfl)
  | faulty => exact .inl rfl
  | exhausted => exact .inl rfl
  | unsent source data =>
    by_cases hs : source = s
    · exact .inr ⟨_, by rw [hs], by simp [data?, hs, data]⟩
    · exact .inl (by simp [data?, hs])

end Occurrence

def dataFrom (side : Side) (os : List Occurrence) : List Frame := os.filterMap (Occurrence.data? side)

theorem dataFrom_concat (side : Side) (os : List Occurrence) (o : Occurrence) :
    dataFrom side (os ++ [o]) = dataFrom side os ++ (o.data? side).toList := by
  rw [dataFrom, List.filterMap_append, dataFrom]
  cases h : o.data? side <;> simp [h]

theorem isData_of_mem_dataFrom {side : Side} {os : List Occurrence} {f : Frame} (h : f ∈ dataFrom side os) :
    f.isData = true := by
  obtain ⟨o, -, ho⟩ := List.mem_filterMap.mp h
  exact Occurrence.isData_of_data? ho

theorem filter_dataFrom (side : Side) (os : List Occurrence) :
    (dataFrom side os).filter Frame.isData = dataFrom side os :=
  List.filter_eq_self.mpr fun _ hf => isData_of_mem_dataFrom hf

theorem exists_ending (os : List Occurrence) : (∀ o ∈ os, o.GoesOn) ∨
    ∃ before o after side, os = before ++ o :: after ∧ (∀ o' ∈ before, o'.GoesOn) ∧ o.Ends side := by
  induction os with
  | nil => exact .inl (List.forall_mem_nil _)
  | cons o os ih =>
    by_cases ho : o.GoesOn
    · rcases ih with hrest | ⟨before, o', after, side, rfl, hbefore, hends⟩
      · exact .inl (List.forall_mem_cons.mpr ⟨ho, hrest⟩)
      · exact .inr ⟨o :: before, o', after, side, rfl, List.forall_mem_cons.mpr ⟨ho, hbefore⟩, hends⟩
    · obtain ⟨side, hends⟩ := not_forall_not.mp ho
      exact .inr ⟨[], o, os, side, rfl, List.forall_mem_nil _, hends⟩

namespace Relay

structure IsOpen (r : Relay) (os : List Occurrence) : Prop where
  sent : ∀ side, r.sent side = dataFrom side.other os
  ended : r.ended = none
  closed : ∀ side, r.closed side = false

/-- A side has ended the session. What was read before is passed on, the other side has been sent one normal closure
behind it, and the sockets are closed. -/
structure IsOver (r : Relay) (side : Side) (before : List Occurrence) : Prop where
  delivered : ∀ s, (r.sent s).filter Frame.isData = dataFrom s.other before
  farewell : r.sent side.other = dataFrom side before ++ [.normalClosure]
  ended : r.ended = some side
  closed : ∀ s, r.closed s = true

namespace IsOpen

variable {r : Relay} {os : List Occurrence} (h : r.IsOpen os)
include h

theorem pass (source : Side) {f : Frame} (data : f.isData = true) :
    (r.send source.other f).IsOpen (os ++ [⟨source, .frame f, true⟩]) where
  sent side := by
    change (if side = source.other then r.sent side ++ [f] else r.sent side) = _
    rw [dataFrom_concat, h.sent, Occurrence.data?]
    by_cases hside : side = source.other
    · simp [hside, data]
    · have hsource : source ≠ side.other := fun hs => hside (Side.eq_other_iff.mpr hs)
      simp [hside, hsource]
  ended := h.ended
  closed := h.closed

theorem ignore {o : Occurrence} (ho : ∀ side, o.data? side = none) : r.IsOpen (os ++ [o]) where
  sent side := by rw [dataFrom_concat, ho, h.sent, Option.toList_none, List.append_nil]
  ended := h.ended
  closed := h.closed

theorem goOn {o : Occurrence} (ho : o.GoesOn) : (r.step o).IsOpen (os ++ [o]) := by
  have hopen : ¬ r.ended.isSome = true := by simp [h.ended]
  obtain ⟨source, arrival, sendable⟩ := o
  rw [step, if_neg hopen]
  cases arrival with
  | fault => exact absurd (.faulty source sendable) (ho source)
  | ending => exact absurd (.exhausted source sendable) (ho source)
  | frame f =>
    have hsendable (data : f.isData = true) : sendable = true := by
      by_contra hunsent
      rw [Bool.not_eq_true] at hunsent
      subst hunsent
      exact ho source.other (.unsent source data)
    cases f with
    | text s =>
      rw [hsendable rfl]
      exact h.pass source rfl
    | binary bytes =>
      rw [hsendable rfl]
      exact h.pass source rfl
    | ping bytes => exact h.ignore fun _ => Occurrence.data?_of_not_isData rfl
    | pong bytes => exact h.ignore fun _ => Occurrence.data?_of_not_isData rfl
    | close reason => exact absurd (.closed source reason sendable) (ho source)

theorem step_of_ends {o : Occurrence} {side : Side} (ho : o.Ends side) : r.step o = r.finish side := by
  have hopen : ¬ r.ended.isSome = true := by simp [h.ended]
  rw [step, if_neg hopen]
  cases ho with
  | closed => rfl
  | faulty => rfl
  | exhausted => rfl
  | @unsent source f data => cases f <;> first | rfl | cases data

theorem finish (side : Side) : (r.finish side).IsOver side os := by
  have hown : (r.finish side).sent side = dataFrom side.other os := by
    change (if side = side.other then _ else r.sent side) = _
    rw [if_neg side.other_ne.symm, h.sent]
  have hother : (r.finish side).sent side.other = dataFrom side os ++ [.normalClosure] := by
    change (if side.other = side.other then r.sent side.other ++ [Frame.normalClosure] else _) = _
    rw [if_pos rfl, h.sent, Side.other_other]
  refine ⟨?_, hother, rfl, fun _ => rfl⟩
  intro s
  rcases s.eq_or_eq_other side with rfl | rfl
  · rw [hown, filter_dataFrom]
  · rw [hother, List.filter_append, filter_dataFrom, Side.other_other]
    exact List.append_nil _

end IsOpen

theorem run_concat (os : List Occurrence) (o : Occurrence) : run (os ++ [o]) = (run os).step o := by
  rw [run, List.foldl_append]
  rfl

theorem run_isOpen {os : List Occurrence} (h : ∀ o ∈ os, o.GoesOn) : (run os).IsOpen os := by
  induction os using List.reverseRecOn with
  | nil => exact ⟨fun _ => rfl, rfl, fun _ => rfl⟩
  | append_singleton os o ih =>
    obtain ⟨hos, ho⟩ := List.forall_mem_append.mp h
    rw [run_concat]
    exact (ih hos).goOn (ho o (List.mem_singleton_self o))

theorem run_append_of_ended {os : List Occurrence} (h : (run os).ended.isSome) (more : List Occurrence) :
    run (os ++ more) = run os := by
  induction more using List.reverseRecOn with
  | nil => rw [List.append_nil]
  | append_singleton more o ih => rw [← List.append_assoc, run_concat, ih, step, if_pos h]

theorem mem_sent_send {r : Relay} {receiver s : Side} {f g : Frame} (h : g ∈ (r.send receiver f).sent s) :
    g ∈ r.sent s ∨ g = f := by
  change g ∈ (if s = receiver then r.sent s ++ [f] else r.sent s) at h
  split_ifs at h
  · simpa using h
  · exact .inl h

theorem mem_sent_step {r : Relay} {o : Occurrence} {s : Side} {g : Frame} (h : g ∈ (r.step o).sent s) :
    g ∈ r.sent s ∨ g.isData = true ∨ g = .normalClosure := by
  have hfinish (side : Side) (hg : g ∈ (r.send side.other .normalClosure).sent s) :
      g ∈ r.sent s ∨ g.isData = true ∨ g = .normalClosure :=
    (mem_sent_send hg).imp_right .inr
  by_cases hended : r.ended.isSome = true
  · rw [step, if_pos hended] at h
    exact .inl h
  rw [step, if_neg hended] at h
  split at h
  · exact hfinish _ h
  · exact hfinish _ h
  · exact hfinish _ h
  · split_ifs at h with hdata
    · refine (mem_sent_send h).imp_right ?_
      rintro rfl
      exact .inl hdata
    · exact hfinish _ h
    · exact .inl h

theorem mem_sent_run {os : List Occurrence} {s : Side} {g : Frame} (h : g ∈ (run os).sent s) :
    g.isData = true ∨ g = .normalClosure := by
  induction os using List.reverseRecOn with
  | nil => cases h
  | append_singleton os o ih =>
    rw [run_concat] at h
    exact (mem_sent_step h).elim ih id

theorem relay_is_faithful (os : List Occurrence) :
    ((∀ o ∈ os, o.GoesOn) ∧ (run os).IsOpen os ∨
      ∃ before o after side, os = before ++ o :: after ∧ (∀ o' ∈ before, o'.GoesOn) ∧ o.Ends side ∧
        (run os).IsOver side before ∧ run os = run (before ++ [o]) ∧
        ∀ s, dataFrom s (before ++ [o]) = dataFrom s before ∨
          ∃ f, o = ⟨s, .frame f, false⟩ ∧ dataFrom s (before ++ [o]) = dataFrom s before ++ [f]) ∧
    ∀ s, ∀ f ∈ (run os).sent s, f.isData = true ∨ f = .normalClosure := by
  refine ⟨?_, fun s f hf => mem_sent_run hf⟩
  rcases exists_ending os with hopen | ⟨before, o, after, side, rfl, hbefore, hends⟩
  · exact .inl ⟨hopen, run_isOpen hopen⟩
  · have hover : (run (before ++ [o])).IsOver side before := by
      rw [run_concat, (run_isOpen hbefore).step_of_ends hends]
      exact (run_isOpen hbefore).finish side
    have hended : (run (before ++ [o])).ended.isSome = true := by
      rw [hover.ended]
      rfl
    have hlast : run (before ++ o :: after) = run (before ++ [o]) := by
      rw [← run_append_of_ended hended after, List.append_assoc, List.singleton_append]
    refine .inr ⟨before, o, after, side, rfl, hbefore, hends, hlast ▸ hover, hlast, ?_⟩
    intro s
    rw [dataFrom_concat]
    rcases hends.data?_cases s with hnone | ⟨f, ho, hf⟩
    · rw [hnone]
      exact .inl (List.append_nil _)
    · rw [hf]
      exact .inr ⟨f, ho, rfl⟩

end Relay

end NotebookHost
