import NotebookHost.Proofs.Supervisor.Actions

namespace NotebookHost

namespace Handle

def Records (alive : List Process) (h : Handle) : Prop :=
  ∀ p, h.process = some p → p ∈ alive ∧ p.id = h.id ∧ p.port = h.port ∧ p.generation = h.generation

/-- The handle says how it stands, as long as no operation is at work on it. -/
structure Accounts (alive : List Process) (h : Handle) : Prop where
  records : h.Records alive
  running : h.process.isSome = true → h.status = .running
  ended : h.process = none → h.status = .stopped ∨ h.status = .error

variable {alive alive' : List Process} {h : Handle}

theorem Records.of_gone (hgone : h.process = none) : h.Records alive := by
  intro p hp
  rw [hgone] at hp
  cases hp

theorem Accounts.of_gone (hgone : h.process = none) (hended : h.status = .stopped ∨ h.status = .error) :
    h.Accounts alive := by
  refine ⟨.of_gone hgone, fun hlive => ?_, fun _ => hended⟩
  rw [hgone] at hlive
  cases hlive

theorem Accounts.running_iff (hh : h.Accounts alive) : h.status = .running ↔ h.process.isSome = true := by
  refine ⟨fun hrunning => ?_, hh.running⟩
  rw [Option.isSome_iff_ne_none]
  intro hgone
  rcases hh.ended hgone with hstatus | hstatus <;> rw [hrunning] at hstatus <;> cases hstatus

theorem Accounts.mono (hh : h.Accounts alive) (hkept : ∀ p ∈ alive, p.id = h.id → p ∈ alive') :
    h.Accounts alive' := by
  refine ⟨fun p hp => ?_, hh.running, hh.ended⟩
  obtain ⟨hmem, hid, hrest⟩ := hh.records p hp
  exact ⟨hkept p hmem hid, hid, hrest⟩

end Handle

namespace Supervisor

open Handle

theorem mem_bury {s : Supervisor} {p q : Process} : q ∈ (s.bury p).alive ↔ q ∈ s.alive ∧ q ≠ p := by
  rw [bury, List.mem_filter, bne_iff_ne]

structure Leaves (s : Supervisor) (id : String) (s' : Supervisor) (h : Handle) : Prop where
  table : SameTable s s'
  keyed : h.id = id
  accounts : h.Accounts s'.alive
  others : ∀ p ∈ s.alive, p.id ≠ id → p ∈ s'.alive

section Outcomes

variable {m : Machine} {s : Supervisor} {h : Handle}

theorem launchLocked_leaves (hh : h.process.isSome = true → h.Accounts s.alive) :
    Leaves s h.id (launchLocked m h s).1 (launchLocked m h s).2.1 := by
  have htable := launchLocked_table m h s
  rcases launchLocked_cases m h s with
    ⟨hlive, heq⟩ | ⟨hgone, cause, heq⟩ | ⟨hgone, -, p, hid, hport, hnext, heq⟩ <;>
    rw [heq] at htable ⊢
  · exact ⟨htable, rfl, hh hlive, fun _ hp _ => hp⟩
  · exact ⟨htable, rfl, .of_gone hgone (.inr rfl), fun _ hp _ => hp⟩
  · have hmem : p ∈ s.alive ++ [p] := List.mem_append_right _ (List.mem_singleton_self p)
    refine ⟨htable, rfl, ⟨?_, fun _ => rfl, fun hnone => by cases hnone⟩,
      fun _ hq _ => List.mem_append_left _ hq⟩
    intro q hq
    cases hq
    exact ⟨hmem, hid, hport, rfl⟩

theorem bury_others {p : Process} {id : String} (hid : p.id = id) :
    ∀ q ∈ s.alive, q.id ≠ id → q ∈ (s.bury p).alive := by
  intro q hq hother
  refine mem_bury.mpr ⟨hq, ?_⟩
  rintro rfl
  exact hother hid

theorem stopLocked_leaves (hh : h.Accounts s.alive) :
    Leaves s h.id (stopLocked m h s).1 (stopLocked m h s).2.1 := by
  have htable := stopLocked_table m h s
  rcases stopLocked_cases m h s with ⟨hgone, heq⟩ | ⟨p, hlive, ⟨-, heq⟩ | ⟨cause, -, heq⟩⟩ <;>
    rw [heq] at htable ⊢
  · exact ⟨htable, rfl, hh, fun _ hp _ => hp⟩
  · exact ⟨htable, rfl, .of_gone rfl (.inl rfl), bury_others (hh.records p hlive).2.1⟩
  · exact ⟨htable, rfl, .of_gone rfl (.inr rfl), fun _ hp _ => hp⟩

theorem relaunchLocked_leaves (hh : h.Accounts s.alive) (n : Notebook) (startIdle : Bool) :
    Leaves s h.id (relaunchLocked m n startIdle h s).1 (relaunchLocked m n startIdle h s).2.1 := by
  have htable := relaunchLocked_table m n startIdle h s
  rcases relaunchLocked_cases m n startIdle h s with
    ⟨hgone, -, heq⟩ | ⟨hgone, -, heq⟩ | ⟨p, hlive, ⟨-, heq⟩ | ⟨cause, -, heq⟩⟩ <;>
      rw [heq] at htable ⊢
  · have hstatus : (h.adopt n).status = h.status := by
      rw [adopt, hgone]
      rfl
    refine ⟨htable, rfl, .of_gone hgone ?_, fun _ hp _ => hp⟩
    rw [hstatus]
    exact hh.ended hgone
  · refine launchLocked_leaves (h := h.adopt n) fun hsome => ?_
    rw [adopt, hgone] at hsome
    cases hsome
  · have hlaunch : Leaves (s.bury p) h.id (launchLocked m ((h.adopt n).release.settle .stopped) (s.bury p)).1
        (launchLocked m ((h.adopt n).release.settle .stopped) (s.bury p)).2.1 :=
      launchLocked_leaves (h := (h.adopt n).release.settle .stopped) fun hsome => by cases hsome
    have hburied := bury_others (s := s) (hh.records p hlive).2.1
    exact ⟨htable, hlaunch.keyed, hlaunch.accounts,
      fun q hq hother => hlaunch.others q (hburied q hq hother) hother⟩
  · exact ⟨htable, rfl, .of_gone rfl (.inr rfl), fun _ hp _ => hp⟩

theorem outcome_leaves (hh : h.Accounts s.alive) (op : Operation) :
    Leaves s h.id (op.outcome m h s).1 (op.outcome m h s).2.1 := by
  cases op with
  | start => exact launchLocked_leaves fun _ => hh
  | stop => exact stopLocked_leaves hh
  | update n => exact relaunchLocked_leaves hh n false
  | reload n => exact relaunchLocked_leaves hh n true

end Outcomes

def IsAccounted (s : Supervisor) : Prop :=
  ∀ (id : String) (h : Handle), s.handles[id]? = some h → h.id = id ∧ h.Accounts s.alive

theorem Leaves.isAccounted {s s' : Supervisor} {id : String} {h : Handle} (hleaves : Leaves s id s' h)
    (hs : ∀ i h, i ≠ id → s.handles[i]? = some h → h.id = i ∧ h.Accounts s.alive) :
    (s'.setHandle h).IsAccounted := by
  intro i h' hfound
  rw [getElem?_setHandle, hleaves.keyed, hleaves.table.handles] at hfound
  split_ifs at hfound with hi
  · cases hfound
    exact ⟨hleaves.keyed.trans hi.symm, hleaves.accounts⟩
  · obtain ⟨hkeyed, haccounts⟩ := hs i h' hi hfound
    refine ⟨hkeyed, haccounts.mono fun p hp hid => hleaves.others p hp ?_⟩
    rw [hid, hkeyed]
    exact hi

theorem IsAccounted.react {s : Supervisor} (hs : s.IsAccounted) {p : Process} (status : Status)
    {act : Handle → Handle}
    (hact : ∀ h, act h = if h.heeds p.generation then { h with process := none, status } else h)
    (hended : status = .stopped ∨ status = .error) : ((s.bury p).react p act).IsAccounted := by
  -- A handle that records the process at its end heeds its monitor.
  have hspared {id : String} {h : Handle} (hfound : s.handles[id]? = some h) (hp : h.process ≠ some p) :
      h.id = id ∧ h.Accounts (s.bury p).alive := by
    obtain ⟨hkeyed, haccounts⟩ := hs _ _ hfound
    refine ⟨hkeyed, fun q hq => ?_, haccounts.running, haccounts.ended⟩
    obtain ⟨hmem, hrest⟩ := haccounts.records q hq
    refine ⟨mem_bury.mpr ⟨hmem, ?_⟩, hrest⟩
    rintro rfl
    exact hp hq
  have hother {id : String} {h : Handle} (hfound : s.handles[id]? = some h) (hid : id ≠ p.id) :
      h.process ≠ some p := by
    intro hp
    obtain ⟨hkeyed, haccounts⟩ := hs _ _ hfound
    exact hid (hkeyed.symm.trans (haccounts.records p hp).2.1.symm)
  unfold Supervisor.react
  split
  · next hunknown =>
    intro id h hfound
    refine hspared hfound (hother hfound ?_)
    rintro rfl
    change s.handles[p.id]? = none at hunknown
    change s.handles[p.id]? = some h at hfound
    rw [hunknown] at hfound
    cases hfound
  · next h hfound =>
    change s.handles[p.id]? = some h at hfound
    obtain ⟨hkeyed, haccounts⟩ := hs _ _ hfound
    have hheeds (hp : h.process = some p) : h.port = p.port ∧ h.heeds p.generation = true := by
      obtain ⟨-, -, hport, hgeneration⟩ := haccounts.records p hp
      rw [heeds, hp, hgeneration, beq_self_eq_true]
      exact ⟨hport.symm, rfl⟩
    by_cases hport : h.port = p.port
    · have hleaves : Leaves (s.bury p) p.id (s.bury p) (act h) := by
        rw [hact h]
        split_ifs with hheeded
        · exact ⟨.refl _, hkeyed, .of_gone rfl hended, fun _ hq _ => hq⟩
        · refine ⟨.refl _, hkeyed, (hspared hfound fun hp => hheeded (hheeds hp).2).2, fun _ hq _ => hq⟩
      rw [if_pos hport]
      exact hleaves.isAccounted fun i h' hi hfound' => hspared hfound' (hother hfound' hi)
    · rw [if_neg hport]
      intro id h' hfound'
      change s.handles[id]? = some h' at hfound'
      refine hspared hfound' fun hp => ?_
      by_cases hid : id = p.id
      · subst hid
        rw [hfound] at hfound'
        cases hfound'
        exact hport (hheeds hp).1
      · exact hother hfound' hid hp

theorem Action.isAccounted {m : Machine} {s s' : Supervisor} (h : Action m s s') (hs : s.IsAccounted) :
    s'.IsAccounted := by
  cases h with
  | @operated id h found op =>
    obtain ⟨hkeyed, haccounts⟩ := hs _ _ found
    exact (outcome_leaves haccounts op).isAccounted fun i h' _ hfound => hs _ _ hfound
  | counted => exact hs
  | @enrolled n unknown port =>
    refine (launchLocked_leaves (h := .ofNotebook n port) fun hsome => by cases hsome).isAccounted ?_
    intro i h' hi hfound
    rw [getElem?_setHandle, if_neg hi] at hfound
    exact hs _ _ hfound
  | @removed id h found =>
    have hleaves := stopLocked_leaves (m := m) (s := { s with handles := s.handles.erase id }) (hs _ _ found).2
    intro i h' hfound
    rw [hleaves.table.handles] at hfound
    simp only [Std.TreeMap.getElem?_erase, Std.LawfulEqCmp.compare_eq_iff_eq] at hfound
    split_ifs at hfound with hi
    obtain ⟨hkeyed, haccounts⟩ := hs _ _ hfound
    refine ⟨hkeyed, haccounts.mono fun p hp hid => hleaves.others p hp ?_⟩
    rw [hid, hkeyed, (hs _ _ found).1]
    exact Ne.symm hi
  | @exited p alive ending =>
    refine hs.react ending.status (fun h => rfl) ?_
    cases ending
    · exact .inl rfl
    · exact .inr rfl
  | heeded alive => exact hs.react .stopped (fun h => rfl) (.inl rfl)
  | signalled lasting => exact hs

theorem IsAccounted.run {s : Supervisor} (hs : s.IsAccounted) (steps : List (Machine × Step)) :
    (s.run steps).IsAccounted :=
  run_induction (motive := IsAccounted) Action.isAccounted hs steps

end Supervisor

end NotebookHost
