import NotebookHost.Proofs.Supervisor.Bystanders
import NotebookHost.Proofs.Supervisor.Conduct
import Mathlib.Algebra.BigOperators.Group.Finset.Piecewise
import Mathlib.Algebra.Order.BigOperators.Group.Finset

/-!
Steps of different notebooks may be taken in any order. Each notebook ends as if the steps of the others had not been
taken, but for the port that it got.
-/

namespace NotebookHost

open Relator

def PortRange.left (r : PortRange) (asked : ℕ) : ℕ := r.last.toNat - (r.first.toNat + asked)

namespace Supervisor

variable {settings : LaunchSettings} {ports : PortRange} {before steps : List (Machine × Step)}
  {turn : Machine × Step} {id j : String} {s : Supervisor}

def stepsOf (id : String) (steps : List (Machine × Step)) : List (Machine × Step) :=
  steps.filter (·.2.owner? == some id)

/-- The steps that each notebook has on its agenda, put into one sequence in some way. -/
structure IsInterleaving (agenda : String → List (Machine × Step)) (steps : List (Machine × Step)) : Prop where
  owned : ∀ turn ∈ steps, turn.2.owner?.isSome = true
  kept : ∀ id, stepsOf id steps = agenda id

def answersTo (id : String) (s : Supervisor) : List (Machine × Step) → List (Except Failure Unit)
  | [] => []
  | (m, step) :: steps =>
    (if step.owner? = some id then (s.perform m step).2.toList else []) ++ (s.perform m step).1.answersTo id steps

/-- Two supervisors that say the same of a notebook and have launched the same for it, but for the port. -/
structure AgreesOn (settings : LaunchSettings) (id : String) (s t : Supervisor) : Prop where
  known : (s.handles[id]?).isSome = (t.handles[id]?).isSome
  notebook : (s.handles[id]?).map (·.notebook) = (t.handles[id]?).map (·.notebook)
  status : s.status id = t.status id
  live : (∃ h, s.handles[id]? = some h ∧ s.IsLive h) ↔ ∃ k, t.handles[id]? = some k ∧ t.IsLive k
  alive : List.Forall₂ (Process.IsTwin settings (fun _ _ => True) id) (s.processesOf id) (t.processesOf id)
  launches : List.Forall₂ (Process.IsTwin settings (fun _ _ => True) id) (s.launchesOf id) (t.launchesOf id)

def Handed (ports : PortRange) (asked : ℕ) (P Q : Port) : Prop :=
  P = Q ∧ (ports.first.toNat + asked < 2 ^ 32 → P.toNat ≤ ports.first.toNat + asked)

theorem handed_biUnique (ports : PortRange) (asked : ℕ) : BiUnique (Handed ports asked) := by
  constructor
  · intro P P' Q h h'
    exact h.1.trans h'.1.symm
  · intro P Q Q' h h'
    exact h.1.symm.trans h'.1

theorem Handed.mono {ports : PortRange} {asked asked' : ℕ} (hle : asked ≤ asked') (P Q : Port)
    (h : Handed ports asked P Q) : Handed ports asked' P Q := by
  refine ⟨h.1, fun hroom => ?_⟩
  have hcounted := h.2 (by omega)
  omega

theorem fresh_counter_succ {steps : List (Machine × Step)}
    (hroom : ports.first.toNat + (((fresh settings ports).grants steps).length + 1) < 2 ^ 32) :
    (((fresh settings ports).run steps).counter + 1).toNat =
      ports.first.toNat + (((fresh settings ports).grants steps).length + 1) := by
  have hshort : ports.first.toNat + ((fresh settings ports).grants steps).length < 2 ^ 32 := by omega
  obtain ⟨t, ht, hasked, hports⟩ := fresh_seats hshort
  have hcounter : t.counter = ((fresh settings ports).run steps).counter := by rw [← ht.seating_eq]; rfl
  rw [← hcounter, hasked.counter_succ (by rwa [hports]), hasked.counter, hports, Nat.add_assoc]

theorem length_grants_append_singleton (s : Supervisor) (steps : List (Machine × Step)) (turn : Machine × Step) :
    (s.grants (steps ++ [turn])).length = (s.grants steps).length + ((s.run steps).asksPort turn.2).toNat := by
  rw [grants_append, List.length_append, grants, grants, List.append_nil, length_grant?]

theorem run_append_singleton (s : Supervisor) (steps : List (Machine × Step)) (turn : Machine × Step) :
    s.run (steps ++ [turn]) = ((s.run steps).perform turn.1 turn.2).1 := run_append s steps [turn]

theorem fresh_run_twin_self (settings : LaunchSettings) (ports : PortRange) (steps : List (Machine × Step))
    (id : String) :
    IsTwin settings (Handed ports ((fresh settings ports).grants steps).length) id ((fresh settings ports).run steps)
      ((fresh settings ports).run steps) := by
  induction steps using List.reverseRecOn generalizing id with
  | nil =>
    have hhandle : (fresh settings ports).handles[id]? = none := by simp [fresh]
    refine ⟨⟨rfl, rfl, rfl, .nil, .nil⟩, ?_⟩
    change Option.Rel _ (fresh settings ports).handles[id]? (fresh settings ports).handles[id]?
    rw [hhandle]
    exact .none
  | append_singleton steps turn ih =>
    obtain ⟨m, step⟩ := turn
    have hlength := length_grants_append_singleton (fresh settings ports) steps (m, step)
    have hρ := handed_biUnique ports ((fresh settings ports).grants (steps ++ [(m, step)])).length
    have hs := fun id => (ih id).mono (Handed.mono (Nat.le.intro hlength.symm))
    rw [run_append_singleton]
    cases hown : step.owner? with
    | some j =>
      refine IsTwin.perform_self hρ hs m hown ?_ id
      intro hasks
      cases hport :
        portOf? ((fresh settings ports).run steps).ports (((fresh settings ports).run steps).counter + 1) with
      | none => exact .none
      | some P =>
        refine .some ⟨rfl, fun hroom => ?_⟩
        dsimp only at hlength
        rw [hasks] at hlength
        rw [hlength] at hroom ⊢
        rw [(portOf?_eq_some_iff.mp hport).1, fresh_counter_succ hroom]
        exact Nat.le_refl _
    | none =>
      cases step with
      | shutdown => exact IsTwin.shutdown_self hρ hs m id
      | giveSignal => exact { hs id with signal := rfl }
      | loseSignal => exact { hs id with signal := rfl }
      | _ => cases hown

theorem stepsOf_append_own (hown : turn.2.owner? = some id) :
    stepsOf id (steps ++ [turn]) = stepsOf id steps ++ [turn] := by
  rw [stepsOf, List.filter_append, List.filter_cons_of_pos (by rw [hown, beq_self_eq_true]), List.filter_nil, stepsOf]

theorem stepsOf_append_other (hown : turn.2.owner? = some j) (hj : j ≠ id) :
    stepsOf id (steps ++ [turn]) = stepsOf id steps := by
  have hnone : [turn].filter (·.2.owner? == some id) = [] := by
    refine List.filter_eq_nil_iff.mpr fun u hu => ?_
    rw [List.mem_singleton.mp hu, hown, beq_iff_eq, Option.some_inj]
    exact hj
  rw [stepsOf, List.filter_append, hnone, List.append_nil, stepsOf]

theorem answersTo_append (id : String) (s : Supervisor) (early late : List (Machine × Step)) :
    s.answersTo id (early ++ late) = s.answersTo id early ++ (s.run early).answersTo id late := by
  induction early generalizing s with
  | nil => rfl
  | cons turn early ih =>
    rw [List.cons_append, answersTo, answersTo, ih, List.append_assoc]
    rfl

theorem answersTo_own (hown : turn.2.owner? = some id) (s : Supervisor) :
    s.answersTo id [turn] = (s.perform turn.1 turn.2).2.toList := by
  rw [answersTo, if_pos hown, answersTo, List.append_nil]

theorem answersTo_other (hown : turn.2.owner? = some j) (hj : j ≠ id) (s : Supervisor) :
    s.answersTo id [turn] = [] := by
  have hne : turn.2.owner? ≠ some id := by
    rw [hown, Ne, Option.some_inj]
    exact hj
  rw [answersTo, if_neg hne, answersTo, List.append_nil]

structure Supplies (settings : LaunchSettings) (ports : PortRange) (asked : ℕ) (s : Supervisor) : Prop where
  self : ∀ id, IsTwin settings (Handed ports asked) id s s
  next : ∀ {steps : List (Machine × Step)},
    ports.first.toNat + (asked + ((s.grants steps).length + 1)) ≤ ports.last.toNat →
    ∃ P, portOf? (s.run steps).ports ((s.run steps).counter + 1) = some P ∧
      P.toNat = ports.first.toNat + (asked + ((s.grants steps).length + 1))
  nth : ∀ {steps : List (Machine × Step)}, ports.first.toNat + (asked + (s.grants steps).length) < 2 ^ 32 →
    ∀ {i : ℕ} {g : Grant}, (s.grants steps)[i]? = some g → g.port?.map UInt16.toNat = ports.nth? (asked + (i + 1))

theorem fresh_run_supplies (settings : LaunchSettings) (ports : PortRange) (before : List (Machine × Step)) :
    Supplies settings ports ((fresh settings ports).grants before).length ((fresh settings ports).run before) where
  self := fresh_run_twin_self settings ports before
  next {steps} hroom := by
    have hlast : ports.last.toNat < 65536 := ports.last.toNat_lt
    have hlength : ((fresh settings ports).grants (before ++ steps)).length =
        ((fresh settings ports).grants before).length +
        (((fresh settings ports).run before).grants steps).length := by rw [grants_append, List.length_append]
    have hcounter : (((fresh settings ports).run (before ++ steps)).counter + 1).toNat =
        ports.first.toNat + (((fresh settings ports).grants (before ++ steps)).length + 1) :=
          fresh_counter_succ (by omega)
    have hport := toNat_portOf? ports (((fresh settings ports).run (before ++ steps)).counter + 1)
    rw [hcounter, hlength, Nat.add_assoc, if_pos hroom, Option.map_eq_some_iff] at hport
    rwa [← run_append, ((fresh_isSeated settings ports).run_fixed _).2]
  nth {steps} hroom {i g} hg := by
    have hall : ports.first.toNat + ((fresh settings ports).grants (before ++ steps)).length < 2 ^ 32 := by
      rwa [grants_append, List.length_append]
    have hget : ((fresh settings ports).grants (before ++ steps))[((fresh settings ports).grants before).length + i]? =
        some g := by
      rwa [grants_append, List.getElem?_append_right (Nat.le_add_right _ _), Nat.add_sub_cancel_left]
    rw [← Nat.add_assoc]
    exact fresh_nth hall hget

def Paired (ρ : Port → Port → Prop) (P Q P' Q' : Port) : Prop := ρ P' Q' ∨ P' = P ∧ Q' = Q

theorem Paired.biUnique {ρ : Port → Port → Prop} (hρ : BiUnique ρ) {P Q : Port} (hP : ∀ Q', ¬ ρ P Q')
    (hQ : ∀ P', ¬ ρ P' Q) : BiUnique (Paired ρ P Q) := by
  constructor
  · rintro P₁ P₂ Q' (h₁ | ⟨rfl, rfl⟩) (h₂ | ⟨rfl, hQ'⟩)
    · exact hρ.1 h₁ h₂
    · rw [hQ'] at h₁
      exact absurd h₁ (hQ P₁)
    · exact absurd h₂ (hQ P₂)
    · rfl
  · rintro P' Q₁ Q₂ (h₁ | ⟨rfl, rfl⟩) (h₂ | ⟨hP', rfl⟩)
    · exact hρ.2 h₁ h₂
    · rw [hP'] at h₁
      exact absurd h₁ (hP Q₁)
    · exact absurd h₂ (hP Q₂)
    · rfl

structure IsAbreast (settings : LaunchSettings) (ports : PortRange) (asked : ℕ) (id : String) (s : Supervisor)
    (ρ : Port → Port → Prop) (steps own : List (Machine × Step)) : Prop where
  paired : BiUnique ρ
  twin : IsTwin settings ρ id (s.run steps) (s.run own)
  counted : ports.first.toNat + asked < 2 ^ 32 → ∀ P Q, ρ P Q →
    P.toNat ≤ ports.first.toNat + (asked + (s.grants steps).length) ∧
      Q.toNat ≤ ports.first.toNat + (asked + (s.grants own).length)

structure IsDetached (settings : LaunchSettings) (ports : PortRange) (asked : ℕ) (ids : Finset String)
    (s : Supervisor) (steps : List (Machine × Step)) : Prop where
  abreast : ∀ id, ∃ ρ, IsAbreast settings ports asked id s ρ steps (stepsOf id steps)
  demand : (s.grants steps).length = ∑ id ∈ ids, (s.grants (stepsOf id steps)).length
  answers : ∀ id, s.answersTo id steps = s.answersTo id (stepsOf id steps)

section Detached

variable {asked : ℕ} {ids : Finset String} {ρ : Port → Port → Prop} {own : List (Machine × Step)}

theorem isDetached_nil (hs : Supplies settings ports asked s) (ids : Finset String) :
    IsDetached settings ports asked ids s [] where
  abreast id := by
    refine ⟨Handed ports asked, handed_biUnique ports asked, hs.self id, ?_⟩
    rintro hroom P Q ⟨rfl, hcounted⟩
    exact ⟨hcounted hroom, hcounted hroom⟩
  demand := (Finset.sum_eq_zero fun _ _ => rfl).symm
  answers _ := rfl

namespace IsAbreast

variable (h : IsAbreast settings ports asked id s ρ steps own)
include h

theorem other (hown : turn.2.owner? = some j) (hj : j ≠ id)
    (hof : ∀ k, (s.run steps).handles[j]? = some k → k.IsOf j) :
    IsAbreast settings ports asked id s ρ (steps ++ [turn]) own where
  paired := h.paired
  twin := by
    rw [run_append_singleton]
    exact h.twin.of_unmoved (perform_unmoved hj hof turn.1 hown) (.refl id _)
  counted hasked P Q hPQ := by
    have hbefore := h.counted hasked P Q hPQ
    rw [length_grants_append_singleton]
    omega

variable (hown : turn.2.owner? = some id)
include hown

theorem own_quiet (hask : (s.run steps).asksPort turn.2 = false) :
    IsAbreast settings ports asked id s ρ (steps ++ [turn]) (own ++ [turn]) ∧
      ((s.run steps).perform turn.1 turn.2).2 = ((s.run own).perform turn.1 turn.2).2 := by
  have heffect := h.twin.perform h.paired turn.1 hown fun hasks => by
    rw [hask] at hasks
    cases hasks
  refine ⟨⟨h.paired, ?_, ?_⟩, heffect.answer⟩
  · rw [run_append_singleton, run_append_singleton]
    exact heffect.twin
  · rw [length_grants_append_singleton, length_grants_append_singleton, ← h.twin.asksPort_eq hown, hask]
    exact h.counted

theorem own_asking (hs : Supplies settings ports asked s) (hask : (s.run steps).asksPort turn.2 = true)
    (hroom : ports.first.toNat + (asked + ((s.grants steps).length + 1)) ≤ ports.last.toNat)
    (hroom' : ports.first.toNat + (asked + ((s.grants own).length + 1)) ≤ ports.last.toNat) :
    ∃ ρ', IsAbreast settings ports asked id s ρ' (steps ++ [turn]) (own ++ [turn]) ∧
      ((s.run steps).perform turn.1 turn.2).2 = ((s.run own).perform turn.1 turn.2).2 := by
  have hlast : ports.last.toNat < 65536 := ports.last.toNat_lt
  have hcounted := h.counted (by omega)
  obtain ⟨P, hP, hPnum⟩ := hs.next hroom
  obtain ⟨Q, hQ, hQnum⟩ := hs.next hroom'
  -- Both ports are new: the old ones have numbers that were counted before.
  have hpaired : BiUnique (Paired ρ P Q) := by
    apply Paired.biUnique h.paired
    · intro Q' hPQ
      have hold := (hcounted P Q' hPQ).1
      omega
    · intro P' hPQ
      have hold := (hcounted P' Q hPQ).2
      omega
  have hports : Option.Rel (Paired ρ P Q) (portOf? (s.run steps).ports ((s.run steps).counter + 1))
      (portOf? (s.run own).ports ((s.run own).counter + 1)) := by
    rw [hP, hQ]
    exact .some (.inr ⟨rfl, rfl⟩)
  have heffect := (h.twin.mono fun _ _ => .inl).perform hpaired turn.1 hown fun _ => hports
  refine ⟨Paired ρ P Q, ⟨hpaired, ?_, ?_⟩, heffect.answer⟩
  · rw [run_append_singleton, run_append_singleton]
    exact heffect.twin
  · rw [length_grants_append_singleton, length_grants_append_singleton, ← h.twin.asksPort_eq hown, hask,
      Bool.toNat_true]
    rintro - P' Q' (hPQ | ⟨rfl, rfl⟩)
    · have hold := hcounted P' Q' hPQ
      omega
    · omega

end IsAbreast

namespace IsDetached

variable (h : IsDetached settings ports asked ids s steps) (hown : turn.2.owner? = some j) (hj : j ∈ ids)
include h hown hj

theorem demand_append :
    (s.grants (steps ++ [turn])).length = ∑ id ∈ ids, (s.grants (stepsOf id (steps ++ [turn]))).length := by
  obtain ⟨ρ, habreast⟩ := h.abreast j
  have hasks := habreast.twin.asksPort_eq hown
  have hlength (id : String) : (s.grants (stepsOf id (steps ++ [turn]))).length =
      (s.grants (stepsOf id steps)).length + if id = j then ((s.run steps).asksPort turn.2).toNat else 0 := by
    split_ifs with hid
    · rw [hid, stepsOf_append_own hown, length_grants_append_singleton, hasks]
    · rw [stepsOf_append_other hown (Ne.symm hid), Nat.add_zero]
  calc (s.grants (steps ++ [turn])).length
      = (s.grants steps).length + ((s.run steps).asksPort turn.2).toNat := length_grants_append_singleton s steps turn
    _ = ∑ id ∈ ids, ((s.grants (stepsOf id steps)).length +
          if id = j then ((s.run steps).asksPort turn.2).toNat else 0) := by
        rw [Finset.sum_add_distrib, Finset.sum_ite_eq', if_pos hj, h.demand]
    _ = ∑ id ∈ ids, (s.grants (stepsOf id (steps ++ [turn]))).length :=
      Finset.sum_congr rfl fun id _ => (hlength id).symm

variable (hs : Supplies settings ports asked s)
  (hroom : ∑ id ∈ ids, (s.grants (stepsOf id (steps ++ [turn]))).length ≤ ports.left asked)
include hs hroom

theorem abreast_own : ∃ ρ, IsAbreast settings ports asked j s ρ (steps ++ [turn]) (stepsOf j steps ++ [turn]) ∧
    ((s.run steps).perform turn.1 turn.2).2 = ((s.run (stepsOf j steps)).perform turn.1 turn.2).2 := by
  obtain ⟨ρ, habreast⟩ := h.abreast j
  cases hask : (s.run steps).asksPort turn.2 with
  | false => exact ⟨ρ, habreast.own_quiet hown hask⟩
  | true =>
    have hleft : ports.left asked = ports.last.toNat - (ports.first.toNat + asked) := rfl
    have hlength (own : List (Machine × Step)) (hsolo : (s.run own).asksPort turn.2 = true) :
        (s.grants (own ++ [turn])).length = (s.grants own).length + 1 := by
      rw [length_grants_append_singleton, hsolo, Bool.toNat_true]
    have hall := hlength steps hask
    rw [h.demand_append hown hj] at hall
    have hsingle := hlength (stepsOf j steps) (by rwa [← habreast.twin.asksPort_eq hown])
    rw [← stepsOf_append_own hown] at hsingle
    have hpart : (s.grants (stepsOf j (steps ++ [turn]))).length ≤
        ∑ id ∈ ids, (s.grants (stepsOf id (steps ++ [turn]))).length :=
      Finset.single_le_sum (f := fun id => (s.grants (stepsOf id (steps ++ [turn]))).length)
        (fun _ _ => Nat.zero_le _) hj
    exact habreast.own_asking hown hs hask (by omega) (by omega)

theorem append_singleton : IsDetached settings ports asked ids s (steps ++ [turn]) := by
  obtain ⟨ρ, habreast, hanswer⟩ := h.abreast_own hown hj hs hroom
  obtain ⟨_, hbefore⟩ := h.abreast j
  refine ⟨?_, h.demand_append hown hj, ?_⟩
  · intro id
    by_cases hid : j = id
    · subst hid
      rw [stepsOf_append_own hown]
      exact ⟨ρ, habreast⟩
    · obtain ⟨σ, hσ⟩ := h.abreast id
      rw [stepsOf_append_other hown hid]
      exact ⟨σ, hσ.other hown hid hbefore.twin.isOf_left⟩
  · intro id
    rw [answersTo_append, h.answers]
    by_cases hid : j = id
    · subst hid
      rw [stepsOf_append_own hown, answersTo_append, answersTo_own hown, answersTo_own hown, hanswer]
    · rw [stepsOf_append_other hown hid, answersTo_other hown hid, List.append_nil]

end IsDetached

theorem Supplies.run_isDetached (hs : Supplies settings ports asked s)
    (howned : ∀ turn ∈ steps, ∃ id ∈ ids, turn.2.owner? = some id)
    (hroom : ∑ id ∈ ids, (s.grants (stepsOf id steps)).length ≤ ports.left asked) :
    IsDetached settings ports asked ids s steps := by
  -- From the end: the last step is one notebook's own, and nothing to all others.
  induction steps using List.reverseRecOn with
  | nil => exact isDetached_nil hs ids
  | append_singleton steps turn ih =>
    obtain ⟨j, hj, hown⟩ := howned turn (List.mem_append_right _ (List.mem_singleton_self turn))
    have hshorter (id : String) :
        (s.grants (stepsOf id steps)).length ≤ (s.grants (stepsOf id (steps ++ [turn]))).length := by
      refine length_grants_of_prefix s ?_
      rw [stepsOf, stepsOf, List.filter_append]
      exact List.prefix_append _ _
    have h := ih (fun turn hturn => howned turn (List.mem_append_left _ hturn))
      (Nat.le_trans (Finset.sum_le_sum fun id _ => hshorter id) hroom)
    exact h.append_singleton hown hj hs hroom

end Detached

section Agreement

variable {t r : Supervisor} {ρ σ : Port → Port → Prop}

theorem isLive_iff {h : Handle} {p : Process} (hp : h.process = some p) : s.IsLive h ↔ p ∈ s.alive := by
  constructor
  · rintro ⟨p', hmem, hp'⟩
    rw [hp] at hp'
    cases hp'
    exact hmem
  · exact fun hmem => ⟨p, hmem, hp⟩

theorem not_isLive {h : Handle} (hp : h.process = none) : ¬ s.IsLive h := by
  rintro ⟨p, -, hp'⟩
  rw [hp] at hp'
  cases hp'

theorem IsTwin.live_iff (hρ : BiUnique ρ) (hst : IsTwin settings ρ id s t) :
    (∃ h, s.handles[id]? = some h ∧ s.IsLive h) ↔ ∃ k, t.handles[id]? = some k ∧ t.IsLive k := by
  rcases optionRel_cases hst.handle with ⟨hs, ht⟩ | ⟨h, k, hs, ht, hk⟩
  · simp [hs, ht]
  · simp only [hs, ht, Option.some.injEq, exists_eq_left']
    rcases optionRel_cases hk.process with ⟨hp, hq⟩ | ⟨p, q, hp, hq, hpq⟩
    · exact iff_of_false (not_isLive hp) (not_isLive hq)
    · rw [isLive_iff hp, isLive_iff hq]
      have hmem : p ∈ s.processesOf id ↔ q ∈ t.processesOf id :=
        List.rel_mem (Process.IsTwin.biUnique hρ) hpq hst.alive
      rw [mem_processesOf, mem_processesOf] at hmem
      simpa only [hpq.left, hpq.right, and_true] using hmem

theorem forall₂_join {α : Type} {R S T : α → α → Prop} (hjoin : ∀ a b c, R a c → S b c → T a b)
    {as bs cs : List α} (ha : List.Forall₂ R as cs) (hb : List.Forall₂ S bs cs) : List.Forall₂ T as bs := by
  induction ha generalizing bs with
  | nil =>
    cases hb
    exact .nil
  | cons hac _ ih =>
    cases hb with
    | cons hbc hbs => exact .cons (hjoin _ _ _ hac hbc) (ih hbs)

theorem processes_join (p q o : Process) (hp : p.IsTwin settings ρ id o) (hq : q.IsTwin settings σ id o) :
    p.IsTwin settings (fun _ _ => True) id q where
  left := hp.left
  right := hq.left
  pid := hp.pid.trans hq.pid.symm
  port := trivial
  generation := hp.generation.trans hq.generation.symm
  args := by
    obtain ⟨n, hargs, ho⟩ := hp.args
    obtain ⟨n', hargs', ho'⟩ := hq.args
    refine ⟨n, hargs, ?_⟩
    rw [hargs']
    exact LaunchSettings.commandLine_congr (ho'.symm.trans ho) q.port

theorem IsTwin.agreesOn (hρ : BiUnique ρ) (hσ : BiUnique σ) (hs : IsTwin settings ρ id s r)
    (ht : IsTwin settings σ id t r) : AgreesOn settings id s t := by
  have hlive := (hs.live_iff hρ).trans (ht.live_iff hσ).symm
  have halive := forall₂_join processes_join hs.alive ht.alive
  have hlaunches := forall₂_join processes_join hs.launches ht.launches
  rcases optionRel_cases hs.handle with ⟨hsh, hrh⟩ | ⟨h, o, hsh, hrh, hho⟩
  · rcases optionRel_cases ht.handle with ⟨hth, -⟩ | ⟨k, o, -, hrh', -⟩
    · refine ⟨?_, ?_, ?_, hlive, halive, hlaunches⟩
      · rw [hsh, hth]
      · rw [hsh, hth]
      · rw [status, status, find, find, hsh, hth]
    · rw [hrh] at hrh'
      cases hrh'
  · rcases optionRel_cases ht.handle with ⟨-, hrh'⟩ | ⟨k, o', hth, hrh', hko⟩
    · rw [hrh] at hrh'
      cases hrh'
    · rw [hrh] at hrh'
      cases hrh'
      refine ⟨?_, ?_, ?_, hlive, halive, hlaunches⟩
      · rw [hsh, hth]
        rfl
      · rw [hsh, hth, Option.map_some, Option.map_some, hho.notebook, hko.notebook]
      · rw [status, status, find, find, hsh, hth]
        exact congrArg Except.ok (hho.status.trans hko.status.symm)

end Agreement

theorem Supplies.grants_eq {asked : ℕ} {u v : List (Machine × Step)} (hs : Supplies settings ports asked s)
    (hlength : (s.grants u).length = (s.grants v).length) (hroom : (s.grants u).length ≤ ports.left asked) :
    (s.grants u).map (·.port?) = (s.grants v).map (·.port?) := by
  have hlast : ports.last.toNat < 65536 := ports.last.toNat_lt
  have hleft : ports.left asked = ports.last.toNat - (ports.first.toNat + asked) := rfl
  refine List.ext_getElem (by rw [List.length_map, List.length_map, hlength]) fun i hi hi' => ?_
  rw [List.length_map] at hi hi'
  have hu := hs.nth (by omega) (List.getElem?_eq_getElem hi)
  have hv := hs.nth (by omega) (List.getElem?_eq_getElem hi')
  rw [List.getElem_map, List.getElem_map]
  exact Option.map_injective (fun _ _ => UInt16.toNat_inj.mp) (hu.trans hv.symm)

theorem IsInterleaving.owner_mem {agenda : String → List (Machine × Step)} (h : IsInterleaving agenda steps)
    {ids : Finset String} (hids : ∀ id ∉ ids, agenda id = []) (turn : Machine × Step) (hturn : turn ∈ steps) :
    ∃ id ∈ ids, turn.2.owner? = some id := by
  obtain ⟨id, hown⟩ := Option.isSome_iff_exists.mp (h.owned turn hturn)
  have hmem : turn ∈ agenda id := by
    rw [← h.kept id, stepsOf, List.mem_filter]
    exact ⟨hturn, beq_iff_eq.mpr hown⟩
  refine ⟨id, ?_, hown⟩
  by_contra hid
  rw [hids id hid] at hmem
  cases hmem

theorem interleavings_agree (settings : LaunchSettings) (ports : PortRange) (before : List (Machine × Step))
    (ids : Finset String) (agenda : String → List (Machine × Step)) (hids : ∀ id ∉ ids, agenda id = [])
    (hroom : ∑ id ∈ ids, (((fresh settings ports).run before).grants (agenda id)).length ≤
      ports.left ((fresh settings ports).grants before).length)
    {u v : List (Machine × Step)} (hu : IsInterleaving agenda u) (hv : IsInterleaving agenda v) :
    let s := (fresh settings ports).run before
    (∀ id, (s.run u).AgreesOn settings id (s.run v) ∧ s.answersTo id u = s.answersTo id v) ∧
      (s.grants u).map (·.port?) = (s.grants v).map (·.port?) := by
  intro s
  have hs := fresh_run_supplies settings ports before
  have hsum {w : List (Machine × Step)} (hw : IsInterleaving agenda w) :
      ∑ id ∈ ids, (s.grants (stepsOf id w)).length = ∑ id ∈ ids, (s.grants (agenda id)).length :=
    Finset.sum_congr rfl fun id _ => by rw [hw.kept id]
  have hdetached {w : List (Machine × Step)} (hw : IsInterleaving agenda w) :
      IsDetached settings ports ((fresh settings ports).grants before).length ids s w :=
    hs.run_isDetached (hw.owner_mem hids) (by rwa [hsum hw])
  have hdu := hdetached hu
  have hdv := hdetached hv
  refine ⟨fun id => ⟨?_, ?_⟩, ?_⟩
  · obtain ⟨ρ, hρ⟩ := hdu.abreast id
    obtain ⟨σ, hσ⟩ := hdv.abreast id
    rw [hu.kept id] at hρ
    rw [hv.kept id] at hσ
    exact hρ.twin.agreesOn hρ.paired hσ.paired hσ.twin
  · rw [hdu.answers, hdv.answers, hu.kept, hv.kept]
  · apply hs.grants_eq
    · rw [hdu.demand, hdv.demand, hsum hu, hsum hv]
    · rw [hdu.demand, hsum hu]
      exact hroom

theorem interleavings_agree_on_crash :
    let early : List (Machine × Step) := [({}, .follow ⟨.added, .plain "c" "c"⟩)]
    let a : List (Machine × Step) :=
      [({}, .follow ⟨.added, .plain "a" "a"⟩), ({}, .exit "a" .failure), ({}, .stop "a")]
    let b : List (Machine × Step) := [({}, .follow ⟨.updated, .plain "b" "b"⟩), ({}, .reload (.plain "b" "d"))]
    let agenda (id : String) : List (Machine × Step) := if id = "a" then a else if id = "b" then b else []
    let v : List (Machine × Step) := b.take 1 ++ a.take 2 ++ b.drop 1 ++ a.drop 2
    let s : Supervisor := (fresh {} ⟨9000, 9010⟩).run early
    (∀ id ∉ ({"a", "b"} : Finset String), agenda id = []) ∧
      ∑ id ∈ {"a", "b"}, (s.grants (agenda id)).length ≤
        PortRange.left ⟨9000, 9010⟩ ((fresh {} ⟨9000, 9010⟩).grants early).length ∧
      IsInterleaving agenda (a ++ b) ∧ IsInterleaving agenda v ∧
      (s.run (a ++ b)).port? "a" ≠ (s.run v).port? "a" ∧
      (∀ id, (s.run (a ++ b)).AgreesOn {} id (s.run v) ∧ s.answersTo id (a ++ b) = s.answersTo id v) ∧
      (s.grants (a ++ b)).map (·.port?) = (s.grants v).map (·.port?) := by
  intro early a b agenda v s
  have hids : ∀ id ∉ ({"a", "b"} : Finset String), agenda id = [] := by
    intro id hid
    simp only [Finset.mem_insert, Finset.mem_singleton, not_or] at hid
    simp only [agenda, if_neg hid.1, if_neg hid.2]
  have hroom : ∑ id ∈ {"a", "b"}, (s.grants (agenda id)).length ≤
      PortRange.left ⟨9000, 9010⟩ ((fresh {} ⟨9000, 9010⟩).grants early).length := by
    rw [Finset.sum_pair (by decide)]
    decide +kernel
  have hkept (w : List (Machine × Step)) (ha : stepsOf "a" w = a) (hb : stepsOf "b" w = b)
      (hrest : ∀ turn ∈ w, turn.2.owner? = some "a" ∨ turn.2.owner? = some "b") : IsInterleaving agenda w := by
    refine ⟨?_, ?_⟩
    · intro turn hturn
      rcases hrest turn hturn with h | h <;> rw [h] <;> rfl
    · intro id
      by_cases hida : id = "a"
      · rw [hida, ha]
        rfl
      by_cases hidb : id = "b"
      · rw [hidb, hb]
        rfl
      simp only [agenda, if_neg hida, if_neg hidb, stepsOf]
      refine List.filter_eq_nil_iff.mpr fun turn hturn => ?_
      rcases hrest turn hturn with h | h <;> rw [h, beq_iff_eq, Option.some_inj]
      · exact Ne.symm hida
      · exact Ne.symm hidb
  have hu : IsInterleaving agenda (a ++ b) := hkept _ rfl rfl (by decide)
  have hv : IsInterleaving agenda v := hkept _ rfl rfl (by decide)
  have hports : (s.run (a ++ b)).port? "a" ≠ (s.run v).port? "a" := by decide +kernel
  exact ⟨hids, hroom, hu, hv, hports,
    interleavings_agree {} ⟨9000, 9010⟩ early {"a", "b"} agenda hids hroom hu hv⟩

end Supervisor

end NotebookHost
