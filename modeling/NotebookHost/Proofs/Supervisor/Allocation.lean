import NotebookHost.Proofs.Catalogue.Uniqueness
import NotebookHost.Proofs.Supervisor.Ports
import Mathlib.Data.List.Infix

namespace NotebookHost

def PortRange.nth? (r : PortRange) (k : ℕ) : Option ℕ :=
  if r.first.toNat + k ≤ r.last.toNat then some (r.first.toNat + k) else none

theorem PortRange.nth?_eq_some_iff {r : PortRange} {k n : ℕ} :
    r.nth? k = some n ↔ n = r.first.toNat + k ∧ r.first.toNat + k ≤ r.last.toNat := by
  unfold nth?
  split_ifs with h
  · rw [Option.some_inj]
    exact ⟨fun hn => ⟨hn.symm, h⟩, fun hn => hn.1.symm⟩
  · simp [h]

theorem PortRange.nth?_eq_none_iff {r : PortRange} {k : ℕ} :
    r.nth? k = none ↔ r.last.toNat < r.first.toNat + k := by
  unfold nth?
  split_ifs with h
  · simp [h]
  · simp [Nat.lt_of_not_le h]

theorem Seating.Later.retired {t u v : Seating} {k : ℕ} (ht : t.HasAsked k) (htu : t.Later u) (huv : u.Later v)
    {id i : String} {seat seat' : Seat} (hbefore : t.seat? id = some seat) (hgone : u.seat? id = none)
    (hafter : v.seat? i = some seat') : seat'.port ≠ seat.port := by
  intro hport
  have hcounted := (ht.counted hbefore).2
  have hcounter := htu.counter
  rw [← hport] at hcounted
  rcases huv.kept hafter with ⟨mid, hmid, hmidport⟩ | hnew
  · rcases htu.kept hmid with ⟨old, hold, holdport⟩ | hnew
    · have hid := ht.apart hold hbefore (by rw [holdport, hmidport, hport])
      rw [hid, hgone] at hmid
      cases hmid
    · rw [hmidport] at hnew
      omega
  · omega

namespace Supervisor

structure Grant where
  id : String
  port? : Option Port
  deriving DecidableEq

def grant? (m : Machine) (step : Step) (s : Supervisor) : Option Grant :=
  match step with
  | .follow e => if s.asksPort step then some ⟨e.notebook.id, (s.follow m e).port? e.notebook.id⟩ else none
  | _ => none

def grants (s : Supervisor) : List (Machine × Step) → List Grant
  | [] => []
  | (m, step) :: steps => (s.grant? m step).toList ++ (s.perform m step).1.grants steps

theorem asksPort_follow_iff {s : Supervisor} {e : Event} :
    s.asksPort (.follow e) = true ↔ e.change ≠ .deleted ∧ s.handles[e.notebook.id]? = none := by
  rw [asksPort, Bool.and_eq_true, bne_iff_ne, Option.isNone_iff_eq_none]

theorem grant?_eq_some {m : Machine} {step : Step} {s : Supervisor} {g : Grant} (h : s.grant? m step = some g) :
    ∃ e, step = .follow e ∧ s.asksPort (.follow e) = true ∧
      g = ⟨e.notebook.id, (s.follow m e).port? e.notebook.id⟩ := by
  cases step with
  | follow e =>
    unfold grant? at h
    dsimp only at h
    split_ifs at h with hasks
    exact ⟨e, rfl, hasks, (Option.some.inj h).symm⟩
  | _ => cases h

theorem length_grant? (m : Machine) (step : Step) (s : Supervisor) :
    (s.grant? m step).toList.length = (s.asksPort step).toNat := by
  cases step with
  | follow e =>
    unfold grant?
    dsimp only
    cases s.asksPort (.follow e) <;> rfl
  | _ => rfl

theorem grants_append (s : Supervisor) (early late : List (Machine × Step)) :
    s.grants (early ++ late) = s.grants early ++ (s.run early).grants late := by
  induction early generalizing s with
  | nil => rfl
  | cons turn early ih =>
    rw [List.cons_append, grants, grants, ih, List.append_assoc]
    rfl

theorem run_append (s : Supervisor) (early late : List (Machine × Step)) :
    s.run (early ++ late) = (s.run early).run late := List.foldl_append

theorem toNat_portOf? (ports : PortRange) (count : UInt32) :
    (portOf? ports count).map UInt16.toNat = if count.toNat ≤ ports.last.toNat then some count.toNat else none := by
  cases hport : portOf? ports count with
  | some port =>
    obtain ⟨heq, hroom⟩ := portOf?_eq_some_iff.mp hport
    rw [if_pos hroom, Option.map_some, heq]
  | none =>
    rw [if_neg, Option.map_none]
    intro hroom
    have hlast : ports.last.toNat < 65536 := ports.last.toNat_lt
    have hsome : portOf? ports count = some count.toUInt16 := by
      refine portOf?_eq_some_iff.mpr ⟨?_, hroom⟩
      rw [UInt32.toNat_toUInt16]
      omega
    rw [hport] at hsome
    cases hsome

namespace IsSeated

variable {s : Supervisor} {t : Seating} (hs : s.IsSeated t)
include hs

theorem port?_eq (id : String) : s.port? id = (t.seat? id).map (·.port) := by
  rw [hs.seat?_eq, Option.map_map]
  rfl

theorem perform_move (m : Machine) (step : Step) :
    ∃ t', (s.perform m step).1.IsSeated t' ∧ t.Move (s.asksPort step) t' := by
  refine ⟨t.perform step, hs.perform m step, ?_⟩
  rw [← hs.asksPort_eq]
  exact Seating.perform_move step t

theorem run_moves (steps : List (Machine × Step)) :
    ∃ t', (s.run steps).IsSeated t' ∧ t.Moves (s.grants steps).length t' := by
  induction steps generalizing s t with
  | nil => exact ⟨t, hs, .none t⟩
  | cons turn steps ih =>
    obtain ⟨m, step⟩ := turn
    obtain ⟨t', ht', hmove⟩ := hs.perform_move m step
    obtain ⟨u, hu, hmoves⟩ := ih ht'
    refine ⟨u, hu, ?_⟩
    rw [grants, List.length_append, length_grant?]
    exact .step hmove hmoves

theorem run_fixed (steps : List (Machine × Step)) :
    (s.run steps).settings = t.settings ∧ (s.run steps).ports = t.ports := by
  obtain ⟨u, hu, hmoves⟩ := hs.run_moves steps
  have hfixed := hmoves.fixed
  rwa [← hu.seating_eq] at hfixed

theorem follow_port? (m : Machine) {e : Event} (hasks : s.asksPort (.follow e) = true) :
    (s.follow m e).port? e.notebook.id = portOf? t.ports (t.counter + 1) := by
  obtain ⟨hkept, hnone⟩ := asksPort_follow_iff.mp hasks
  have hseat : t.seat? e.notebook.id = none := by rw [hs.seat?_eq, hnone, Option.map_none]
  have henrol : t.follow e = t.enrol e.notebook := by
    rw [Seating.follow_kept hkept, Seating.takeOver, if_neg (by rw [hseat]; decide)]
  rw [(hs.follow m e).port?_eq, henrol, Seating.enrol, Seating.put_seat?, if_pos rfl, Option.map_map]
  exact Option.map_id'

theorem adopt_port? {s' : Supervisor} {n : Notebook} (hs' : s'.IsSeated (t.adopt n)) (id : String) :
    s'.port? id = s.port? id := by
  rw [hs'.port?_eq, hs.port?_eq]
  cases hseat : t.seat? n.id with
  | none => rw [Seating.adopt_of_none hseat]
  | some seat =>
    rw [Seating.adopt_of_seat hseat, Seating.put_seat?]
    split_ifs with hid
    · rw [hid, hseat]
      rfl
    · rfl

theorem perform_port? (m : Machine) (step : Step) {id : String} {port : Port}
    (hport : (s.perform m step).1.port? id = some port) :
    s.port? id = some port ∨ s.grant? m step = some ⟨id, some port⟩ := by
  have hs' := hs.perform m step
  have hsame (h : t.perform step = t) : s.port? id = some port := by
    rw [← hport, hs'.port?_eq, hs.port?_eq, h]
  cases step with
  | follow e =>
    change (s.follow m e).port? id = some port at hport
    by_cases hid : id = e.notebook.id
    · subst hid
      by_cases hasks : s.asksPort (.follow e) = true
      · right
        rw [grant?, if_pos hasks, hport]
      · left
        have hseats : (s.follow m e).IsSeated (t.follow e) := hs.follow m e
        by_cases hdeleted : e.change = .deleted
        · rw [hseats.port?_eq, Seating.follow_deleted hdeleted, Seating.put_seat?, if_pos rfl] at hport
          cases hport
        · have hknown : (t.seat? e.notebook.id).isSome = true := by
            rw [hs.seat?_eq, Option.isSome_map, Option.isSome_iff_ne_none]
            exact fun hnone => hasks (asksPort_follow_iff.mpr ⟨hdeleted, hnone⟩)
          rw [Seating.follow_kept hdeleted, Seating.takeOver, if_pos hknown] at hseats
          rw [← hs.adopt_port? hseats, hport]
    · left
      rw [← hport, (hs.follow m e).port?_eq, Seating.follow_other hid, hs.port?_eq]
  | reload n =>
    left
    rw [← hport]
    exact (hs.adopt_port? hs' id).symm
  | _ => exact .inl (hsame rfl)

theorem run_port? (steps : List (Machine × Step)) {id : String} {port : Port}
    (hport : (s.run steps).port? id = some port) :
    s.port? id = some port ∨ ⟨id, some port⟩ ∈ s.grants steps := by
  induction steps generalizing s t with
  | nil => exact .inl hport
  | cons turn steps ih =>
    obtain ⟨m, step⟩ := turn
    rw [grants, List.mem_append, Option.mem_toList]
    rcases ih (hs.perform m step) hport with hbefore | hgranted
    · rcases hs.perform_port? m step hbefore with hbefore | hgranted
      · exact .inl hbefore
      · exact .inr (.inl hgranted)
    · exact .inr (.inr hgranted)

theorem perform_keeps_port (m : Machine) (step : Step) {id : String} {port port' : Port}
    (hport : s.port? id = some port) (hport' : (s.perform m step).1.port? id = some port') : port' = port := by
  rcases hs.perform_port? m step hport' with hbefore | hgranted
  · rw [hport] at hbefore
    exact (Option.some.inj hbefore).symm
  · obtain ⟨e, -, hasks, hg⟩ := grant?_eq_some hgranted
    obtain rfl : id = e.notebook.id := congrArg Grant.id hg
    rw [port?, (asksPort_follow_iff.mp hasks).2] at hport
    cases hport

theorem follow_refused (m : Machine) {e : Event} (hasks : s.asksPort (.follow e) = true)
    (hnone : (s.follow m e).port? e.notebook.id = none) : s.follow m e = { s with counter := s.counter + 1 } := by
  rw [hs.follow_port? m hasks] at hnone
  have hcount : portOf? s.ports (s.counter + 1) = portOf? t.ports (t.counter + 1) := by rw [← hs.seating_eq]; rfl
  obtain ⟨change, n⟩ := e
  obtain ⟨hkept, hunknown⟩ := asksPort_follow_iff.mp hasks
  have htake : s.follow m ⟨change, n⟩ = s.takeOver m n := by
    cases change with
    | added => rfl
    | updated => rfl
    | deleted => exact absurd rfl hkept
  rw [htake, takeOver_unknown m hunknown, hcount, hnone]

theorem grant?_nth {k : ℕ} (hasked : t.HasAsked k) (hroom : t.ports.first.toNat + (k + 1) < 2 ^ 32) {m : Machine}
    {step : Step} {g : Grant} (hgrant : s.grant? m step = some g) :
    g.port?.map UInt16.toNat = t.ports.nth? (k + 1) := by
  obtain ⟨e, rfl, hasks, rfl⟩ := grant?_eq_some hgrant
  have hsucc : (t.counter + 1).toNat = t.ports.first.toNat + (k + 1) := by
    rw [hasked.counter_succ hroom, hasked.counter, Nat.add_assoc]
  rw [hs.follow_port? m hasks, toNat_portOf?, hsucc, PortRange.nth?]

theorem grants_nth {k : ℕ} (hasked : t.HasAsked k) (steps : List (Machine × Step))
    (hroom : t.ports.first.toNat + (k + (s.grants steps).length) < 2 ^ 32) {j : ℕ} {g : Grant}
    (hg : (s.grants steps)[j]? = some g) : g.port?.map UInt16.toNat = t.ports.nth? (k + (j + 1)) := by
  induction steps generalizing s t k j with
  | nil => cases hg
  | cons turn steps ih =>
    obtain ⟨m, step⟩ := turn
    obtain ⟨t', ht', hmove⟩ := hs.perform_move m step
    have hlength := length_grant? m step s
    rw [grants, List.length_append, hlength] at hroom
    have hasked' := hmove.hasAsked hasked (by omega)
    have hports := hmove.fixed.2
    have hrest {i : ℕ} (hi : ((s.perform m step).1.grants steps)[i]? = some g) :
        g.port?.map UInt16.toNat = t.ports.nth? (k + (s.asksPort step).toNat + (i + 1)) := by
      rw [← hports]
      exact ih ht' hasked' (by rw [hports]; omega) hi
    rw [← hlength] at hrest hroom
    rw [grants] at hg
    cases hgrant : s.grant? m step with
    | none =>
      rw [hgrant] at hg hrest
      exact hrest hg
    | some first =>
      rw [hgrant] at hg hrest hroom
      change _ + (_ + (1 + _)) < _ at hroom
      cases j with
      | zero =>
        cases hg
        exact hs.grant?_nth hasked (by omega) hgrant
      | succ j =>
        rw [Nat.add_comm (j + 1) 1, ← Nat.add_assoc]
        exact hrest hg

theorem run_seats {k : ℕ} (hasked : t.HasAsked k) (steps : List (Machine × Step))
    (hroom : t.ports.first.toNat + (k + (s.grants steps).length) < 2 ^ 32) :
    ∃ u, (s.run steps).IsSeated u ∧ u.HasAsked (k + (s.grants steps).length) ∧ t.Later u := by
  obtain ⟨u, hu, hmoves⟩ := hs.run_moves steps
  exact ⟨u, hu, hmoves.seats hasked hroom⟩

theorem retired {k : ℕ} (hasked : t.HasAsked k) {mid late : List (Machine × Step)}
    (hroom : t.ports.first.toNat + (k + (s.grants (mid ++ late)).length) < 2 ^ 32) {id i : String} {port : Port}
    (hport : s.port? id = some port) (hgone : (s.run mid).port? id = none) :
    (s.run (mid ++ late)).port? i ≠ some port := by
  intro hagain
  rw [grants_append, List.length_append] at hroom
  obtain ⟨u, hu, hasked', htu⟩ := hs.run_seats hasked mid (by omega)
  have hports := htu.ports
  obtain ⟨v, hv, -, huv⟩ := hu.run_seats hasked' late (by rw [hports]; omega)
  rw [hs.port?_eq, Option.map_eq_some_iff] at hport
  rw [hu.port?_eq, Option.map_eq_none_iff] at hgone
  rw [run_append, hv.port?_eq, Option.map_eq_some_iff] at hagain
  obtain ⟨seat, hseat, rfl⟩ := hport
  obtain ⟨seat', hseat', hsame⟩ := hagain
  exact Seating.Later.retired hasked htu huv hseat hgone hseat' hsame

end IsSeated

structure HandsOut (ports : PortRange) (s : Supervisor) (steps : List (Machine × Step)) : Prop where
  nth : ∀ {k : ℕ} {g : Grant}, (s.grants steps)[k]? = some g → g.port?.map UInt16.toNat = ports.nth? (k + 1)
  ascending : (s.grants steps).Pairwise fun g g' => ∀ p p', g.port? = some p → g'.port? = some p' → p < p'
  exhausted : (s.grants steps).Pairwise fun g g' => g.port? = none → g'.port? = none
  granted : ∀ {early : List (Machine × Step)}, early <+: steps → ∀ {id : String} {port : Port},
    (s.run early).port? id = some port → ports.first < port ∧ port ≤ ports.last ∧
      ⟨id, some port⟩ ∈ s.grants early
  apart : ∀ {early : List (Machine × Step)}, early <+: steps → ∀ {i j : String} {port : Port},
    (s.run early).port? i = some port → (s.run early).port? j = some port → i = j
  kept : ∀ {early : List (Machine × Step)} {turn : Machine × Step}, early ++ [turn] <+: steps →
    ∀ {id : String} {port port' : Port}, (s.run early).port? id = some port →
      (s.run (early ++ [turn])).port? id = some port' → port' = port
  retired : ∀ {early mid late : List (Machine × Step)}, early ++ mid ++ late <+: steps →
    ∀ {id : String} {port : Port}, (s.run early).port? id = some port → (s.run (early ++ mid)).port? id = none →
      ∀ i, (s.run (early ++ mid ++ late)).port? i ≠ some port
  refused : ∀ {early : List (Machine × Step)} {m : Machine} {e : Event}, early ++ [(m, .follow e)] <+: steps →
    (s.run early).asksPort (.follow e) = true → (s.run (early ++ [(m, .follow e)])).port? e.notebook.id = none →
      s.run (early ++ [(m, .follow e)]) = { s.run early with counter := (s.run early).counter + 1 }

theorem length_grants_of_prefix (s : Supervisor) {early steps : List (Machine × Step)} (h : early <+: steps) :
    (s.grants early).length ≤ (s.grants steps).length := by
  obtain ⟨late, rfl⟩ := h
  rw [grants_append, List.length_append]
  exact Nat.le_add_right _ _

section Fresh

variable {settings : LaunchSettings} {ports : PortRange} {steps early : List (Machine × Step)}

theorem fresh_nth (hroom : ports.first.toNat + ((fresh settings ports).grants steps).length < 2 ^ 32) {k : ℕ}
    {g : Grant} (hg : ((fresh settings ports).grants steps)[k]? = some g) :
    g.port?.map UInt16.toNat = ports.nth? (k + 1) := by
  have h := (fresh_isSeated settings ports).grants_nth (fresh_hasAsked settings ports) steps (by rwa [Nat.zero_add]) hg
  rwa [Nat.zero_add] at h

theorem fresh_seats (hroom : ports.first.toNat + ((fresh settings ports).grants steps).length < 2 ^ 32) :
    ∃ t, ((fresh settings ports).run steps).IsSeated t ∧ t.HasAsked ((fresh settings ports).grants steps).length ∧
      t.ports = ports := by
  obtain ⟨t, ht, hasked, hlater⟩ :=
    (fresh_isSeated settings ports).run_seats (fresh_hasAsked settings ports) steps (by rwa [Nat.zero_add])
  rw [Nat.zero_add] at hasked
  exact ⟨t, ht, hasked, hlater.ports⟩

theorem fresh_granted {id : String} {port : Port} (hport : ((fresh settings ports).run steps).port? id = some port) :
    ⟨id, some port⟩ ∈ (fresh settings ports).grants steps := by
  rcases (fresh_isSeated settings ports).run_port? steps hport with hbefore | hgranted
  · rw [(fresh_isSeated settings ports).port?_eq] at hbefore
    cases hbefore
  · exact hgranted

theorem fresh_in_range (hroom : ports.first.toNat + ((fresh settings ports).grants steps).length < 2 ^ 32) {id : String}
    {port : Port} (hport : ((fresh settings ports).run steps).port? id = some port) :
    ports.first < port ∧ port ≤ ports.last := by
  obtain ⟨k, hk⟩ := List.mem_iff_getElem?.mp (fresh_granted hport)
  obtain ⟨hnth, hlast⟩ := PortRange.nth?_eq_some_iff.mp (fresh_nth hroom hk).symm
  rw [UInt16.lt_iff_toNat_lt, UInt16.le_iff_toNat_le]
  omega

theorem grants_append_follow {s : Supervisor} {m : Machine} {e : Event}
    (hasks : (s.run steps).asksPort (.follow e) = true) :
    s.grants (steps ++ [(m, .follow e)]) =
      s.grants steps ++ [⟨e.notebook.id, ((s.run steps).follow m e).port? e.notebook.id⟩] := by
  rw [grants_append, grants, grants, grant?, if_pos hasks]
  rfl

theorem fresh_next (hroom : ports.first.toNat + (((fresh settings ports).grants steps).length + 1) < 2 ^ 32)
    {m : Machine} {e : Event} (hasks : ((fresh settings ports).run steps).asksPort (.follow e) = true) :
    ((((fresh settings ports).run steps).follow m e).port? e.notebook.id).map UInt16.toNat =
      ports.nth? (((fresh settings ports).grants steps).length + 1) := by
  have hgrants := grants_append_follow (m := m) hasks
  have hlength := congrArg List.length hgrants
  rw [List.length_append, List.length_singleton] at hlength
  have hlast :
      ((fresh settings ports).grants (steps ++ [(m, .follow e)]))[((fresh settings ports).grants steps).length]? =
        some ⟨e.notebook.id, (((fresh settings ports).run steps).follow m e).port? e.notebook.id⟩ := by
    rw [hgrants, List.getElem?_append_right (Nat.le_refl _), Nat.sub_self]
    rfl
  exact fresh_nth (by rwa [hlength]) hlast

end Fresh

theorem ports_handed_out_in_order (settings : LaunchSettings) (ports : PortRange) (steps : List (Machine × Step))
    (hroom : ports.first.toNat + ((fresh settings ports).grants steps).length < 2 ^ 32) :
    HandsOut ports (fresh settings ports) steps := by
  have hshort {early : List (Machine × Step)} (hearly : early <+: steps) :
      ports.first.toNat + ((fresh settings ports).grants early).length < 2 ^ 32 := by
    have hlength := length_grants_of_prefix (fresh settings ports) hearly
    omega
  refine ⟨fresh_nth hroom, ?_, ?_, ?_, ?_, ?_, ?_, ?_⟩
  · rw [List.pairwise_iff_getElem]
    intro i j hi hj hij p p' hp hp'
    have hfirst := fresh_nth hroom (List.getElem?_eq_getElem hi)
    have hsecond := fresh_nth hroom (List.getElem?_eq_getElem hj)
    rw [hp] at hfirst
    rw [hp'] at hsecond
    have := (PortRange.nth?_eq_some_iff.mp hfirst.symm).1
    have := (PortRange.nth?_eq_some_iff.mp hsecond.symm).1
    rw [UInt16.lt_iff_toNat_lt]
    omega
  · rw [List.pairwise_iff_getElem]
    intro i j hi hj hij hnone
    have hfirst := fresh_nth hroom (List.getElem?_eq_getElem hi)
    have hsecond := fresh_nth hroom (List.getElem?_eq_getElem hj)
    rw [hnone] at hfirst
    have hfull := PortRange.nth?_eq_none_iff.mp hfirst.symm
    rw [PortRange.nth?_eq_none_iff.mpr (by omega)] at hsecond
    exact Option.map_eq_none_iff.mp hsecond
  · intro early hearly id port hport
    obtain ⟨hfirst, hlast⟩ := fresh_in_range (hshort hearly) hport
    exact ⟨hfirst, hlast, fresh_granted hport⟩
  · intro early hearly i j port hi hj
    obtain ⟨t, ht, hasked, -⟩ := fresh_seats (hshort hearly)
    rw [ht.port?_eq, Option.map_eq_some_iff] at hi hj
    obtain ⟨a, ha, haport⟩ := hi
    obtain ⟨b, hb, hbport⟩ := hj
    exact hasked.apart ha hb (haport.trans hbport.symm)
  · intro early turn hearly id port port' hport hport'
    obtain ⟨t, ht, -⟩ := fresh_seats (hshort ((List.prefix_append _ _).trans hearly))
    rw [run_append] at hport'
    exact ht.perform_keeps_port turn.1 turn.2 hport hport'
  · intro early mid late hsteps id port hport hgone i
    rw [List.append_assoc] at hsteps ⊢
    obtain ⟨t, ht, hasked, hports⟩ := fresh_seats (hshort ((List.prefix_append _ _).trans hsteps))
    have hlength := hshort hsteps
    rw [grants_append, List.length_append] at hlength
    rw [run_append] at hgone ⊢
    exact ht.retired hasked (by rwa [hports]) hport hgone
  · intro early m e hearly hasks hnone
    obtain ⟨t, ht, -⟩ := fresh_seats (hshort ((List.prefix_append _ _).trans hearly))
    rw [run_append] at hnone ⊢
    exact ht.follow_refused m hasks hnone

theorem ports_handed_out_while_deleting :
    let steps : List (Machine × Step) :=
      [({}, .follow ⟨.added, .plain "a" "a"⟩), ({ killError := some "busy" }, .stop "a"),
      ({}, .follow ⟨.updated, .plain "b" "b"⟩), ({}, .follow ⟨.deleted, .plain "a" "a"⟩),
      ({}, .follow ⟨.added, .plain "c" "c"⟩)]
    (9000 : Port).toNat + ((fresh {} ⟨9000, 9001⟩).grants steps).length < 2 ^ 32 ∧
      (fresh {} ⟨9000, 9001⟩).grants steps = [⟨"a", some 9001⟩, ⟨"b", none⟩, ⟨"c", none⟩] ∧
      HandsOut ⟨9000, 9001⟩ (fresh {} ⟨9000, 9001⟩) steps := by
  intro steps
  have hgrants : (fresh {} ⟨9000, 9001⟩).grants steps =
      [⟨"a", some 9001⟩, ⟨"b", none⟩, ⟨"c", none⟩] := by decide +kernel
  have hroom : (9000 : Port).toNat + ((fresh {} ⟨9000, 9001⟩).grants steps).length < 2 ^ 32 := by
    rw [hgrants]
    decide
  exact ⟨hroom, hgrants, ports_handed_out_in_order {} ⟨9000, 9001⟩ steps hroom⟩

end Supervisor

end NotebookHost
