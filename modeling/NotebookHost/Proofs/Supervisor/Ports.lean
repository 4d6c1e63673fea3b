import NotebookHost.Proofs.Supervisor.Seats
import Mathlib.Algebra.Group.Nat.Defs

namespace NotebookHost

namespace Supervisor

theorem portOf?_eq_some_iff {ports : PortRange} {count : UInt32} {port : Port} :
    portOf? ports count = some port ↔ port.toNat = count.toNat ∧ count.toNat ≤ ports.last.toNat := by
  have hlast : ports.last.toNat < 65536 := ports.last.toNat_lt
  have hport : port.toNat < 65536 := port.toNat_lt
  have hcount : count.toUInt16.toNat = count.toNat % 65536 := UInt32.toNat_toUInt16 count
  have hle : count.toUInt16 ≤ ports.last ↔ count.toNat % 65536 ≤ ports.last.toNat := by
    rw [UInt16.le_iff_toNat_le, hcount]
  unfold portOf?
  constructor
  · intro h
    split_ifs at h with hroom
    cases h
    have := hle.mp hroom.2
    omega
  · rintro ⟨heq, hroom⟩
    rw [if_pos ⟨by omega, hle.mpr (by omega)⟩]
    congr 1
    apply UInt16.toNat_inj.mp
    omega

def asksPort (step : Step) (s : Supervisor) : Bool :=
  match step with
  | .follow e => e.change != .deleted && (s.handles[e.notebook.id]?).isNone
  | _ => false

end Supervisor

namespace Seating

def asksPort (step : Supervisor.Step) (t : Seating) : Bool :=
  match step with
  | .follow e => e.change != .deleted && (t.seat? e.notebook.id).isNone
  | _ => false

inductive Move (t : Seating) : Bool → Seating → Prop
  | stay : Move t false t
  | adopted {n : Notebook} {seat : Seat} (found : t.seat? n.id = some seat) :
      Move t false (t.put n.id (some ⟨seat.port, n⟩))
  | vacated (id : String) : Move t false (t.put id none)
  | enrolled {n : Notebook} (unknown : t.seat? n.id = none) : Move t true (t.enrol n)

theorem adopt_move (n : Notebook) (t : Seating) : Move t false (t.adopt n) := by
  unfold adopt
  split
  · exact .stay
  · next hfound => exact .adopted hfound

theorem takeOver_move (n : Notebook) (t : Seating) : Move t (t.seat? n.id).isNone (t.takeOver n) := by
  unfold takeOver
  cases hseat : t.seat? n.id with
  | none => exact .enrolled hseat
  | some seat => exact adopt_move n t

theorem perform_move (step : Supervisor.Step) (t : Seating) : Move t (t.asksPort step) (t.perform step) := by
  cases step with
  | follow e =>
    obtain ⟨change, n⟩ := e
    cases change with
    | added => exact takeOver_move n t
    | updated => exact takeOver_move n t
    | deleted => exact .vacated n.id
  | reload n => exact adopt_move n t
  | _ => exact .stay

theorem Move.fixed {t t' : Seating} {asked : Bool} (h : Move t asked t') :
    t'.settings = t.settings ∧ t'.ports = t.ports := by
  cases h <;> exact ⟨rfl, rfl⟩

/-- A number of ports were asked for. The ones in use have been counted, and no two notebooks share one. -/
structure HasAsked (t : Seating) (k : ℕ) : Prop where
  counter : t.counter.toNat = t.ports.first.toNat + k
  counted : ∀ {id : String} {seat : Seat}, t.seat? id = some seat →
    t.ports.first.toNat < seat.port.toNat ∧ seat.port.toNat ≤ t.counter.toNat
  apart : ∀ {i j : String} {a b : Seat}, t.seat? i = some a → t.seat? j = some b → a.port = b.port → i = j

structure Later (t t' : Seating) : Prop where
  settings : t'.settings = t.settings
  ports : t'.ports = t.ports
  counter : t.counter.toNat ≤ t'.counter.toNat
  kept : ∀ {id : String} {seat' : Seat}, t'.seat? id = some seat' →
    (∃ seat, t.seat? id = some seat ∧ seat.port = seat'.port) ∨ t.counter.toNat < seat'.port.toNat

theorem Later.refl (t : Seating) : Later t t := ⟨rfl, rfl, Nat.le_refl _, fun {_ seat} h => .inl ⟨seat, h, rfl⟩⟩

theorem Later.trans {t u v : Seating} (h : Later t u) (h' : Later u v) : Later t v where
  settings := h'.settings.trans h.settings
  ports := h'.ports.trans h.ports
  counter := Nat.le_trans h.counter h'.counter
  kept hseat := by
    rcases h'.kept hseat with ⟨seat, hseat, hport⟩ | hlt
    · rw [← hport]
      exact h.kept hseat
    · exact .inr (Nat.lt_of_le_of_lt h.counter hlt)

theorem counter_succ {count : UInt32} (h : count.toNat + 1 < 2 ^ 32) : (count + 1).toNat = count.toNat + 1 := by
  rw [UInt32.toNat_add]
  apply Nat.mod_eq_of_lt
  exact h

theorem HasAsked.counter_succ {t : Seating} {k : ℕ} (h : t.HasAsked k)
    (hroom : t.ports.first.toNat + (k + 1) < 2 ^ 32) :
    (t.counter + 1).toNat = t.counter.toNat + 1 := by
  have hcounter := h.counter
  apply Seating.counter_succ
  omega

theorem enrol_seat? {t : Seating} {k : ℕ} {n : Notebook} {id : String} {seat : Seat} (h : t.HasAsked k)
    (hroom : t.ports.first.toNat + (k + 1) < 2 ^ 32) (hseat : (t.enrol n).seat? id = some seat) :
    id = n.id ∧ seat.port.toNat = t.counter.toNat + 1 ∨ id ≠ n.id ∧ t.seat? id = some seat := by
  unfold enrol at hseat
  rw [put_seat?] at hseat
  split_ifs at hseat with hid
  · obtain ⟨port, hport, rfl⟩ := Option.map_eq_some_iff.mp hseat
    rw [Supervisor.portOf?_eq_some_iff, h.counter_succ hroom] at hport
    exact .inl ⟨hid, hport.1⟩
  · exact .inr ⟨hid, hseat⟩

theorem put_seat?_cases {t : Seating} {id i : String} {new : Option Seat} {seat : Seat}
    (hseat : (t.put id new).seat? i = some seat) :
    i = id ∧ new = some seat ∨ i ≠ id ∧ t.seat? i = some seat := by
  rw [put_seat?] at hseat
  split_ifs at hseat with hid
  · exact .inl ⟨hid, hseat⟩
  · exact .inr ⟨hid, hseat⟩

theorem Move.later {t t' : Seating} {asked : Bool} (h : Move t asked t') {k : ℕ} (ht : t.HasAsked k)
    (hroom : t.ports.first.toNat + (k + asked.toNat) < 2 ^ 32) : Later t t' := by
  cases h with
  | stay => exact .refl t
  | @adopted n seat found =>
    refine ⟨rfl, rfl, Nat.le_refl _, ?_⟩
    intro id seat' hseat
    rcases put_seat?_cases hseat with ⟨rfl, hnew⟩ | ⟨_, hold⟩
    · cases hnew
      exact .inl ⟨seat, found, rfl⟩
    · exact .inl ⟨seat', hold, rfl⟩
  | vacated id =>
    refine ⟨rfl, rfl, Nat.le_refl _, ?_⟩
    intro i seat' hseat
    rcases put_seat?_cases hseat with ⟨_, hnew⟩ | ⟨_, hold⟩
    · cases hnew
    · exact .inl ⟨seat', hold, rfl⟩
  | @enrolled n unknown =>
    have hcount : (t.enrol n).counter.toNat = t.counter.toNat + 1 := ht.counter_succ hroom
    refine ⟨rfl, rfl, by omega, ?_⟩
    intro id seat' hseat
    rcases enrol_seat? ht hroom hseat with ⟨_, hport⟩ | ⟨_, hold⟩
    · right
      omega
    · exact .inl ⟨seat', hold, rfl⟩

theorem Move.hasAsked {t t' : Seating} {asked : Bool} (h : Move t asked t') {k : ℕ} (ht : t.HasAsked k)
    (hroom : t.ports.first.toNat + (k + asked.toNat) < 2 ^ 32) : t'.HasAsked (k + asked.toNat) := by
  cases h with
  | stay => exact ht
  | @adopted n seat found =>
    refine ⟨ht.counter, ?_, ?_⟩
    · intro id seat' hseat
      rcases put_seat?_cases hseat with ⟨_, hnew⟩ | ⟨_, hold⟩
      · cases hnew
        have hcounted := ht.counted found
        exact hcounted
      · exact ht.counted hold
    · intro i j a b ha hb hport
      rcases put_seat?_cases ha with ⟨rfl, hi⟩ | ⟨_, ha⟩ <;>
        rcases put_seat?_cases hb with ⟨rfl, hj⟩ | ⟨_, hb⟩
      · rfl
      · cases hi
        exact ht.apart found hb hport
      · cases hj
        exact ht.apart ha found hport
      · exact ht.apart ha hb hport
  | vacated id =>
    refine ⟨ht.counter, ?_, ?_⟩
    · intro i seat' hseat
      rcases put_seat?_cases hseat with ⟨_, hnew⟩ | ⟨_, hold⟩
      · cases hnew
      · exact ht.counted hold
    · intro i j a b ha hb hport
      rcases put_seat?_cases ha with ⟨_, hi⟩ | ⟨_, ha⟩
      · cases hi
      · rcases put_seat?_cases hb with ⟨_, hj⟩ | ⟨_, hb⟩
        · cases hj
        · exact ht.apart ha hb hport
  | @enrolled n unknown =>
    have hcounter := ht.counter
    have hcount : (t.enrol n).counter.toNat = t.counter.toNat + 1 := ht.counter_succ hroom
    have hfirst : (t.enrol n).ports.first.toNat = t.ports.first.toNat := rfl
    have hasked : k + true.toNat = k + 1 := rfl
    refine ⟨by omega, ?_, ?_⟩
    · intro id seat hseat
      rcases enrol_seat? ht hroom hseat with ⟨_, hport⟩ | ⟨_, hold⟩
      · omega
      · have := ht.counted hold
        omega
    · intro i j a b ha hb hport
      -- The new port is above all that were counted before.
      have hports : a.port.toNat = b.port.toNat := congrArg UInt16.toNat hport
      rcases enrol_seat? ht hroom ha with ⟨rfl, ha⟩ | ⟨_, ha⟩ <;>
        rcases enrol_seat? ht hroom hb with ⟨rfl, hb⟩ | ⟨_, hb⟩
      · rfl
      · have := ht.counted hb
        omega
      · have := ht.counted ha
        omega
      · exact ht.apart ha hb hport

inductive Moves : Seating → ℕ → Seating → Prop
  | none (t : Seating) : Moves t 0 t
  | step {t u v : Seating} {asked : Bool} {k : ℕ} (move : Move t asked u) (rest : Moves u k v) :
      Moves t (asked.toNat + k) v

theorem Moves.fixed {t u : Seating} {n : ℕ} (h : Moves t n u) : u.settings = t.settings ∧ u.ports = t.ports := by
  induction h with
  | none t => exact ⟨rfl, rfl⟩
  | step move _ ih => exact ⟨ih.1.trans move.fixed.1, ih.2.trans move.fixed.2⟩

theorem Moves.seats {t u : Seating} {n : ℕ} (h : Moves t n u) {k : ℕ} (ht : t.HasAsked k)
    (hroom : t.ports.first.toNat + (k + n) < 2 ^ 32) : u.HasAsked (k + n) ∧ t.Later u := by
  induction h generalizing k with
  | none t => exact ⟨ht, .refl t⟩
  | @step t u v asked n move rest ih =>
    have hlater := move.later ht (by omega)
    have hports : u.ports.first.toNat = t.ports.first.toNat := by rw [hlater.ports]
    obtain ⟨hasked, hlater'⟩ := ih (move.hasAsked ht (by omega)) (by omega)
    rw [Nat.add_assoc] at hasked
    exact ⟨hasked, hlater.trans hlater'⟩

theorem hasAsked_of_empty {t : Seating} (hcounter : t.counter.toNat = t.ports.first.toNat)
    (hseat : ∀ id, t.seat? id = none) :
    t.HasAsked 0 := by
  refine ⟨hcounter, ?_, ?_⟩
  · intro id seat h
    rw [hseat] at h
    cases h
  · intro i j a b ha hb hport
    rw [hseat] at ha
    cases ha

end Seating

namespace Supervisor

theorem fresh_isSeated (settings : LaunchSettings) (ports : PortRange) :
    (fresh settings ports).IsSeated ⟨settings, ports, ports.first.toUInt32, fun _ => none⟩ where
  seating_eq := by
    unfold seating fresh
    simp
  keyed h := by simp [fresh] at h

theorem fresh_hasAsked (settings : LaunchSettings) (ports : PortRange) :
    Seating.HasAsked ⟨settings, ports, ports.first.toUInt32, fun _ => none⟩ 0 :=
  Seating.hasAsked_of_empty (UInt16.toNat_toUInt32 ports.first) fun _ => rfl

theorem IsSeated.asksPort_eq {s : Supervisor} {t : Seating} (hs : s.IsSeated t) (step : Step) :
    t.asksPort step = s.asksPort step := by
  cases step with
  | follow e => rw [Supervisor.asksPort, Seating.asksPort, hs.seat?_eq, Option.isNone_map]
  | _ => rfl

end Supervisor

end NotebookHost
