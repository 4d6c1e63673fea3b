import NotebookHost.Proofs.Supervisor.Allocation
import NotebookHost.Settings.Load

namespace NotebookHost

open Supervisor

namespace Settings

def IsFree (s : Settings) (port : Port) : Prop :=
  port ≠ 0 ∧ port ≠ s.server.apiPort ∧ port ≠ s.server.proxyPort ∧
    (s.editor.enabled = true → port ≠ s.editor.port)

theorem faults_eq_nil_iff (s : Settings) :
    s.faults = [] ↔ (∀ p ∈ s.namedPorts, p.2 ≠ 0) ∧ s.notebooks.ports.first < s.notebooks.ports.last ∧
      (∀ p ∈ s.listeners, s.notebooks.ports.contains p.2 = false) ∧ isAbsolute s.notebooks.path = true ∧
      isAbsolute s.database.path = true ∧ isAbsolute s.socket.path = true ∧ s.launch.program.isEmpty = false := by
  simp only [faults, List.append_eq_nil_iff, List.map_eq_nil_iff, List.filter_eq_nil_iff, and_assoc]
  simp

theorem faults_of_load {file : Option (List UInt8)} {env : String → Option String} {s : Settings}
    (h : load file env = .ok s) : s.faults = [] := by
  unfold load at h
  split at h
  · cases h
  · split at h
    · cases h
    · split at h
      · next hfaults =>
        cases h
        exact hfaults
      · cases h

theorem isFree_of_faults {s : Settings} (h : s.faults = []) {port : Port} (hfirst : s.notebooks.ports.first < port)
    (hlast : port ≤ s.notebooks.ports.last) : s.IsFree port := by
  obtain ⟨-, -, hlisteners, -⟩ := (faults_eq_nil_iff s).mp h
  have hrange : s.notebooks.ports.contains port = true := by
    rw [PortRange.contains, Bool.and_eq_true, decide_eq_true_eq, decide_eq_true_eq]
    exact ⟨UInt16.le_of_lt hfirst, hlast⟩
  have hother : ∀ p ∈ s.listeners, port ≠ p.2 := by
    rintro p hp rfl
    have hclear := hlisteners p hp
    rw [hrange] at hclear
    cases hclear
  have hzero : port ≠ 0 := by
    rintro rfl
    simp [UInt16.lt_iff_toNat_lt] at hfirst
  simp only [listeners, List.forall_mem_append, List.forall_mem_cons] at hother
  obtain ⟨⟨hapi, hproxy, -⟩, heditor⟩ := hother
  exact ⟨hzero, hapi, hproxy, fun henabled => by simpa [henabled] using heditor⟩

end Settings

namespace Supervisor

variable {settings : LaunchSettings} {ports : PortRange} {steps : List (Machine × Step)}

theorem fresh_unknown (hnone : (fresh settings ports).grants steps = []) (id : String) :
    ((fresh settings ports).run steps).handles[id]? = none := by
  have hport : ((fresh settings ports).run steps).port? id = none := by
    rw [Option.eq_none_iff_forall_ne_some]
    intro port hport
    have hgranted := fresh_granted hport
    rw [hnone] at hgranted
    cases hgranted
  exact Option.map_eq_none_iff.mp hport

theorem fresh_first (hrange : ports.first < ports.last) {m : Machine} {e : Event}
    (hnone : (fresh settings ports).grants steps = []) (hkept : e.change ≠ .deleted) :
    ∃ port : Port, ((fresh settings ports).run (steps ++ [(m, .follow e)])).port? e.notebook.id = some port ∧
      port.toNat = ports.first.toNat + 1 := by
  have hasks : ((fresh settings ports).run steps).asksPort (.follow e) = true :=
    asksPort_follow_iff.mpr ⟨hkept, fresh_unknown hnone _⟩
  have hfirst := ports.first.toNat_lt
  have hnext := fresh_next (m := m) (by rw [hnone, List.length_nil]; omega) hasks
  rw [UInt16.lt_iff_toNat_lt] at hrange
  rw [hnone, List.length_nil, Nat.zero_add, PortRange.nth?_eq_some_iff.mpr ⟨rfl, by omega⟩] at hnext
  rw [run_append]
  exact Option.map_eq_some_iff.mp hnext

end Supervisor

namespace Settings

theorem notebook_ports_are_free (file : Option (List UInt8)) (env : String → Option String) (s : Settings)
    (hload : load file env = .ok s) (steps : List (Machine × Step))
    (hroom : s.notebooks.ports.first.toNat + ((fresh s.launch s.notebooks.ports).grants steps).length < 2 ^ 32) :
    (∀ early, early <+: steps → ∀ (id : String) (port : Port),
      ((fresh s.launch s.notebooks.ports).run early).port? id = some port → s.IsFree port) ∧
    (∀ (k : ℕ) (g : Grant) (port : Port), ((fresh s.launch s.notebooks.ports).grants steps)[k]? = some g →
      g.port? = some port →
        s.IsFree port ∧ port.toNat = s.notebooks.ports.first.toNat + (k + 1) ∧ port.toNat < 2 ^ 16) ∧
    ∀ early (m : Machine) (e : Event), early ++ [(m, .follow e)] <+: steps →
      (fresh s.launch s.notebooks.ports).grants early = [] → e.change ≠ .deleted →
        ∃ port : Port,
          ((fresh s.launch s.notebooks.ports).run (early ++ [(m, .follow e)])).port? e.notebook.id = some port := by
  have hfaults := faults_of_load hload
  obtain ⟨-, hrange, -⟩ := (faults_eq_nil_iff s).mp hfaults
  refine ⟨?_, ?_, ?_⟩
  · intro early hearly id port hport
    have hlength := length_grants_of_prefix (fresh s.launch s.notebooks.ports) hearly
    obtain ⟨hfirst, hlast⟩ := fresh_in_range (by omega) hport
    exact isFree_of_faults hfaults hfirst hlast
  · intro k g port hg hport
    have hnth := fresh_nth hroom hg
    rw [hport, Option.map_some, eq_comm, PortRange.nth?_eq_some_iff] at hnth
    obtain ⟨hvalue, hlast⟩ := hnth
    refine ⟨isFree_of_faults hfaults ?_ ?_, hvalue, port.toNat_lt⟩
    · rw [UInt16.lt_iff_toNat_lt]
      omega
    · rw [UInt16.le_iff_toNat_le]
      omega
  · intro early m e hearly hnone hkept
    obtain ⟨port, hport, -⟩ := fresh_first hrange hnone hkept
    exact ⟨port, hport⟩

theorem notebook_ports_are_free_when_narrow :
    let file := Text.encode "[server]\nproxy_port = 8082\n[editor]\nenabled = true\nport = 8085\n"
    let env (name : String) : Option String :=
      if name = "PROXY_PORT" then some " 8084" else if name = "NOTEBOOK_PORT_RANGE" then some "8082 - 8083" else none
    let s : Settings :=
      { server := { proxyPort := 8084 }, editor := { enabled := true, port := 8085 },
        notebooks := { ports := ⟨8082, 8083⟩ } }
    let steps : List (Machine × Step) :=
      [({}, .follow ⟨.deleted, .plain "a" "a"⟩), ({}, .follow ⟨.added, .plain "a" "a"⟩),
        ({}, .follow ⟨.updated, .plain "b" "b"⟩), ({}, .stop "a"), ({}, .start "a")]
    load (some file) env = .ok s ∧
      s.notebooks.ports.first.toNat + ((fresh s.launch s.notebooks.ports).grants steps).length < 2 ^ 32 ∧
      (fresh s.launch s.notebooks.ports).grants steps = [⟨"a", some 8083⟩, ⟨"b", none⟩] ∧ s.IsFree 8083 := by
  intro file env s steps
  have hload : load (some file) env = .ok s := by decide +kernel
  have hgrants : (fresh s.launch s.notebooks.ports).grants steps = [⟨"a", some 8083⟩, ⟨"b", none⟩] := by
    decide +kernel
  have hroom : s.notebooks.ports.first.toNat + ((fresh s.launch s.notebooks.ports).grants steps).length < 2 ^ 32 := by
    rw [hgrants]
    decide
  have hfree := (notebook_ports_are_free (some file) env s hload steps hroom).2.1 0 ⟨"a", some 8083⟩ 8083
    (by rw [hgrants]; rfl) rfl
  exact ⟨hload, hroom, hgrants, hfree.1⟩

end Settings

end NotebookHost
