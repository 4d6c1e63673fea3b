import NotebookHost.Proofs.Supervisor.Allocation
import NotebookHost.Proofs.Supervisor.Processes
import NotebookHost.Proofs.Text.Decimal
import Mathlib.Data.List.Forall2
import Mathlib.Logic.Relator

namespace NotebookHost

open Relator

theorem LaunchSettings.commandLine_eq_set (settings : LaunchSettings) (n : Notebook) (port port' : Port) :
    settings.commandLine n port' = (settings.commandLine n port).set (settings.args.length + 2) port'.toText := by
  simp [commandLine]

theorem LaunchSettings.commandLine_congr {settings : LaunchSettings} {n n' : Notebook} {port : Port}
    (h : settings.commandLine n port = settings.commandLine n' port) (port' : Port) :
    settings.commandLine n port' = settings.commandLine n' port' := by
  rw [commandLine_eq_set settings n port, h, ← commandLine_eq_set settings n' port]

theorem Port.toText_no_nul (port : Port) : port.toText.toList.contains '\x00' = false := by
  rw [toText, String.toList_ofList, List.contains_eq_mem, decide_eq_false_iff_not]
  intro h
  exact Text.ne_of_isDigit (Text.isDigit_of_mem_digitsOf h) (by decide) rfl

theorem Machine.start_commandLine (m : Machine) (settings : LaunchSettings) (n : Notebook) (port port' : Port) :
    m.start settings.program (settings.commandLine n port) =
      m.start settings.program (settings.commandLine n port') := by
  have hany : (settings.program :: settings.commandLine n port).any (·.toList.contains '\x00') =
      (settings.program :: settings.commandLine n port').any (·.toList.contains '\x00') := by
    simp only [LaunchSettings.commandLine, List.any_cons, List.any_append, Port.toText_no_nul]
  unfold start
  rw [hany]

theorem optionRel_cases {α β : Type} {r : α → β → Prop} {a : Option α} {b : Option β} (h : Option.Rel r a b) :
    a = none ∧ b = none ∨ ∃ x y, a = some x ∧ b = some y ∧ r x y := by
  cases h with
  | none => exact .inl ⟨rfl, rfl⟩
  | some hr => exact .inr ⟨_, _, rfl, rfl, hr⟩

theorem optionRel_imp {α β : Type} {r r' : α → β → Prop} (hr : ∀ x y, r x y → r' x y) {a : Option α}
    {b : Option β} (h : Option.Rel r a b) : Option.Rel r' a b := by
  cases h with
  | none => exact .none
  | some h => exact .some (hr _ _ h)

structure Process.IsTwin (settings : LaunchSettings) (ρ : Port → Port → Prop) (id : String) (p q : Process) :
    Prop where
  left : p.id = id
  right : q.id = id
  pid : p.pid = q.pid
  port : ρ p.port q.port
  generation : p.generation = q.generation
  args : ∃ n, p.args = settings.commandLine n p.port ∧ q.args = settings.commandLine n q.port

structure Handle.IsTwin (settings : LaunchSettings) (ρ : Port → Port → Prop) (id : String) (h k : Handle) :
    Prop where
  left : h.id = id
  right : k.id = id
  notebook : h.notebook = k.notebook
  port : ρ h.port k.port
  status : h.status = k.status
  generation : h.generation = k.generation
  process : Option.Rel (Process.IsTwin settings ρ id) h.process k.process

namespace Supervisor

def Step.owner? : Step → Option String
  | .follow e => some e.notebook.id
  | .start id | .stop id | .exit id _ | .heedSignal id => some id
  | .reload n => some n.id
  | .shutdown | .giveSignal | .loseSignal => none

def launchesOf (s : Supervisor) (id : String) : List Process := s.launches.filter (·.id == id)

structure Alike (settings : LaunchSettings) (ρ : Port → Port → Prop) (id : String) (s t : Supervisor) : Prop where
  left : s.settings = settings
  right : t.settings = settings
  signal : s.signal = t.signal
  alive : List.Forall₂ (Process.IsTwin settings ρ id) (s.processesOf id) (t.processesOf id)
  launches : List.Forall₂ (Process.IsTwin settings ρ id) (s.launchesOf id) (t.launchesOf id)

/-- Two supervisors that a notebook cannot tell apart, except for its ports. -/
structure IsTwin (settings : LaunchSettings) (ρ : Port → Port → Prop) (id : String) (s t : Supervisor) : Prop
    extends Alike settings ρ id s t where
  handle : Option.Rel (Handle.IsTwin settings ρ id) s.handles[id]? t.handles[id]?

structure SameOutcome (settings : LaunchSettings) (ρ : Port → Port → Prop) (id : String)
    (x y : Supervisor × Handle × Except Failure Unit) : Prop where
  alike : Alike settings ρ id x.1 y.1
  handle : Handle.IsTwin settings ρ id x.2.1 y.2.1
  answer : x.2.2 = y.2.2

structure SameEffect {α : Type} (settings : LaunchSettings) (ρ : Port → Port → Prop) (id : String)
    (x y : Supervisor × α) : Prop where
  twin : IsTwin settings ρ id x.1 y.1
  answer : x.2 = y.2

end Supervisor

variable {settings : LaunchSettings} {ρ ρ' : Port → Port → Prop} {id : String}

namespace Process.IsTwin

variable {p q : Process}

theorem mono (hρ : ∀ P Q, ρ P Q → ρ' P Q) (h : p.IsTwin settings ρ id q) : p.IsTwin settings ρ' id q :=
  { h with port := hρ _ _ h.port }

theorem symm (h : p.IsTwin settings ρ id q) : q.IsTwin settings (fun Q P => ρ P Q) id p where
  left := h.right
  right := h.left
  pid := h.pid.symm
  port := h.port
  generation := h.generation.symm
  args := by
    obtain ⟨n, hp, hq⟩ := h.args
    exact ⟨n, hq, hp⟩

theorem leftUnique (hρ : LeftUnique ρ) : LeftUnique (Process.IsTwin settings ρ id) := by
  intro p p' q h h'
  obtain ⟨n, hp, hq⟩ := h.args
  obtain ⟨n', hp', hq'⟩ := h'.args
  have hport : p.port = p'.port := hρ h.port h'.port
  -- The two may have been launched from different records, but then these give the same command line.
  have hargs : p.args = p'.args := by
    rw [hp, hp', ← hport]
    exact LaunchSettings.commandLine_congr (hq.symm.trans hq') p.port
  obtain ⟨pid, i, port, generation, args⟩ := p
  obtain ⟨pid', i', port', generation', args'⟩ := p'
  obtain rfl : pid = pid' := h.pid.trans h'.pid.symm
  obtain rfl : i = i' := h.left.trans h'.left.symm
  obtain rfl : generation = generation' := h.generation.trans h'.generation.symm
  obtain rfl : port = port' := hport
  obtain rfl : args = args' := hargs
  rfl

theorem biUnique (hρ : BiUnique ρ) : BiUnique (Process.IsTwin settings ρ id) := by
  refine ⟨leftUnique hρ.1, ?_⟩
  intro p q q' h h'
  have hright : LeftUnique fun Q P => ρ P Q := fun _ _ _ hQ hQ' => hρ.2 hQ hQ'
  exact leftUnique hright h.symm h'.symm

end Process.IsTwin

namespace Handle.IsTwin

variable {h k : Handle}

theorem mono (hρ : ∀ P Q, ρ P Q → ρ' P Q) (hk : h.IsTwin settings ρ id k) : h.IsTwin settings ρ' id k :=
  { hk with port := hρ _ _ hk.port, process := optionRel_imp (fun _ _ hp => hp.mono hρ) hk.process }

theorem isSome_eq (hk : h.IsTwin settings ρ id k) : h.process.isSome = k.process.isSome := by
  rcases optionRel_cases hk.process with ⟨hp, hq⟩ | ⟨p, q, hp, hq, -⟩
  · rw [hp, hq]
  · rw [hp, hq]
    rfl

theorem heeds_eq (hk : h.IsTwin settings ρ id k) (generation : ℕ) : h.heeds generation = k.heeds generation := by
  rw [heeds, heeds, hk.generation, hk.isSome_eq]

theorem ofNotebook {n : Notebook} (hid : n.id = id) {P Q : Port} (hport : ρ P Q) :
    (Handle.ofNotebook n P).IsTwin settings ρ id (.ofNotebook n Q) := ⟨hid, hid, rfl, hport, rfl, rfl, .none⟩

theorem settle (hk : h.IsTwin settings ρ id k) (status : Status) :
    (h.settle status).IsTwin settings ρ id (k.settle status) := { hk with status := rfl }

theorem release (hk : h.IsTwin settings ρ id k) : h.release.IsTwin settings ρ id k.release :=
  { hk with process := .none }

theorem adopt (hk : h.IsTwin settings ρ id k) (n : Notebook) : (h.adopt n).IsTwin settings ρ id (k.adopt n) := by
  refine { hk with notebook := rfl, status := ?_ }
  change (if h.process.isSome then _ else h.status) = if k.process.isSome then _ else k.status
  rw [hk.isSome_eq, hk.status]

theorem launched (hk : h.IsTwin settings ρ id k) {p q : Process} (hp : p.IsTwin settings ρ id q) :
    (h.launched p).IsTwin settings ρ id (k.launched q) :=
  { hk with status := rfl, generation := hp.generation, process := .some hp }

theorem exited (hk : h.IsTwin settings ρ id k) (generation : ℕ) (ending : Ending) :
    (h.exited generation ending).IsTwin settings ρ id (k.exited generation ending) := by
  unfold Handle.exited
  rw [hk.heeds_eq]
  split_ifs
  · exact { hk with status := rfl, process := .none }
  · exact hk

theorem signalled (hk : h.IsTwin settings ρ id k) (generation : ℕ) :
    (h.signalled generation).IsTwin settings ρ id (k.signalled generation) := by
  unfold Handle.signalled
  rw [hk.heeds_eq]
  split_ifs
  · exact { hk with status := rfl, process := .none }
  · exact hk

end Handle.IsTwin

namespace Supervisor

variable {s t : Supervisor} {h k : Handle}

theorem Alike.mono (hρ : ∀ P Q, ρ P Q → ρ' P Q) (hst : Alike settings ρ id s t) : Alike settings ρ' id s t :=
  { hst with
    alive := hst.alive.imp fun _ _ hp => hp.mono hρ
    launches := hst.launches.imp fun _ _ hp => hp.mono hρ }

theorem IsTwin.asksPort_eq (hst : IsTwin settings ρ id s t) {step : Step} (hown : step.owner? = some id) :
    s.asksPort step = t.asksPort step := by
  cases step with
  | follow e =>
    obtain rfl : e.notebook.id = id := Option.some.inj hown
    unfold asksPort
    dsimp only
    rcases optionRel_cases hst.handle with ⟨hs, ht⟩ | ⟨h, k, hs, ht, -⟩
    · rw [hs, ht]
    · rw [hs, ht]
      rfl
  | _ => rfl

theorem IsTwin.mono (hρ : ∀ P Q, ρ P Q → ρ' P Q) (hst : IsTwin settings ρ id s t) :
    IsTwin settings ρ' id s t :=
  { hst.toAlike.mono hρ with handle := optionRel_imp (fun _ _ hk => hk.mono hρ) hst.handle }

theorem filter_own {p : Process} (h : p.id = id) : [p].filter (·.id == id) = [p] :=
  List.filter_cons_of_pos (beq_iff_eq.mpr h)

theorem Alike.launch (hst : Alike settings ρ id s t) {p q : Process} (hpq : p.IsTwin settings ρ id q) :
    Alike settings ρ id { s with alive := s.alive ++ [p], launches := s.launches ++ [p] }
      { t with alive := t.alive ++ [q], launches := t.launches ++ [q] } where
  left := hst.left
  right := hst.right
  signal := hst.signal
  alive := by
    rw [processesOf, processesOf, List.filter_append, List.filter_append, filter_own hpq.left, filter_own hpq.right]
    exact List.rel_append hst.alive (.cons hpq .nil)
  launches := by
    rw [launchesOf, launchesOf, List.filter_append, List.filter_append, filter_own hpq.left, filter_own hpq.right]
    exact List.rel_append hst.launches (.cons hpq .nil)

theorem Alike.bury (hρ : BiUnique ρ) (hst : Alike settings ρ id s t) {p q : Process}
    (hpq : p.IsTwin settings ρ id q) : Alike settings ρ id (s.bury p) (t.bury q) where
  left := hst.left
  right := hst.right
  signal := hst.signal
  alive := by
    rw [processesOf_bury, processesOf_bury]
    refine List.rel_filter ?_ hst.alive
    intro p' q' hpq'
    have heq := rel_eq (Process.IsTwin.biUnique hρ) hpq' hpq
    dsimp only
    rw [bne_iff_ne, bne_iff_ne]
    exact not_congr heq
  launches := hst.launches

theorem launchLocked_twin (m : Machine) (hst : Alike settings ρ id s t) (hk : h.IsTwin settings ρ id k) :
    SameOutcome settings ρ id (launchLocked m h s) (launchLocked m k t) := by
  have hid : h.id = k.id := hk.left.trans hk.right.symm
  have hstart : m.start s.settings.program (s.settings.commandLine h.notebook h.port) =
      m.start t.settings.program (t.settings.commandLine k.notebook k.port) := by
    rw [hst.left, hst.right, hk.notebook]
    exact m.start_commandLine settings k.notebook h.port k.port
  unfold launchLocked
  rw [← hk.isSome_eq, ← hst.signal, ← hid]
  dsimp only
  rw [← hstart]
  split_ifs
  · exact ⟨hst, hk, rfl⟩
  · exact ⟨hst, hk.settle .error, rfl⟩
  · split
    · exact ⟨hst, hk.settle .error, rfl⟩
    · next pid _ =>
      have hpq : Process.IsTwin settings ρ id
          ⟨pid, h.id, h.port, h.generation + 1, s.settings.commandLine h.notebook h.port⟩
          ⟨pid, h.id, k.port, k.generation + 1, t.settings.commandLine k.notebook k.port⟩ := by
        refine ⟨hk.left, hk.left, rfl, hk.port, congrArg (· + 1) hk.generation, h.notebook, ?_, ?_⟩
        · rw [hst.left]
        · rw [hst.right, hk.notebook]
      exact ⟨{ hst.launch hpq with signal := rfl }, hk.launched hpq, rfl⟩

theorem stopLocked_twin (hρ : BiUnique ρ) (m : Machine) (hst : Alike settings ρ id s t)
    (hk : h.IsTwin settings ρ id k) :
    SameOutcome settings ρ id (stopLocked m h s) (stopLocked m k t) := by
  have hid : h.id = k.id := hk.left.trans hk.right.symm
  unfold stopLocked
  rcases optionRel_cases hk.process with ⟨hp, hq⟩ | ⟨p, q, hp, hq, hpq⟩
  · rw [hp, hq, hid]
    exact ⟨hst, hk, rfl⟩
  · rw [hp, hq]
    cases m.killError with
    | none => exact ⟨hst.bury hρ hpq, hk.release.settle .stopped, rfl⟩
    | some cause =>
      have hanswer : (.error (.kill p.pid cause) : Except Failure Unit) = .error (.kill q.pid cause) := by rw [hpq.pid]
      exact ⟨hst, hk.release.settle .error, hanswer⟩

theorem relaunchLocked_twin (hρ : BiUnique ρ) (m : Machine) (n : Notebook) (startIdle : Bool)
    (hst : Alike settings ρ id s t) (hk : h.IsTwin settings ρ id k) :
    SameOutcome settings ρ id (relaunchLocked m n startIdle h s) (relaunchLocked m n startIdle k t) := by
  have hadopt := hk.adopt n
  have hstop := stopLocked_twin hρ m hst hadopt
  unfold relaunchLocked
  dsimp only
  rw [← hk.isSome_eq]
  split_ifs
  · generalize stopLocked m (h.adopt n) s = x, stopLocked m (k.adopt n) t = y at hstop
    obtain ⟨s', h', answer⟩ := x
    obtain ⟨t', k', answer'⟩ := y
    obtain rfl : answer = answer' := hstop.answer
    cases answer with
    | error e => exact ⟨hstop.alike, hstop.handle.settle .error, rfl⟩
    | ok => exact launchLocked_twin m hstop.alike hstop.handle
  · exact launchLocked_twin m hst hadopt
  · exact ⟨hst, hadopt, rfl⟩

theorem Alike.setHandle (hst : Alike settings ρ id s t) (hk : h.IsTwin settings ρ id k) :
    IsTwin settings ρ id (s.setHandle h) (t.setHandle k) where
  left := hst.left
  right := hst.right
  signal := hst.signal
  alive := hst.alive
  launches := hst.launches
  handle := by
    rw [getElem?_setHandle, getElem?_setHandle, if_pos hk.left.symm, if_pos hk.right.symm]
    exact .some hk

theorem SameOutcome.keep {x y : Supervisor × Handle × Except Failure Unit} (hxy : SameOutcome settings ρ id x y) :
    SameEffect settings ρ id (keep x) (keep y) := ⟨hxy.alike.setHandle hxy.handle, hxy.answer⟩

namespace IsTwin

variable (hst : IsTwin settings ρ id s t)
include hst

theorem count (a b : UInt32) : IsTwin settings ρ id { s with counter := a } { t with counter := b } where
  left := hst.left
  right := hst.right
  signal := hst.signal
  alive := hst.alive
  launches := hst.launches
  handle := hst.handle

theorem find_cases : (∃ h k, s.find id = .ok h ∧ t.find id = .ok k ∧ h.IsTwin settings ρ id k) ∨
    s.find id = .error (.unknown id) ∧ t.find id = .error (.unknown id) := by
  unfold find
  rcases optionRel_cases hst.handle with ⟨hs, ht⟩ | ⟨h, k, hs, ht, hk⟩
  · rw [hs, ht]
    exact .inr ⟨rfl, rfl⟩
  · rw [hs, ht]
    exact .inl ⟨h, k, rfl, rfl, hk⟩

theorem start (m : Machine) : SameEffect settings ρ id (s.start m id) (t.start m id) := by
  unfold Supervisor.start
  rcases hst.find_cases with ⟨h, k, hs, ht, hk⟩ | ⟨hs, ht⟩
  · rw [hs, ht]
    exact (launchLocked_twin m hst.toAlike hk).keep
  · rw [hs, ht]
    exact ⟨hst, rfl⟩

theorem stop (hρ : BiUnique ρ) (m : Machine) : SameEffect settings ρ id (s.stop m id) (t.stop m id) := by
  unfold Supervisor.stop
  rcases hst.find_cases with ⟨h, k, hs, ht, hk⟩ | ⟨hs, ht⟩
  · rw [hs, ht]
    exact (stopLocked_twin hρ m hst.toAlike hk).keep
  · rw [hs, ht]
    exact ⟨hst, rfl⟩

theorem reload (hρ : BiUnique ρ) (m : Machine) {n : Notebook} (hid : n.id = id) :
    SameEffect settings ρ id (s.reload m n) (t.reload m n) := by
  unfold Supervisor.reload
  rw [hid]
  rcases hst.find_cases with ⟨h, k, hs, ht, hk⟩ | ⟨hs, ht⟩
  · rw [hs, ht]
    exact (relaunchLocked_twin hρ m n true hst.toAlike hk).keep
  · rw [hs, ht]
    exact ⟨hst, rfl⟩

theorem takeOver (hρ : BiUnique ρ) (m : Machine) {n : Notebook} (hid : n.id = id)
    (hports : s.handles[id]? = none →
      Option.Rel ρ (portOf? s.ports (s.counter + 1)) (portOf? t.ports (t.counter + 1))) :
    IsTwin settings ρ id (s.takeOver m n) (t.takeOver m n) := by
  subst hid
  rcases optionRel_cases hst.handle with ⟨hs, ht⟩ | ⟨h, k, hs, ht, hk⟩
  · rw [takeOver_unknown m hs, takeOver_unknown m ht]
    rcases optionRel_cases (hports hs) with ⟨hP, hQ⟩ | ⟨P, Q, hP, hQ, hPQ⟩
    · rw [hP, hQ]
      exact hst.count _ _
    · rw [hP, hQ]
      have hnew :=
        (hst.count (s.counter + 1) (t.counter + 1)).toAlike.setHandle (Handle.IsTwin.ofNotebook (n := n) rfl hPQ)
      exact (hnew.start m).twin
  · rw [takeOver_known m hs, takeOver_known m ht]
    exact (relaunchLocked_twin hρ m n false hst.toAlike hk).keep.twin

theorem remove (hρ : BiUnique ρ) (m : Machine) : IsTwin settings ρ id (s.remove m id) (t.remove m id) := by
  unfold Supervisor.remove
  rcases optionRel_cases hst.handle with ⟨hs, ht⟩ | ⟨h, k, hs, ht, hk⟩
  · rw [hs, ht]
    exact hst
  · rw [hs, ht]
    have halike : Alike settings ρ id { s with handles := s.handles.erase id }
        { t with handles := t.handles.erase id } :=
      ⟨hst.left, hst.right, hst.signal, hst.alive, hst.launches⟩
    have hstop := (stopLocked_twin hρ m halike hk).alike
    refine { hstop with handle := ?_ }
    rw [(stopLocked_table m h _).handles, (stopLocked_table m k _).handles]
    simp only [Std.TreeMap.getElem?_erase_self]
    exact .none

theorem follow (hρ : BiUnique ρ) (m : Machine) {e : Event} (hid : e.notebook.id = id)
    (hports : s.asksPort (.follow e) = true →
      Option.Rel ρ (portOf? s.ports (s.counter + 1)) (portOf? t.ports (t.counter + 1))) :
    IsTwin settings ρ id (s.follow m e) (t.follow m e) := by
  obtain ⟨change, n⟩ := e
  dsimp only at hid
  have hasks (hkept : change ≠ .deleted) (hs : s.handles[id]? = none) : s.asksPort (.follow ⟨change, n⟩) = true :=
    asksPort_follow_iff.mpr ⟨hkept, by rwa [hid]⟩
  cases change with
  | added => exact hst.takeOver hρ m hid fun hs => hports (hasks (by decide) hs)
  | updated => exact hst.takeOver hρ m hid fun hs => hports (hasks (by decide) hs)
  | deleted =>
    subst hid
    exact hst.remove hρ m

theorem react (hρ : BiUnique ρ) {p q : Process} (hpq : p.IsTwin settings ρ id q) {act act' : Handle → Handle}
    (hact : ∀ h k, h.IsTwin settings ρ id k → (act h).IsTwin settings ρ id (act' k)) :
    IsTwin settings ρ id (s.react p act) (t.react q act') := by
  unfold Supervisor.react
  rw [hpq.left, hpq.right]
  rcases optionRel_cases hst.handle with ⟨hs, ht⟩ | ⟨h, k, hs, ht, hk⟩
  · rw [hs, ht]
    exact hst
  · rw [hs, ht]
    have hport : h.port = p.port ↔ k.port = q.port := rel_eq hρ hk.port hpq.port
    dsimp only
    rw [if_congr hport rfl rfl]
    split_ifs
    · exact hst.toAlike.setHandle (hact h k hk)
    · exact hst

theorem bury (hρ : BiUnique ρ) {p q : Process} (hpq : p.IsTwin settings ρ id q) :
    IsTwin settings ρ id (s.bury p) (t.bury q) := { hst.toAlike.bury hρ hpq with handle := hst.handle }

theorem onProcess {act : Process → Supervisor → Supervisor}
    (hact : ∀ p q, p ∈ s.alive → q ∈ t.alive → p.IsTwin settings ρ id q →
      IsTwin settings ρ id (act p s) (act q t)) :
    IsTwin settings ρ id (s.onProcess act id) (t.onProcess act id) := by
  have hhead (u : Supervisor) : u.processOf? id = (u.processesOf id).head? := List.head?_filter.symm
  have hmem {u : Supervisor} {r : Process} (hr : u.processOf? id = some r) : r ∈ u.alive :=
    List.mem_of_find?_eq_some hr
  unfold Supervisor.onProcess
  have halive := hst.alive
  cases hs : s.processesOf id with
  | nil =>
    rw [hs, List.forall₂_nil_left_iff] at halive
    rw [hhead, hhead, hs, halive]
    exact hst
  | cons p ps =>
    rw [hs] at halive
    obtain ⟨q, qs, hpq, -, ht⟩ := List.forall₂_cons_left_iff.mp halive
    have hp : s.processOf? id = some p := by rw [hhead, hs]; rfl
    have hq : t.processOf? id = some q := by rw [hhead, ht]; rfl
    rw [hp, hq]
    exact hact p q (hmem hp) (hmem hq) hpq

theorem exit (hρ : BiUnique ρ) (ending : Ending) :
    IsTwin settings ρ id (s.onProcess (Supervisor.exit · ending) id)
      (t.onProcess (Supervisor.exit · ending) id) := by
  refine hst.onProcess ?_
  intro p q hp hq hpq
  unfold Supervisor.exit
  rw [if_pos (List.contains_iff_mem.mpr hp), if_pos (List.contains_iff_mem.mpr hq), hpq.generation]
  exact (hst.bury hρ hpq).react hρ hpq fun h k hk => hk.exited q.generation ending

theorem heedSignal (hρ : BiUnique ρ) :
    IsTwin settings ρ id (s.onProcess Supervisor.heedSignal id) (t.onProcess Supervisor.heedSignal id) := by
  refine hst.onProcess ?_
  intro p q hp hq hpq
  unfold Supervisor.heedSignal
  rw [← hst.signal, hpq.generation]
  by_cases hsignal : s.signal = .given
  · rw [if_pos ⟨hsignal, hp⟩, if_pos ⟨hsignal, hq⟩]
    exact (hst.bury hρ hpq).react hρ hpq fun h k hk => hk.signalled q.generation
  · rw [if_neg fun hg => hsignal hg.1, if_neg fun hg => hsignal hg.1]
    exact hst

theorem perform (hρ : BiUnique ρ) (m : Machine) {step : Step} (hown : step.owner? = some id)
    (hports : s.asksPort step = true →
      Option.Rel ρ (portOf? s.ports (s.counter + 1)) (portOf? t.ports (t.counter + 1))) :
    SameEffect settings ρ id (s.perform m step) (t.perform m step) := by
  cases step with
  | follow e => exact ⟨hst.follow hρ m (Option.some.inj hown) hports, rfl⟩
  | start i =>
    obtain rfl : i = id := Option.some.inj hown
    have h := hst.start m
    exact ⟨h.twin, congrArg some h.answer⟩
  | stop i =>
    obtain rfl : i = id := Option.some.inj hown
    have h := hst.stop hρ m
    exact ⟨h.twin, congrArg some h.answer⟩
  | reload n =>
    have h := hst.reload hρ m (Option.some.inj hown)
    exact ⟨h.twin, congrArg some h.answer⟩
  | exit i ending =>
    obtain rfl : i = id := Option.some.inj hown
    exact ⟨hst.exit hρ ending, rfl⟩
  | heedSignal i =>
    obtain rfl : i = id := Option.some.inj hown
    exact ⟨hst.heedSignal hρ, rfl⟩
  | shutdown => cases hown
  | giveSignal => cases hown
  | loseSignal => cases hown

end IsTwin

end Supervisor

end NotebookHost
