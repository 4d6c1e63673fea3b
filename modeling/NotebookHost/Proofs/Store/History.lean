import NotebookHost.Store.Database
import NotebookHost.Proofs.Text.ByteOrder
import NotebookHost.Proofs.Text.Split
import Mathlib.Data.List.Induction

/-!
A database as a map that its history determines. Whatever calls fail and however often it is opened again, it answers by
what was put last under each key. The exception is a start with a NUL, with which no key is found to start.
-/

namespace NotebookHost

open Text

namespace Store

theorem measured_eq {t : String} (h : '\x00' ∉ t.toList) : measured t = t.toList :=
  List.takeWhile_eq_self_iff.mpr (bne_of_not_mem h)

theorem startsWith_iff {start key : String} :
    startsWith start key = true ↔ '\x00' ∉ start.toList ∧ start.toList <+: key.toList := by
  rw [startsWith, beq_iff_eq]
  constructor
  · intro h
    have hlength : start.toList.length ≤ (measured start).length := by
      rw [← h, List.length_take]
      exact Nat.min_le_left _ _
    have hmeasured : measured start = start.toList :=
      (List.takeWhile_prefix _).eq_of_length_le hlength
    refine ⟨?_, ?_⟩
    · intro hnul
      rw [← hmeasured] at hnul
      exact absurd (List.mem_takeWhile_imp hnul) (by decide)
    · rw [← h]
      exact (List.take_prefix _ _).trans (List.takeWhile_prefix _)
  · rintro ⟨hnul, rest, hkey⟩
    rw [measured_eq hnul, measured, ← hkey, List.takeWhile_append_of_pos (bne_of_not_mem hnul), List.take_left]

theorem startingWith_of_nul (s : Store) {start : String} (hnul : '\x00' ∈ start.toList) :
    s.startingWith start = [] := by
  rw [List.eq_nil_iff_forall_not_mem]
  intro row hrow
  exact (startsWith_iff.mp (mem_startingWith.mp hrow).2).1 hnul

end Store

namespace Database

/-- Whether an outage lets a call fail. In memory a database is made anew when it is opened; in a file its version is
read, and one that cannot be read would be entered a second time. -/
def stops (medium : Medium) (o : Outage) : Call → Bool
  | .put _ _ => o.write
  | .get _ => o.read
  | .delete _ => o.erase
  | .scan _ => o.scan
  | .reopen =>
    match medium with
    | .memory => o.write
    | .file => o.read

def carriedOut (medium : Medium) (history : List (Outage × Call)) : List Call :=
  (history.filter fun step => !stops medium step.1 step.2).map (·.2)

inductive Ends (medium : Medium) (key : String) : Call → Prop
  | put (value : String) : Ends medium key (.put key value)
  | delete : Ends medium key (.delete key)
  | reopen (memory : medium = .memory) : Ends medium key .reopen

/-- The value was put under the key, and nothing has ended it since. -/
def IsLive (medium : Medium) (calls : List Call) (key value : String) : Prop :=
  ∃ before after, calls = before ++ .put key value :: after ∧ ∀ call ∈ after, ¬ Ends medium key call

inductive Answers (medium : Medium) (calls : List Call) : Call → Reply → Prop
  | put (key value : String) : Answers medium calls (.put key value) .done
  | get {key : String} {found : Option String}
      (last : ∀ value, found = some value ↔ IsLive medium calls key value) :
      Answers medium calls (.get key) (.value found)
  | delete {key : String} {found : Bool} (known : found = true ↔ ∃ value, IsLive medium calls key value) :
      Answers medium calls (.delete key) (.deleted found)
  | scan {start : String} {rows : List (String × String)}
      (ascending : rows.Pairwise fun row row' => encode row.1 < encode row'.1)
      (entries : '\x00' ∉ start.toList → ∀ key value,
        (key, value) ∈ rows ↔ IsLive medium calls key value ∧ start.toList <+: key.toList)
      (hidden : '\x00' ∈ start.toList → rows = []) :
      Answers medium calls (.scan start) (.rows rows)
  | reopen : Answers medium calls .reopen .done

theorem isLive_concat {medium : Medium} {calls : List Call} {call : Call} {key value : String} :
    IsLive medium (calls ++ [call]) key value ↔
      call = .put key value ∨ IsLive medium calls key value ∧ ¬ Ends medium key call := by
  constructor
  · rintro ⟨before, after, hcalls, hafter⟩
    rcases List.eq_nil_or_concat' after with rfl | ⟨after, last, rfl⟩
    · exact .inl (List.singleton_inj.mp (List.append_inj_right' hcalls rfl))
    · rw [← List.cons_append, ← List.append_assoc] at hcalls
      obtain ⟨rfl, hlast⟩ := List.append_inj' hcalls rfl
      rw [List.forall_mem_append, List.forall_mem_singleton] at hafter
      rw [List.singleton_inj.mp hlast]
      exact .inr ⟨⟨before, after, rfl, hafter.1⟩, hafter.2⟩
  · rintro (rfl | ⟨⟨before, after, rfl, hafter⟩, hcall⟩)
    · exact ⟨calls, [], rfl, List.forall_mem_nil _⟩
    · refine ⟨before, after ++ [call], by rw [List.append_assoc, List.cons_append], ?_⟩
      rw [List.forall_mem_append, List.forall_mem_singleton]
      exact ⟨hafter, hcall⟩

structure IsCurrent (d : Database) (medium : Medium) (calls : List Call) : Prop where
  kind : d.medium = medium
  layout : d.image.versions = [Image.layoutVersion]
  rows : ∀ key value, d.store.get? key = some value ↔ IsLive medium calls key value

theorem isCurrent_fresh (medium : Medium) : (fresh medium).IsCurrent medium [] where
  kind := rfl
  layout := rfl
  rows key value := by
    have hnone : (fresh medium).store.get? key = none := Store.get?_empty key
    rw [hnone]
    constructor
    · rintro ⟨⟩
    · rintro ⟨before, after, hcalls, -⟩
      cases before <;> cases hcalls

theorem isCurrent_emptied (calls : List Call) : (fresh .memory).IsCurrent .memory (calls ++ [.reopen]) where
  kind := rfl
  layout := rfl
  rows key value := by
    have hnone : (fresh .memory).store.get? key = none := Store.get?_empty key
    rw [hnone, isLive_concat]
    constructor
    · rintro ⟨⟩
    · rintro (⟨⟨⟩⟩ | ⟨-, hends⟩)
      exact absurd (.reopen rfl) hends

inductive Outcome (d : Database) (medium : Medium) (calls : List Call) (o : Outage) (call : Call) : Prop
  | failed (stopped : stops medium o call = true) (f : Failure) (unchanged : d.call o call = (d, .error f))
  | answered (d' : Database) (reply : Reply) (carried : stops medium o call = false)
      (result : d.call o call = (d', .ok reply)) (current : d'.IsCurrent medium (calls ++ [call]))
      (right : Answers medium calls call reply)

namespace IsCurrent

variable {d : Database} {medium : Medium} {calls : List Call} (h : d.IsCurrent medium calls)
include h

theorem keep {call : Call} (hput : ∀ key value, call ≠ .put key value) (hends : ∀ key, ¬ Ends medium key call) :
    d.IsCurrent medium (calls ++ [call]) where
  kind := h.kind
  layout := h.layout
  rows key value := by
    rw [isLive_concat, h.rows]
    constructor
    · intro hlive
      exact .inr ⟨hlive, hends key⟩
    · rintro (hcall | ⟨hlive, -⟩)
      · exact absurd hcall (hput key value)
      · exact hlive

theorem write {call : Call} (key : String) (written : Option String) {s : Store}
    (hget : ∀ key', s.get? key' = if key = key' then written else d.store.get? key')
    (hput : ∀ key' value, call = .put key' value ↔ key = key' ∧ written = some value)
    (hends : ∀ key', Ends medium key' call ↔ key = key') : (d.setStore s).IsCurrent medium (calls ++ [call]) where
  kind := h.kind
  layout := h.layout
  rows key' value := by
    change s.get? key' = some value ↔ _
    rw [hget, isLive_concat, ← h.rows, hput, hends]
    by_cases hkey : key = key'
    · simp [hkey]
    · simp [hkey]

theorem put (key value : String) :
    (d.setStore (d.store.put key value)).IsCurrent medium (calls ++ [.put key value]) := by
  refine h.write key (some value) (Store.get?_put d.store key value) ?_ ?_
  · intro key' value'
    rw [Call.put.injEq, Option.some.injEq]
  · intro key'
    constructor
    · rintro ⟨⟩
      rfl
    · rintro rfl
      exact .put value

theorem delete (key : String) : (d.setStore (d.store.drop key)).IsCurrent medium (calls ++ [.delete key]) := by
  refine h.write key none (Store.get?_drop d.store key) ?_ ?_
  · intro key' value'
    simp
  · intro key'
    constructor
    · rintro ⟨⟩
      rfl
    · rintro rfl
      exact .delete

theorem migrated (o : Outage) :
    d.image.migrated o = if o.read = true then .error (.storage []) else .ok d.image := by
  rw [Image.migrated, Image.version, Image.enter, h.layout]
  cases o.read <;> cases o.write <;> rfl

theorem reopened (o : Outage) :
    d.reopened o =
      if stops medium o .reopen = true then .error (.storage [])
      else .ok (match medium with | .memory => fresh .memory | .file => d) := by
  obtain ⟨kind, image⟩ := d
  obtain rfl : kind = medium := h.kind
  have hmigrated := h.migrated o
  cases kind with
  | memory =>
    obtain ⟨read, write, _, _⟩ := o
    cases read <;> cases write <;> rfl
  | file =>
    rw [Database.reopened]
    dsimp only at hmigrated ⊢
    rw [hmigrated, stops]
    split_ifs <;> rfl

theorem answers_scan (start : String) : Answers medium calls (.scan start) (.rows (d.store.startingWith start)) := by
  refine .scan ?_ ?_ (Store.startingWith_of_nul d.store)
  · exact (Store.startingWith_ascending d.store start).imp fun hlt => encode_lt_encode_iff.mpr hlt
  · intro hnul key value
    rw [Store.mem_startingWith, h.rows, Store.startsWith_iff, and_iff_right hnul]

theorem outcome (o : Outage) (call : Call) : Outcome d medium calls o call := by
  cases call with
  | put key value =>
    cases hstop : o.write with
    | true => exact .failed hstop _ (by rw [Database.call, Store.write, if_pos hstop])
    | false =>
      exact .answered _ _ hstop (by rw [Database.call, Store.write, hstop]; rfl) (h.put key value) (.put key value)
  | get key =>
    cases hstop : o.read with
    | true => exact .failed hstop _ (by rw [Database.call, Store.read, if_pos hstop])
    | false =>
      refine .answered _ _ hstop (by rw [Database.call, Store.read, hstop]; rfl) (h.keep (by simp) ?_)
        (.get (h.rows key))
      rintro key' ⟨⟩
  | delete key =>
    cases hstop : o.erase with
    | true => exact .failed hstop _ (by rw [Database.call, Store.erase, if_pos hstop])
    | false =>
      refine .answered _ _ hstop (by rw [Database.call, Store.erase, hstop]; rfl) (h.delete key) (.delete ?_)
      simp only [Store.contains_eq, Option.isSome_iff_exists, h.rows]
  | scan start =>
    cases hstop : o.scan with
    | true => exact .failed hstop _ (by rw [Database.call, Store.scan, if_pos hstop])
    | false =>
      refine .answered _ _ hstop (by rw [Database.call, Store.scan, hstop]; rfl) (h.keep (by simp) ?_)
        (h.answers_scan start)
      rintro key' ⟨⟩
  | reopen =>
    cases hstop : stops medium o .reopen with
    | true => exact .failed hstop _ (by rw [Database.call, h.reopened, if_pos hstop])
    | false =>
      refine .answered _ _ hstop (by rw [Database.call, h.reopened, hstop]; rfl) ?_ .reopen
      cases medium with
      | memory => exact isCurrent_emptied calls
      | file =>
        refine h.keep (by simp) ?_
        intro key hends
        cases hends with
        | reopen memory => cases memory

end IsCurrent

theorem carriedOut_concat (medium : Medium) (history : List (Outage × Call)) (o : Outage) (call : Call) :
    carriedOut medium (history ++ [(o, call)]) =
      carriedOut medium history ++ if stops medium o call = true then [] else [call] := by
  rw [carriedOut, List.filter_append, List.map_append, carriedOut]
  cases h : stops medium o call <;> simp [h]

theorem isCurrent_run (medium : Medium) (history : List (Outage × Call)) :
    ((fresh medium).run history).IsCurrent medium (carriedOut medium history) := by
  induction history using List.reverseRecOn with
  | nil => exact isCurrent_fresh medium
  | append_singleton history step ih =>
    obtain ⟨o, call⟩ := step
    have hrun : (fresh medium).run (history ++ [(o, call)]) = (((fresh medium).run history).call o call).1 := by
      rw [run, List.foldl_append]
      rfl
    rw [hrun, carriedOut_concat]
    rcases ih.outcome o call with ⟨stopped, f, unchanged⟩ | ⟨d', reply, carried, result, current, -⟩
    · rw [unchanged, if_pos stopped, List.append_nil]
      exact ih
    · rw [result, carried]
      exact current

theorem answers_by_history (medium : Medium) (history : List (Outage × Call)) (o : Outage) (call : Call) :
    let d := (fresh medium).run history
    (stops medium o call = true → ∃ f, d.call o call = (d, .error f)) ∧
    (stops medium o call = false → ∃ d' reply, d.call o call = (d', .ok reply) ∧
      Answers medium (carriedOut medium history) call reply) ∧
    (medium = .file → (d.call o .reopen).1 = d) := by
  intro d
  have hcurrent : d.IsCurrent medium (carriedOut medium history) := isCurrent_run medium history
  refine ⟨?_, ?_, ?_⟩
  · intro stopped
    rcases hcurrent.outcome o call with ⟨-, f, unchanged⟩ | ⟨-, -, carried, -, -, -⟩
    · exact ⟨f, unchanged⟩
    · rw [stopped] at carried
      cases carried
  · intro carried
    rcases hcurrent.outcome o call with ⟨stopped, -, -⟩ | ⟨d', reply, -, result, -, right⟩
    · rw [carried] at stopped
      cases stopped
    · exact ⟨d', reply, result, right⟩
  · rintro rfl
    rw [Database.call, hcurrent.reopened]
    split_ifs <;> rfl

theorem nul_hides_key :
    let history : List (Outage × Call) := [({}, .put "a\x00b" "v")]
    ∃ rows, (((fresh .file).run history).call {} (.scan "a\x00b")).2 = .ok (.rows rows) ∧
      ("a\x00b", "v") ∉ rows ∧
      IsLive .file (carriedOut .file history) "a\x00b" "v" ∧ "a\x00b".toList <+: "a\x00b".toList := by
  intro history
  have hnone : ((fresh .file).run history).store.startingWith "a\x00b" = [] := Store.startingWith_of_nul _ (by decide)
  refine ⟨_, rfl, ?_, ⟨[], [], rfl, List.forall_mem_nil _⟩, List.prefix_refl _⟩
  rw [hnone]
  exact List.not_mem_nil

end Database

end NotebookHost
