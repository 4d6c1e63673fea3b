import NotebookHost.Proofs.Hub.Steps
import NotebookHost.Store.Database

namespace NotebookHost

open Text Http

def Call.isRefused (o : Outage) : Call → Bool
  | .put _ _ => o.write
  | .get _ => o.read
  | .delete _ => o.erase
  | .scan _ => o.scan
  | .reopen => false

namespace Catalogue

def readingOf (id : String) : Call := .get (key id)

def updateCalls (o : Outage) (id : String) (d : Draft) (c : Catalogue) : List Call :=
  readingOf id ::
    match c.find? o id with
    | none => []
    | some before =>
      let after := d.apply before
      let write := Call.put (key after.id) after.encode
      if after = before then []
      else if sameLetters after.domain before.domain then [write]
      else
        .scan keyStart ::
          match c.takenBesides o id after.domain with
          | .ok false => [write]
          | _ => []

def deleteCalls (o : Outage) (id : String) (c : Catalogue) : List Call :=
  readingOf id ::
    match c.find? o id with
    | none => []
    | some _ => [.delete (key id)]

/-- What an operation on the notebook of an id says of the calls that it makes. It asks nothing else of the store. -/
structure TellsFaults {α : Type} (c : Catalogue) (id : String) (op : Outage → Catalogue × Except Failure α)
    (calls : Outage → List Call) : Prop where
  determined : ∀ o o' : Outage, (∀ call ∈ calls o, call.isRefused o' = call.isRefused o) → op o' = op o
  unknown_iff : ∀ (o : Outage) (i : String), (op o).2 = .error (.unknown i) ↔
    i = id ∧ ((readingOf id).isRefused o = true ∨ c.store.record? id = none)
  storage_iff : ∀ o : Outage, (∃ doing, (op o).2 = .error (.storage doing)) ↔
    ∃ call ∈ calls o, call ≠ readingOf id ∧ call.isRefused o = true

theorem find?_eq_none_iff {o : Outage} {c : Catalogue} {id : String} :
    c.find? o id = none ↔ (readingOf id).isRefused o = true ∨ c.store.record? id = none := by
  rw [find?_eq]
  change _ ↔ o.read = true ∨ _
  cases o.read <;> simp

theorem find?_congr {o o' : Outage} (h : o'.read = o.read) (c : Catalogue) (id : String) :
    c.find? o' id = c.find? o id := by
  rw [find?_eq, find?_eq, h]

theorem update_tellsFaults (c : Catalogue) (id : String) (d : Draft) :
    c.TellsFaults id (fun o => c.update o id d) (fun o => c.updateCalls o id d) := by
  constructor
  · intro o o' hsame
    have hread : o'.read = o.read := hsame (readingOf id) List.mem_cons_self
    dsimp only [updateCalls] at hsame ⊢
    rw [update_eq, update_eq, find?_congr hread]
    cases hfind : c.find? o id with
    | none => rfl
    | some before =>
      simp only [hfind, takenBesides_eq, replace_eq] at hsame ⊢
      split_ifs at hsame ⊢ <;> simp_all [Call.isRefused]
  · intro o i
    rw [← find?_eq_none_iff, update_eq]
    cases hfind : c.find? o id with
    | none => simp [eq_comm]
    | some before =>
      simp only [replace_eq]
      split_ifs <;> simp [writeFailure, scanFailure]
  · intro o
    dsimp only [updateCalls]
    rw [update_eq]
    cases hfind : c.find? o id with
    | none => simp
    | some before =>
      simp only [takenBesides_eq, replace_eq]
      split_ifs <;> simp_all [readingOf, writeFailure, scanFailure, Call.isRefused]

theorem delete_tellsFaults (c : Catalogue) (id : String) :
    c.TellsFaults id (fun o => c.delete o id) (fun o => c.deleteCalls o id) := by
  constructor
  · intro o o' hsame
    have hread : o'.read = o.read := hsame (readingOf id) List.mem_cons_self
    dsimp only [deleteCalls] at hsame ⊢
    rw [delete_eq, delete_eq, find?_congr hread]
    cases hfind : c.find? o id with
    | none => rfl
    | some n =>
      rw [hfind] at hsame
      have herase : o'.erase = o.erase := hsame (.delete (key id)) (by simp)
      simp only [herase]
  · intro o i
    rw [← find?_eq_none_iff, delete_eq]
    cases hfind : c.find? o id with
    | none => simp [eq_comm]
    | some n =>
      dsimp only
      split_ifs <;> simp [eraseFailure]
  · intro o
    dsimp only [deleteCalls]
    rw [delete_eq]
    cases hfind : c.find? o id with
    | none => simp
    | some n =>
      dsimp only
      split_ifs with herase <;> simp [readingOf, eraseFailure, Call.isRefused, herase]

end Catalogue

theorem Failure.httpStatus_eq_notFound_iff {f : Failure} : f.httpStatus = 404 ↔ ∃ id, f = .unknown id := by
  cases f <;> simp [httpStatus]

namespace Management

theorem answerNotebook_notFound_iff {r : Except Failure Notebook} :
    (answerNotebook 200 r).status = 404 ↔ ∃ id, r = .error (.unknown id) := by
  cases r with
  | ok n => simp [answerNotebook, json, Response.json]
  | error f =>
    change f.httpStatus = 404 ↔ _
    simp [Failure.httpStatus_eq_notFound_iff]

theorem answerDone_notFound_iff {r : Except Failure Unit} :
    (answerDone r).status = 404 ↔ ∃ id, r = .error (.unknown id) := by
  cases r with
  | ok n => simp [answerDone, noContent]
  | error f =>
    change f.httpStatus = 404 ↔ _
    simp [Failure.httpStatus_eq_notFound_iff]

theorem status_of_readDraft {bytes : List UInt8} {refusal : Response} (h : readDraft bytes = .error refusal) :
    refusal.status = 400 := by
  unfold readDraft at h
  split at h
  · cases h
    rfl
  · split at h
    · cases h
      rfl
    · cases h

def Asks (body : Except String (List UInt8)) (d : Draft) : Prop :=
  ∃ bytes, body = .ok bytes ∧ readDraft bytes = .ok d

theorem withDraft_notFound_iff {body : Except String (List UInt8)} {hub : Hub} {act : Draft → Hub × Response} :
    (withDraft body hub act).2.status = 404 ↔ ∃ d, Asks body d ∧ (act d).2.status = 404 := by
  unfold withDraft
  cases body with
  | error e =>
    change 500 = 404 ↔ _
    simp [Asks]
  | ok bytes =>
    dsimp only
    cases hread : readDraft bytes with
    | error refusal => simp [Asks, hread, status_of_readDraft hread]
    | ok d => simp [Asks, hread]

theorem update_notFound_iff (w : Circumstances) (id : String) (d : Draft) (hub : Hub) :
    (update w id d hub).2.status = 404 ↔
      (Catalogue.readingOf id).isRefused w.outage = true ∨ hub.catalogue.store.record? id = none := by
  change (answerNotebook 200 (hub.catalogue.update w.outage id d).2).status = 404 ↔ _
  simp [answerNotebook_notFound_iff, (hub.catalogue.update_tellsFaults id d).unknown_iff w.outage]

theorem delete_notFound_iff (w : Circumstances) (id : String) (hub : Hub) :
    (delete w id hub).2.status = 404 ↔
      (Catalogue.readingOf id).isRefused w.outage = true ∨ hub.catalogue.store.record? id = none := by
  change (answerDone (hub.catalogue.delete w.outage id).2).status = 404 ↔ _
  simp [answerDone_notFound_iff, (hub.catalogue.delete_tellsFaults id).unknown_iff w.outage]

end Management

open Management

namespace Hub

theorem faults_are_told (hub : Hub) (id : String) :
    (∀ d, hub.catalogue.TellsFaults id
      (fun o => hub.catalogue.update o id d) (fun o => hub.catalogue.updateCalls o id d)) ∧
    hub.catalogue.TellsFaults id (fun o => hub.catalogue.delete o id) (fun o => hub.catalogue.deleteCalls o id) ∧
    ∀ (w : Circumstances) (method path : String) (body : Except String (List UInt8)),
      (Route.ofRequest method path = .update id →
        ((answer w method path body hub).2.status = 404 ↔ (∃ d, Asks body d) ∧
          ((Catalogue.readingOf id).isRefused w.outage = true ∨ hub.catalogue.store.record? id = none))) ∧
      (Route.ofRequest method path = .delete id →
        ((answer w method path body hub).2.status = 404 ↔
          (Catalogue.readingOf id).isRefused w.outage = true ∨ hub.catalogue.store.record? id = none)) := by
  refine ⟨hub.catalogue.update_tellsFaults id, hub.catalogue.delete_tellsFaults id, ?_⟩
  intro w method path body
  constructor
  · intro hroute
    simp only [answer, hroute, withDraft_notFound_iff, update_notFound_iff, exists_and_right]
  · intro hroute
    simp only [answer, hroute, delete_notFound_iff]

theorem faults_are_told_of_deletion :
    let d : Draft := { rawName := some "n", rawPath := some "/n", rawDomain := some "a.example" }
    let hub : Hub :=
      { catalogue := Catalogue.run {} [({}, .add (calm "a").birth d)], supervisor := .fresh {} ⟨9000, 9002⟩ }
    let w : Circumstances := { calm "b" with outage := { erase := true } }
    let path := "/api/v1/notebooks/a"
    Route.ofRequest "PUT" path = .update "a" ∧ Route.ofRequest "DELETE" path = .delete "a" ∧
      (answer w "PUT" path (.ok (encode "\x7b\"watch\":true\x7d")) hub).2.status ≠ 404 ∧
      (answer w "DELETE" path (.ok []) hub).2.status ≠ 404 ∧
      (hub.catalogue.delete w.outage "a").2 = .error (Catalogue.eraseFailure "a") := by
  intro d hub w path
  have hupdate : Route.ofRequest "PUT" path = .update "a" := by decide +kernel
  have hdelete : Route.ofRequest "DELETE" path = .delete "a" := by decide +kernel
  have hkept : ¬ ((Catalogue.readingOf "a").isRefused w.outage = true ∨ hub.catalogue.store.record? "a" = none) := by
    decide +kernel
  have hresult : (hub.catalogue.delete w.outage "a").2 = .error (Catalogue.eraseFailure "a") := by decide +kernel
  obtain ⟨-, -, hanswer⟩ := faults_are_told hub "a"
  refine ⟨hupdate, hdelete, ?_, ?_, hresult⟩
  · intro h
    exact hkept (((hanswer w "PUT" path _).1 hupdate).mp h).2
  · intro h
    exact hkept (((hanswer w "DELETE" path _).2 hdelete).mp h)

theorem unread_notebook_is_unknown :
    let d : Draft := { rawName := some "n", rawPath := some "/n", rawDomain := some "a.example" }
    let hub : Hub :=
      { catalogue := Catalogue.run {} [({}, .add (calm "a").birth d)], supervisor := .fresh {} ⟨9000, 9002⟩ }
    let w : Circumstances := { calm "b" with outage := { read := true } }
    let path := "/api/v1/notebooks/a"
    (hub.catalogue.store.record? "a").isSome ∧
      Catalogue.readingOf "a" ∈ hub.catalogue.updateCalls w.outage "a" { watch := some true } ∧
      Catalogue.readingOf "a" ∈ hub.catalogue.deleteCalls w.outage "a" ∧
      (Catalogue.readingOf "a").isRefused w.outage = true ∧
      (hub.catalogue.update w.outage "a" { watch := some true }).2 = .error (.unknown "a") ∧
      (hub.catalogue.delete w.outage "a").2 = .error (.unknown "a") ∧
      (answer w "PUT" path (.ok (encode "\x7b\"watch\":true\x7d")) hub).2.status = 404 ∧
      (answer w "DELETE" path (.ok []) hub).2.status = 404 := by
  decide +kernel

end Hub

end NotebookHost
