import NotebookHost.Proofs.Catalogue.Atomicity
import NotebookHost.Proofs.Hub.Steps

namespace NotebookHost

open Http Management

namespace Hub

theorem onCatalogue_of_same {α : Type} {op : Catalogue → Catalogue × α} {hub : Hub}
    (h : (op hub.catalogue).1 = hub.catalogue) : (hub.onCatalogue op).1 = hub := by
  change hub.setCatalogue (op hub.catalogue).1 = hub
  rw [h, setCatalogue_self]

def Spares (hub : Hub) (answer : Hub × Response) : Prop :=
  400 ≤ answer.2.status → answer.1.catalogue = hub.catalogue ∧ answer.1.pending = hub.pending

theorem spares_same (hub : Hub) (r : Response) : hub.Spares (hub, r) := fun _ => ⟨rfl, rfl⟩

theorem onCatalogue_spares {α : Type} {op : Catalogue → Catalogue × Except Failure α} {hub : Hub}
    {respond : Except Failure α → Response}
    (herror : ∀ f, (op hub.catalogue).2 = .error f → (op hub.catalogue).1 = hub.catalogue)
    (hok : ∀ a, (respond (.ok a)).status < 400) :
    hub.Spares ((hub.onCatalogue op).1, respond (hub.onCatalogue op).2) := by
  intro hstatus
  change 400 ≤ (respond (op hub.catalogue).2).status at hstatus
  cases hresult : (op hub.catalogue).2 with
  | ok a =>
    rw [hresult] at hstatus
    exact absurd (hok a) (Nat.not_lt.mpr hstatus)
  | error f =>
    change (hub.onCatalogue op).1.catalogue = _ ∧ (hub.onCatalogue op).1.pending = _
    rw [onCatalogue_of_same (herror f hresult)]
    exact ⟨rfl, rfl⟩

theorem create_spares (w : Circumstances) (d : Draft) (hub : Hub) : hub.Spares (create w d hub) := by
  unfold create
  split_ifs
  · exact hub.spares_same _
  · exact onCatalogue_spares (fun _ => Catalogue.add_of_error) fun n => (by decide : 201 < 400)

theorem update_spares (w : Circumstances) (id : String) (d : Draft) (hub : Hub) : hub.Spares (update w id d hub) :=
  onCatalogue_spares (fun _ => Catalogue.update_of_error) fun n => (by decide : 200 < 400)

theorem delete_spares (w : Circumstances) (id : String) (hub : Hub) : hub.Spares (delete w id hub) :=
  onCatalogue_spares (fun _ => Catalogue.delete_of_error) fun _ => (by decide : 204 < 400)

theorem reload_spares (w : Circumstances) (id : String) (hub : Hub) : hub.Spares (Management.reload w id hub) := by
  unfold Management.reload
  split
  · exact hub.spares_same _
  · exact fun _ => ⟨rfl, rfl⟩

theorem withDraft_spares {body : Except String (List UInt8)} {hub : Hub} {act : Draft → Hub × Response}
    (hact : ∀ d, hub.Spares (act d)) : hub.Spares (withDraft body hub act) := by
  unfold withDraft
  split
  · exact hub.spares_same _
  · split
    · exact hub.spares_same _
    · next d _ => exact hact d

theorem answer_spares (w : Circumstances) (method path : String) (body : Except String (List UInt8)) (hub : Hub) :
    hub.Spares (answer w method path body hub) := by
  unfold answer
  cases Route.ofRequest method path with
  | create => exact withDraft_spares fun d => create_spares w d hub
  | update id => exact withDraft_spares fun d => update_spares w id d hub
  | delete id => exact delete_spares w id hub
  | reload id => exact reload_spares w id hub
  | _ => exact hub.spares_same _

end Hub

namespace Management

/-- The body cannot be read, or is no JSON object of the right kind, or one that fails the checks. -/
def IsRefused (body : Except String (List UInt8)) : Prop :=
  ∀ bytes d, body = .ok bytes → Draft.decode? bytes = some d → d.refusal?.isSome

theorem withDraft_refused {body : Except String (List UInt8)} (h : IsRefused body) (hub : Hub)
    (act : Draft → Hub × Response) : 400 ≤ (withDraft body hub act).2.status := by
  unfold withDraft
  cases body with
  | error e => exact (by decide : 400 ≤ 500)
  | ok bytes =>
    dsimp only
    unfold readDraft
    cases hdecode : Draft.decode? bytes with
    | none => exact Nat.le_refl 400
    | some d =>
      obtain ⟨reason, hreason⟩ := Option.isSome_iff_exists.mp (h bytes d rfl hdecode)
      dsimp only
      rw [hreason]
      exact Nat.le_refl 400

theorem answer_refused {method path : String}
    (hroute : Route.ofRequest method path = .create ∨ ∃ id, Route.ofRequest method path = .update id)
    {body : Except String (List UInt8)} (h : IsRefused body) (w : Circumstances) (hub : Hub) :
    400 ≤ (answer w method path body hub).2.status := by
  unfold answer
  rcases hroute with hroute | ⟨id, hroute⟩
  · rw [hroute]
    exact withDraft_refused h hub _
  · rw [hroute]
    exact withDraft_refused h hub _

end Management

theorem catalogue_changes_as_a_whole (s : Store) (hs : s.IsWellFormed) (o : Outage) (c : Catalogue)
    (hopen : Catalogue.ofStore o s = .ok c) (history : List (Outage × Catalogue.Operation)) :
    (c.run history).IsAtomic ∧
    ∀ (w : Circumstances) (method path : String) (body : Except String (List UInt8)) (hub : Hub),
      (400 ≤ (answer w method path body hub).2.status →
        Catalogue.Untouched hub.catalogue (answer w method path body hub).1.catalogue ∧
          (answer w method path body hub).1.pending = hub.pending) ∧
      ((Route.ofRequest method path = .create ∨ ∃ id, Route.ofRequest method path = .update id) →
        IsRefused body → 400 ≤ (answer w method path body hub).2.status) := by
  have hstore : c.store.IsWellFormed := by
    rw [Catalogue.ofStore_store hopen]
    exact hs
  obtain ⟨hrun, hindexed⟩ := Catalogue.run_isIndexed hstore (Catalogue.ofStore_isIndexed hopen) history
  refine ⟨Catalogue.isAtomic_of_isIndexed hrun hindexed, ?_⟩
  intro w method path body hub
  refine ⟨?_, ?_⟩
  · intro hstatus
    obtain ⟨hcatalogue, hpending⟩ := hub.answer_spares w method path body hstatus
    exact ⟨Catalogue.untouched_of_eq hcatalogue, hpending⟩
  · intro hroute hrefused
    exact answer_refused hroute hrefused w hub

theorem catalogue_unchanged_after_outage :
    let n : Notebook := { Notebook.plain "a" "a.example" with name := "n", path := "/n" }
    let d : Draft := { rawName := some "n", rawPath := some "/n", rawDomain := some "A.example" }
    let c := ({} : Catalogue).run [({}, .add ⟨"a", n.createdAt⟩ d)]
    (∅ : Store).IsWellFormed ∧ Catalogue.ofStore {} ∅ = .ok {} ∧
      (c.add {} ⟨"b", n.createdAt⟩ d).2 = .error (.domainTaken "a.example") ∧
      (c.delete { erase := true } "a").2 = .error (Catalogue.eraseFailure "a") ∧ c.IsAtomic := by
  intro n d c
  have hopen : Catalogue.ofStore {} ∅ = .ok {} := by rfl
  obtain ⟨htaken, hfailed⟩ : (c.add {} ⟨"b", n.createdAt⟩ d).2 = .error (.domainTaken "a.example") ∧
      (c.delete { erase := true } "a").2 = .error (Catalogue.eraseFailure "a") := by decide +kernel
  have hatomic := (catalogue_changes_as_a_whole ∅ .empty {} {} hopen [({}, .add ⟨"a", n.createdAt⟩ d)]).1
  exact ⟨.empty, hopen, htaken, hfailed, hatomic⟩

end NotebookHost
