import NotebookHost.Forwarding
import NotebookHost.Proofs.Catalogue.Admission
import NotebookHost.Proofs.Catalogue.Index
import NotebookHost.Proofs.Hub.Steps

namespace NotebookHost.Hub

open Text

def Step.isChecked : Step → Bool
  | .add _ | .update _ _ => false
  | .request _ _ _ | .delete _ | .deliver _ | .reload _ | .supervise _ => true

theorem withDraft_keeps {Q : Hub → Prop} {hub : Hub} (hq : Q hub) {act : Draft → Hub × Http.Response}
    (h : ∀ d : Draft, d.faults = [] → Q (act d).1) (body : Except String (List UInt8)) :
    Q (Management.withDraft body hub act).1 := by
  unfold Management.withDraft
  split
  · exact hq
  · split
    · exact hq
    · next d hread => exact h d (Draft.accepted_of_read hread)

section Admissible

variable {hub : Hub} (h : hub.catalogue.store.Keeps Notebook.IsAdmissible)
include h

theorem create_admissible (w : Management.Circumstances) {d : Draft} (accepted : d.faults = []) :
    (Management.create w d hub).1.catalogue.store.Keeps Notebook.IsAdmissible := by
  unfold Management.create
  split_ifs
  · exact h
  · exact Catalogue.add_keeps h w.outage fun _ hn => Draft.drawn_isAdmissible accepted hn

theorem update_admissible (w : Management.Circumstances) (id : String) {d : Draft} (accepted : d.faults = []) :
    (Management.update w id d hub).1.catalogue.store.Keeps Notebook.IsAdmissible :=
  Catalogue.update_keeps h w.outage id fun _ hn => Draft.apply_isAdmissible accepted hn

theorem reload_admissible (w : Management.Circumstances) (id : String) :
    (Management.reload w id hub).1.catalogue.store.Keeps Notebook.IsAdmissible := by
  unfold Management.reload
  split <;> exact h

theorem answer_admissible (w : Management.Circumstances) (method path : String) (body : Except String (List UInt8)) :
    (Management.answer w method path body hub).1.catalogue.store.Keeps Notebook.IsAdmissible := by
  unfold Management.answer
  cases Management.Route.ofRequest method path with
  | create =>
    exact withDraft_keeps (Q := fun hub => hub.catalogue.store.Keeps Notebook.IsAdmissible) h
      (fun d accepted => create_admissible h w accepted) body
  | update id =>
    exact withDraft_keeps (Q := fun hub => hub.catalogue.store.Keeps Notebook.IsAdmissible) h
      (fun d accepted => update_admissible h w id accepted) body
  | delete id => exact Catalogue.delete_keeps h w.outage id
  | reload id => exact reload_admissible h w id
  | _ => exact h

theorem perform_admissible (w : Management.Circumstances) {step : Step} (checked : step.isChecked = true) :
    (hub.perform w step).catalogue.store.Keeps Notebook.IsAdmissible := by
  cases step with
  | request method path body => exact answer_admissible h w method path body
  | add d => cases checked
  | update id d => cases checked
  | delete id => exact Catalogue.delete_keeps h w.outage id
  | deliver id =>
    unfold perform deliver
    dsimp only
    split <;> exact h
  | reload id => exact reload_admissible h w id
  | supervise step => exact h

end Admissible

theorem run_admissible {hub : Hub} (h : hub.catalogue.store.Keeps Notebook.IsAdmissible)
    {steps : List (Management.Circumstances × Step)} (checked : ∀ turn ∈ steps, turn.2.isChecked = true) :
    (hub.run steps).catalogue.store.Keeps Notebook.IsAdmissible := by
  induction steps generalizing hub with
  | nil => exact h
  | cons turn steps ih =>
    exact ih (perform_admissible h turn.1 (checked turn List.mem_cons_self))
      fun turn' hturn => checked turn' (List.mem_cons_of_mem _ hturn)

theorem Change.isIndexed {m : Machine} {hub hub' : Hub} (h : Change m hub hub')
    (hstore : hub.catalogue.store.IsWellFormed) (hindex : hub.catalogue.IsIndexed) : hub'.catalogue.IsIndexed := by
  cases h with
  | stored effect => exact effect.isIndexed hstore hindex
  | reloaded _ => exact hindex

theorem Effect.isIndexed {m : Machine} {hub hub' : Hub} {step : Step} (h : Effect m hub step hub')
    (hstore : hub.catalogue.store.IsWellFormed) (hindex : hub.catalogue.IsIndexed) : hub'.catalogue.IsIndexed := by
  cases h with
  | changed _ change => exact change.isIndexed hstore hindex
  | delivered _ => exact hindex
  | supervised _ => exact hindex

theorem run_isIndexed {hub : Hub} (hstore : hub.catalogue.store.IsWellFormed) (hindex : hub.catalogue.IsIndexed)
    (steps : List (Management.Circumstances × Step)) : (hub.run steps).catalogue.IsIndexed := by
  induction steps generalizing hub with
  | nil => exact hindex
  | cons turn steps ih =>
    have heffect := perform_effect turn.1 turn.2 hub
    exact ih (heffect.isWellFormed hstore) (heffect.isIndexed hstore hindex)

theorem hostOf?_spelling {domain spelling suffix : String} (valid : Hostname.isValid domain = true)
    (same : sameLetters spelling domain = true) (hsuffix : suffix = "" ∨ suffix.toList.head? = some ':')
    {r : Http.Request} (hhost : r.headers.firstText? "host" = some (spelling ++ suffix)) :
    Forwarding.hostOf? r = some (Hostname.canonical domain) := by
  rw [Forwarding.hostOf?, hhost, Option.some_or, Option.bind_some]
  exact Hostname.ofAuthority?_spelling valid same hsuffix

theorem kept_notebooks_reachable (supervisor : Supervisor) (steps : List (Management.Circumstances × Step))
    (checked : ∀ turn ∈ steps, turn.2.isChecked = true) (id : String) (n : Notebook)
    (kept : (Hub.run { catalogue := {}, supervisor } steps).catalogue.store.record? id = some n) :
    n.IsAdmissible ∧
      ∀ (r : Http.Request) (spelling suffix : String), sameLetters spelling n.domain = true →
        (suffix = "" ∨ suffix.toList.head? = some ':') → r.headers.firstText? "host" = some (spelling ++ suffix) →
        Forwarding.hostOf? r = some n.domain ∧
          (Hub.run { catalogue := {}, supervisor } steps).catalogue.findByDomain? {} n.domain = some n := by
  have hnone (id : String) (m : Notebook) : ({} : Catalogue).store.record? id ≠ some m := by simp [Store.record?]
  have hadmissible : n.IsAdmissible := run_admissible (fun i m hm => absurd hm (hnone i m)) checked id n kept
  have hstore : (Hub.run { catalogue := {}, supervisor } steps).catalogue.store.IsWellFormed :=
    run_isWellFormed .empty steps
  have hindex : (Hub.run { catalogue := {}, supervisor } steps).catalogue.IsIndexed :=
    run_isIndexed .empty (fun i m hm => absurd hm (hnone i m)) steps
  obtain ⟨hvalid, hcanonical⟩ := hadmissible.domain
  refine ⟨hadmissible, ?_⟩
  intro r spelling suffix same hsuffix hhost
  refine ⟨?_, ?_⟩
  · rw [hostOf?_spelling hvalid same hsuffix hhost, hcanonical]
  · refine (Catalogue.findByDomain?_eq_some_iff hstore hindex).mpr ⟨?_, sameLetters_refl _⟩
    rw [Catalogue.find?_calm]
    exact hstore.record?_id kept

def creation (id domain : String) : Management.Circumstances × Step :=
  (calm id, .request "POST" "/api/v1/notebooks"
    (.ok (encode ("\x7b\"name\":\"n\",\"path\":\"/n\",\"domain\":\"" ++ domain ++ "\"\x7d"))))

def requestTo (host : String) : Http.Request := ⟨"GET", .path ⟨['/'], none⟩, [.ofText "host" host], []⟩

theorem kept_notebook_reachable_in_capitals :
    let hub : Hub := Hub.run { catalogue := {}, supervisor := .fresh {} ⟨9000, 9002⟩ } [creation "a" "A.Example"]
    ∃ n, hub.catalogue.store.record? "a" = some n ∧ n.IsAdmissible ∧ n.domain = "a.example" ∧
      Forwarding.hostOf? (requestTo ("A.EXAMPLE" ++ ":80 x")) = some n.domain ∧
      hub.catalogue.findByDomain? {} n.domain = some n := by
  intro hub
  have hrecord : (hub.catalogue.store.record? "a").map (·.domain) = some "a.example" := by decide +kernel
  obtain ⟨n, hn, hdomain⟩ := Option.map_eq_some_iff.mp hrecord
  have hchecked : ∀ turn ∈ [creation "a" "A.Example"], turn.2.isChecked = true := by
    intro turn hturn
    rw [List.mem_singleton.mp hturn]
    rfl
  obtain ⟨hadmissible, hreach⟩ := kept_notebooks_reachable (.fresh {} ⟨9000, 9002⟩) _ hchecked "a" n hn
  have hsame : sameLetters "A.EXAMPLE" n.domain = true := by
    rw [hdomain]
    decide
  obtain ⟨hhost, hfound⟩ := hreach (requestTo ("A.EXAMPLE" ++ ":80 x")) "A.EXAMPLE" ":80 x" hsame (.inr (by decide))
    (by decide)
  exact ⟨n, hn, hadmissible, hdomain, hhost, hfound⟩

end NotebookHost.Hub
