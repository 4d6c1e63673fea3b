import NotebookHost.Forwarding
import NotebookHost.Proofs.Catalogue.Uniqueness
import Mathlib.Tactic.SplitIfs

namespace NotebookHost.Forwarding

open Http

theorem outgoing?_eq_some_iff {r : Request} {port : Port} {o : Outgoing} :
    outgoing? r port = some o ↔ ∃ t, Target.ofText? (backendAddress port r.target) = some t ∧
      o = { host := t.host?.getD "", port := t.port?.getD defaultPort, method := r.method,
            path := requestPath (t.pathQuery?.getD "/"),
            headers := withHost (t.host?.getD "") (t.port?.getD defaultPort) r.headers, body := r.body } := by
  unfold outgoing?
  cases Target.ofText? (backendAddress port r.target) with
  | none => simp
  | some t => simp [eq_comm]

def sole (n : Notebook) (port : Port) : Directory where
  owner? host := if host = n.domain then some n else none
  port? id := if id = n.id then some port else none
  status id := if id = n.id then .ok .running else .error (.unknown id)

def reached? (l : Listener) (peer generated : String) (r : Request) : Option Outgoing :=
  match hostOf? r with
  | none => none
  | some host =>
    if isUpgrade l r then none
    else
      match l.directory.resolve host with
      | .error _ => none
      | .ok b => outgoing? { r with headers := stamp peer (requestId r.headers generated) r.headers } b.port

def settled (reply : Reply) (stats : Stats) : Stats × Answer :=
  match reply with
  | .response r => ({ stats with forwarded := stats.forwarded + 1 }, .response (withContentType r))
  | .failure => (⟨stats.forwarded + 1, stats.failed + 1⟩, .ofRejection failed)
  | .late seconds => (⟨stats.forwarded + 1, stats.failed + 1⟩, .ofRejection (timedOut seconds))

section Reached

variable {l : Listener} {peer generated : String} {r : Request}

theorem reached?_eq_some {o : Outgoing} (h : reached? l peer generated r = some o) :
    ∃ host b, hostOf? r = some host ∧ isUpgrade l r = false ∧ l.directory.resolve host = .ok b ∧
      outgoing? { r with headers := stamp peer (requestId r.headers generated) r.headers } b.port = some o := by
  unfold reached? at h
  split at h
  · cases h
  · next host hhost =>
    split_ifs at h with hupgrade
    split at h
    · cases h
    · next b hb => exact ⟨host, b, hhost, Bool.eq_false_iff.mpr hupgrade, hb, h⟩

theorem answer_of_reached {o : Outgoing} (h : reached? l peer generated r = some o) (stats : Stats) :
    answer l peer generated r stats = settled (l.exchange o) stats := by
  obtain ⟨host, b, hhost, hupgrade, hb, ho⟩ := reached?_eq_some h
  simp only [answer, hhost, hupgrade, forward, hb, send, ho]
  cases l.exchange o <;> rfl

theorem answer_of_unreached (h : reached? l peer generated r = none) (exchange : Outgoing → Reply) (stats : Stats) :
    answer { l with exchange } peer generated r stats = answer l peer generated r stats := by
  unfold reached? at h
  unfold answer
  cases hhost : hostOf? r with
  | none => rfl
  | some host =>
    have hupgrade' : isUpgrade { l with exchange } r = isUpgrade l r := rfl
    simp only [hhost] at h
    split_ifs at h with hupgrade
    · simp only [hupgrade', hupgrade, if_true]
    · cases hb : l.directory.resolve host with
      | error e => simp only [hupgrade', hupgrade, forward, hb]
      | ok b =>
        simp only [hb] at h
        simp only [hupgrade', hupgrade, forward, hb, send, h]

theorem answer_congr {exchange : Outgoing → Reply}
    (h : ∀ o, reached? l peer generated r = some o → exchange o = l.exchange o)
    (stats : Stats) : answer { l with exchange } peer generated r stats = answer l peer generated r stats := by
  cases ho : reached? l peer generated r with
  | none => exact answer_of_unreached ho exchange stats
  | some o =>
    have ho' : reached? { l with exchange } peer generated r = some o := ho
    rw [answer_of_reached ho', answer_of_reached ho]
    exact congrArg (settled · stats) (h o ho)

end Reached

end NotebookHost.Forwarding
