import NotebookHost.Proofs.Forwarding.Places
import NotebookHost.Proofs.Forwarding.Provenance
import NotebookHost.Proofs.Hostname

/-!
What is left of a request on its way to the notebook, and of the response on its way back: all of it, up to the fields
of the listener. Only a request whose address on this machine is too long for an address does not get there.
-/

namespace NotebookHost

open Text Http

def Http.PathQuery.line (p : PathQuery) : List Char := (⟨Target.pathOf p, p.query⟩ : PathQuery).toChars

namespace Forwarding

theorem requestPath_orRoot {p : PathQuery} (hp : p.IsWellFormed) :
    requestPath (String.ofList p.orRoot.toChars) = String.ofList p.line := by
  obtain ⟨path, query⟩ := p
  rcases hp.rooted with hnil | hroot
  · obtain rfl : path = [] := hnil
    cases query with
    | none => rfl
    | some q =>
      apply String.toList_injective
      simp [requestPath, PathQuery.orRoot, PathQuery.toChars, PathQuery.line, Target.pathOf]
  · obtain ⟨rest, rfl⟩ := List.head?_eq_some_iff.mp hroot
    cases query <;> simp [requestPath, PathQuery.orRoot, PathQuery.toChars, PathQuery.line, Target.pathOf]

theorem requestId_isPlain {generated : String} (hgenerated : IsPlain generated) (hs : Headers) :
    IsPlain (requestId hs generated) := by
  unfold requestId
  cases htext : hs.firstText? "x-request-id" with
  | none => exact hgenerated
  | some s =>
    obtain ⟨x, -, hx⟩ := Option.bind_eq_some_iff.mp htext
    exact (Header.text?_eq_some hx).1

/-- A request that the listener is to send on, and the notebook it is for. -/
structure Carried (l : Listener) (r : Request) (p : PathQuery) (b : Backend) : Prop where
  method : r.method ≠ "CONNECT"
  asked : ∃ asked, Target.ofText? asked = some r.target
  form : r.target = .path p ∨ ∃ scheme authority, r.target = .absolute scheme authority p
  socket : isUpgrade l r = false
  host : ∃ host, hostOf? r = some host ∧ l.directory.resolve host = .ok b

/-- What is sent is the request, at the notebook, with the fields of the listener. -/
structure Copies (o : Outgoing) (peer generated : String) (r : Request) (p : PathQuery) (port : Port) : Prop where
  place : o.GoesTo port
  method : o.method = r.method
  body : o.body = r.body
  path : o.path = String.ofList p.line
  others : ∀ name, name ∉ "host" :: "x-request-id" :: claimFields → o.headers.all name = r.headers.all name
  host : r.headers.first? "host" ≠ none → o.headers.all "host" = r.headers.all "host"
  noHost : r.headers.first? "host" = none →
    o.headers.all "host" = [.ofText "host"
      (if port.toNat = defaultPort then Target.loopbackHost else Target.loopbackHost ++ ":" ++ port.toText)]
  id : ∀ h, r.headers.first? "x-request-id" = some h → h.text?.isSome →
    o.headers.all "x-request-id" = [⟨"x-request-id", h.value⟩]
  noId : r.headers.firstText? "x-request-id" = none →
    o.headers.all "x-request-id" = [.ofText "x-request-id" generated]
  peer : o.headers.all "x-forwarded-for" = [.ofText "x-forwarded-for" peer]
  scheme : o.headers.all "x-forwarded-proto" = [.ofText "x-forwarded-proto" "http"]
  forwardedHost : ∀ h, r.headers.first? "host" = some h →
    o.headers.all "x-forwarded-host" = [⟨"x-forwarded-host", h.value⟩]

section Carried

variable {l : Listener} {r : Request} {p : PathQuery} {b : Backend} {peer generated : String} (h : Carried l r p b)
include h

theorem Carried.isWellFormed : p.IsWellFormed := by
  obtain ⟨asked, hasked⟩ := h.asked
  have ht := Target.ofText?_isWellFormed hasked
  rcases h.form with hform | ⟨scheme, authority, hform⟩ <;> rw [hform] at ht <;> exact ht

theorem Carried.pathQuery : r.target.pathQuery = p.orRoot := by
  rcases h.form with hform | ⟨scheme, authority, hform⟩ <;> rw [hform, Target.pathQuery]

theorem Carried.ofText? : Target.ofText? (backendAddress b.port r.target) =
    if Target.maxBytes < (backendAddress b.port r.target).utf8ByteSize then none
    else some (.absolute "http".toList (Target.loopback b.port) p.orRoot) := by
  apply Target.ofText?_loopback h.isWellFormed.orRoot
  · rw [toList_backendAddress, h.pathQuery]
  all_goals decide

theorem Carried.reached? : reached? l peer generated r =
    outgoing? { r with headers := stamp peer (requestId r.headers generated) r.headers } b.port := by
  obtain ⟨host, hhost, hb⟩ := h.host
  simp only [Forwarding.reached?, hhost, h.socket, hb, Bool.false_eq_true, if_false]

theorem Carried.outgoing? {hs : Headers} (hsize : (backendAddress b.port r.target).utf8ByteSize ≤ Target.maxBytes) :
    outgoing? { r with headers := hs } b.port =
      some ⟨Target.loopbackHost, b.port.toNat, r.method, String.ofList p.line,
        withHost Target.loopbackHost b.port.toNat hs, r.body⟩ := by
  have hread := h.ofText?
  rw [if_neg (Nat.not_lt.mpr hsize)] at hread
  have hleads := Target.leadsTo_absolute "http" b.port p.orRoot
  have hpath : (Target.absolute "http".toList (Target.loopback b.port) p.orRoot).pathQuery? =
      some (String.ofList p.orRoot.toChars) := by
    simp [Target.pathQuery?, Target.pathQuery?.orSlash, p.orRoot_toChars_ne_nil]
  apply outgoing?_eq_some_iff.mpr
  refine ⟨_, hread, ?_⟩
  simp only [hleads.host, hleads.port, hpath, Option.getD_some, requestPath_orRoot h.isWellFormed]

theorem Carried.reached?_of_long (hsize : Target.maxBytes < (backendAddress b.port r.target).utf8ByteSize) :
    Forwarding.reached? l peer generated r = none := by
  have hread := h.ofText?
  rw [if_pos hsize] at hread
  rw [h.reached?, Forwarding.outgoing?, hread]

theorem Carried.answer_of_long (hsize : Target.maxBytes < (backendAddress b.port r.target).utf8ByteSize)
    (stats : Stats) :
    answer l peer generated r stats = (stats, .ofRejection failed) := by
  obtain ⟨host, hhost, hb⟩ := h.host
  have hread := h.ofText?
  rw [if_pos hsize] at hread
  simp only [answer, hhost, h.socket, forward, hb, send, Forwarding.outgoing?, hread, Bool.false_eq_true, if_false]

theorem Carried.copies (hpeer : IsPlain peer) (hgenerated : IsPlain generated)
    (hsize : (backendAddress b.port r.target).utf8ByteSize ≤ Target.maxBytes) :
    ∃ o, Forwarding.reached? l peer generated r = some o ∧ Copies o peer generated r p b.port := by
  have hid := requestId_isPlain hgenerated r.headers
  refine ⟨_, h.reached?.trans (h.outgoing? hsize), ?_⟩
  constructor
  case place => exact ⟨rfl, rfl⟩
  case method => rfl
  case body => rfl
  case path => rfl
  case others =>
    intro name hname
    simp only [List.mem_cons, not_or] at hname
    obtain ⟨hhost, hid, hclaim⟩ := hname
    rw [all_withHost_other hhost, all_stamp_other hid (by simpa [claimFields] using hclaim)]
  case host =>
    intro hsome
    rw [all_withHost_self, first?_host_stamp, if_pos (Option.isSome_iff_ne_none.mpr hsome),
      all_stamp_other (by decide) (by decide)]
  case noHost =>
    intro hnone
    rw [all_withHost_self, first?_host_stamp, hnone]
    rfl
  case id =>
    intro x hfirst htext
    obtain ⟨s, hs⟩ := Option.isSome_iff_exists.mp htext
    have hrequest : requestId r.headers generated = s := by simp [requestId, Headers.firstText?, hfirst, hs]
    rw [all_withHost_other (by decide), all_stamp_id hid, hrequest, Header.ofText, (Header.text?_eq_some hs).2]
  case noId =>
    intro hnone
    have hrequest : requestId r.headers generated = generated := by simp [requestId, hnone]
    rw [all_withHost_other (by decide), all_stamp_id hid, hrequest]
  case peer => rw [all_withHost_other (by decide), all_stamp_peer hpeer]
  case scheme => rw [all_withHost_other (by decide), all_stamp_proto]
  case forwardedHost =>
    intro x hfirst
    rw [all_withHost_other (by decide), all_stamp_host hfirst]

end Carried

theorem requests_pass_unchanged {l : Listener} {r : Request} {p : PathQuery} {b : Backend} {peer generated : String}
    (hpeer : IsPlain peer) (hgenerated : IsPlain generated) (h : Carried l r p b) :
    ((backendAddress b.port r.target).utf8ByteSize ≤ Target.maxBytes →
      ∃ o, reached? l peer generated r = some o ∧ Copies o peer generated r p b.port ∧
        ∀ response, l.exchange o = .response response → ∀ stats,
          answer l peer generated r stats =
            ({ stats with forwarded := stats.forwarded + 1 },
              .response { response with headers :=
                if (response.headers.first? "content-type").isSome then response.headers
                else response.headers ++ [.ofText "content-type" "application/json"] })) ∧
    (Target.maxBytes < (backendAddress b.port r.target).utf8ByteSize →
      reached? l peer generated r = none ∧
        ∀ stats, answer l peer generated r stats = (stats, .ofRejection failed)) := by
  constructor
  · intro hsize
    obtain ⟨o, ho, hcopies⟩ := h.copies hpeer hgenerated hsize
    refine ⟨o, ho, hcopies, ?_⟩
    intro response hresponse stats
    rw [answer_of_reached ho, hresponse, settled, withContentType]
    split <;> rfl
  · intro hsize
    exact ⟨h.reached?_of_long hsize, h.answer_of_long hsize⟩

theorem requests_pass_unchanged_of_address :
    let l : Listener := ⟨{}, sole (.plain "a" "a.example") 3001,
      fun _ => .response ⟨201, [.ofText "x-b" "1"], [7]⟩⟩
    let p : PathQuery := ⟨[], some ['x']⟩
    let r : Request := ⟨"POST", .absolute "http".toList "a.example".toList p,
      [.ofText "x-a" "1", ⟨"x-c", [255]⟩, .ofText "x-request-id" "req-42", .ofText "x-a" "2"], [1, 2]⟩
    Carried l r p ⟨"a", 3001⟩ ∧ IsPlain "203.0.113.9" ∧ IsPlain "id" ∧
      (backendAddress 3001 r.target).utf8ByteSize ≤ Target.maxBytes ∧
      (answer l "203.0.113.9" "id" r {}).2 =
        .response ⟨201, [.ofText "x-b" "1", .ofText "content-type" "application/json"], [7]⟩ ∧
      ∃ o, reached? l "203.0.113.9" "id" r = some o ∧ Copies o "203.0.113.9" "id" r p 3001 ∧ o.path = "/?x" ∧
        o.headers.all "x-a" = [.ofText "x-a" "1", .ofText "x-a" "2"] := by
  intro l p r
  have hcarried : Carried l r p ⟨"a", 3001⟩ := by
    constructor
    case method => decide
    case asked => exact ⟨"http://a.example?x", by decide +kernel⟩
    case form => exact .inr ⟨_, _, rfl⟩
    case socket => decide +kernel
    case host => exact ⟨"a.example", by decide +kernel, rfl⟩
  have hpeer : IsPlain "203.0.113.9" := by decide
  have hid : IsPlain "id" := by decide
  have hsize : (backendAddress 3001 r.target).utf8ByteSize ≤ Target.maxBytes := by decide +kernel
  obtain ⟨o, ho, hcopies, hanswer⟩ := (requests_pass_unchanged hpeer hid hcarried).1 hsize
  refine ⟨hcarried, hpeer, hid, hsize, ?_, o, ho, hcopies, ?_, ?_⟩
  · rw [hanswer _ rfl]
    rfl
  · rw [hcopies.path]
    decide
  · rw [hcopies.others "x-a" (by decide)]
    decide

theorem utf8ByteSize_replicate (n : ℕ) : (String.ofList (List.replicate n 'a')).utf8ByteSize = n := by
  induction n with
  | zero => rfl
  | succ n ih =>
    rw [List.replicate_succ, utf8ByteSize_cons, ih]
    exact Nat.add_comm 1 n

theorem long_request_is_refused :
    let l : Listener := ⟨{}, sole (.plain "a" "a.example") 3001, fun _ => .response ⟨200, [], []⟩⟩
    let p : PathQuery := ⟨'/' :: List.replicate 65520 'a', none⟩
    let r : Request := ⟨"GET", .path p, [.ofText "host" "a.example"], []⟩
    Carried l r p ⟨"a", 3001⟩ ∧ reached? l "203.0.113.9" "id" r = none ∧
      answer l "203.0.113.9" "id" r {} = ({}, .ofRejection failed) := by
  intro l p r
  have hp : p.IsWellFormed := by
    refine ⟨?_, by simp [p], .inr rfl⟩
    intro c hc
    rcases List.mem_cons.mp hc with rfl | hc
    · decide
    · rw [List.eq_of_mem_replicate hc]
      decide
  have hasked : (String.ofList p.toChars).utf8ByteSize = 65521 := by
    change (String.ofList ('/' :: List.replicate 65520 'a')).utf8ByteSize = 65521
    rw [utf8ByteSize_cons, utf8ByteSize_replicate]
    rfl
  have hcarried : Carried l r p ⟨"a", 3001⟩ := by
    constructor
    case method => decide
    case asked => exact ⟨_, Target.ofText?_path hp rfl (by rw [hasked]; decide)⟩
    case form => exact .inl rfl
    case socket => simp [isUpgrade, show Handshake.isRequested r.headers = false by decide +kernel]
    case host => exact ⟨"a.example", by decide +kernel, rfl⟩
  have hsize : Target.maxBytes < (backendAddress 3001 r.target).utf8ByteSize := by
    have haddress : backendAddress 3001 r.target = "http://127.0.0.1:3001" ++ String.ofList p.toChars := rfl
    rw [haddress, String.utf8ByteSize_append, hasked]
    decide
  exact ⟨hcarried, hcarried.reached?_of_long hsize, hcarried.answer_of_long hsize {}⟩

end Forwarding

end NotebookHost
