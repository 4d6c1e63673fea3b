import NotebookHost.Proofs.Forwarding.Reached
import NotebookHost.Proofs.Http.Headers
import NotebookHost.Proofs.Http.Target

namespace NotebookHost.Forwarding

open Text Http

def claimFields : List String := ["x-forwarded-for", "x-forwarded-host", "x-forwarded-proto"]

section Stamp

variable {hs : Headers} {name other value peer id : String}

theorem insertText_of_isPlain (hname : Header.IsName name) (hvalue : IsPlain value) :
    insertText hs name value = hs.setText name value := by
  rw [insertText, Header.ofText?_of_isPlain hname hvalue, Headers.setText]

theorem all_insertText_other (h : other ≠ name) : (insertText hs name value).all other = hs.all other := by
  unfold insertText
  split
  · exact Headers.all_set_other h
  · rfl

def identified (peer id : String) (hs : Headers) : Headers :=
  insertText (insertText hs "x-request-id" id) "x-forwarded-for" peer

theorem all_identified_other (hid : other ≠ "x-request-id") (hpeer : other ≠ "x-forwarded-for") :
    (identified peer id hs).all other = hs.all other := by
  rw [identified, all_insertText_other hpeer, all_insertText_other hid]

theorem first?_host_identified (peer id : String) (hs : Headers) :
    (identified peer id hs).first? "host" = hs.first? "host" := by
  rw [Headers.first?_eq_head?, Headers.first?_eq_head?, all_identified_other (by decide) (by decide)]

theorem stamp_of_host {h : Header} (hhost : hs.first? "host" = some h) :
    stamp peer id hs = ((identified peer id hs).set "x-forwarded-host" h.value).setText "x-forwarded-proto" "http" := by
  have hsame := first?_host_identified peer id hs
  unfold identified at hsame
  simp only [stamp, identified, hsame, hhost]

theorem stamp_of_no_host (hhost : hs.first? "host" = none) :
    stamp peer id hs = (identified peer id hs).setText "x-forwarded-proto" "http" := by
  have hsame := first?_host_identified peer id hs
  unfold identified at hsame
  simp only [stamp, identified, hsame, hhost]

theorem all_stamp (hhost : other ≠ "x-forwarded-host") (hproto : other ≠ "x-forwarded-proto") :
    (stamp peer id hs).all other = (identified peer id hs).all other := by
  cases hfirst : hs.first? "host" with
  | none => rw [stamp_of_no_host hfirst, Headers.setText, Headers.all_set_other hproto]
  | some h => rw [stamp_of_host hfirst, Headers.setText, Headers.all_set_other hproto, Headers.all_set_other hhost]

theorem all_stamp_other (hid : other ≠ "x-request-id") (hclaim : other ∉ claimFields) :
    (stamp peer id hs).all other = hs.all other := by
  simp only [claimFields, List.mem_cons, List.not_mem_nil, or_false, not_or] at hclaim
  obtain ⟨hpeer, hhost, hproto⟩ := hclaim
  rw [all_stamp hhost hproto, all_identified_other hid hpeer]

theorem first?_host_stamp : (stamp peer id hs).first? "host" = hs.first? "host" := by
  rw [Headers.first?_eq_head?, Headers.first?_eq_head?, all_stamp_other (by decide) (by decide)]

theorem all_stamp_id (hid : IsPlain id) : (stamp peer id hs).all "x-request-id" = [.ofText "x-request-id" id] := by
  rw [all_stamp (by decide) (by decide), identified, all_insertText_other (by decide),
    insertText_of_isPlain (by decide +kernel) hid, Headers.setText, Headers.all_set_self]
  rfl

theorem all_stamp_peer (hpeer : IsPlain peer) :
    (stamp peer id hs).all "x-forwarded-for" = [.ofText "x-forwarded-for" peer] := by
  rw [all_stamp (by decide) (by decide), identified, insertText_of_isPlain (by decide +kernel) hpeer, Headers.setText,
    Headers.all_set_self]
  rfl

theorem all_stamp_proto : (stamp peer id hs).all "x-forwarded-proto" = [.ofText "x-forwarded-proto" "http"] := by
  cases hfirst : hs.first? "host" with
  | none =>
    rw [stamp_of_no_host hfirst, Headers.setText, Headers.all_set_self]
    rfl
  | some h =>
    rw [stamp_of_host hfirst, Headers.setText, Headers.all_set_self]
    rfl

theorem all_stamp_host {h : Header} (hfirst : hs.first? "host" = some h) :
    (stamp peer id hs).all "x-forwarded-host" = [⟨"x-forwarded-host", h.value⟩] := by
  rw [stamp_of_host hfirst, Headers.setText, Headers.all_set_other (by decide), Headers.all_set_self]

theorem all_stamp_no_host (hfirst : hs.first? "host" = none) :
    (stamp peer id hs).all "x-forwarded-host" = hs.all "x-forwarded-host" := by
  rw [stamp_of_no_host hfirst, Headers.setText, Headers.all_set_other (by decide),
    all_identified_other (by decide) (by decide)]

end Stamp

theorem all_withHost_other {host name : String} {port : Nat} {hs : Headers} (h : name ≠ "host") :
    (withHost host port hs).all name = hs.all name := by
  unfold withHost
  split
  · rfl
  · exact Headers.all_set_other h

theorem all_withHost_self {host : String} {port : Nat} {hs : Headers} :
    (withHost host port hs).all "host" =
      if (hs.first? "host").isSome then hs.all "host"
      else [.ofText "host" (if port = defaultPort then host else host ++ ":" ++ toString port)] := by
  unfold withHost
  split
  · rfl
  · rw [Headers.setText, Headers.all_set_self]
    rfl

section Agreement

variable {hs hs' : Headers} {name value peer : String} {names : List String}

theorem agreeBut_insertText (h : Headers.AgreeBut names hs hs') :
    Headers.AgreeBut names (insertText hs name value) (insertText hs' name value) := by
  unfold insertText
  cases Header.ofText? name value with
  | none => exact h
  | some x => exact (h.cons name).set x.value

theorem agreeBut_identified (hpeer : IsPlain peer) (id : String) (h : Headers.AgreeBut claimFields hs hs') :
    Headers.AgreeBut ["x-forwarded-host", "x-forwarded-proto"] (identified peer id hs) (identified peer id hs') := by
  have hname : Header.IsName "x-forwarded-for" := by decide +kernel
  rw [identified, identified, insertText_of_isPlain hname hpeer, insertText_of_isPlain hname hpeer]
  exact (agreeBut_insertText h).set _

theorem stamp_congr (hpeer : IsPlain peer) (id : String) (h : Headers.AgreeBut claimFields hs hs')
    (hhost : (hs.first? "host").isSome ∨ hs.all "x-forwarded-host" = [] ∧ hs'.all "x-forwarded-host" = []) :
    stamp peer id hs = stamp peer id hs' := by
  have hidentified := agreeBut_identified hpeer id h
  have hsame : hs'.first? "host" = hs.first? "host" := by
    rw [Headers.first?_eq_head?, Headers.first?_eq_head?, h.all_eq (by decide)]
  cases hfirst : hs.first? "host" with
  | some x =>
    rw [stamp_of_host hfirst, stamp_of_host (hsame.trans hfirst)]
    exact ((hidentified.set _).set _).eq
  | none =>
    obtain ⟨hnone, hnone'⟩ : hs.all "x-forwarded-host" = [] ∧ hs'.all "x-forwarded-host" = [] := by
      simpa [hfirst] using hhost
    rw [stamp_of_no_host hfirst, stamp_of_no_host (hsame.trans hfirst)]
    apply Headers.AgreeBut.eq
    apply Headers.AgreeBut.set
    apply hidentified.of_absent
    · rw [all_identified_other (by decide) (by decide), hnone]
    · rw [all_identified_other (by decide) (by decide), hnone']

theorem reached?_congr {l : Listener} {generated : String} {r : Request} (h : Headers.AgreeBut claimFields r.headers hs)
    (hstamp : ∀ id, stamp peer id r.headers = stamp peer id hs) :
    reached? l peer generated { r with headers := hs } = reached? l peer generated r := by
  have htexts (name : String) (hname : name ∉ claimFields) : hs.texts name = r.headers.texts name := by
    rw [Headers.texts, Headers.texts, h.all_eq hname]
  have hhost : hostOf? { r with headers := hs } = hostOf? r := by
    simp only [hostOf?, h.firstText?_eq (show "host" ∉ claimFields by decide)]
  have hupgrade : isUpgrade l { r with headers := hs } = isUpgrade l r := by
    simp only [isUpgrade, Handshake.isRequested, htexts "connection" (by decide),
      h.firstText?_eq (show "upgrade" ∉ claimFields by decide)]
  have hid : requestId hs generated = requestId r.headers generated := by
    simp only [requestId, h.firstText?_eq (show "x-request-id" ∉ claimFields by decide)]
  simp only [reached?, hhost, hupgrade, hid, hstamp]

end Agreement

theorem origin_cannot_be_claimed {peer : String} (hpeer : IsPlain peer) (l : Listener) (generated : String)
    (r : Request) :
    (∀ hs : Headers, Headers.AgreeBut claimFields r.headers hs →
      (r.headers.first? "host").isSome ∨ r.headers.all "x-forwarded-host" = [] ∧ hs.all "x-forwarded-host" = [] →
      reached? l peer generated { r with headers := hs } = reached? l peer generated r) ∧
    ∀ o, reached? l peer generated r = some o →
      o.headers.all "x-forwarded-for" = [.ofText "x-forwarded-for" peer] ∧
      o.headers.all "x-forwarded-proto" = [.ofText "x-forwarded-proto" "http"] ∧
      (∀ h, r.headers.first? "host" = some h →
        o.headers.all "x-forwarded-host" = [⟨"x-forwarded-host", h.value⟩]) ∧
      (r.headers.first? "host" = none → o.headers.all "x-forwarded-host" = r.headers.all "x-forwarded-host") ∧
      ((r.headers.firstText? "host").isSome ∨
          r.headers.first? "host" = none ∧ r.headers.all "x-forwarded-host" = [] →
        ∀ f ∈ o.headers.all "x-forwarded-host", f.text?.bind Hostname.ofAuthority? = hostOf? r) := by
  constructor
  · intro hs hagree hhost
    exact reached?_congr hagree fun id => stamp_congr hpeer id hagree hhost
  · intro o ho
    obtain ⟨host, b, -, -, -, hsent⟩ := reached?_eq_some ho
    obtain ⟨t, -, rfl⟩ := outgoing?_eq_some_iff.mp hsent
    simp only [all_withHost_other (show "x-forwarded-for" ≠ "host" by decide),
      all_withHost_other (show "x-forwarded-proto" ≠ "host" by decide),
      all_withHost_other (show "x-forwarded-host" ≠ "host" by decide)]
    refine ⟨all_stamp_peer hpeer, all_stamp_proto, fun h => all_stamp_host, all_stamp_no_host, ?_⟩
    rintro (htext | ⟨hnone, hclaim⟩)
    · obtain ⟨s, hs⟩ := Option.isSome_iff_exists.mp htext
      obtain ⟨h, hfirst, hh⟩ := Option.bind_eq_some_iff.mp hs
      intro f hf
      rw [all_stamp_host hfirst, List.mem_singleton] at hf
      subst hf
      have htext? : Header.text? ⟨"x-forwarded-host", h.value⟩ = some s := hh
      rw [htext?, hostOf?, hs]
      rfl
    · rw [all_stamp_no_host hnone, hclaim]
      simp

theorem origin_cannot_be_claimed_by_neighbour :
    let l : Listener := ⟨{}, sole (.plain "a" "a.example") 3001, fun _ => .failure⟩
    let host := Header.ofText "host" "A.example:8080"
    let r : Request := ⟨"GET", .path .root, [host, .ofText "accept" "*/*"], []⟩
    let claimed : Headers :=
      [.ofText "x-forwarded-host" "evil.example", .ofText "x-forwarded-for" "10.0.0.1", host,
        .ofText "x-forwarded-for" "10.0.0.2", .ofText "accept" "*/*"]
    IsPlain "203.0.113.9" ∧ Headers.AgreeBut claimFields r.headers claimed ∧
      reached? l "203.0.113.9" "id" { r with headers := claimed } = reached? l "203.0.113.9" "id" r ∧
      (reached? l "203.0.113.9" "id" r).map (·.headers.all "x-forwarded-host") =
        some [.ofText "x-forwarded-host" "A.example:8080"] := by
  intro l host r claimed
  have hpeer : IsPlain "203.0.113.9" := by decide
  have hagree : Headers.AgreeBut claimFields r.headers claimed := by decide +kernel
  have hsent : (reached? l "203.0.113.9" "id" r).map (·.headers.all "x-forwarded-host") =
      some [.ofText "x-forwarded-host" "A.example:8080"] := by decide +kernel
  exact ⟨hpeer, hagree, (origin_cannot_be_claimed hpeer l "id" r).1 claimed hagree (.inl rfl), hsent⟩

theorem claimed_host_goes_through :
    let l : Listener := ⟨{}, sole (.plain "a" "a.example") 3001, fun _ => .failure⟩
    let claimed : Headers := [.ofText "x-forwarded-host" "evil.example"]
    let r : Request := ⟨"GET", .absolute "http".toList "a.example".toList .root, [], []⟩
    Target.ofText? "http://a.example/" = some r.target ∧ Headers.AgreeBut claimFields r.headers claimed ∧
      hostOf? { r with headers := claimed } = some "a.example" ∧
      (reached? l "203.0.113.9" "id" r).map (·.headers.all "x-forwarded-host") = some [] ∧
      (reached? l "203.0.113.9" "id" { r with headers := claimed }).map (·.headers.all "x-forwarded-host") =
        some claimed := by
  decide +kernel

end NotebookHost.Forwarding
