import NotebookHost.Forwarding
import NotebookHost.Proofs.Http.Headers
import NotebookHost.Proofs.Text.Split
import NotebookHost.Session

namespace NotebookHost

open Text Http

theorem Text.mem_of_mem_trim {c : Char} {s : List Char} (h : c ∈ trim s) : c ∈ s := by
  have hstart : c ∈ trimStart s :=
    List.mem_reverse.mp ((List.dropWhile_sublist _).subset (List.mem_reverse.mp h))
  exact (List.dropWhile_sublist _).subset hstart

theorem Digest.Base64.encode_visible (bs : List UInt8) : ∀ c ∈ encode bs, 32 ≤ c.toNat ∧ c.toNat < 127 := by
  have hdigit {n : ℕ} (hn : n < 64) : 32 ≤ (digit n).toNat ∧ (digit n).toNat < 127 := by
    have hall : ∀ m : Fin 64, 32 ≤ (digit m).toNat ∧ (digit m).toNat < 127 := by decide
    exact hall ⟨n, hn⟩
  have hfill : 32 ≤ '='.toNat ∧ '='.toNat < 127 := by decide
  have hbyte (b : UInt8) : b.toNat < 256 := b.toNat_lt
  fun_induction encode bs with
  | case1 => exact List.forall_mem_nil _
  | case2 a =>
    have ha := hbyte a
    simp only [List.forall_mem_cons]
    exact ⟨hdigit (by omega), hdigit (by omega), hfill, hfill, List.forall_mem_nil _⟩
  | case3 a b =>
    have ha := hbyte a
    have hb := hbyte b
    simp only [List.forall_mem_cons]
    exact ⟨hdigit (by omega), hdigit (by omega), hdigit (by omega), hfill, List.forall_mem_nil _⟩
  | case4 a b c r ih =>
    have ha := hbyte a
    have hb := hbyte b
    have hc := hbyte c
    simp only [List.forall_mem_cons]
    exact ⟨hdigit (by omega), hdigit (by omega), hdigit (by omega), hdigit (by omega), ih⟩

def Http.Header.IsLegal (h : Header) : Prop := of? h.name h.value = some h

theorem Http.Header.ofText_isLegal {name s : String} (hname : IsName name) (hs : IsPlain s) : (ofText name s).IsLegal :=
  ofText?_of_isPlain hname hs

namespace Handshake

def protocolField : String := "sec-websocket-protocol"

/-- The client offers the subprotocol: it is what is left of a part of one of its lists without the blanks around it. -/
def Offers (headers : Headers) (s : String) : Prop :=
  s ≠ "" ∧ ∃ h ∈ headers, h.name = protocolField ∧
    ∃ v, h.text? = some v ∧ ∃ part ∈ split ',' v.toList, s = String.ofList (trim part)

def IsAgreed (headers : Headers) (supported : List String) (s : String) : Prop :=
  ∃ before after, supported = before ++ s :: after ∧ Offers headers s ∧ ∀ t ∈ before, ¬ Offers headers t

structure IsOpening (headers : Headers) : Prop where
  version : (headers.first? "sec-websocket-version").map (·.value) = some (encode "13")
  key : (headers.first? "sec-websocket-key").isSome

def Welcomes (settings : SocketSettings) (headers : Headers) : Prop :=
  "*" ∈ settings.origins ∨ ∃ origin ∈ settings.origins, headers.firstText? "origin" = some origin

theorem mem_offers_iff {headers : Headers} {s : String} : s ∈ offers headers ↔ Offers headers s := by
  have hempty : s.isEmpty = false ↔ s ≠ "" := by
    rw [ne_eq, ← String.isEmpty_iff, Bool.not_eq_true]
  simp only [offers, Headers.texts, Headers.all, List.mem_filter, List.mem_flatMap, List.mem_filterMap, List.mem_map,
    Bool.not_eq_true', hempty, beq_iff_eq]
  constructor
  · rintro ⟨⟨v, ⟨h, ⟨hmem, hname⟩, hv⟩, part, hpart, rfl⟩, hne⟩
    exact ⟨hne, h, hmem, hname, v, hv, part, hpart, rfl⟩
  · rintro ⟨hne, h, hmem, hname, v, hv, part, hpart, rfl⟩
    exact ⟨⟨v, ⟨h, ⟨hmem, hname⟩, hv⟩, part, hpart, rfl⟩, hne⟩

theorem Offers.isPlain {headers : Headers} {s : String} (h : Offers headers s) : IsPlain s := by
  obtain ⟨-, field, -, -, v, hv, part, hpart, rfl⟩ := h
  intro c hc
  rw [String.toList_ofList] at hc
  exact (Header.text?_eq_some hv).1 c (mem_of_mem_split hpart (mem_of_mem_trim hc))

theorem agreed?_eq_some_iff {headers : Headers} {supported : List String} {s : String} :
    agreed? headers supported = some s ↔ IsAgreed headers supported s := by
  rw [agreed?, List.find?_eq_some_iff_append, List.contains_iff_mem, mem_offers_iff]
  simp only [Bool.not_eq_true', List.contains_eq_mem, decide_eq_false_iff_not, mem_offers_iff]
  constructor
  · rintro ⟨hoffered, before, after, hsupported, hbefore⟩
    exact ⟨before, after, hsupported, hoffered, hbefore⟩
  · rintro ⟨before, after, hsupported, hoffered, hbefore⟩
    exact ⟨hoffered, before, after, hsupported, hbefore⟩

theorem isSome_agreed?_iff {headers : Headers} {supported : List String} :
    (agreed? headers supported).isSome ↔ ∃ s ∈ supported, Offers headers s := by
  simp only [agreed?, List.find?_isSome, List.contains_iff_mem, mem_offers_iff]

theorem allows_iff {settings : SocketSettings} {headers : Headers} :
    settings.allows (headers.firstText? "origin") = true ↔ Welcomes settings headers := by
  rw [SocketSettings.allows, Bool.or_eq_true, List.contains_iff_mem, Option.any_eq_true, Welcomes]
  simp only [List.contains_iff_mem, and_comm]

def opening (key : List UInt8) : Headers :=
  [.ofText "connection" "Upgrade", .ofText "upgrade" "websocket", .ofText "sec-websocket-accept" (acceptance key)]

def protocolFields (subprotocol : Option String) : Headers := (subprotocol.map (Header.ofText protocolField)).toList

def acceptingResponse (key : List UInt8) (subprotocol : Option String) : Response :=
  ⟨101, opening key ++ protocolFields subprotocol, []⟩

theorem acceptance_isPlain (key : List UInt8) : IsPlain (acceptance key) := by
  intro c hc
  rw [acceptance, String.toList_ofList] at hc
  exact .inr (Digest.Base64.encode_visible _ c hc)

theorem acceptingResponse_legal (key : List UInt8) {subprotocol : Option String}
    (h : ∀ s ∈ subprotocol, IsPlain s) :
    ∀ field ∈ (acceptingResponse key subprotocol).headers, field.IsLegal := by
  intro field hfield
  rcases List.mem_append.mp hfield with hfield | hfield
  · simp only [opening, List.mem_cons, List.not_mem_nil, or_false] at hfield
    rcases hfield with rfl | rfl | rfl
    · exact Header.ofText_isLegal (by decide +kernel) (by decide +kernel)
    · exact Header.ofText_isLegal (by decide +kernel) (by decide +kernel)
    · exact Header.ofText_isLegal (by decide +kernel) (acceptance_isPlain key)
  · obtain ⟨s, hs, rfl⟩ := Option.map_eq_some_iff.mp (Option.mem_toList.mp hfield)
    exact Header.ofText_isLegal (by decide +kernel) (h s hs)

theorem all_acceptingResponse (key : List UInt8) (subprotocol : Option String) :
    (acceptingResponse key subprotocol).headers.all protocolField = protocolFields subprotocol := by
  cases subprotocol <;> simp [acceptingResponse, opening, protocolFields, Headers.all, Header.ofText, protocolField]

theorem ofText?_protocolField {s : String} (h : IsPlain s) :
    Header.ofText? protocolField s = some (.ofText protocolField s) :=
  Header.ofText?_of_isPlain (by decide +kernel) h

theorem switching?_eq (key : List UInt8) {subprotocol : Option String} (h : ∀ s ∈ subprotocol, IsPlain s) :
    switching? key subprotocol = some (acceptingResponse key subprotocol) := by
  cases subprotocol with
  | none => rfl
  | some s =>
    change (Header.ofText? protocolField s).map _ = _
    rw [ofText?_protocolField (h s rfl)]
    rfl

theorem agreed?_isPlain (headers : Headers) (supported : List String) :
    ∀ s ∈ agreed? headers supported, IsPlain s := by
  intro s hs
  obtain ⟨before, after, -, hoffered, -⟩ := agreed?_eq_some_iff.mp hs
  exact hoffered.isPlain

section Answer

variable {settings : SocketSettings} {headers : Headers} (target : Target) (hostname : String)

theorem answer_of_not_opening (h : ¬ IsOpening headers) :
    ∃ message, answer settings target headers hostname = .error ⟨.invalidUpgrade, message⟩ := by
  unfold answer
  by_cases hversion : (headers.first? "sec-websocket-version").map (·.value) = some (encode "13")
  · rw [if_neg (not_not.mpr hversion)]
    cases hkey : headers.first? "sec-websocket-key" with
    | none => exact ⟨_, rfl⟩
    | some key => exact absurd ⟨hversion, by rw [hkey]; rfl⟩ h
  · rw [if_pos hversion]
    exact ⟨_, rfl⟩

theorem answer_of_unwelcome (h : IsOpening headers) (hwelcome : ¬ Welcomes settings headers) :
    answer settings target headers hostname = .error ⟨.originNotAllowed, "Origin not allowed"⟩ := by
  obtain ⟨key, hkey⟩ := Option.isSome_iff_exists.mp h.key
  unfold answer
  rw [if_neg (not_not.mpr h.version), hkey]
  dsimp only
  rw [if_neg (mt allows_iff.mp hwelcome)]

theorem answer_of_welcome (h : IsOpening headers) (hwelcome : Welcomes settings headers) :
    ∃ key, answer settings target headers hostname =
      .ok (acceptingResponse key (agreed? headers settings.subprotocols),
        { Upgrade.ofRequest target headers hostname with subprotocol := agreed? headers settings.subprotocols }) := by
  obtain ⟨key, hkey⟩ := Option.isSome_iff_exists.mp h.key
  refine ⟨key.value, ?_⟩
  unfold answer
  rw [if_neg (not_not.mpr h.version), hkey]
  dsimp only
  rw [if_pos (allows_iff.mpr hwelcome), switching?_eq _ (agreed?_isPlain headers settings.subprotocols)]

end Answer

theorem all_withSubprotocol {subprotocol : Option String} (h : ∀ s ∈ subprotocol, IsPlain s) {hs : Headers}
    (hnone : hs.all protocolField = []) :
    (Session.withSubprotocol subprotocol hs).all protocolField = protocolFields subprotocol := by
  cases subprotocol with
  | none => exact hnone
  | some s =>
    have hset : Session.withSubprotocol (some s) hs = hs.set protocolField (encode s) := by
      have hfield : Header.ofText? "sec-websocket-protocol" s = some (.ofText protocolField s) :=
        ofText?_protocolField (h s rfl)
      rw [Session.withSubprotocol, Option.bind_some, hfield]
      rfl
    rw [hset]
    exact Headers.all_set_self

theorem all_dialRequest {u : Upgrade} (h : ∀ s ∈ u.subprotocol, IsPlain s) {port : Port} {key : String}
    {request : Request} (hdial : Session.dialRequest? u port key = some request) :
    request.headers.all protocolField = protocolFields u.subprotocol := by
  unfold Session.dialRequest? at hdial
  split at hdial
  · cases hdial
  · split at hdial
    · cases hdial
    · cases hdial
      refine all_withSubprotocol h ?_
      simp [Headers.all, Header.ofText, protocolField]

theorem isSome_dialRequest?_iff (u : Upgrade) (port : Port) (key : String) :
    (Session.dialRequest? u port key).isSome ↔
      ((Target.ofText? (u.backendUrl port)).bind Target.authority?).isSome := by
  unfold Session.dialRequest?
  cases Target.ofText? (u.backendUrl port) with
  | none => rfl
  | some t =>
    dsimp only [Option.bind_some]
    cases t.authority? <;> rfl

structure IsAccepted (settings : SocketSettings) (headers : Headers) (r : Response) (u : Upgrade) : Prop where
  status : r.status = 101
  legal : ∀ field ∈ r.headers, field.IsLegal
  agreed : ∀ s, u.subprotocol = some s ↔ IsAgreed headers settings.subprotocols s
  answered : r.headers.all protocolField = protocolFields u.subprotocol
  answered_iff : r.headers.all protocolField ≠ [] ↔ ∃ s ∈ settings.subprotocols, Offers headers s
  dials : ∀ (port : Port) (key : String), (Session.dialRequest? u port key).isSome ↔
    ((Target.ofText? (u.backendUrl port)).bind Target.authority?).isSome
  dialled : ∀ (port : Port) (key : String) (request : Request), Session.dialRequest? u port key = some request →
    request.headers.all protocolField = r.headers.all protocolField

theorem isAccepted_of_agreed {settings : SocketSettings} {headers : Headers} (key : List UInt8) {u : Upgrade}
    (hu : u.subprotocol = agreed? headers settings.subprotocols) :
    IsAccepted settings headers (acceptingResponse key (agreed? headers settings.subprotocols)) u := by
  have hplain := agreed?_isPlain headers settings.subprotocols
  refine ⟨rfl, acceptingResponse_legal key hplain, ?_, ?_, ?_, isSome_dialRequest?_iff u, ?_⟩
  · intro s
    rw [hu]
    exact agreed?_eq_some_iff
  · rw [all_acceptingResponse, hu]
  · rw [all_acceptingResponse, ← isSome_agreed?_iff]
    cases agreed? headers settings.subprotocols <;> simp [protocolFields]
  · intro port dialKey request hdial
    rw [← hu] at hplain ⊢
    rw [all_dialRequest hplain hdial, all_acceptingResponse]

theorem answered_cases (settings : SocketSettings) (target : Target) (headers : Headers) (hostname : String) :
    let answered := Forwarding.Answer.ofHandshake (answer settings target headers hostname)
    (¬ IsOpening headers ∧ ∃ r, answered = .response r ∧ r.status = 400) ∨
    (IsOpening headers ∧ ¬ Welcomes settings headers ∧ ∃ r, answered = .response r ∧ r.status = 403) ∨
    (IsOpening headers ∧ Welcomes settings headers ∧
      ∃ r u, answered = .upgraded r u ∧ IsAccepted settings headers r u) := by
  intro answered
  by_cases hopening : IsOpening headers
  · by_cases hwelcome : Welcomes settings headers
    · obtain ⟨key, hanswer⟩ := answer_of_welcome target hostname hopening hwelcome
      exact .inr (.inr ⟨hopening, hwelcome, _, _, congrArg Forwarding.Answer.ofHandshake hanswer,
        isAccepted_of_agreed key rfl⟩)
    · have hanswer := answer_of_unwelcome target hostname hopening hwelcome
      exact .inr (.inl ⟨hopening, hwelcome, _, congrArg Forwarding.Answer.ofHandshake hanswer, rfl⟩)
  · obtain ⟨message, hanswer⟩ := answer_of_not_opening target hostname hopening
    exact .inl ⟨hopening, _, congrArg Forwarding.Answer.ofHandshake hanswer, rfl⟩

theorem negotiation_is_sound (settings : SocketSettings) (target : Target) (headers : Headers) (hostname : String) :
    let answered := Forwarding.Answer.ofHandshake (answer settings target headers hostname)
    ((∃ r u, answered = .upgraded r u) ↔ IsOpening headers ∧ Welcomes settings headers) ∧
    (∀ r u, answered = .upgraded r u → IsAccepted settings headers r u) ∧
    ∀ r, answered = .response r →
      ¬ IsOpening headers ∧ r.status = 400 ∨
        IsOpening headers ∧ ¬ Welcomes settings headers ∧ r.status = 403 := by
  intro answered
  rcases answered_cases settings target headers hostname with
    ⟨hclosed, r, hanswer, hstatus⟩ | ⟨hopening, hforeign, r, hanswer, hstatus⟩ |
      ⟨hopening, hwelcome, r, u, hanswer, haccepted⟩
  · refine ⟨⟨?_, ?_⟩, ?_, ?_⟩
    · rintro ⟨r', u', h⟩
      cases hanswer.symm.trans h
    · rintro ⟨hopening, -⟩
      exact absurd hopening hclosed
    · intro r' u' h
      cases hanswer.symm.trans h
    · intro r' h
      obtain rfl := Forwarding.Answer.response.inj (hanswer.symm.trans h)
      exact .inl ⟨hclosed, hstatus⟩
  · refine ⟨⟨?_, ?_⟩, ?_, ?_⟩
    · rintro ⟨r', u', h⟩
      cases hanswer.symm.trans h
    · rintro ⟨-, hwelcome⟩
      exact absurd hwelcome hforeign
    · intro r' u' h
      cases hanswer.symm.trans h
    · intro r' h
      obtain rfl := Forwarding.Answer.response.inj (hanswer.symm.trans h)
      exact .inr ⟨hopening, hforeign, hstatus⟩
  · refine ⟨⟨?_, ?_⟩, ?_, ?_⟩
    · intro _
      exact ⟨hopening, hwelcome⟩
    · intro _
      exact ⟨r, u, hanswer⟩
    · intro r' u' h
      obtain ⟨rfl, rfl⟩ := Forwarding.Answer.upgraded.inj (hanswer.symm.trans h)
      exact haccepted
    · intro r' h
      cases hanswer.symm.trans h

theorem negotiation_is_sound_up_to_dial :
    let settings : SocketSettings := { origins := ["https://a.example"], subprotocols := ["v2", "v1", "v0"] }
    let headers : Headers := [.ofText "sec-websocket-version" "13", .ofText "sec-websocket-key" "a",
      .ofText protocolField "v0,v3", .ofText "origin" "https://a.example", .ofText protocolField " v1 , "]
    ∃ r u request,
      Forwarding.Answer.ofHandshake (answer settings (.path ⟨"/ws".toList, none⟩) headers "a.example") =
        .upgraded r u ∧
      r.status = 101 ∧ u.subprotocol = some "v1" ∧ Session.dialRequest? u 3001 "b" = some request ∧
      r.headers.all protocolField = [.ofText protocolField "v1"] ∧
      request.headers.all protocolField = [.ofText protocolField "v1"] := by
  intro settings headers
  have hopening : IsOpening headers := ⟨by decide +kernel, by decide +kernel⟩
  have hwelcome : Welcomes settings headers := .inr ⟨"https://a.example", by decide, by decide +kernel⟩
  obtain ⟨key, hanswer⟩ := answer_of_welcome (.path ⟨"/ws".toList, none⟩) "a.example" hopening hwelcome
  have hagreed : agreed? headers settings.subprotocols = some "v1" := by decide +kernel
  rw [hagreed] at hanswer
  have hupgraded := congrArg Forwarding.Answer.ofHandshake hanswer
  have haccepted :=
    (negotiation_is_sound settings (.path ⟨"/ws".toList, none⟩) headers "a.example").2.1 _ _ hupgraded
  obtain ⟨request, hrequest⟩ := Option.isSome_iff_exists.mp ((haccepted.dials 3001 "b").mpr (by decide +kernel))
  refine ⟨_, _, request, hupgraded, haccepted.status, rfl, hrequest, haccepted.answered, ?_⟩
  rw [haccepted.dialled 3001 "b" request hrequest]
  exact haccepted.answered

end Handshake

end NotebookHost
