import NotebookHost.Management
import NotebookHost.Refusal
import NotebookHost.Proofs.Notebook.Lossless

namespace NotebookHost

open Http

structure Http.Response.Spells (r : Response) (status : ℕ) (j : Json) : Prop where
  status : r.status = status
  content : Json.ofBytes? r.body = some j

theorem Http.Response.json_spells (status : ℕ) {j : Json} (h : j.IsPlain) :
    (Response.json status j.render).Spells status j where
  status := rfl
  content := by
    change Json.ofBytes? (Text.encode j.render) = some j
    rw [Json.ofBytes?_encode, Json.ofString?_render h]

theorem Failure.le_httpStatus (f : Failure) : 400 ≤ f.httpStatus := by cases f <;> simp [httpStatus]

structure Refusal.IsToldBy (refusal : Refusal) (message : String) (r : Response) : Prop where
  status : r.status = refusal.httpStatus
  header : r.headers.all "x-proxy-error" = [.ofText "x-proxy-error" refusal.code]
  content : Json.ofBytes? r.body = some (.object [(some "code", .string (some refusal.code)),
    (some "error", .string (some message)), (some "status", .number (toString r.status))])

theorem Refusal.body_eq (refusal : Refusal) (message : String) :
    refusal.body message = .object [(some "code", .string (some refusal.code)), (some "error", .string (some message)),
      (some "status", .number (toString refusal.httpStatus))] := by
  rw [← capitalized_name]
  rfl

theorem Refusal.isPlain_body (refusal : Refusal) (message : String) : (refusal.body message).IsPlain :=
  ⟨rfl, rfl, rfl, rfl, rfl, ⟨refusal.httpStatus, rfl⟩, trivial⟩

theorem Refusal.isToldBy_response (refusal : Refusal) (message : String) :
    refusal.IsToldBy message (refusal.response message) where
  status := rfl
  header := by simp [response, Response.json, Headers.all, Header.ofText]
  content := by
    have hbody : (refusal.response message).body =
        (Response.json refusal.httpStatus (refusal.body message).render).body := by
      rw [response]
    have hspells := Response.json_spells refusal.httpStatus (refusal.isPlain_body message)
    rw [hbody, hspells.content, refusal.body_eq message]
    rfl

namespace Management

def refusalBody (message : String) : Json := .object [(some "error", .string (some message))]

def notebookEnvelope (n : Notebook) : Json := .object [(some "notebook", n.toJson)]

inductive IsEnvelope : Route → ℕ → Json → Prop
  | health : IsEnvelope .health 200 (.object [(some "status", .string (some "ok"))])
  | version : IsEnvelope .version 200
      (.object [(some "name", .string (some programName)), (some "version", .string (some programVersion))])
  | list (ns : List Notebook) : IsEnvelope .list 200 (.object [(some "notebooks", .array (ns.map Notebook.toJson))])
  | create (n : Notebook) : IsEnvelope .create 201 (notebookEnvelope n)
  | get (id : String) (n : Notebook) : IsEnvelope (.get id) 200 (notebookEnvelope n)
  | update (id : String) (n : Notebook) : IsEnvelope (.update id) 200 (notebookEnvelope n)
  | status (id : String) (s : Status) : IsEnvelope (.status id) 200 (.object [(some "status", .string (some s.name))])
  | refusal (route : Route) {status : ℕ} (refused : 400 ≤ status) (message : String) :
      IsEnvelope route status (refusalBody message)

structure IsDraft (body : Except String (List UInt8)) (d : Draft) : Prop where
  read : ∃ bytes, body = .ok bytes ∧ Draft.decode? bytes = some d
  valid : d.refusal? = none

def TakesDraft (route : Route) : Prop := route = .create ∨ ∃ id, route = .update id

/-- What a request is refused for: the status and the message that the client is meant to see. -/
inductive Refuses (w : Circumstances) (route : Route) (body : Except String (List UInt8)) (hub : Hub) :
    ℕ → String → Prop
  | nowhere (lost : route = .notFound) : Refuses w route body hub 404 "Not found"
  | method (untaken : route = .methodNotAllowed) : Refuses w route body hub 405 "Method not allowed"
  | unread (takes : TakesDraft route) {e : String} (broken : body = .error e) :
      Refuses w route body hub 500 ("Internal error: " ++ e)
  | malformed (takes : TakesDraft route) {bytes : List UInt8} (read : body = .ok bytes)
      (undecoded : Draft.decode? bytes = none) : Refuses w route body hub 400 "Invalid request"
  | invalid (takes : TakesDraft route) {bytes : List UInt8} (read : body = .ok bytes) {d : Draft}
      (decoded : Draft.decode? bytes = some d) {reason : String} (faulty : d.refusal? = some reason) :
      Refuses w route body hub 400 reason
  | incomplete (creates : route = .create) {d : Draft} (draft : IsDraft body d)
      (missing : d.name = none ∨ d.path = none ∨ d.domain = none) :
      Refuses w route body hub 400 "Missing required fields"
  | unknown {id : String} (asks : route = .get id ∨ route = .reload id)
      (none_found : hub.catalogue.find? w.outage id = none) : Refuses w route body hub 404 "Notebook not found"
  | uncreated (creates : route = .create) {d : Draft} (draft : IsDraft body d)
      (complete : d.name ≠ none ∧ d.path ≠ none ∧ d.domain ≠ none) {f : Failure}
      (failed : (hub.catalogue.add w.outage w.birth d).2 = .error f) :
      Refuses w route body hub f.httpStatus f.message
  | unchanged {id : String} (updates : route = .update id) {d : Draft} (draft : IsDraft body d) {f : Failure}
      (failed : (hub.catalogue.update w.outage id d).2 = .error f) : Refuses w route body hub f.httpStatus f.message
  | undeleted {id : String} (deletes : route = .delete id) {f : Failure}
      (failed : (hub.catalogue.delete w.outage id).2 = .error f) : Refuses w route body hub f.httpStatus f.message
  | unreported {id : String} (asks : route = .status id) {f : Failure} (failed : hub.supervisor.status id = .error f) :
      Refuses w route body hub f.httpStatus f.message
  | unreloaded {id : String} (reloads : route = .reload id) {n : Notebook}
      (found : hub.catalogue.find? w.outage id = some n) {f : Failure}
      (failed : (hub.supervisor.reload w.machine n).2 = .error f) : Refuses w route body hub f.httpStatus f.message

theorem error_spells (status : ℕ) (message : String) : (error status message).Spells status (refusalBody message) :=
  Response.json_spells status ⟨rfl, rfl, trivial⟩

theorem isPlain_notebooks (ns : List Notebook) : Json.ArePlain (ns.map Notebook.toJson) := by
  induction ns with
  | nil => trivial
  | cons n ns ih => exact ⟨n.isPlain_toJson, ih⟩

inductive Reaction (w : Circumstances) (route : Route) (body : Except String (List UInt8)) (hub : Hub)
    (r : Response) : Prop
  | done (empty : r.status = 204)
  | content {status : ℕ} {j : Json} (spells : r.Spells status j) (low : status < 400)
      (envelope : IsEnvelope route status j)
  | refusal {status : ℕ} {message : String} (spells : r.Spells status (refusalBody message)) (high : 400 ≤ status)
      (meant : Refuses w route body hub status message)

section Reaction

variable {w : Circumstances} {route : Route} {body : Except String (List UInt8)} {hub : Hub}

theorem reaction_error {status : ℕ} {message : String} (high : 400 ≤ status)
    (meant : Refuses w route body hub status message) : Reaction w route body hub (error status message) :=
  .refusal (error_spells status message) high meant

theorem reaction_failure {f : Failure} (meant : Refuses w route body hub f.httpStatus f.message) :
    Reaction w route body hub (failure f) :=
  reaction_error f.le_httpStatus meant

theorem reaction_notebook {status : ℕ} {result : Except Failure Notebook} (low : status < 400)
    (envelope : ∀ n, IsEnvelope route status (notebookEnvelope n))
    (meant : ∀ f, result = .error f → Refuses w route body hub f.httpStatus f.message) :
    Reaction w route body hub (answerNotebook status result) := by
  cases result with
  | error f => exact reaction_failure (meant f rfl)
  | ok n => exact .content (Response.json_spells status ⟨rfl, n.isPlain_toJson, trivial⟩) low (envelope n)

theorem reaction_done {result : Except Failure Unit}
    (meant : ∀ f, result = .error f → Refuses w route body hub f.httpStatus f.message) :
    Reaction w route body hub (answerDone result) := by
  cases result with
  | error f => exact reaction_failure (meant f rfl)
  | ok => exact .done rfl

theorem withDraft_malformed {bytes : List UInt8} (undecoded : Draft.decode? bytes = none)
    (act : Draft → Hub × Response) : withDraft (.ok bytes) hub act = (hub, error 400 "Invalid request") := by
  simp only [withDraft, readDraft, undecoded]

theorem withDraft_invalid {bytes : List UInt8} {d : Draft} (decoded : Draft.decode? bytes = some d) {reason : String}
    (faulty : d.refusal? = some reason) (act : Draft → Hub × Response) :
    withDraft (.ok bytes) hub act = (hub, error 400 reason) := by
  simp only [withDraft, readDraft, decoded, faulty]

theorem withDraft_draft {d : Draft} (draft : IsDraft body d) (act : Draft → Hub × Response) :
    withDraft body hub act = act d := by
  obtain ⟨⟨bytes, rfl, decoded⟩, valid⟩ := draft
  simp only [withDraft, readDraft, decoded, valid]

theorem reaction_withDraft (takes : TakesDraft route) {act : Draft → Hub × Response}
    (hact : ∀ d, IsDraft body d → Reaction w route body hub (act d).2) :
    Reaction w route body hub (withDraft body hub act).2 := by
  cases body with
  | error e => exact reaction_error (by decide) (.unread takes rfl)
  | ok bytes =>
    cases hdecoded : Draft.decode? bytes with
    | none =>
      rw [withDraft_malformed hdecoded]
      exact reaction_error (by decide) (.malformed takes rfl hdecoded)
    | some d =>
      cases hfaulty : d.refusal? with
      | some reason =>
        rw [withDraft_invalid hdecoded hfaulty]
        exact reaction_error (by decide) (.invalid takes rfl hdecoded hfaulty)
      | none =>
        have hdraft : IsDraft (.ok bytes) d := ⟨⟨bytes, rfl, hdecoded⟩, hfaulty⟩
        rw [withDraft_draft hdraft]
        exact hact d hdraft

theorem reaction_create {d : Draft} (draft : IsDraft body d) : Reaction w .create body hub (create w d hub).2 := by
  rw [create]
  split_ifs with hmissing
  · exact reaction_error (by decide) (.incomplete rfl draft (by simpa [or_assoc] using hmissing))
  · have hcomplete : d.name ≠ none ∧ d.path ≠ none ∧ d.domain ≠ none := by simpa [and_assoc] using hmissing
    exact reaction_notebook (by decide) .create fun f hf => .uncreated rfl draft hcomplete hf

theorem reaction_get (id : String) : Reaction w (.get id) body hub (get w id hub) := by
  cases hfound : hub.catalogue.find? w.outage id with
  | none =>
    rw [get, hfound]
    exact reaction_error (by decide) (.unknown (.inl rfl) hfound)
  | some n =>
    rw [get, hfound]
    exact .content (Response.json_spells 200 ⟨rfl, n.isPlain_toJson, trivial⟩) (by decide) (.get id n)

theorem reaction_status (id : String) : Reaction w (.status id) body hub (status id hub) := by
  cases hstatus : hub.supervisor.status id with
  | error f =>
    rw [status, hstatus]
    exact reaction_failure (.unreported rfl hstatus)
  | ok s =>
    rw [status, hstatus]
    exact .content (Response.json_spells 200 ⟨rfl, rfl, trivial⟩) (by decide) (.status id s)

theorem reaction_reload (id : String) : Reaction w (.reload id) body hub (reload w id hub).2 := by
  cases hfound : hub.catalogue.find? w.outage id with
  | none =>
    rw [reload, hfound]
    exact reaction_error (by decide) (.unknown (.inr rfl) hfound)
  | some n =>
    rw [reload, hfound]
    exact reaction_done fun f hf => .unreloaded rfl hfound hf

end Reaction

theorem reaction_answer (w : Circumstances) (method path : String) (body : Except String (List UInt8)) (hub : Hub) :
    Reaction w (Route.ofRequest method path) body hub (answer w method path body hub).2 := by
  rw [answer]
  generalize Route.ofRequest method path = route
  cases route with
  | health => exact .content (Response.json_spells 200 ⟨rfl, rfl, trivial⟩) (by decide) .health
  | version => exact .content (Response.json_spells 200 ⟨rfl, rfl, rfl, rfl, trivial⟩) (by decide) .version
  | list => exact .content (Response.json_spells 200 ⟨rfl, isPlain_notebooks _, trivial⟩) (by decide) (.list _)
  | create => exact reaction_withDraft (.inl rfl) fun d hd => reaction_create hd
  | get id => exact reaction_get id
  | update id =>
    exact reaction_withDraft (.inr ⟨id, rfl⟩) fun d hd =>
      reaction_notebook (by decide) (.update id) fun f hf => .unchanged rfl hd hf
  | delete id => exact reaction_done fun f hf => .undeleted rfl hf
  | status id => exact reaction_status id
  | reload id => exact reaction_reload id
  | methodNotAllowed => exact reaction_error (by decide) (.method rfl)
  | notFound => exact reaction_error (by decide) (.nowhere rfl)

theorem answer_of_takesDraft {w : Circumstances} {method path : String} {body : Except String (List UInt8)} {hub : Hub}
    (takes : TakesDraft (Route.ofRequest method path)) :
    ∃ act, answer w method path body hub = withDraft body hub act := by
  rcases takes with h | ⟨id, h⟩
  · exact ⟨fun d => create w d hub, by rw [answer, h]⟩
  · exact ⟨fun d => update w id d hub, by rw [answer, h]⟩

theorem answer_of_refuses {w : Circumstances} {method path : String} {body : Except String (List UInt8)} {hub : Hub}
    {status : ℕ} {message : String} (h : Refuses w (Route.ofRequest method path) body hub status message) :
    (answer w method path body hub).2 = error status message := by
  cases h with
  | nowhere lost => rw [answer, lost]
  | method untaken => rw [answer, untaken]
  | unread takes broken =>
    obtain ⟨act, hact⟩ := answer_of_takesDraft takes
    rw [hact, broken, withDraft]
  | malformed takes read undecoded =>
    obtain ⟨act, hact⟩ := answer_of_takesDraft takes
    rw [hact, read, withDraft_malformed undecoded]
  | invalid takes read decoded faulty =>
    obtain ⟨act, hact⟩ := answer_of_takesDraft takes
    rw [hact, read, withDraft_invalid decoded faulty]
  | incomplete creates draft missing =>
    simp only [answer, creates, withDraft_draft draft]
    rw [create, if_pos (by simpa [or_assoc] using missing)]
  | unknown asks none_found =>
    rcases asks with asks | asks
    · simp only [answer, asks, get, none_found]
    · simp only [answer, asks, reload, none_found]
  | uncreated creates draft complete failed =>
    simp only [answer, creates, withDraft_draft draft]
    rw [create, if_neg (by simpa [and_assoc] using complete)]
    simp only [Hub.onCatalogue, failed, answerNotebook, failure]
  | unchanged updates draft failed =>
    simp only [answer, updates, withDraft_draft draft, update, Hub.onCatalogue, failed, answerNotebook, failure]
  | undeleted deletes failed => simp only [answer, deletes, delete, Hub.onCatalogue, failed, answerDone, failure]
  | unreported asks failed => simp only [answer, asks, Management.status, failed, failure]
  | unreloaded reloads found failed =>
    simp only [answer, reloads, reload, found, Hub.onSupervisor, failed, answerDone, failure]

theorem bodies_are_well_formed :
    (∀ (w : Circumstances) (method path : String) (body : Except String (List UInt8)) (hub : Hub),
      let route := Route.ofRequest method path
      let r := (answer w method path body hub).2
      (r.status ≠ 204 → ∃ j, Json.ofBytes? r.body = some j ∧ IsEnvelope route r.status j) ∧
      (400 ≤ r.status → ∃ message, Refuses w route body hub r.status message ∧
        Json.ofBytes? r.body = some (refusalBody message)) ∧
      ∀ status message, Refuses w route body hub status message → r.Spells status (refusalBody message)) ∧
    ∀ (refusal : Refusal) (message : String), refusal.IsToldBy message (refusal.response message) := by
  refine ⟨fun w method path body hub => ⟨?_, ?_, ?_⟩, Refusal.isToldBy_response⟩
  · intro hstatus
    cases reaction_answer w method path body hub with
    | done empty => exact absurd empty hstatus
    | content spells low envelope => exact ⟨_, spells.content, spells.status ▸ envelope⟩
    | refusal spells high meant => exact ⟨_, spells.content, .refusal _ (spells.status ▸ high) _⟩
  · intro hstatus
    cases reaction_answer w method path body hub with
    | done empty => omega
    | content spells low envelope => exact absurd spells.status (by omega)
    | refusal spells high meant => exact ⟨_, spells.status ▸ meant, spells.content⟩
  · intro status message h
    rw [answer_of_refuses h]
    exact error_spells status message

end Management

end NotebookHost
