import NotebookHost.Proofs.Forwarding.Reached
import NotebookHost.Proofs.Http.Target
import NotebookHost.Session

namespace NotebookHost

open Http

structure Http.Target.LeadsTo (t : Target) (scheme : String) (port : Port) : Prop where
  form : ∃ p : PathQuery, t = .absolute scheme.toList (Target.loopback port) p
  host : t.host? = some Target.loopbackHost
  port : t.port? = some port.toNat

theorem Http.Target.leadsTo_absolute (scheme : String) (port : Port) (p : PathQuery) :
    (Target.absolute scheme.toList (Target.loopback port) p).LeadsTo scheme port where
  form := ⟨p, rfl⟩
  host := by simp [Target.host?, Target.authority?, Target.hostOf_loopback]
  port := by simp [Target.port?, Target.authority?, Target.portOf?_loopback]

/-- A text that is read as such an address, if it is not too long for one. -/
def LeadsTo (address scheme : String) (port : Port) : Prop :=
  if Target.maxBytes < address.utf8ByteSize then Target.ofText? address = none
  else ∃ t, Target.ofText? address = some t ∧ t.LeadsTo scheme port

theorem leadsTo_of_toList {address scheme : String} {port : Port} {p : PathQuery} (hp : p.IsWellFormed)
    (haddress : address.toList = scheme.toList ++ ':' :: '/' :: '/' :: (Target.loopback port ++ p.toChars))
    (hscheme : scheme = "http" ∨ scheme = "ws") : LeadsTo address scheme port := by
  have hread : Target.ofText? address =
      if Target.maxBytes < address.utf8ByteSize then none
      else some (.absolute scheme.toList (Target.loopback port) p) := by
    apply Target.ofText?_loopback hp haddress <;> rcases hscheme with rfl | rfl <;> decide
  unfold LeadsTo
  rw [hread]
  split
  · rfl
  · exact ⟨_, rfl, Target.leadsTo_absolute scheme port p⟩

theorem LeadsTo.of_some {address scheme : String} {port : Port} {t : Target} (h : LeadsTo address scheme port)
    (ht : Target.ofText? address = some t) : t.LeadsTo scheme port := by
  unfold LeadsTo at h
  split at h
  · rw [ht] at h
    cases h
  · obtain ⟨t', ht', hleads⟩ := h
    rw [ht] at ht'
    cases ht'
    exact hleads

theorem toList_place {front : String} (scheme rest : String) (port : Port)
    (hfront : front.toList = scheme.toList ++ ':' :: '/' :: '/' :: (Target.loopbackHost.toList ++ [':'])) :
    (front ++ port.toText ++ rest).toList =
      scheme.toList ++ ':' :: '/' :: '/' :: (Target.loopback port ++ rest.toList) := by
  unfold Port.toText Target.loopback
  rw [String.toList_append, String.toList_append, hfront]
  simp only [String.toList_ofList, List.append_assoc, List.cons_append, List.nil_append]

namespace Forwarding

theorem toList_backendAddress (port : Port) (t : Target) :
    (backendAddress port t).toList =
      "http".toList ++ ':' :: '/' :: '/' :: (Target.loopback port ++ t.pathQuery.toChars) := by
  rw [← Target.toList_pathQuery?]
  exact toList_place "http" _ port (by decide)

theorem leadsTo_backendAddress {t : Target} (ht : t.IsWellFormed) (hstar : t ≠ .star) (port : Port) :
    LeadsTo (backendAddress port t) "http" port :=
  leadsTo_of_toList (ht.pathQuery hstar) (toList_backendAddress port t) (.inl rfl)

end Forwarding

section Upgrade

def Upgrade.asked (u : Upgrade) : PathQuery := ⟨u.path.toList, (u.query.map String.toList).filter (!·.isEmpty)⟩

theorem toList_backendUrl (u : Upgrade) (port : Port) :
    (u.backendUrl port).toList = "ws".toList ++ ':' :: '/' :: '/' :: (Target.loopback port ++ u.asked.toChars) := by
  have hrest (q : String) : ("ws://127.0.0.1:" ++ port.toText ++ u.path ++ q).toList =
      "ws".toList ++ ':' :: '/' :: '/' :: (Target.loopback port ++ (u.path.toList ++ q.toList)) := by
    rw [String.append_assoc, toList_place "ws" _ port (by decide), String.toList_append]
  unfold Upgrade.backendUrl
  rw [hrest]
  unfold Upgrade.asked PathQuery.toChars
  cases u.query with
  | none => simp
  | some q => by_cases hq : q = "" <;> simp [hq, Option.filter]

theorem leadsTo_backendUrl {u : Upgrade} (hpath : ∀ c ∈ u.path.toList, PathQuery.isPathChar c = true)
    (hroot : u.path.toList.head? = some '/')
    (hquery : ∀ q, u.query = some q → ∀ c ∈ q.toList, PathQuery.isQueryChar c = true) (port : Port) :
    LeadsTo (u.backendUrl port) "ws" port := by
  refine leadsTo_of_toList ⟨hpath, ?_, .inr hroot⟩ (toList_backendUrl u port) (.inr rfl)
  intro q hq
  obtain ⟨hsome, -⟩ := Option.filter_eq_some_iff.mp hq
  obtain ⟨q', hq', rfl⟩ := Option.map_eq_some_iff.mp hsome
  exact hquery q' hq'

theorem target_of_dialRequest? {u : Upgrade} {port : Port} {key : String} {r : Request}
    (h : Session.dialRequest? u port key = some r) :
    Target.ofText? (u.backendUrl port) = some r.target := by
  unfold Session.dialRequest? at h
  split at h
  · cases h
  · next t ht =>
    split at h
    · cases h
    · cases h
      exact ht

end Upgrade

namespace Forwarding

structure Outgoing.GoesTo (o : Outgoing) (port : Port) : Prop where
  host : o.host = Target.loopbackHost
  port : o.port = port.toNat

theorem goesTo_of_outgoing? {r : Request} {port : Port} {o : Outgoing} (h : outgoing? r port = some o)
    (ht : r.target.IsWellFormed) (hstar : r.target ≠ .star) : o.GoesTo port := by
  obtain ⟨t, ht', rfl⟩ := outgoing?_eq_some_iff.mp h
  have hleads := (leadsTo_backendAddress ht hstar port).of_some ht'
  constructor
  · simp [hleads.host]
  · simp [hleads.port]

theorem requests_stay_on_their_port {asked : String} {t : Target} (hasked : Target.ofText? asked = some t) :
    (t ≠ .star → ∀ port, LeadsTo (backendAddress port t) "http" port) ∧
    (t ≠ .star → ∀ (l : Listener) (peer generated : String) (r : Request), r.target = t →
      (∀ o, reached? l peer generated r = some o →
        ∃ host b, hostOf? r = some host ∧ l.directory.resolve host = .ok b ∧ o.GoesTo b.port) ∧
      ∀ exchange : Outgoing → Reply,
        (∀ o host b, hostOf? r = some host → l.directory.resolve host = .ok b → o.GoesTo b.port →
          exchange o = l.exchange o) →
        ∀ stats, answer { l with exchange } peer generated r stats = answer l peer generated r stats) ∧
    ∀ (settings : SocketSettings) (headers : Headers) (hostname : String) (subprotocol : Option String),
      settings.path.toList.head? = some '/' → Handshake.serves settings t.pathText = true →
      let u := { Upgrade.ofRequest t headers hostname with subprotocol }
      ∀ port, LeadsTo (u.backendUrl port) "ws" port ∧
        ∀ key r, Session.dialRequest? u port key = some r → r.target.LeadsTo "ws" port := by
  have ht := Target.ofText?_isWellFormed hasked
  refine ⟨leadsTo_backendAddress ht, ?_, ?_⟩
  · rintro hstar l peer generated r rfl
    have hgoes : ∀ o, reached? l peer generated r = some o →
        ∃ host b, hostOf? r = some host ∧ l.directory.resolve host = .ok b ∧ o.GoesTo b.port := by
      intro o ho
      obtain ⟨host, b, hhost, -, hb, hsent⟩ := reached?_eq_some ho
      exact ⟨host, b, hhost, hb, goesTo_of_outgoing? hsent ht hstar⟩
    refine ⟨hgoes, ?_⟩
    intro exchange hexchange
    apply answer_congr
    intro o ho
    obtain ⟨host, b, hhost, hb, ho⟩ := hgoes o ho
    exact hexchange o host b hhost hb ho
  · intro settings headers hostname subprotocol hroot hserves u port
    have hpath : t.pathText = settings.path := by simpa [Handshake.serves] using hserves
    have hleads : LeadsTo (u.backendUrl port) "ws" port := by
      apply leadsTo_backendUrl
      · exact ht.isPathChar_pathText
      · rw [← hpath] at hroot
        exact hroot
      · exact fun q hq => ht.isQueryChar_query? hq
    refine ⟨hleads, ?_⟩
    intro key r hr
    exact hleads.of_some (target_of_dialRequest? hr)

theorem requests_stay_on_their_port_of_user :
    let t : Target := .absolute "http".toList "x@a.example:81".toList ⟨"/ws".toList, some "@b.example:82".toList⟩
    Target.ofText? "http://x@a.example:81/ws?@b.example:82#c" = some t ∧ t ≠ .star ∧
      LeadsTo (backendAddress 3001 t) "http" 3001 ∧
      LeadsTo ((Upgrade.ofRequest t [] "a.example").backendUrl 3001) "ws" 3001 := by
  intro t
  have hasked : Target.ofText? "http://x@a.example:81/ws?@b.example:82#c" = some t := by decide +kernel
  have hstar : t ≠ .star := by simp [t]
  obtain ⟨haddress, -, hupgrade⟩ := requests_stay_on_their_port hasked
  exact ⟨hasked, hstar, haddress hstar 3001,
    (hupgrade {} [] "a.example" none (by decide) (by decide +kernel) 3001).1⟩

theorem star_leaves_its_port :
    let r : Request := ⟨"OPTIONS", .star, [.ofText "host" "a.example"], []⟩
    Target.ofText? "*" = some r.target ∧ backendAddress 3001 r.target = "http://127.0.0.1:3001*" ∧
      ¬ LeadsTo (backendAddress 3001 r.target) "http" 3001 ∧
      (outgoing? r 3001).map (fun o => (o.host, o.port)) = some (Target.loopbackHost, 80) := by
  intro r
  have hread : Target.ofText? (backendAddress 3001 r.target) =
      some (.absolute "http".toList "127.0.0.1:3001*".toList ⟨[], none⟩) := by decide +kernel
  refine ⟨by decide +kernel, by decide +kernel, ?_, by decide +kernel⟩
  intro h
  exact absurd (h.of_some hread).port (by decide +kernel)

end Forwarding

end NotebookHost
