import NotebookHost.Proofs.Catalogue.Lookup
import NotebookHost.Proofs.Hub.Steps

namespace NotebookHost

open Text

namespace Hub

structure Serves (hub : Hub) (host : String) (b : Backend) : Prop where
  owner : ∃ n, hub.catalogue.store.record? b.id = some n ∧ n.id = b.id ∧ sameLetters n.domain host = true
  handle : ∃ h, hub.supervisor.handles[b.id]? = some h ∧ h.status = .running ∧ h.port = b.port

theorem resolve_serves {o : Outage} {hub : Hub} {host : String} {b : Backend}
    (hstore : hub.catalogue.store.IsWellFormed) (h : hub.resolve o host = .ok b) : hub.Serves host b := by
  unfold resolve Directory.resolve directory at h
  dsimp only at h
  split at h
  · cases h
  · next n hn =>
    obtain ⟨⟨id, hrec⟩, hdomain⟩ := Catalogue.findByDomain?_sound hn
    split at h
    · cases h
    · next port hport =>
      obtain ⟨handle, hhandle, hhport⟩ := Option.map_eq_some_iff.mp hport
      have hstatus : hub.supervisor.status n.id = .ok handle.status := by
        rw [Supervisor.status, Supervisor.find_eq_ok_iff.mpr hhandle]
      rw [hstatus] at h
      split at h
      · next hrunning =>
        cases h
        exact ⟨⟨n, hstore.record?_id hrec, rfl, hdomain⟩, handle, hhandle, Except.ok.inj hrunning, hhport⟩
      · cases h
      · cases h

theorem Serves.port {hub : Hub} {host : String} {b : Backend} {t : Seating} (h : hub.Serves host b)
    (ht : hub.supervisor.IsSeated t) : ∃ seat, t.seat? b.id = some seat ∧ seat.port = b.port := by
  obtain ⟨handle, hhandle, _, hport⟩ := h.handle
  refine ⟨handle.seat, ?_, hport⟩
  rw [ht.seat?_eq, hhandle]
  rfl

theorem Serves.sameLetters {hub : Hub} {g h : String} {a b : Backend} (ha : hub.Serves g a) (hb : hub.Serves h b)
    (hid : a.id = b.id) : Text.sameLetters g h = true := by
  obtain ⟨m, hm, _, hg⟩ := ha.owner
  obtain ⟨n, hn, _, hh⟩ := hb.owner
  rw [hid, hn] at hm
  cases hm
  rw [sameLetters_comm] at hg
  exact sameLetters_trans hg hh

theorem resolve_isolates {o : Outage} {store : Store} {settings : LaunchSettings} {ports : PortRange} {hub : Hub}
    (hstore : store.IsWellFormed) (hopen : ofStore o store (.fresh settings ports) = .ok hub)
    (early late : List (Management.Circumstances × Step))
    (hroom : ports.first.toNat + hub.portRequests (early ++ late) < 2 ^ 32) :
    (∀ (o o' : Outage) (g h : String) (a b : Backend), Text.sameLetters g h = false →
      (hub.run early).resolve o g = .ok a → (hub.run early).resolve o' h = .ok b →
      a.id ≠ b.id ∧ a.port ≠ b.port) ∧
    (∀ (id : String) (port : Port), (hub.run early).supervisor.port? id = some port →
      ∀ (o : Outage) (h : String) (b : Backend), (hub.run (early ++ late)).resolve o h = .ok b →
        b.port = port → b.id = id) ∧
    ∀ (o : Outage) (h : String) (b : Backend), (hub.run early).resolve o h = .ok b →
      (hub.run early).Serves h b := by
  obtain ⟨hcatalogue, hsupervisor, -⟩ := ofStore_catalogue hopen
  rw [← Catalogue.ofStore_store hcatalogue] at hstore
  have hfresh := Supervisor.fresh_isSeated settings ports
  rw [← hsupervisor] at hfresh
  rw [portRequests_append] at hroom
  obtain ⟨t, ht, hasked, hstart⟩ :=
    run_seats hfresh (Supervisor.fresh_hasAsked settings ports) early (by dsimp only; omega)
  have hports : t.ports = ports := hstart.ports
  obtain ⟨u, hu, -, hlater⟩ := run_seats ht hasked late (by rw [hports]; omega)
  have hearly := run_isWellFormed hstore early
  have hlate := run_isWellFormed hearly late
  refine ⟨?_, ?_, fun o h b hb => resolve_serves hearly hb⟩
  · intro o o' g h a b hdiffer hg hh
    have ha := resolve_serves hearly hg
    have hb := resolve_serves hearly hh
    have hid : a.id ≠ b.id := by
      intro hid
      rw [ha.sameLetters hb hid] at hdiffer
      cases hdiffer
    refine ⟨hid, fun hport => hid ?_⟩
    obtain ⟨x, hx, hxport⟩ := ha.port ht
    obtain ⟨y, hy, hyport⟩ := hb.port ht
    exact hasked.apart hx hy (by rw [hxport, hyport, hport])
  · intro id port hport o h b hb hsame
    rw [run_append] at hb
    obtain ⟨x, hx, hxport⟩ := (resolve_serves hlate hb).port hu
    obtain ⟨handle, hhandle, hhport⟩ := Option.map_eq_some_iff.mp hport
    have hy : t.seat? id = some handle.seat := by
      rw [ht.seat?_eq, hhandle]
      rfl
    have hyport : handle.seat.port = x.port := by rw [hxport, hsame]; exact hhport
    rcases hlater.kept hx with ⟨z, hz, hzport⟩ | hnew
    · exact hasked.apart hz hy (by rw [hzport, hyport])
    · -- A port that was counted already is not a new one.
      have hcounted := (hasked.counted hy).2
      rw [hyport] at hcounted
      omega

theorem resolve_isolates_restarted :
    let hub : Hub := { catalogue := {}, supervisor := .fresh {} ⟨9000, 9010⟩ }
    let early := admission "a" "a.example" ++ admission "b" "b.example"
    let late := restart "a"
    ofStore {} ∅ (.fresh {} ⟨9000, 9010⟩) = .ok hub ∧
      ((hub.run early).resolve {} "A.example" = .ok ⟨"a", 9001⟩ ∧
        (hub.run early).resolve {} "b.example" = .ok ⟨"b", 9002⟩ ∧
        "a" ≠ "b" ∧ (9001 : Port) ≠ 9002) ∧
      (hub.run early).Serves "A.example" ⟨"a", 9001⟩ ∧
      ∃ b, (hub.run (early ++ late)).resolve {} "a.example" = .ok b ∧ b.port = 9001 ∧ b.id = "a" := by
  intro hub early late
  have hopen : ofStore {} ∅ (.fresh {} ⟨9000, 9010⟩) = .ok hub := rfl
  have hroom : (9000 : Port).toNat + hub.portRequests (early ++ late) < 2 ^ 32 := by
    have hlength : hub.portRequests (early ++ late) ≤ 6 := hub.portRequests_le_length (early ++ late)
    have hfirst : (9000 : Port).toNat = 9000 := rfl
    omega
  obtain ⟨ha, hb, hport, hlate⟩ : (hub.run early).resolve {} "A.example" = .ok ⟨"a", 9001⟩ ∧
      (hub.run early).resolve {} "b.example" = .ok ⟨"b", 9002⟩ ∧
      (hub.run early).supervisor.port? "a" = some 9001 ∧
      (hub.run (early ++ late)).resolve {} "a.example" = .ok ⟨"a", 9001⟩ := by decide +kernel
  obtain ⟨happart, hkept, hserves⟩ := resolve_isolates .empty hopen early late hroom
  obtain ⟨hid, hports⟩ := happart _ _ _ _ _ _ (by decide) ha hb
  exact ⟨hopen, ⟨ha, hb, hid, hports⟩, hserves _ _ _ ha, _, hlate, rfl, hkept "a" 9001 hport _ _ _ hlate rfl⟩

end Hub

end NotebookHost
