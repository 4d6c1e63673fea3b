import NotebookHost.Proofs.Hub.Isolation

namespace NotebookHost

open Text

theorem Directory.resolve_eq_ok_iff {d : Directory} {host : String} {b : Backend} :
    d.resolve host = .ok b ↔
      ∃ n, d.owner? host = some n ∧ n.id = b.id ∧
        d.port? b.id = some b.port ∧ d.status b.id = .ok .running := by
  obtain ⟨id, port⟩ := b
  unfold resolve
  dsimp only
  constructor
  · intro h
    split at h
    · cases h
    · next n hn =>
      split at h
      · cases h
      · next port hport =>
        split at h
        · next hrunning =>
          cases h
          exact ⟨n, hn, rfl, hport, hrunning⟩
        · cases h
        · cases h
  · rintro ⟨n, hn, rfl, hport, hrunning⟩
    simp only [hn, hport, hrunning]

namespace Hub

theorem index_is_only_a_hint (hub : Hub) (host : String) :
    (∀ (o : Outage) (n : Notebook), hub.catalogue.findByDomain? o host = some n →
      (∃ id, hub.catalogue.store.record? id = some n) ∧ sameLetters n.domain host = true) ∧
    ((hub.catalogue.owners[Hostname.canonical host]?).isSome →
      ((hub.catalogue.findByDomain? {} host).isSome ↔
        ∃ n, Catalogue.ownerOf {} hub.catalogue.store host = .ok (some n))) ∧
    ∀ (o : Outage) (b : Backend), hub.resolve o host = .ok b →
      (∃ id n, hub.catalogue.store.record? id = some n ∧ n.id = b.id ∧ sameLetters n.domain host = true) ∧
        hub.supervisor.port? b.id = some b.port ∧ hub.supervisor.status b.id = .ok .running := by
  refine ⟨fun o n => Catalogue.findByDomain?_sound, ?_, ?_⟩
  · intro hentry
    rw [Catalogue.isSome_findByDomain?_iff hentry, Option.isSome_iff_exists, Catalogue.ownerOf_eq, if_neg (by decide)]
    simp only [Except.ok.injEq]
  · intro o b hb
    obtain ⟨n, hn, hid, hport, hrunning⟩ := Directory.resolve_eq_ok_iff.mp hb
    obtain ⟨⟨id, hrecord⟩, hdomain⟩ := Catalogue.findByDomain?_sound hn
    exact ⟨⟨id, n, hrecord, hid, hdomain⟩, hport, hrunning⟩

theorem index_is_only_a_hint_when_stale :
    let store : Store := .holding [.plain "a" "A.example", .plain "b" "b.example"]
    let owners : Std.TreeMap String String :=
      ((({} : Std.TreeMap String String).insert "a.example" "b").insert "b.example" "gone").insert "c.example" "a"
    let supervisor := (Supervisor.fresh {} ⟨9000, 9010⟩).run [({}, .follow ⟨.added, .plain "a" "A.example"⟩)]
    let hub : Hub := { catalogue := { store, owners }, supervisor }
    (hub.catalogue.findByDomain? {} "a.EXAMPLE").isSome ∧ (hub.catalogue.findByDomain? {} "B.example").isSome ∧
      ¬ (hub.catalogue.findByDomain? {} "c.example").isSome ∧ hub.resolve {} "a.EXAMPLE" = .ok ⟨"a", 9001⟩ ∧
      ∃ id n, hub.catalogue.store.record? id = some n ∧ n.id = "a" ∧ sameLetters n.domain "a.EXAMPLE" = true := by
  intro store owners supervisor hub
  obtain ⟨ha, hb, hc, hresolve⟩ : Catalogue.ownerOf {} store "a.EXAMPLE" = .ok (some (.plain "a" "A.example")) ∧
      Catalogue.ownerOf {} store "B.example" = .ok (some (.plain "b" "b.example")) ∧
      Catalogue.ownerOf {} store "c.example" = .ok none ∧ hub.resolve {} "a.EXAMPLE" = .ok ⟨"a", 9001⟩ := by
    decide +kernel
  obtain ⟨hka, hkb, hkc⟩ : (owners[Hostname.canonical "a.EXAMPLE"]?).isSome ∧
      (owners[Hostname.canonical "B.example"]?).isSome ∧
      (owners[Hostname.canonical "c.example"]?).isSome := by decide +kernel
  refine ⟨?_, ?_, ?_, hresolve, ?_⟩
  · exact ((index_is_only_a_hint hub "a.EXAMPLE").2.1 hka).mpr ⟨_, ha⟩
  · exact ((index_is_only_a_hint hub "B.example").2.1 hkb).mpr ⟨_, hb⟩
  · intro hsome
    obtain ⟨n, hn⟩ := ((index_is_only_a_hint hub "c.example").2.1 hkc).mp hsome
    have hsame := hc.symm.trans hn
    cases hsame
  · exact ((index_is_only_a_hint hub "a.EXAMPLE").2.2 {} _ hresolve).1

end Hub

end NotebookHost
