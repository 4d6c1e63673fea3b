import NotebookHost.Proofs.Catalogue.Announcements
import NotebookHost.Proofs.Supervisor.Ports

namespace NotebookHost

open Catalogue

structure View where
  catalogue : Catalogue
  pending : List Event
  seats : Seating

namespace View

inductive Turn (v : View) : View → Prop
  | stay : Turn v v
  | news {c : Catalogue} {e : Event} (news : News v.catalogue c e) : Turn v ⟨c, v.pending ++ [e], v.seats⟩
  | reloaded {n : Notebook} (found : v.catalogue.store.record? n.id = some n) :
      Turn v { v with seats := v.seats.adopt n }
  | followed {e : Event} (first : v.pending.find? (·.notebook.id == e.notebook.id) = some e) :
      Turn v ⟨v.catalogue, v.pending.eraseP (·.notebook.id == e.notebook.id), v.seats.follow e⟩

theorem Turn.announced {v v' : View} (h : Turn v v') : v.catalogue.announced <+: v'.catalogue.announced := by
  cases h with
  | @news c e news =>
    rw [news.announced]
    exact List.prefix_append _ _
  | _ => exact List.prefix_refl _

structure IsLinked (v : View) : Prop where
  told : v.catalogue.IsTold
  unread : ∀ id, changesOf id v.pending <:+ changesOf id v.catalogue.announced
  current : ∀ {id : String} {seat : Seat}, changesOf id v.pending = [] → v.seats.seat? id = some seat →
    v.catalogue.store.record? id = some seat.notebook

theorem IsLinked.news {v : View} (hv : v.IsLinked) {c : Catalogue} {e : Event} (news : News v.catalogue c e) :
    IsLinked ⟨c, v.pending ++ [e], v.seats⟩ := by
  refine ⟨news.isTold hv.told, ?_, ?_⟩
  · intro id
    rw [news.announced, changesOf_concat, changesOf_concat]
    obtain ⟨before, hbefore⟩ := hv.unread id
    split_ifs
    · exact ⟨before, by rw [← hbefore, List.append_assoc]⟩
    · exact hv.unread id
  · intro id seat hnone hseat
    dsimp only at hnone hseat ⊢
    rw [changesOf_concat] at hnone
    split_ifs at hnone with hid
    · simp at hnone
    · rw [news.record, if_neg hid]
      exact hv.current hnone hseat

theorem IsLinked.reloaded {v : View} (hv : v.IsLinked) {n : Notebook}
    (found : v.catalogue.store.record? n.id = some n) :
    IsLinked { v with seats := v.seats.adopt n } := by
  refine ⟨hv.told, hv.unread, ?_⟩
  intro id seat hnone hseat
  dsimp only at hnone hseat ⊢
  cases hold : v.seats.seat? n.id with
  | none =>
    rw [Seating.adopt_of_none hold] at hseat
    exact hv.current hnone hseat
  | some old =>
    rw [Seating.adopt_of_seat hold, Seating.put_seat?] at hseat
    split_ifs at hseat with hid
    · cases hseat
      rw [hid]
      exact found
    · exact hv.current hnone hseat

theorem IsLinked.record_of_last {v : View} (hv : v.IsLinked) {e : Event}
    (hlast : changesOf e.notebook.id v.pending = [e]) :
    v.catalogue.store.record? e.notebook.id = e.outcome := by
  obtain ⟨before, hbefore⟩ := hv.unread e.notebook.id
  rw [hv.told.record, ← hbefore, hlast, latest_concat]

theorem IsLinked.followed {v : View} (hv : v.IsLinked) {e : Event}
    (first : v.pending.find? (·.notebook.id == e.notebook.id) = some e) :
    IsLinked ⟨v.catalogue, v.pending.eraseP (·.notebook.id == e.notebook.id), v.seats.follow e⟩ := by
  obtain ⟨hown, hothers⟩ := changesOf_eraseP first
  refine ⟨hv.told, ?_, ?_⟩
  · intro id
    dsimp only
    by_cases hid : id = e.notebook.id
    · have hunread := hv.unread id
      rw [hid, hown] at hunread
      rw [hid]
      exact (List.suffix_cons e _).trans hunread
    · rw [hothers id hid]
      exact hv.unread id
  · intro id seat hnone hseat
    dsimp only at hnone hseat ⊢
    by_cases hid : id = e.notebook.id
    · subst hid
      rw [hnone] at hown
      rw [hv.record_of_last hown]
      by_cases hdeleted : e.change = .deleted
      · rw [Seating.follow_deleted hdeleted, Seating.put_seat?, if_pos rfl] at hseat
        cases hseat
      · rw [Seating.follow_kept hdeleted] at hseat
        rw [Event.outcome, if_neg hdeleted, Seating.takeOver_own hseat]
    · rw [hothers id hid] at hnone
      rw [Seating.follow_other hid] at hseat
      exact hv.current hnone hseat

theorem Turn.isLinked {v v' : View} (h : Turn v v') (hv : v.IsLinked) : v'.IsLinked := by
  cases h with
  | stay => exact hv
  | news news => exact hv.news news
  | reloaded found => exact hv.reloaded found
  | followed first => exact hv.followed first

/-- The notebooks of which the supervisor has followed some change. Each of them has taken one port, and
is gone with nothing left to follow if it has no seat. -/
structure HasMet (v : View) (met : Finset String) : Prop where
  announced : met ⊆ announcedIds v.catalogue.announced
  counted : v.seats.counter.toNat = v.seats.ports.first.toNat + met.card
  unmet : ∀ id ∉ met, changesOf id v.pending = changesOf id v.catalogue.announced ∧ v.seats.seat? id = none
  seated : ∀ id ∈ met, (v.seats.seat? id).isSome = true ∨
    changesOf id v.pending = [] ∧ v.catalogue.store.record? id = none

theorem IsLinked.last_of_deleted {v : View} (hv : v.IsLinked) (hfresh : NoIdReturns v.catalogue.announced) {e : Event}
    {rest : List Event} (hdeleted : e.change = .deleted) (hpending : changesOf e.notebook.id v.pending = e :: rest) :
    rest = [] ∧ v.catalogue.store.record? e.notebook.id = none := by
  obtain ⟨before, hbefore⟩ := hv.unread e.notebook.id
  rw [hpending] at hbefore
  have houtcome : latest (before ++ [e]) = none := by rw [latest_concat, Event.outcome, if_pos hdeleted]
  cases rest with
  | nil => exact ⟨rfl, by rw [hv.record_of_last hpending, Event.outcome, if_pos hdeleted]⟩
  | cons f rest =>
    have hinit : (before ++ [e]) ++ [f] <+: changesOf e.notebook.id v.catalogue.announced :=
      ⟨rest, by rw [← hbefore, List.append_assoc, List.append_assoc]; rfl⟩
    have hadded := hv.told.history e.notebook.id (before ++ [e]) f hinit houtcome
    have hf : f.notebook.id = e.notebook.id := by
      have hmem : f ∈ changesOf e.notebook.id v.catalogue.announced :=
        hinit.subset (List.mem_append_right _ (List.mem_singleton_self f))
      exact (mem_changesOf.mp hmem).2
    have hpairs : (changesOf e.notebook.id v.catalogue.announced).Pairwise
        fun e f => e.change = .deleted → f.change = .added → e.notebook.id ≠ f.notebook.id := hfresh.filter _
    rw [← hbefore] at hpairs
    have htwo := List.rel_of_pairwise_cons (List.pairwise_append.mp hpairs).2.1 List.mem_cons_self
    exact absurd hf.symm (htwo hdeleted hadded)

theorem HasMet.enrol {v : View} {met : Finset String} (h : v.HasMet met) {e : Event}
    (first : v.pending.find? (·.notebook.id == e.notebook.id) = some e) (hid : e.notebook.id ∉ met)
    (hroom : (announcedIds v.catalogue.announced).card ≤ v.seats.ports.last.toNat - v.seats.ports.first.toNat) :
    HasMet ⟨v.catalogue, v.pending.eraseP (·.notebook.id == e.notebook.id), v.seats.enrol e.notebook⟩
      (insert e.notebook.id met) := by
  obtain ⟨hown, hothers⟩ := changesOf_eraseP first
  obtain ⟨hpending, hseat⟩ := h.unmet e.notebook.id hid
  have hannounced : insert e.notebook.id met ⊆ announcedIds v.catalogue.announced := by
    apply Finset.insert_subset _ h.announced
    rw [mem_announcedIds, ← hpending, hown]
    exact List.cons_ne_nil _ _
  have hcard := Finset.card_le_card hannounced
  rw [Finset.card_insert_of_notMem hid] at hcard
  have hlast : v.seats.ports.last.toNat < 2 ^ 16 := v.seats.ports.last.toNat_lt
  have hcounted := h.counted
  have hcount : (v.seats.counter + 1).toNat = v.seats.counter.toNat + 1 := Seating.counter_succ (by omega)
  obtain ⟨port, hport⟩ : ∃ port, Supervisor.portOf? v.seats.ports (v.seats.counter + 1) = some port := by
    refine ⟨(v.seats.counter + 1).toUInt16, Supervisor.portOf?_eq_some_iff.mpr ⟨?_, by omega⟩⟩
    rw [UInt32.toNat_toUInt16, Nat.mod_eq_of_lt]
    omega
  rw [Seating.enrol_of_room hport]
  refine ⟨hannounced, ?_, ?_, ?_⟩
  · rw [Finset.card_insert_of_notMem hid]
    change (v.seats.counter + 1).toNat = v.seats.ports.first.toNat + (met.card + 1)
    omega
  · intro id hunmet
    rw [Finset.mem_insert, not_or] at hunmet
    dsimp only
    rw [hothers id hunmet.1, Seating.put_seat?, if_neg hunmet.1]
    exact h.unmet id hunmet.2
  · intro id hmet
    dsimp only
    rw [Seating.put_seat?]
    split_ifs with heq
    · exact .inl rfl
    · rw [hothers id heq]
      exact h.seated id (Finset.mem_of_mem_insert_of_ne hmet heq)

theorem HasMet.news {v : View} {met : Finset String} (h : v.HasMet met) (hv : v.IsLinked) {c : Catalogue} {e : Event}
    (news : News v.catalogue c e) (hfresh : NoIdReturns c.announced) :
    HasMet ⟨c, v.pending ++ [e], v.seats⟩ met := by
  refine ⟨?_, h.counted, ?_, ?_⟩
  · rw [news.announced]
    exact h.announced.trans (announcedIds_subset (List.prefix_append _ _))
  · intro id hid
    obtain ⟨hpending, hseat⟩ := h.unmet id hid
    refine ⟨?_, hseat⟩
    dsimp only
    rw [news.announced, changesOf_concat, changesOf_concat, hpending]
  · intro id hid
    rcases h.seated id hid with hseat | ⟨hpending, hrecord⟩
    · exact .inl hseat
    · right
      have hother : id ≠ e.notebook.id := by
        -- A notebook that is gone would have to be added under its old id.
        rintro rfl
        have hadded := news.known hrecord
        rw [hv.told.record] at hrecord
        obtain ⟨d, hd, hdeleted, hsame⟩ := exists_deletion (h.announced hid) hrecord
        rw [news.announced] at hfresh
        exact (List.pairwise_append.mp hfresh).2.2 d hd e (List.mem_singleton_self e) hdeleted hadded hsame
      dsimp only
      rw [changesOf_concat, if_neg hother, news.record, if_neg hother]
      exact ⟨hpending, hrecord⟩

theorem HasMet.reloaded {v : View} {met : Finset String} (h : v.HasMet met) (n : Notebook) :
    HasMet { v with seats := v.seats.adopt n } met := by
  refine ⟨h.announced, ?_, ?_, ?_⟩
  · dsimp only
    rw [Seating.adopt_counter, Seating.adopt_ports]
    exact h.counted
  · intro id hid
    obtain ⟨hpending, hseat⟩ := h.unmet id hid
    refine ⟨hpending, ?_⟩
    dsimp only
    rw [← Option.isNone_iff_eq_none, ← Option.not_isSome, Seating.adopt_isSome, hseat]
    rfl
  · intro id hid
    dsimp only
    rw [Seating.adopt_isSome]
    exact h.seated id hid

theorem HasMet.again {v : View} {met : Finset String} (h : v.HasMet met) (hv : v.IsLinked)
    (hfresh : NoIdReturns v.catalogue.announced) {e : Event}
    (first : v.pending.find? (·.notebook.id == e.notebook.id) = some e) (hid : e.notebook.id ∈ met) :
    HasMet ⟨v.catalogue, v.pending.eraseP (·.notebook.id == e.notebook.id), v.seats.follow e⟩ met := by
  obtain ⟨hown, hothers⟩ := changesOf_eraseP first
  have hseat : (v.seats.seat? e.notebook.id).isSome = true := by
    refine (h.seated e.notebook.id hid).resolve_right ?_
    rintro ⟨hnone, -⟩
    rw [hown] at hnone
    cases hnone
  refine ⟨h.announced, ?_, ?_, ?_⟩
  · dsimp only
    rw [Seating.follow_counter hseat, Seating.follow_ports]
    exact h.counted
  · intro id hunmet
    have hne : id ≠ e.notebook.id := by
      rintro rfl
      exact hunmet hid
    dsimp only
    rw [hothers id hne, Seating.follow_other hne]
    exact h.unmet id hunmet
  · intro id hmet
    dsimp only
    by_cases heq : id = e.notebook.id
    · subst heq
      by_cases hdeleted : e.change = .deleted
      · exact .inr (hv.last_of_deleted hfresh hdeleted hown)
      · left
        rw [Seating.follow_kept hdeleted, Seating.takeOver, if_pos hseat, Seating.adopt_isSome]
        exact hseat
    · rw [hothers id heq, Seating.follow_other heq]
      exact h.seated id hmet

theorem HasMet.followed {v : View} {met : Finset String} (h : v.HasMet met) (hv : v.IsLinked)
    (hfresh : NoIdReturns v.catalogue.announced)
    (hroom : (announcedIds v.catalogue.announced).card ≤ v.seats.ports.last.toNat - v.seats.ports.first.toNat)
    {e : Event} (first : v.pending.find? (·.notebook.id == e.notebook.id) = some e) :
    ∃ met', HasMet ⟨v.catalogue, v.pending.eraseP (·.notebook.id == e.notebook.id), v.seats.follow e⟩ met' := by
  by_cases hid : e.notebook.id ∈ met
  · exact ⟨met, h.again hv hfresh first hid⟩
  · -- The first change of all is an addition.
    obtain ⟨hpending, hseat⟩ := h.unmet e.notebook.id hid
    have hadded : e.change = .added := by
      refine hv.told.history e.notebook.id [] e ?_ latest_nil
      rw [← hpending, (changesOf_eraseP first).1]
      exact List.prefix_append [e] _
    have hfollow : v.seats.follow e = v.seats.enrol e.notebook := by
      rw [Seating.follow_kept (by rw [hadded]; decide), Seating.takeOver, if_neg (by rw [hseat]; decide)]
    rw [hfollow]
    exact ⟨_, h.enrol first hid hroom⟩

theorem Turn.hasMet {v v' : View} (h : Turn v v') (hv : v.IsLinked) {met : Finset String} (hmet : v.HasMet met)
    (hfresh : NoIdReturns v'.catalogue.announced)
    (hroom : (announcedIds v'.catalogue.announced).card ≤ v'.seats.ports.last.toNat - v'.seats.ports.first.toNat) :
    ∃ met', v'.HasMet met' := by
  cases h with
  | stay => exact ⟨met, hmet⟩
  | news news => exact ⟨met, hmet.news hv news hfresh⟩
  | reloaded _ => exact ⟨met, hmet.reloaded _⟩
  | followed first =>
    dsimp only at hroom
    rw [Seating.follow_ports] at hroom
    exact hmet.followed hv hfresh hroom first

theorem HasMet.isSome_of_record {v : View} {met : Finset String} (h : v.HasMet met) (hv : v.IsLinked) {id : String}
    {n : Notebook} (hnone : changesOf id v.pending = []) (hrecord : v.catalogue.store.record? id = some n) :
    (v.seats.seat? id).isSome = true := by
  have hknown : id ∈ met := by
    by_contra hid
    have hnever := (h.unmet id hid).1
    rw [hnone] at hnever
    rw [hv.told.record, ← hnever] at hrecord
    cases hrecord
  refine (h.seated id hknown).resolve_right ?_
  rintro ⟨-, hgone⟩
  rw [hgone] at hrecord
  cases hrecord

end View

end NotebookHost
