import NotebookHost.Http.Message
import NotebookHost.Proofs.Text.ByteOrder

namespace NotebookHost.Http

open Text

def IsPlain (s : String) : Prop := ∀ c ∈ s.toList, c.toNat = 9 ∨ 32 ≤ c.toNat ∧ c.toNat < 127

instance (s : String) : Decidable (IsPlain s) :=
  List.decidableBAll (fun c : Char => c.toNat = 9 ∨ 32 ≤ c.toNat ∧ c.toNat < 127) s.toList

theorem encode_of_isPlain {s : String} (h : IsPlain s) : encode s = s.toList.map fun c => UInt8.ofNat c.toNat := by
  rw [encode_eq_flatMap, List.map_eq_flatMap]
  apply List.flatMap_congr
  intro c hc
  have hascii : c.toNat ≤ 127 := by
    have := h c hc
    omega
  simp [String.utf8EncodeChar, hascii]

namespace Header

theorem text?_eq_some {h : Header} {s : String} (ht : h.text? = some s) : IsPlain s ∧ encode s = h.value := by
  unfold text? at ht
  split_ifs at ht with hbytes
  have hbyte : ∀ b ∈ h.value, b.toNat = 9 ∨ 32 ≤ b.toNat ∧ b.toNat < 127 := by
    intro b hb
    have := List.all_eq_true.mp hbytes b hb
    simp only [Bool.or_eq_true, Bool.and_eq_true, decide_eq_true_eq, beq_iff_eq, UInt8.le_iff_toNat_le,
      UInt8.lt_iff_toNat_lt, ← UInt8.toNat_inj, UInt8.reduceToNat] at this
    omega
  have hchar : ∀ b ∈ h.value, (Char.ofNat b.toNat).toNat = b.toNat := by
    intro b hb
    have hvalid : b.toNat.isValidChar := .inl (by have := hbyte b hb; omega)
    rw [Char.ofNat, dif_pos hvalid]
    rfl
  cases ht
  have hplain : IsPlain (String.ofList (h.value.map fun b => Char.ofNat b.toNat)) := by
    intro c hc
    rw [String.toList_ofList] at hc
    obtain ⟨b, hb, rfl⟩ := List.mem_map.mp hc
    rw [hchar b hb]
    exact hbyte b hb
  refine ⟨hplain, ?_⟩
  rw [encode_of_isPlain hplain, String.toList_ofList, List.map_map]
  conv_rhs => rw [← List.map_id h.value]
  apply List.map_congr_left
  intro b hb
  simp [hchar b hb]

def IsName (name : String) : Prop := of? name [] = some ⟨name, []⟩

instance (name : String) : Decidable (IsName name) := inferInstanceAs (Decidable (of? name [] = some ⟨name, []⟩))

theorem ofText?_of_isPlain {name s : String} (hname : IsName name) (hs : IsPlain s) :
    ofText? name s = some ⟨name, encode s⟩ := by
  have hvalue : (encode s).all isValueByte = true := by
    rw [encode_of_isPlain hs, List.all_map, List.all_eq_true]
    intro c hc
    have hbounds := hs c hc
    have hbyte : (UInt8.ofNat c.toNat).toNat = c.toNat := by
      rw [UInt8.toNat_ofNat', Nat.mod_eq_of_lt (by omega)]
    simp only [Function.comp_apply, isValueByte, Bool.or_eq_true, Bool.and_eq_true, decide_eq_true_eq,
      bne_iff_ne, ne_eq, beq_iff_eq, UInt8.le_iff_toNat_le, ← UInt8.toNat_inj, hbyte, UInt8.reduceToNat]
    omega
  unfold IsName of? at hname
  unfold ofText? of?
  rw [hvalue]
  simpa using hname

end Header

namespace Headers

variable {hs : Headers} {name other : String} {value : List UInt8}

theorem first?_eq_head? (hs : Headers) (name : String) : hs.first? name = (hs.all name).head? := by
  simp [first?, all, List.head?_filter]

@[simp] theorem all_set_self : (hs.set name value).all name = [⟨name, value⟩] := by
  simp [set, all]

theorem all_set_other (h : other ≠ name) : (hs.set name value).all other = hs.all other := by
  have hsame : ∀ x ∈ hs, (x.name == other && x.name != name) = (x.name == other) := by
    intro x _
    by_cases hx : x.name = other
    · simp [hx, h]
    · simp [hx]
  simp [set, all, Ne.symm h, List.filter_filter, List.filter_congr hsame]

def without (hs : Headers) (names : List String) : Headers := hs.filter (·.name ∉ names)

@[simp] theorem without_nil : hs.without [] = hs := by simp [without]

theorem all_without (hs : Headers) {names : List String} (h : name ∉ names) :
    (hs.without names).all name = hs.all name := by
  unfold without all
  rw [List.filter_filter]
  apply List.filter_congr
  intro x _
  by_cases hx : x.name = name
  · simp [hx, h]
  · simp [hx]

theorem without_set (names : List String) :
    (hs.set name value).without names = hs.without (name :: names) ++ Headers.without [⟨name, value⟩] names := by
  unfold without set
  rw [List.filter_append, List.filter_filter]
  congr 1
  apply List.filter_congr
  intro x _
  by_cases hx : x.name = name
  · simp [hx]
  · simp [hx]

theorem without_cons (hs : Headers) (names : List String) :
    hs.without (name :: names) = (hs.without names).without [name] := by
  unfold without
  rw [List.filter_filter]
  apply List.filter_congr
  intro x _
  by_cases hx : x.name = name
  · simp [hx]
  · simp [hx]

theorem without_cons_of_absent (names : List String) (h : hs.all name = []) :
    hs.without (name :: names) = hs.without names := by
  unfold without
  apply List.filter_congr
  intro x hx
  have hname : x.name ≠ name := by
    rintro rfl
    have hmem : x ∈ hs.all x.name := List.mem_filter.mpr ⟨hx, beq_self_eq_true _⟩
    rw [h] at hmem
    cases hmem
  simp [hname]

def AgreeBut (names : List String) (hs hs' : Headers) : Prop := hs.without names = hs'.without names

instance (names : List String) (hs hs' : Headers) : Decidable (AgreeBut names hs hs') :=
  inferInstanceAs (Decidable (hs.without names = hs'.without names))

namespace AgreeBut

variable {hs' : Headers} {names : List String}

theorem all_eq (h : AgreeBut names hs hs') (hname : name ∉ names) : hs.all name = hs'.all name := by
  rw [← all_without hs hname, ← all_without hs' hname, h]

theorem firstText?_eq (h : AgreeBut names hs hs') (hname : name ∉ names) :
    hs.firstText? name = hs'.firstText? name := by
  rw [firstText?, firstText?, first?_eq_head?, first?_eq_head?, h.all_eq hname]

theorem eq (h : AgreeBut [] hs hs') : hs = hs' := by simpa [AgreeBut] using h

theorem cons (h : AgreeBut names hs hs') (name : String) : AgreeBut (name :: names) hs hs' := by
  rw [AgreeBut, without_cons hs, without_cons hs', h]

theorem of_absent (h : AgreeBut (name :: names) hs hs') (hs₁ : hs.all name = []) (hs₂ : hs'.all name = []) :
    AgreeBut names hs hs' := by
  rw [AgreeBut, ← without_cons_of_absent names hs₁, ← without_cons_of_absent names hs₂, h]

theorem set (h : AgreeBut (name :: names) hs hs') (value : List UInt8) :
    AgreeBut names (hs.set name value) (hs'.set name value) := by
  rw [AgreeBut, without_set, without_set, h]

end AgreeBut

end Headers

end NotebookHost.Http
