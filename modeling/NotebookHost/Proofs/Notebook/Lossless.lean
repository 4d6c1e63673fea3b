import NotebookHost.Proofs.Notebook.RoundTrip
import NotebookHost.Proofs.Text.Utf8

namespace NotebookHost

namespace Json

def present (fields : List (String × Option Json)) : List (String × Json) :=
  fields.filterMap fun (k, j) => j.map (k, ·)

theorem keys_present (fields : List (String × Option Json)) :
    ((present fields).map (·.1)).Sublist (fields.map (·.1)) := by
  induction fields with
  | nil => exact .slnil
  | cons field fields ih =>
    obtain ⟨k, _ | j⟩ := field
    · exact ih.cons k
    · exact ih.cons_cons k

theorem find?_present {fields : List (String × Option Json)} (distinct : (fields.map (·.1)).Nodup)
    {k : String} {j : Option Json} (hmem : (k, j) ∈ fields) :
    ((present fields).find? (·.1 == k)).map (·.2) = j := by
  induction fields with
  | nil => cases hmem
  | cons field fields ih =>
    obtain ⟨hnew, hrest⟩ := List.nodup_cons.mp distinct
    obtain ⟨k', j'⟩ := field
    rcases List.mem_cons.mp hmem with hfield | hold
    · cases hfield
      cases j with
      | none =>
        have hnone : (present fields).find? (·.1 == k) = none := by
          rw [List.find?_eq_none]
          intro m hm hk
          apply hnew
          rw [← beq_iff_eq.mp hk]
          exact (keys_present fields).subset (List.mem_map_of_mem hm)
        exact congrArg (Option.map (·.2)) hnone
      | some j => simp [present]
    · have hk : k' ≠ k := by
        rintro rfl
        have hkey := List.mem_map_of_mem (f := Prod.fst) hold
        exact hnew hkey
      cases j' with
      | none => exact ih hrest hold
      | some j' =>
        rw [← ih hrest hold]
        simp [present, hk]

theorem occurrences_record (k : String) (members : List (String × Json)) :
    occurrences k (members.map fun (k, v) => (some k, v)) = (members.map (·.1)).count k := by
  rw [occurrences, List.countP_map, List.count, List.countP_map]
  simp [Function.comp_def]

theorem fields?_present {fields : List (String × Option Json)} (distinct : (fields.map (·.1)).Nodup) :
    (record (present fields)).fields? (fields.map (·.1)) = some (fields.map (·.2)) := by
  have honce (k : String) : ((present fields).map (·.1)).count k ≤ 1 :=
    List.nodup_iff_count.mp ((keys_present fields).nodup distinct) k
  rw [record, fields?, if_pos]
  · rw [List.map_map]
    congr 1
    apply List.map_congr_left
    intro field hmem
    rw [← find?_present distinct hmem]
    simp [List.find?_map, Function.comp_def]
  · simp [occurrences_record, honce]

theorem isPlain_present {fields : List (String × Option Json)}
    (h : ∀ field ∈ fields, ∀ j ∈ field.2, j.IsPlain) : (record (present fields)).IsPlain := by
  rw [record, IsPlain]
  induction fields with
  | nil => trivial
  | cons field fields ih =>
    have hrest := ih fun field hmem => h field (List.mem_cons_of_mem _ hmem)
    obtain ⟨k, _ | j⟩ := field
    · exact hrest
    · exact ⟨rfl, h (k, some j) List.mem_cons_self j rfl, hrest⟩

theorem ofBytes?_encode (s : String) : ofBytes? (Text.encode s) = ofString? s := by
  rw [ofBytes?, Text.symbols_encode]
  rfl

end Json

open Json

namespace Draft

def fields (d : Draft) : List (String × Option Json) :=
  [("name", d.rawName.map text), ("path", d.rawPath.map text), ("domain", d.rawDomain.map text),
    ("show_code", d.showCode.map .bool), ("watch", d.watch.map .bool)]

theorem names_fields (d : Draft) : d.fields.map (·.1) = fieldNames := rfl

theorem toJson_eq (d : Draft) : d.toJson = record (present d.fields) := rfl

theorem isPlain_toJson (d : Draft) : d.toJson.IsPlain := by
  have htext (s : Option String) : ∀ j ∈ s.map text, j.IsPlain := by
    simp [text, IsPlain]
  have hbool (b : Option Bool) : ∀ j ∈ b.map Json.bool, j.IsPlain := by
    rintro j hj
    obtain ⟨b, rfl, rfl⟩ := Option.map_eq_some_iff.mp hj
    trivial
  rw [toJson_eq]
  apply isPlain_present
  simp only [fields, List.forall_mem_cons]
  exact ⟨htext _, htext _, htext _, hbool _, hbool _, List.forall_mem_nil _⟩

theorem fields?_toJson (d : Draft) : d.toJson.fields? fieldNames = some (d.fields.map (·.2)) := by
  rw [toJson_eq, ← names_fields d]
  exact fields?_present (by simp [fields])

theorem optional?_map {α : Type} (read : Json → Option α) (write : α → Json)
    (hread : ∀ a, read (write a) = some a) (hnull : ∀ a, (write a).isNull = false) (a : Option α) :
    optional? read (a.map write) = some a := by
  cases a with
  | none => rfl
  | some a => simp [optional?, hread, hnull]

theorem ofJson?_toJson (d : Draft) : ofJson? d.toJson = some d := by
  have htext := optional?_map text? text (fun _ => rfl) (fun _ => rfl)
  have hbool := optional?_map bool? .bool (fun _ => rfl) (fun _ => rfl)
  rw [ofJson?, fields?_toJson, Option.bind_some]
  simp [fields, ofFields?, htext, hbool]

theorem decode?_encode (d : Draft) : decode? (Text.encode d.encode) = some d := by
  rw [decode?, ofBytes?_encode, encode, ofString?_render (isPlain_toJson d), Option.bind_some, ofJson?_toJson]

end Draft

theorem codecs_lossless :
    (∀ n : Notebook, Notebook.decode? n.encode = some n) ∧
    (∀ (s : String) (n : Notebook), Notebook.decode? s = some n →
      Notebook.decode? n.encode = Notebook.decode? s) ∧
    ∀ d : Draft, Draft.decode? (Text.encode d.encode) = some d ∧
      ∃ j : Json, Json.ofString? d.encode = some j ∧
        j.fields? ["name", "path", "domain", "show_code", "watch"] =
          some [d.rawName.map text, d.rawPath.map text, d.rawDomain.map text, d.showCode.map .bool,
            d.watch.map .bool] := by
  refine ⟨Notebook.decode?_encode, fun s n hs => ?_, fun d => ⟨Draft.decode?_encode d, d.toJson, ?_, ?_⟩⟩
  · rw [Notebook.decode?_encode n, hs]
  · exact ofString?_render d.isPlain_toJson
  · exact d.fields?_toJson

-- A leap second of the year 0 by a clock that is an hour ahead belongs to the year before it.
example : (Notebook.decode?
      ("[\"1\", \"\\u00e9\\ud83d\\ude00\", \"\\t\", \"a\", true, false, " ++
        "\"0000-01-01T00:59:60.5+01:00\"]")).map (fun n => (n.name, n.path, n.createdAt.toText)) =
    some ("é😀", "\t", "-0001-12-31T23:59:60.500Z") := by
  cbv

end NotebookHost
