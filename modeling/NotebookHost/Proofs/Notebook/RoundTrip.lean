import NotebookHost.Notebook.Codec
import NotebookHost.Proofs.Instant.RoundTrip
import NotebookHost.Proofs.Json.RoundTrip

namespace NotebookHost.Notebook

open Json

theorem isPlain_toJson (n : Notebook) : n.toJson.IsPlain := by
  simp [toJson, record, text, IsPlain, MembersPlain]

theorem fields?_toJson (n : Notebook) : n.toJson.fields? fieldNames =
    some [some (text n.id), some (text n.name), some (text n.path), some (text n.domain),
      some (.bool n.showCode), some (.bool n.watch), some (text n.createdAt.toText)] := by
  rw [toJson, record, fields?, if_pos]
  · rfl
  · simp [fieldNames, occurrences]

theorem ofJson?_toJson (n : Notebook) : ofJson? n.toJson = some n := by
  rw [ofJson?, fields?_toJson, Option.bind_some]
  simp only [ofFields?, text, text?, switch?, bool?, bind, Option.bind_some, Instant.ofText?_toText]

theorem decode?_encode (n : Notebook) : decode? n.encode = some n := by
  rw [decode?, encode, ofString?_render (isPlain_toJson n), Option.bind_some, ofJson?_toJson]

end NotebookHost.Notebook
