namespace NotebookHost.Text

def lower (s : String) : String := String.ofList (s.toList.map Char.toLower)

def sameLetters (s t : String) : Bool := lower s == lower t

theorem toList_lower (s : String) : (lower s).toList = s.toList.map Char.toLower := by
  simp [lower]

end NotebookHost.Text
