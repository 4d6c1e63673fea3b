namespace NotebookHost.Text

def split (sep : Char) : List Char → List (List Char)
  | [] => [[]]
  | c :: s =>
    if c = sep then [] :: split sep s
    else
      match split sep s with
      | [] => [[c]]
      | p :: ps => (c :: p) :: ps

def join (sep : Char) : List (List Char) → List Char
  | [] => []
  | [p] => p
  | p :: q :: ps => p ++ sep :: join sep (q :: ps)

def splitOnce (sep : Char) (s : List Char) : Option (List Char × List Char) :=
  match s.dropWhile (· != sep) with
  | [] => none
  | _ :: r => some (s.takeWhile (· != sep), r)

def upTo (sep : Char) (s : List Char) : List Char := s.takeWhile (· != sep)

def dropStart? {α : Type} [DecidableEq α] : List α → List α → Option (List α)
  | [], s => some s
  | _ :: _, [] => none
  | p :: ps, c :: s => if p = c then dropStart? ps s else none

def occursIn (piece : List Char) : List Char → Bool
  | [] => piece.isEmpty
  | c :: s => piece.isPrefixOf (c :: s) || occursIn piece s

theorem split_ne_nil (sep : Char) (s : List Char) : split sep s ≠ [] := by
  cases s with
  | nil => simp [split]
  | cons c s =>
    rw [split]
    split
    · simp
    · split <;> simp

theorem join_split (sep : Char) (s : List Char) : join sep (split sep s) = s := by
  induction s with
  | nil => rfl
  | cons c s ih =>
    rw [split]
    have hne := split_ne_nil sep s
    cases hs : split sep s with
    | nil => exact absurd hs hne
    | cons p ps =>
      rw [hs] at ih
      by_cases h : c = sep
      · simp [h, join, ih]
      · cases ps with
        | nil => simpa [h, join] using ih
        | cons q qs => simpa [h, join] using ih

theorem not_mem_of_mem_split {sep : Char} {s p : List Char} (h : p ∈ split sep s) : sep ∉ p := by
  induction s generalizing p with
  | nil => simp [split] at h; simp [h]
  | cons c s ih =>
    rw [split] at h
    by_cases hc : c = sep
    · simp only [hc, if_true, List.mem_cons] at h
      rcases h with rfl | h
      · simp
      · exact ih h
    · cases hs : split sep s with
      | nil => exact absurd hs (split_ne_nil sep s)
      | cons q qs =>
        simp only [hc, if_false, hs, List.mem_cons] at h
        rcases h with rfl | h
        · have := ih (p := q) (by simp [hs])
          simp only [List.mem_cons, not_or]
          exact ⟨fun e => hc e.symm, this⟩
        · exact ih (by simp [hs, h])

theorem dropStart?_eq_some_iff {α : Type} [DecidableEq α] {p s r : List α} :
    dropStart? p s = some r ↔ s = p ++ r := by
  induction p generalizing s with
  | nil => simp [dropStart?]
  | cons a p ih =>
    cases s with
    | nil => simp [dropStart?]
    | cons c s =>
      by_cases h : a = c
      · simp [dropStart?, h, ih]
      · simp [dropStart?, h, Ne.symm h]

end NotebookHost.Text
