import NotebookHost.Json.Reader
import NotebookHost.Json.Writer
import NotebookHost.Proofs.Text.Decimal
import Mathlib.Tactic.IntervalCases
import Mathlib.Tactic.Tauto

namespace NotebookHost.Json

open Text

mutual

def IsPlain : Json → Prop
  | .null => True
  | .bool _ => True
  | .number literal => ∃ n : ℕ, literal = toString n
  | .string t => t.isSome
  | .array js => ArePlain js
  | .object ms => MembersPlain ms

def ArePlain : List Json → Prop
  | [] => True
  | j :: js => j.IsPlain ∧ ArePlain js

def MembersPlain : List (Option String × Json) → Prop
  | [] => True
  | (k, j) :: ms => k.isSome ∧ j.IsPlain ∧ MembersPlain ms

end

theorem readEscape_u {a b : Char} {n : ℕ} (h : hexNumber? ['0', '0', a, b] = some n) (hn : n < 0xd800)
    (r : List Symbol) :
    readEscape (some 'u' :: some '0' :: some '0' :: some a :: some b :: r) = some (some (Char.ofNat n), r) := by
  have h₁ : ¬(0xd800 ≤ n ∧ n ≤ 0xdbff) := by omega
  have h₂ : ¬(0xdc00 ≤ n ∧ n ≤ 0xdfff) := by omega
  simp only [readEscape, readHex4, h, Option.map_some, if_true, if_neg h₁, if_neg h₂]

theorem hexNumber?_control {n : ℕ} (h : n < 32) :
    hexNumber? ['0', '0', hexDigit (n / 16), hexDigit (n % 16)] = some n := by
  have h₁ := hexValue?_hexDigit (n := n / 16) (by omega)
  have h₂ := hexValue?_hexDigit (n := n % 16) (by omega)
  have h₀ : hexValue? '0' = some 0 := by decide
  simp only [hexNumber?, List.foldlM_cons, List.foldlM_nil, h₀, h₁, h₂, Option.map_some, bind, Option.bind_some,
    pure, Option.some.injEq]
  omega

theorem readString_backslash {r r' : List Symbol} {c : Char} (h : readEscape r = some (some c, r'))
    (t : List Char) : readString (some t) (some '\\' :: r) = readString (some (c :: t)) r' := by
  rw [readString, if_neg (by decide), if_pos rfl]
  split
  · next h' => rw [h] at h'; cases h'
  · next h' => rw [h] at h'; cases h'; rfl

theorem readString_escape (c : Char) (t : List Char) (r : List Symbol) :
    readString (some t) ((escape c).map some ++ r) = readString (some (c :: t)) r := by
  unfold escape
  split_ifs
  iterate 7
    · subst c
      exact readString_backslash rfl t
  · next h =>
    have he := readEscape_u (hexNumber?_control h) (by omega) r
    rw [Char.ofNat_toNat] at he
    exact readString_backslash he t
  · next hq hb _ _ _ _ _ hc =>
    simp only [List.map_cons, List.map_nil, List.cons_append, List.nil_append]
    rw [readString, if_neg hq, if_neg hb, if_neg hc]
    rfl

theorem readString_text (cs t : List Char) (r : List Symbol) :
    readString (some t) ((cs.flatMap escape).map some ++ some '"' :: r) =
      some (some (String.ofList (t.reverse ++ cs)), r) := by
  induction cs generalizing t with
  | nil =>
    rw [List.flatMap_nil, List.map_nil, List.nil_append, readString, if_pos rfl, List.append_nil]
    rfl
  | cons c cs ih =>
    rw [List.flatMap_cons, List.map_append, List.append_assoc, readString_escape, ih, List.reverse_cons,
      List.append_assoc, List.singleton_append]

theorem readString_quoted (s : String) (r : List Symbol) :
    ∃ q, (quoted s).map some ++ r = some '"' :: q ∧ readString (some []) q = some (some s, r) := by
  refine ⟨(s.toList.flatMap escape).map some ++ some '"' :: r, by simp [quoted], ?_⟩
  rw [readString_text, List.reverse_nil, List.nil_append, String.ofList_toList]

def EndsNumber (r : List Symbol) : Prop :=
  ∀ c, r.head? = some (some c) → isDigit c = false ∧ c ≠ '.' ∧ c ≠ 'e' ∧ c ≠ 'E'

theorem digitsOf_head_ne_zero {n : ℕ} (hn : 0 < n) : (digitsOf n).head? ≠ some '0' := by
  induction n using Nat.strongRecOn with
  | ind n ih =>
    by_cases h : n < 10
    · rw [digitsOf, Nat.toDigits_of_lt_base h]
      interval_cases n <;> decide
    · rw [digitsOf, Nat.toDigits_of_base_le (by decide) (by omega), List.head?_append_of_ne_nil _ Nat.toDigits_ne_nil]
      exact ih (n / 10) (by omega) (by omega)

theorem readDigits_append {cs : List Char} (hcs : ∀ c ∈ cs, isDigit c = true) (hne : cs ≠ []) {r : List Symbol}
    (hr : EndsNumber r) : readDigits (cs.map some ++ r) = some (cs, r) := by
  have hmem : ∀ x ∈ cs.map some, isDigitSymbol x = true := by
    simpa [isDigitSymbol] using hcs
  have htake : r.takeWhile isDigitSymbol = [] := by
    rcases r with _ | ⟨_ | c, r⟩
    · rfl
    · rfl
    · simp [isDigitSymbol, (hr c rfl).1]
  have hdrop : r.dropWhile isDigitSymbol = r := by
    rcases r with _ | ⟨_ | c, r⟩
    · rfl
    · rfl
    · simp [isDigitSymbol, (hr c rfl).1]
  rw [readDigits, List.takeWhile_append_of_pos hmem, List.dropWhile_append_of_pos hmem, htake, hdrop,
    List.append_nil, List.filterMap_map]
  have hid : cs.filterMap (id ∘ some) = cs := by simp
  rw [hid]
  cases cs with
  | nil => exact absurd rfl hne
  | cons c cs => rfl

theorem readUnsigned_digitsOf (n : ℕ) {r : List Symbol} (hr : EndsNumber r) :
    readUnsigned ((digitsOf n).map some ++ r) = some (digitsOf n, r) := by
  have hwhole : readWhole ((digitsOf n).map some ++ r) = some (digitsOf n, r) := by
    rcases Nat.eq_zero_or_pos n with rfl | hn
    · rw [digitsOf, Nat.toDigits_zero]
      rfl
    · have hne : digitsOf n ≠ [] := Nat.toDigits_ne_nil
      have hread := readDigits_append (fun c => isDigit_of_mem_digitsOf (n := n)) hne hr
      have hz := digitsOf_head_ne_zero hn
      cases hd : digitsOf n with
      | nil => exact absurd hd hne
      | cons c cs =>
        rw [hd] at hread hz
        have hc : c ≠ '0' := fun h => hz (by rw [h]; rfl)
        rw [← hread]
        simp only [List.map_cons, List.cons_append, readWhole]
        split
        · next h => simp only [List.cons.injEq, Option.some.injEq] at h; exact absurd h.1 hc
        · rfl
  have hfraction : readFraction r = some ([], r) := by
    unfold readFraction
    split
    · exact absurd rfl (hr '.' rfl).2.1
    · rfl
  have hexponent : readExponent r = some ([], r) := by
    unfold readExponent
    split
    · next e r' =>
      rw [if_neg]
      have := hr e rfl
      tauto
    · rfl
  simp only [readUnsigned, hwhole, hfraction, hexponent, List.append_nil]

theorem dropStart?_head_ne {p c : Char} {ps : List Symbol} {r : List Symbol} (h : p ≠ c) :
    dropStart? (some p :: ps) (some c :: r) = none := by
  simp [dropStart?, h]

theorem readAtom_nat (n : ℕ) {r : List Symbol} (hr : EndsNumber r) :
    readAtom ((digitsOf n).map some ++ r) = some (.nat n, r) := by
  have hread := readUnsigned_digitsOf n hr
  cases hd : digitsOf n with
  | nil => exact absurd hd Nat.toDigits_ne_nil
  | cons c cs =>
    rw [hd] at hread
    have hc : isDigit c = true := isDigit_of_mem_digitsOf (n := n) (by rw [hd]; exact List.mem_cons_self)
    have hnull : 'n' ≠ c := (ne_of_isDigit hc (by decide)).symm
    have htrue : 't' ≠ c := (ne_of_isDigit hc (by decide)).symm
    have hfalse : 'f' ≠ c := (ne_of_isDigit hc (by decide)).symm
    have hminus : c ≠ '-' := ne_of_isDigit hc (by decide)
    have hnumber : readNumber ((c :: cs).map some ++ r) = some (c :: cs, r) := by
      rw [← hread]
      simp only [List.map_cons, List.cons_append, readNumber]
      split
      · next h => simp only [List.cons.injEq, Option.some.injEq] at h; exact absurd h.1 hminus
      · rfl
    have htext : toString n = String.ofList (c :: cs) := by
      rw [← hd]
      exact Nat.toString_eq_ofList_toDigits
    simp only [List.map_cons, List.cons_append] at hnumber ⊢
    rw [readAtom, show symbolsOf "null" = some 'n' :: symbolsOf "ull" from rfl, dropStart?_head_ne hnull,
      show symbolsOf "true" = some 't' :: symbolsOf "rue" from rfl, dropStart?_head_ne htrue,
      show symbolsOf "false" = some 'f' :: symbolsOf "alse" from rfl, dropStart?_head_ne hfalse, hnumber, nat, htext]
    rfl

theorem isSpace_digit {c : Char} (h : isDigit c = true) : isSpace (some c) = false := by
  have hspace := ne_of_isDigit (d := ' ') h (by decide)
  have htab := ne_of_isDigit (d := '\t') h (by decide)
  have hnewline := ne_of_isDigit (d := '\n') h (by decide)
  have hreturn := ne_of_isDigit (d := '\r') h (by decide)
  simp [isSpace, hspace, htab, hnewline, hreturn]

theorem write_head {j : Json} (h : j.IsPlain) :
    ∃ c cs, write j = c :: cs ∧ isSpace (some c) = false ∧ c ≠ ']' ∧ c ≠ '}' := by
  cases j with
  | null => exact ⟨_, _, rfl, by decide, by decide, by decide⟩
  | bool b => cases b <;> exact ⟨_, _, rfl, by decide, by decide, by decide⟩
  | number literal =>
    obtain ⟨n, rfl⟩ := h
    have hw : write (.number (toString n)) = digitsOf n := by
      rw [write, Nat.toString_eq_ofList_toDigits, String.toList_ofList, digitsOf]
    cases hd : digitsOf n with
    | nil => exact absurd hd Nat.toDigits_ne_nil
    | cons c cs =>
      have hc : isDigit c = true := isDigit_of_mem_digitsOf (n := n) (by rw [hd]; exact List.mem_cons_self)
      exact ⟨c, cs, hw.trans hd, isSpace_digit hc, ne_of_isDigit hc (by decide), ne_of_isDigit hc (by decide)⟩
  | string t => exact ⟨_, _, by rw [write, quoted], by decide, by decide, by decide⟩
  | array js => cases js <;> exact ⟨_, _, by rw [write], by decide, by decide, by decide⟩
  | object ms =>
    rcases ms with _ | ⟨⟨k, j⟩, ms⟩ <;>
      exact ⟨_, _, by rw [write], by decide, by decide, by decide⟩

theorem skipSpace_cons {c : Char} (h : isSpace (some c) = false) (r : List Symbol) :
    skipSpace (some c :: r) = some c :: r := by
  rw [skipSpace, List.dropWhile_cons, h]
  rfl

def itemsText (j : Json) (js : List Json) : List Char := write j ++ writeItems js

def membersText (k : Option String) (j : Json) (ms : List (Option String × Json)) : List Char :=
  quoted (k.getD "") ++ ':' :: (write j ++ writeMembers ms)

theorem endsNumber_cons {c : Char} (h : isDigit c = false ∧ c ≠ '.' ∧ c ≠ 'e' ∧ c ≠ 'E') (r : List Symbol) :
    EndsNumber (some c :: r) := by
  intro d hd
  cases hd
  exact h

/-- Reading a value with leave for `n` steps, and what lists of values need of it. -/
def Reads (n : ℕ) : Prop :=
  ∀ (j : Json) (r : List Symbol), j.IsPlain → EndsNumber r → 2 * (write j).length ≤ n →
    readValue n ((write j).map some ++ r) = some (j, r)

def ReadsItems (n : ℕ) : Prop :=
  ∀ (before : List Json) (j : Json) (js : List Json) (r : List Symbol), j.IsPlain → ArePlain js →
    2 * (itemsText j js).length < n →
    readItems n before ((itemsText j js).map some ++ some ']' :: r) = some (.array (before.reverse ++ j :: js), r)

def ReadsMembers (n : ℕ) : Prop :=
  ∀ (before : List (Option String × Json)) (k : Option String) (j : Json) (ms : List (Option String × Json))
    (r : List Symbol), k.isSome → j.IsPlain → MembersPlain ms → 2 * (membersText k j ms).length < n →
    readMembers n before ((membersText k j ms).map some ++ some '}' :: r) =
      some (.object (before.reverse ++ (k, j) :: ms), r)

theorem readItems_succ {n : ℕ} (hv : Reads n) (hi : ReadsItems n) : ReadsItems (n + 1) := by
  intro before j js r hj hjs hn
  simp only [itemsText, List.length_append] at hn
  cases js with
  | nil =>
    have hread := hv j (some ']' :: r) hj (endsNumber_cons (by decide) r) (by omega)
    rw [itemsText, writeItems, List.append_nil]
    simp only [readItems, hread, skipSpace_cons (c := ']') (by decide), List.reverse_cons]
  | cons j' js' =>
    obtain ⟨hj', hjs'⟩ := hjs
    have hread := hv j (some ',' :: ((itemsText j' js').map some ++ some ']' :: r)) hj
      (endsNumber_cons (by decide) _) (by omega)
    have hlen : 2 * (itemsText j' js').length < n := by
      simp only [writeItems, List.length_cons, List.length_append] at hn
      simp only [itemsText, List.length_append]
      omega
    have htext : (itemsText j (j' :: js')).map some ++ some ']' :: r =
        (write j).map some ++ some ',' :: ((itemsText j' js').map some ++ some ']' :: r) := by
      simp [itemsText, writeItems]
    rw [htext]
    simp only [readItems, hread, skipSpace_cons (c := ',') (by decide), hi (j :: before) j' js' r hj' hjs' hlen,
      List.reverse_cons, List.append_assoc, List.singleton_append]

theorem readMembers_succ {n : ℕ} (hv : Reads n) (hm : ReadsMembers n) : ReadsMembers (n + 1) := by
  intro before k j ms r hk hj hms hn
  obtain ⟨key, rfl⟩ := Option.isSome_iff_exists.mp hk
  simp only [membersText, List.length_append, List.length_cons] at hn
  cases ms with
  | nil =>
    have hread := hv j (some '}' :: r) hj (endsNumber_cons (by decide) r) (by omega)
    obtain ⟨q, hq, hkey⟩ := readString_quoted key (some ':' :: ((write j).map some ++ some '}' :: r))
    have htext : (membersText (some key) j []).map some ++ some '}' :: r =
        (quoted key).map some ++ some ':' :: ((write j).map some ++ some '}' :: r) := by
      simp [membersText, writeMembers]
    rw [htext, hq]
    simp only [readMembers, skipSpace_cons (c := '"') (by decide), hkey, skipSpace_cons (c := ':') (by decide), hread,
      skipSpace_cons (c := '}') (by decide), List.reverse_cons]
  | cons m ms' =>
    obtain ⟨k', j'⟩ := m
    obtain ⟨hk', hj', hms'⟩ := hms
    let tail := (membersText k' j' ms').map some ++ some '}' :: r
    have hread := hv j (some ',' :: tail) hj (endsNumber_cons (by decide) _) (by omega)
    obtain ⟨q, hq, hkey⟩ := readString_quoted key (some ':' :: ((write j).map some ++ some ',' :: tail))
    have hlen : 2 * (membersText k' j' ms').length < n := by
      simp only [writeMembers, List.length_cons, List.length_append] at hn
      simp only [membersText, List.length_append, List.length_cons]
      omega
    have htext : (membersText (some key) j ((k', j') :: ms')).map some ++ some '}' :: r =
        (quoted key).map some ++ some ':' :: ((write j).map some ++ some ',' :: tail) := by
      simp [membersText, writeMembers, tail]
    rw [htext, hq]
    simp only [readMembers, skipSpace_cons (c := '"') (by decide), hkey, skipSpace_cons (c := ':') (by decide), hread,
      skipSpace_cons (c := ',') (by decide), tail, hm ((some key, j) :: before) k' j' ms' r hk' hj' hms' hlen,
      List.reverse_cons, List.append_assoc, List.singleton_append]

theorem readValue_array {n : ℕ} {c : Char} (h : isSpace (some c) = false) (hne : c ≠ ']') (r : List Symbol) :
    readValue (n + 1) (some '[' :: some c :: r) = readItems n [] (some c :: r) := by
  simp only [readValue, skipSpace_cons (c := '[') (by decide), skipSpace_cons h]
  split
  · next h' => simp only [List.cons.injEq, Option.some.injEq] at h'; exact absurd h'.1 hne
  · rfl

theorem readValue_object {n : ℕ} (r : List Symbol) :
    readValue (n + 1) (some '{' :: some '"' :: r) = readMembers n [] (some '"' :: r) := rfl

theorem readValue_digit {n : ℕ} {c : Char} (h : isDigit c = true) (r : List Symbol) :
    readValue (n + 1) (some c :: r) = readAtom (some c :: r) := by
  simp only [readValue, skipSpace_cons (isSpace_digit h)]
  split
  · next h' => cases h'; exact absurd rfl (ne_of_isDigit h (by decide))
  · next h' => cases h'; exact absurd rfl (ne_of_isDigit h (by decide))
  · next h' => cases h'; exact absurd rfl (ne_of_isDigit h (by decide))
  · rfl

theorem readValue_succ {n : ℕ} (hi : ReadsItems n) (hm : ReadsMembers n) : Reads (n + 1) := by
  intro j r hj hr hn
  cases j with
  | null => rfl
  | bool b => cases b <;> rfl
  | number literal =>
    obtain ⟨k, rfl⟩ := hj
    have hwrite : write (.number (toString k)) = digitsOf k := by
      rw [write, Nat.toString_eq_ofList_toDigits, String.toList_ofList, digitsOf]
    have hread := readAtom_nat k hr
    rw [hwrite]
    cases hd : digitsOf k with
    | nil => exact absurd hd Nat.toDigits_ne_nil
    | cons c cs =>
      have hc : isDigit c = true := isDigit_of_mem_digitsOf (n := k) (by rw [hd]; exact List.mem_cons_self)
      rw [hd] at hread
      exact (readValue_digit hc _).trans hread
  | string t =>
    obtain ⟨s, rfl⟩ := Option.isSome_iff_exists.mp hj
    obtain ⟨q, hq, hread⟩ := readString_quoted s r
    rw [write, Option.getD_some, hq]
    simp only [readValue, skipSpace_cons (c := '"') (by decide), hread, Option.map_some]
  | array js =>
    cases js with
    | nil => rfl
    | cons j js =>
      obtain ⟨hj, hjs⟩ := hj
      obtain ⟨c, cs, hw, hc, hne, -⟩ := write_head hj
      have hlen : 2 * (itemsText j js).length < n := by
        simp only [write, List.length_cons, List.length_append] at hn
        simp only [itemsText, List.length_append]
        omega
      have hitems := hi [] j js r hj hjs hlen
      have htext : (write (.array (j :: js))).map some ++ r =
          some '[' :: ((itemsText j js).map some ++ some ']' :: r) := by
        simp [write, itemsText]
      rw [htext]
      simp only [itemsText, hw, List.cons_append, List.map_cons] at hitems ⊢
      rw [readValue_array hc hne, hitems]
      rfl
  | object ms =>
    rcases ms with _ | ⟨⟨k, j⟩, ms⟩
    · rfl
    · obtain ⟨hk, hj, hms⟩ := hj
      have hlen : 2 * (membersText k j ms).length < n := by
        simp only [write, List.length_cons, List.length_append] at hn
        simp only [membersText, List.length_append, List.length_cons]
        omega
      have hmembers := hm [] k j ms r hk hj hms hlen
      have htext : (write (.object ((k, j) :: ms))).map some ++ r =
          some '{' :: ((membersText k j ms).map some ++ some '}' :: r) := by
        simp [write, membersText]
      rw [htext]
      simp only [membersText, quoted, List.cons_append, List.map_cons] at hmembers ⊢
      rw [readValue_object, hmembers]
      rfl

theorem reads_all (n : ℕ) : Reads n ∧ ReadsItems n ∧ ReadsMembers n := by
  induction n with
  | zero =>
    refine ⟨?_, fun _ _ _ _ _ _ h => absurd h (Nat.not_lt_zero _),
      fun _ _ _ _ _ _ _ _ h => absurd h (Nat.not_lt_zero _)⟩
    intro j r hj _ hn
    obtain ⟨c, cs, hw, -⟩ := write_head hj
    rw [hw, List.length_cons] at hn
    omega
  | succ n ih =>
    obtain ⟨hv, hi, hm⟩ := ih
    exact ⟨readValue_succ hi hm, readItems_succ hv hi, readMembers_succ hv hm⟩

theorem ofString?_render {j : Json} (h : j.IsPlain) : ofString? j.render = some j := by
  have hr : EndsNumber [] := fun c hc => by cases hc
  have hread := (reads_all (2 * ((write j).map some).length + 2)).1 j [] h hr (by rw [List.length_map]; omega)
  rw [List.append_nil] at hread
  rw [ofString?, symbolsOf, render, String.toList_ofList, read, hread]
  rfl

end NotebookHost.Json
