import NotebookHost.Instant.Text
import NotebookHost.Proofs.Text.Decimal
import Mathlib.Data.Int.Notation

namespace NotebookHost.Instant

open Text Calendar

theorem isBlank_digit {c : Char} (h : isDigit c = true) : isBlank c = false := by
  have hc : 48 ≤ c.toNat ∧ c.toNat ≤ 57 := by
    simp only [isDigit, Bool.and_eq_true, decide_eq_true_eq] at h
    exact h
  simp only [isBlank, Bool.or_eq_false_iff, Bool.and_eq_false_iff, decide_eq_false_iff_not, beq_eq_false_iff_ne]
  omega

theorem trimStart_cons {c : Char} (h : isBlank c = false) (r : List Char) : trimStart (c :: r) = c :: r := by
  rw [trimStart, List.dropWhile_cons, h]
  rfl

theorem trimStart_padded (w n : ℕ) (r : List Char) : trimStart (padded w n ++ r) = padded w n ++ r := by
  cases hp : padded w n with
  | nil => exact absurd hp (padded_ne_nil w n)
  | cons c cs => exact trimStart_cons (isBlank_digit (isDigit_of_mem_padded (by rw [hp]; exact List.mem_cons_self))) _

theorem readNumber_padded {w n : ℕ} (hw : 0 < w) (hn : n < 10 ^ w) (r : List Char) :
    readNumber w (padded w n ++ r) = some (n, r) := by
  have htake : (padded w n ++ r).take w = padded w n := by
    rw [List.take_append_of_le_length (Nat.le_of_eq (length_padded hw hn).symm),
      List.take_of_length_le (Nat.le_of_eq (length_padded hw hn))]
  have hall : (padded w n).takeWhile isDigit = padded w n := by
    simpa using takeWhile_padded w n (r := []) (fun c hc => by cases hc)
  have hdrop : (padded w n ++ r).drop (padded w n).length = r := List.drop_left
  have hvalue := digitsValue_padded w n
  rw [readNumber, trimStart_padded, htake, hall]
  cases hp : padded w n with
  | nil => exact absurd hp (padded_ne_nil w n)
  | cons c cs =>
    rw [hp] at hdrop hvalue
    dsimp only
    rw [hvalue, hdrop]

theorem readAnyNumber_padded (w n : ℕ) {r : List Char} (hr : ∀ c ∈ r.head?, isDigit c = false) :
    readAnyNumber (padded w n ++ r) = some (n, r) := by
  have hdrop : (padded w n ++ r).drop (padded w n).length = r := List.drop_left
  have hvalue := digitsValue_padded w n
  rw [readAnyNumber, takeWhile_padded w n hr]
  cases hp : padded w n with
  | nil => exact absurd hp (padded_ne_nil w n)
  | cons c cs =>
    rw [hp] at hdrop hvalue
    dsimp only
    rw [hvalue, hdrop]

theorem readYear_writeYear (y : ℤ) (r : List Char) : readYear (writeYear y ++ '-' :: r) = some (y, '-' :: r) := by
  have hr : ∀ c ∈ ('-' :: r).head?, isDigit c = false := by
    rintro c ⟨⟩
    decide
  by_cases h : 0 ≤ y ∧ y ≤ 9999
  · have hread := readNumber_padded (w := 4) (n := y.toNat) (by decide) (by omega) ('-' :: r)
    have hcast : (y.toNat : ℤ) = y := Int.toNat_of_nonneg h.1
    rw [writeYear, if_pos h, readYear, trimStart_padded]
    cases hp : padded 4 y.toNat with
    | nil => exact absurd hp (padded_ne_nil 4 y.toNat)
    | cons c cs =>
      have hc : isDigit c = true := isDigit_of_mem_padded (w := 4) (n := y.toNat) (by rw [hp]; exact List.mem_cons_self)
      rw [hp] at hread
      rw [List.cons_append] at hread ⊢
      split
      · next h' => cases h'; exact absurd rfl (ne_of_isDigit hc (by decide))
      · next h' => cases h'; exact absurd rfl (ne_of_isDigit hc (by decide))
      · simp only [hread, Option.map_some, hcast]
  · have hread := readAnyNumber_padded 4 y.natAbs hr
    rw [writeYear, if_neg h]
    by_cases hneg : y < 0
    · have hcast : -(y.natAbs : ℤ) = y := by omega
      rw [if_pos hneg, List.cons_append, readYear, trimStart_cons (by decide)]
      simp only [hread, Option.map_some, hcast]
    · have hcast : (y.natAbs : ℤ) = y := by omega
      rw [if_neg hneg, List.cons_append, readYear, trimStart_cons (by decide)]
      simp only [hread, Option.map_some, hcast]

theorem readMark_cons {mark : Char} (h : isBlank mark = false) (r : List Char) :
    readMark mark (mark :: r) = some r := by
  simp only [readMark, trimStart_cons h, if_true]

theorem readFraction_padded {w n nano : ℕ} (hw : 0 < w) (hw9 : w ≤ 9) (hn : n < 10 ^ w)
    (hnano : n * 10 ^ (9 - w) = nano) {r : List Char} (hr : ∀ c ∈ r.head?, isDigit c = false) :
    readFraction ('.' :: (padded w n ++ r)) = some (nano, r) := by
  have hlen := length_padded hw hn
  have hdrop : (padded w n ++ r).drop (padded w n).length = r := List.drop_left
  have htake : (padded w n).take 9 = padded w n := List.take_of_length_le (by omega)
  have hvalue : digitsValue (padded w n ++ List.replicate (9 - w) '0') = nano := by
    have h := digitsValue_padded w n
    rw [digitsValue_eq] at h ⊢
    rw [Nat.ofDigitChars_append, h, Nat.ofDigitChars_replicate_zero, Nat.mul_comm, hnano]
  rw [readFraction, takeWhile_padded w n hr]
  cases hp : padded w n with
  | nil => exact absurd hp (padded_ne_nil w n)
  | cons c cs =>
    rw [hp] at hdrop hvalue htake hlen
    dsimp only
    rw [htake, hlen, hvalue]
    rw [hlen] at hdrop
    rw [hdrop]

theorem readFraction_writeFraction {nano : ℕ} (h : nano < 1000000000) :
    readFraction (writeFraction nano ++ ['Z']) = some (nano, ['Z']) := by
  have hr : ∀ c ∈ ['Z'].head?, isDigit c = false := by
    rintro c ⟨⟩
    decide
  unfold writeFraction
  split_ifs with h₀ h₆ h₃
  · subst h₀
    rfl
  · exact readFraction_padded (w := 3) (by decide) (by decide) (by omega) (by omega) hr
  · exact readFraction_padded (w := 6) (by decide) (by decide) (by omega) (by omega) hr
  · exact readFraction_padded (w := 9) (by decide) (by decide) h (by omega) hr

theorem of?_parts (t : Instant) : of? t.date t.hour t.minute t.second t.nano = some t := by
  rw [of?, dif_pos ⟨t.hour_lt, t.minute_lt, t.second_le, t.nano_lt⟩]

theorem ofClock?_zero (t : Instant) : t.ofClock? 0 = some t := by
  have hh := t.hour_lt
  have hm := t.minute_lt
  have hhour : (((60 * t.hour + t.minute : ℕ) : ℤ) - 0) / 60 = t.hour := by omega
  have hminute : (((60 * t.hour + t.minute : ℕ) : ℤ) - 0) % 60 = t.minute := by omega
  rw [ofClock?, if_neg (by omega), if_pos (by omega), ofClock?.at?, hhour, hminute, Int.toNat_natCast,
    Int.toNat_natCast]
  exact of?_parts t

theorem readOffset_Z : readOffset ['Z'] = some (0, []) := by decide

theorem readHyphen (r : List Char) : readMark '-' ('-' :: r) = some r := readMark_cons (by decide) r

theorem readColon (r : List Char) : readMark ':' (':' :: r) = some r := readMark_cons (by decide) r

theorem readTimeMark_T (r : List Char) : readTimeMark ('T' :: r) = some r := by
  rw [readTimeMark, if_pos (.inl rfl)]

theorem readNumber_two {n : ℕ} (h : n < 100) (r : List Char) : readNumber 2 (padded 2 n ++ r) = some (n, r) :=
  readNumber_padded (by decide) h r

theorem month_lt (d : Date) : d.month < 100 := by
  have h := d.month_mem
  omega

theorem day_lt (d : Date) : d.day < 100 := by
  have h := d.day_mem.2
  simp only [daysIn] at h
  split_ifs at h <;> omega

theorem bind_of_eq_some {α β : Type} {x : Option α} {a : α} (h : x = some a) (next : α → Option β) :
    x >>= next = next a := by
  rw [h]
  rfl

theorem read_write (t : Instant) : read (write t) = some t := by
  have hhour : t.hour < 100 := by
    have h := t.hour_lt
    omega
  have hminute : t.minute < 100 := by
    have h := t.minute_lt
    omega
  have hsecond : t.second < 100 := by
    have h := t.second_le
    omega
  have hend : (trimStart []).isEmpty = true := rfl
  -- One part of the text after the other, as they are read.
  apply (bind_of_eq_some (readYear_writeYear _ _) _).trans
  apply (bind_of_eq_some (readHyphen _) _).trans
  apply (bind_of_eq_some (readNumber_two (month_lt t.date) _) _).trans
  apply (bind_of_eq_some (readHyphen _) _).trans
  apply (bind_of_eq_some (readNumber_two (day_lt t.date) _) _).trans
  apply (bind_of_eq_some (readTimeMark_T _) _).trans
  apply (bind_of_eq_some (readNumber_two hhour _) _).trans
  apply (bind_of_eq_some (readColon _) _).trans
  apply (bind_of_eq_some (readNumber_two hminute _) _).trans
  apply (bind_of_eq_some (readColon _) _).trans
  apply (bind_of_eq_some (readNumber_two hsecond _) _).trans
  apply (bind_of_eq_some (readFraction_writeFraction t.nano_lt) _).trans
  apply (bind_of_eq_some readOffset_Z _).trans
  apply (if_pos hend).trans
  apply (bind_of_eq_some (Date.of?_self _) _).trans
  apply (bind_of_eq_some (of?_parts t) _).trans
  exact ofClock?_zero t

theorem ofText?_toText (t : Instant) : ofText? t.toText = some t := by
  rw [ofText?, toText, String.toList_ofList]
  exact read_write t

end NotebookHost.Instant
