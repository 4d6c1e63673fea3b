import NotebookHost.Text.Utf8
import Mathlib.Data.List.Lex
import Mathlib.Order.Basic
import Mathlib.Data.Char

namespace NotebookHost.Text

theorem encode_eq_flatMap (s : String) : encode s = s.toList.flatMap String.utf8EncodeChar := by
  have h : s.toUTF8 = s.toList.utf8Encode := (String.utf8Encode_toList (b := s)).symm
  rw [encode, h, List.utf8Encode, List.toList_data_toByteArray]

theorem byte_cons_lt_iff {m n : ℕ} (hm : m < 256) (hn : n < 256) (s t : List UInt8) :
    UInt8.ofNat m :: s < UInt8.ofNat n :: t ↔ m < n ∨ m = n ∧ s < t := by
  have heq : UInt8.ofNat m = UInt8.ofNat n ↔ m = n := by
    rw [← UInt8.toNat_inj, UInt8.toNat_ofNat', UInt8.toNat_ofNat', Nat.mod_eq_of_lt hm, Nat.mod_eq_of_lt hn]
  rw [List.cons_lt_cons_iff, UInt8.ofNat_lt_iff_lt hm hn, heq]

theorem lt_iff_digits (m n : ℕ) : m < n ↔ m / 64 < n / 64 ∨ m / 64 = n / 64 ∧ m % 64 < n % 64 := by omega

theorem encodeChar_lt {c d : Char} (h : c < d) (s t : List UInt8) :
    String.utf8EncodeChar c ++ s < String.utf8EncodeChar d ++ t := by
  have hlt : c.val.toNat < d.val.toNat := h
  have hd : d.val.toNat < 1114112 := by
    have := d.valid
    simp only [UInt32.isValidChar, Nat.isValidChar] at this
    omega
  unfold String.utf8EncodeChar
  generalize c.val.toNat = m at hlt
  generalize d.val.toNat = n at hlt hd
  have h₁ := lt_iff_digits m n
  have h₂ := lt_iff_digits (m / 64) (n / 64)
  have h₃ := lt_iff_digits (m / 64 / 64) (n / 64 / 64)
  have hdiv (k : ℕ) : k / 64 / 64 = k / 4096 ∧ k / 4096 / 64 = k / 262144 :=
    ⟨Nat.div_div_eq_div_mul k 64 64, Nat.div_div_eq_div_mul k 4096 64⟩
  obtain ⟨hm₁, hm₂⟩ := hdiv m
  obtain ⟨hn₁, hn₂⟩ := hdiv n
  rw [hm₁, hn₁, hm₂, hn₂] at h₃
  rw [hm₁, hn₁] at h₂
  have hm₄ : m / 262144 % 8 = m / 262144 := by omega
  have hn₄ : n / 262144 % 8 = n / 262144 := by omega
  dsimp only
  split_ifs <;> simp only [List.cons_append, List.nil_append]
  all_goals
    repeat rw [byte_cons_lt_iff (by omega) (by omega)]
    omega

theorem flatMap_encodeChar_lt {s t : List Char} (h : s < t) :
    s.flatMap String.utf8EncodeChar < t.flatMap String.utf8EncodeChar := by
  induction h with
  | nil =>
    rename_i c t
    rw [List.flatMap_nil, List.flatMap_cons]
    cases hc : String.utf8EncodeChar c with
    | nil => exact absurd hc String.utf8EncodeChar_ne_nil
    | cons b bs => exact List.nil_lt_cons _ _
  | rel hlt => exact encodeChar_lt hlt _ _
  | cons _ ih => exact List.append_left_lt ih

theorem encode_lt_encode_iff {s t : String} : encode s < encode t ↔ s < t := by
  rw [encode_eq_flatMap, encode_eq_flatMap]
  constructor
  · intro h
    rcases lt_trichotomy s.toList t.toList with hlt | heq | hgt
    · exact hlt
    · rw [heq] at h
      exact absurd h (List.lt_irrefl _)
    · exact absurd h (List.lt_asymm (flatMap_encodeChar_lt hgt))
  · exact flatMap_encodeChar_lt

end NotebookHost.Text
