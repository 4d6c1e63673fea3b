import NotebookHost.Proofs.Text.ByteOrder
import Mathlib.Tactic.SplitIfs

namespace NotebookHost.Text

theorem toNat_byte {n : ℕ} (h : n < 256) : (UInt8.ofNat n).toNat = n := by
  rw [UInt8.toNat_ofNat', Nat.mod_eq_of_lt h]

theorem isTail_byte (n : ℕ) : isTail (UInt8.ofNat (n % 64 + 128)) = true := by
  have h := toNat_byte (n := n % 64 + 128) (by omega)
  simp only [isTail, UInt8.le_iff_toNat_le, h, UInt8.reduceToNat, Bool.and_eq_true, decide_eq_true_eq]
  omega

theorem low_byte (n : ℕ) : low (UInt8.ofNat (n % 64 + 128)) = n % 64 := by
  rw [low, toNat_byte (by omega)]
  omega

theorem frontChar?_one {v : ℕ} (h : v ≤ 127) (rest : List UInt8) :
    frontChar? (UInt8.ofNat v) rest = some (Char.ofNat v, 0) := by
  have hb := toNat_byte (n := v) (by omega)
  rw [frontChar?.eq_def, if_pos, hb]
  rw [UInt8.lt_iff_toNat_lt, hb]
  exact Nat.lt_succ_of_le h

theorem frontChar?_two {v : ℕ} (hlow : 127 < v) (h : v ≤ 2047) (rest : List UInt8) :
    frontChar? (UInt8.ofNat (v / 64 % 32 + 192)) (UInt8.ofNat (v % 64 + 128) :: rest) = some (Char.ofNat v, 1) := by
  have hb := toNat_byte (n := v / 64 % 32 + 192) (by omega)
  have hv : (v / 64 % 32 + 192) % 32 * 64 + v % 64 = v := by omega
  rw [frontChar?.eq_def]
  simp only [UInt8.lt_iff_toNat_lt, UInt8.le_iff_toNat_le, isTail_byte, low_byte, hb, hv, UInt8.reduceToNat,
    Bool.and_true, Bool.and_eq_true, decide_eq_true_eq]
  rw [if_neg (by omega), if_pos (by omega)]

theorem frontChar?_three {v : ℕ} (hlow : 2047 < v) (h : v ≤ 65535) (hscalar : v < 0xd800 ∨ 0xdfff < v)
    (rest : List UInt8) :
    frontChar? (UInt8.ofNat (v / 4096 % 16 + 224))
      (UInt8.ofNat (v / 64 % 64 + 128) :: UInt8.ofNat (v % 64 + 128) :: rest) = some (Char.ofNat v, 2) := by
  have hb := toNat_byte (n := v / 4096 % 16 + 224) (by omega)
  have hc := toNat_byte (n := v / 64 % 64 + 128) (by omega)
  have hv : (v / 4096 % 16 + 224) % 16 * 4096 + v / 64 % 64 * 64 + v % 64 = v := by omega
  rw [frontChar?.eq_def]
  simp only [UInt8.lt_iff_toNat_lt, UInt8.le_iff_toNat_le, ← UInt8.toNat_inj, bne_iff_ne, ne_eq, isTail_byte,
    low_byte, hb, hc, hv, UInt8.reduceToNat, Bool.and_true, Bool.true_and, Bool.and_eq_true, Bool.or_eq_true,
    decide_eq_true_eq]
  rw [if_neg (by omega), if_neg (by omega), if_pos (by omega)]

theorem frontChar?_four {v : ℕ} (hlow : 65535 < v) (h : v < 1114112) (rest : List UInt8) :
    frontChar? (UInt8.ofNat (v / 262144 % 8 + 240)) (UInt8.ofNat (v / 4096 % 64 + 128) ::
      UInt8.ofNat (v / 64 % 64 + 128) :: UInt8.ofNat (v % 64 + 128) :: rest) = some (Char.ofNat v, 3) := by
  have hb := toNat_byte (n := v / 262144 % 8 + 240) (by omega)
  have hc := toNat_byte (n := v / 4096 % 64 + 128) (by omega)
  have hv : (v / 262144 % 8 + 240) % 8 * 262144 + v / 4096 % 64 * 4096 + v / 64 % 64 * 64 + v % 64 = v := by omega
  rw [frontChar?.eq_def]
  simp only [UInt8.lt_iff_toNat_lt, UInt8.le_iff_toNat_le, ← UInt8.toNat_inj, bne_iff_ne, ne_eq, isTail_byte,
    low_byte, hb, hc, hv, UInt8.reduceToNat, Bool.and_true, Bool.true_and, Bool.and_eq_true, Bool.or_eq_true,
    decide_eq_true_eq]
  rw [if_neg (by omega), if_neg (by omega), if_neg (by omega), if_pos (by omega)]

theorem symbolsFrom_encodeChar (seen : List Symbol) (c : Char) (rest : List UInt8) :
    symbolsFrom seen (String.utf8EncodeChar c ++ rest) = symbolsFrom (some c :: seen) rest := by
  have hvalid : c.val.toNat < 0xd800 ∨ 0xdfff < c.val.toNat ∧ c.val.toNat < 1114112 := c.valid
  have hc : Char.ofNat c.val.toNat = c := Char.ofNat_toNat c
  unfold String.utf8EncodeChar
  generalize c.val.toNat = v at hvalid hc
  dsimp only
  split_ifs with h₁ h₂ h₃ <;> simp only [List.cons_append, List.nil_append] <;> rw [symbolsFrom]
  · rw [frontChar?_one h₁, hc]
    rfl
  · rw [frontChar?_two (by omega) h₂, hc]
    rfl
  · rw [frontChar?_three (by omega) h₃ (by omega), hc]
    rfl
  · rw [frontChar?_four (by omega) (by omega), hc]
    rfl

theorem symbols_encode (s : String) : symbols (encode s) = symbolsOf s := by
  have hfrom (cs : List Char) (seen : List Symbol) :
      symbolsFrom seen (cs.flatMap String.utf8EncodeChar) = seen.reverse ++ cs.map some := by
    induction cs generalizing seen with
    | nil => simp [symbolsFrom]
    | cons c cs ih => simp [symbolsFrom_encodeChar, ih]
  rw [symbols, encode_eq_flatMap, hfrom]
  rfl

end NotebookHost.Text
