import DaemonPki.Foundation.Text
import Mathlib.Data.Nat.Digits.Lemmas

/-!
# Numbers and texts as bytes

The bytes of a number, most significant first, and the hexadecimal text of bytes, two digits for
each.

## Main definitions

* `Foundation.toBytesBe`, `Foundation.ofBytesBe`, `Foundation.lowerHex`.
* `Foundation.derInteger`: the contents of an integer in DER.

## Main results

* `Foundation.ofBytesBe_toBytesBe`, `Foundation.ofBytesBe_derInteger`: a number is that of its
  bytes, and of its encoding.
* `Foundation.derInteger_eq_toBytesBe_iff`: when a number is encoded by its bytes alone.
* `Foundation.utf8_lowerHex_cons`: the digits of a byte are single bytes that are read back.
* `Foundation.lowerHex_injective`: bytes are determined by their text.
-/

namespace Foundation

/-- The bytes of a number, the most significant first and not zero; zero has one byte. -/
def toBytesBe (n : ℕ) : List UInt8 :=
  if n = 0 then [0] else ((Nat.digits 256 n).map UInt8.ofNat).reverse

/-- The number of a sequence of bytes, the most significant first. -/
def ofBytesBe (bytes : List UInt8) : ℕ := Nat.ofDigits 256 (bytes.reverse.map UInt8.toNat)

theorem toBytesBe_ne_nil (n : ℕ) : toBytesBe n ≠ [] := by
  rw [toBytesBe]
  split_ifs with hn
  · exact List.cons_ne_nil _ _
  · rw [Ne, List.reverse_eq_nil_iff, List.map_eq_nil_iff, Nat.digits_eq_nil_iff_eq_zero]
    exact hn

theorem ofBytesBe_toBytesBe (n : ℕ) : ofBytesBe (toBytesBe n) = n := by
  rw [toBytesBe]
  split_ifs with hn
  · rw [hn]
    rfl
  · have hdigits : (Nat.digits 256 n).map (UInt8.toNat ∘ UInt8.ofNat) = Nat.digits 256 n := by
      refine List.map_congr_left (fun d hd => ?_) |>.trans (List.map_id _)
      exact UInt8.toNat_ofNat_of_lt' (Nat.digits_lt_base (by decide) hd)
    rw [ofBytesBe, List.reverse_reverse, List.map_map, hdigits, Nat.ofDigits_digits]

/-- The first byte of a number that is not zero is not zero. -/
theorem head?_toBytesBe_ne_zero {n : ℕ} (h : n ≠ 0) : (toBytesBe n).head? ≠ some 0 := by
  have hdigits : Nat.digits 256 n ≠ [] := Nat.digits_ne_nil_iff_ne_zero.mpr h
  rw [toBytesBe, if_neg h, List.head?_reverse, List.getLast?_map,
    List.getLast?_eq_some_getLast hdigits, Option.map_some]
  intro hzero
  have hlt : (Nat.digits 256 n).getLast hdigits < 256 :=
    Nat.digits_lt_base (by decide) (List.getLast_mem hdigits)
  have hvalue := congrArg UInt8.toNat (Option.some.inj hzero)
  rw [UInt8.toNat_ofNat_of_lt' hlt] at hvalue
  exact Nat.getLast_digit_ne_zero 256 h hvalue

/-! ### Integers with a sign -/

/-- Whether the most significant bit of the first byte is set. -/
def topBit : List UInt8 → Bool
  | [] => false
  | byte :: _ => 0x80 ≤ byte

/-- The contents of the DER encoding of a natural number as an integer: its bytes, with a zero
byte before them when they would begin with a sign. -/
def derInteger (n : ℕ) : List UInt8 :=
  if topBit (toBytesBe n) then 0 :: toBytesBe n else toBytesBe n

theorem derInteger_ne_nil (n : ℕ) : derInteger n ≠ [] := by
  rw [derInteger]
  split_ifs
  · exact List.cons_ne_nil _ _
  · exact toBytesBe_ne_nil n

/-- A zero byte in front does not change the number. -/
theorem ofBytesBe_cons_zero (bytes : List UInt8) : ofBytesBe (0 :: bytes) = ofBytesBe bytes := by
  simp [ofBytesBe, Nat.ofDigits_append]

/-- A number is that of its encoding. -/
theorem ofBytesBe_derInteger (n : ℕ) : ofBytesBe (derInteger n) = n := by
  rw [derInteger]
  split_ifs
  · rw [ofBytesBe_cons_zero, ofBytesBe_toBytesBe]
  · exact ofBytesBe_toBytesBe n

/-- The two encodings of a number agree when it has no sign bit to hide. -/
theorem derInteger_eq_toBytesBe_iff {n : ℕ} :
    derInteger n = toBytesBe n ↔ topBit (toBytesBe n) = false := by
  rw [derInteger]
  split_ifs with htop
  · rw [htop]
    refine iff_of_false (fun heq => ?_) Bool.noConfusion
    have hlength := congrArg List.length heq
    rw [List.length_cons] at hlength
    omega
  · exact iff_of_true rfl (Bool.eq_false_iff.mpr htop)

/-- An encoding that begins with a zero byte is the bytes of no number but zero. -/
theorem derInteger_ne_toBytesBe {n m : ℕ} (hn : topBit (toBytesBe n) = true) (hm : m ≠ 0) :
    derInteger n ≠ toBytesBe m := by
  intro heq
  rw [derInteger, if_pos hn] at heq
  exact head?_toBytesBe_ne_zero hm (heq ▸ rfl)

/-! ### Hexadecimal texts -/

/-- The lower-case hexadecimal text of a sequence of bytes, two digits for each. -/
def lowerHex (bytes : List UInt8) : List Char :=
  bytes.flatMap fun byte => [Nat.digitChar (byte.toNat / 16), Nat.digitChar (byte.toNat % 16)]

/-- The digits of a byte are single bytes, and are read back as the byte. -/
theorem utf8_lowerHex_cons (byte : UInt8) (bytes : List UInt8) : ∃ high low : UInt8,
    Text.utf8 (lowerHex (byte :: bytes)) = high :: low :: Text.utf8 (lowerHex bytes) ∧
      Text.fromStrRadix 16 256 [high, low] = some byte.toNat := by
  have hbyte : byte.toNat < 256 := byte.toNat_lt
  obtain ⟨high, hhigh, -, hsign, hhighDigit, -⟩ :=
    Text.exists_byte_digitChar (byte.toNat / 16) (by omega)
  obtain ⟨low, hlow, -, -, hlowDigit, -⟩ :=
    Text.exists_byte_digitChar (byte.toNat % 16) (by omega)
  refine ⟨high, low, ?_, ?_⟩
  · simp [lowerHex, Text.utf8, hhigh, hlow]
  · have hvalue : byte.toNat / 16 * 16 + byte.toNat % 16 = byte.toNat := Nat.div_add_mod' _ _
    have hfirst : byte.toNat / 16 < 256 := by omega
    rw [Text.fromStrRadix_cons hsign]
    simp [Text.parseDigits, hhighDigit, hlowDigit, hvalue, hfirst, hbyte]

theorem length_utf8_lowerHex (bytes : List UInt8) :
    (Text.utf8 (lowerHex bytes)).length = 2 * bytes.length := by
  induction bytes with
  | nil => rfl
  | cons byte bytes ih =>
    obtain ⟨high, low, hutf8, -⟩ := utf8_lowerHex_cons byte bytes
    rw [hutf8, List.length_cons, List.length_cons, List.length_cons, ih]
    omega

/-- **Bytes are determined by their text.** -/
theorem lowerHex_injective : Function.Injective lowerHex := by
  intro bytes bytes' h
  replace h : Text.utf8 (lowerHex bytes) = Text.utf8 (lowerHex bytes') := congrArg Text.utf8 h
  induction bytes generalizing bytes' with
  | nil =>
    cases bytes' with
    | nil => rfl
    | cons byte' bytes' =>
      obtain ⟨high, low, hutf8, -⟩ := utf8_lowerHex_cons byte' bytes'
      rw [hutf8] at h
      cases h
  | cons byte bytes ih =>
    obtain ⟨high, low, hutf8, hvalue⟩ := utf8_lowerHex_cons byte bytes
    rw [hutf8] at h
    cases bytes' with
    | nil => cases h
    | cons byte' bytes' =>
      obtain ⟨high', low', hutf8', hvalue'⟩ := utf8_lowerHex_cons byte' bytes'
      rw [hutf8'] at h
      obtain ⟨rfl, rfl, hrest⟩ : high = high' ∧ low = low' ∧ _ = _ := by simpa using h
      have hbyte := Option.some.inj (hvalue.symm.trans hvalue')
      rw [UInt8.toNat_inj.mp hbyte, ih hrest]

end Foundation
