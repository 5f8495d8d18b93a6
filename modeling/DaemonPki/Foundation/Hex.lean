import DaemonPki.Foundation.Bytes

/-!
# Pairs of hexadecimal digits

What the parser of unsigned integers makes of two characters, in radix 16 and below 256: it takes
two hexadecimal digits, and it also takes a sign before one digit, since it accepts a sign before
any number. The hexadecimal text of the bytes of a text of such pairs is the text in lower case,
with each sign read as a zero.

## Main definitions

* `Foundation.Text.SignedPair`, `Foundation.Text.SignedPairs`: what the parser takes.
* `Foundation.Text.unsigned`, `Foundation.Text.hexBytes`.

## Main results

* `Foundation.Text.fromStrRadix_pair`: what the parser makes of two characters.
* `Foundation.Text.lowerHex_hexBytes`: the text of the bytes of a text.
-/

namespace Foundation

namespace Text

/-! ### Digits -/

/-- The value of a hexadecimal digit. -/
def digitValue (c : Char) : ℕ := (toDigit 16 (UInt8.ofNat c.toNat)).getD 0

theorem toNat_lt_of_isHexDigit {c : Char} (h : c.isHexDigit = true) : c.toNat < 0x80 := by
  have hnine : '9'.val.toNat = 57 := rfl
  have hupper : 'F'.val.toNat = 70 := rfl
  have hlower : 'f'.val.toNat = 102 := rfl
  simp only [Char.isHexDigit, Char.isDigit, Bool.or_eq_true, Bool.and_eq_true, decide_eq_true_eq,
    ge_iff_le, UInt32.le_iff_toNat_le] at h
  rw [Char.toNat]
  omega

/-- What holds of all ASCII characters can be checked one by one. -/
theorem ascii_forall {P : Char → Prop} (h : ∀ n < 0x80, P (Char.ofNat n)) {c : Char}
    (hc : c.toNat < 0x80) : P c :=
  Char.ofNat_toNat c ▸ h c.toNat hc

/-- The parser takes the hexadecimal digits and no other ASCII character. -/
theorem toDigit_ofNat {c : Char} (h : c.toNat < 0x80) :
    toDigit 16 (UInt8.ofNat c.toNat) = if c.isHexDigit then some (digitValue c) else none :=
  ascii_forall (P := fun c => toDigit 16 (UInt8.ofNat c.toNat) =
    if c.isHexDigit then some (digitValue c) else none) (by decide) h

/-- The value of a digit is below 16, and its digit is the digit in lower case. -/
theorem digitChar_digitValue {c : Char} (h : c.isHexDigit = true) :
    digitValue c < 16 ∧ Nat.digitChar (digitValue c) = c.toLower :=
  ascii_forall (P := fun c => c.isHexDigit = true → digitValue c < 16 ∧
    Nat.digitChar (digitValue c) = c.toLower) (by decide) (toNat_lt_of_isHexDigit h) h

/-! ### Pairs -/

/-- Two hexadecimal digits, or a sign and a digit. -/
def SignedPair (c d : Char) : Prop := (c = '+' ∨ c.isHexDigit = true) ∧ d.isHexDigit = true

instance (c d : Char) : Decidable (SignedPair c d) := inferInstanceAs (Decidable (_ ∧ _))

/-- The character, or a zero for a sign. -/
def unsigned (c : Char) : Char := if c = '+' then '0' else c

theorem unsigned_of_isHexDigit {c : Char} (h : c.isHexDigit = true) : unsigned c = c := by
  rw [unsigned, if_neg]
  rintro rfl
  cases h

theorem map_unsigned_of_notMem {text : List Char} (h : '+' ∉ text) : text.map unsigned = text := by
  refine (List.map_congr_left fun c hc => ?_).trans (List.map_id _)
  rw [unsigned, if_neg, id]
  rintro rfl
  exact h hc

/-- A pair is one of digits once a sign is read as a zero. -/
theorem signedPair_iff {c d : Char} :
    SignedPair c d ↔ (unsigned c).isHexDigit = true ∧ d.isHexDigit = true := by
  refine and_congr_left fun _ => ?_
  rw [unsigned]
  split_ifs with hsign
  · exact iff_of_true (Or.inl hsign) rfl
  · exact or_iff_right hsign

theorem SignedPair.toNat_lt {c d : Char} (h : SignedPair c d) :
    c.toNat < 0x80 ∧ d.toNat < 0x80 := by
  refine ⟨?_, toNat_lt_of_isHexDigit h.2⟩
  rcases h.1 with rfl | hc
  · decide
  · exact toNat_lt_of_isHexDigit hc

/-- The value of a pair. -/
def pairValue (c d : Char) : ℕ := digitValue (unsigned c) * 16 + digitValue d

theorem SignedPair.pairValue_lt {c d : Char} (h : SignedPair c d) : pairValue c d < 256 := by
  have hc := (digitChar_digitValue (signedPair_iff.mp h).1).1
  have hd := (digitChar_digitValue h.2).1
  rw [pairValue]
  omega

theorem toDigit_lt {radix digit : ℕ} {byte : UInt8} (h : toDigit radix byte = some digit) :
    digit < radix := by
  have hdigit := (Option.filter_eq_some_iff.mp h).2
  exact of_decide_eq_true hdigit

theorem parseDigits_singleton (byte : UInt8) :
    parseDigits 16 256 0 [byte] = toDigit 16 byte := by
  rw [parseDigits]
  cases hdigit : toDigit 16 byte with
  | none => rfl
  | some digit =>
    have hlt := toDigit_lt hdigit
    simp only [parseDigits]
    rw [if_pos (by omega), Nat.zero_mul, Nat.zero_add]

theorem parseDigits_pair {high low : UInt8} : parseDigits 16 256 0 [high, low] =
    (toDigit 16 high).bind fun h => (toDigit 16 low).map fun l => h * 16 + l := by
  have happend := parseDigits_append 16 256 0 [high] [low]
  rw [List.singleton_append] at happend
  rw [happend, parseDigits_singleton]
  cases hhigh : toDigit 16 high with
  | none => rfl
  | some h =>
    rw [Option.bind_some, Option.bind_some, parseDigits]
    cases hlow : toDigit 16 low with
    | none => rfl
    | some l =>
      have hh := toDigit_lt hhigh
      have hl := toDigit_lt hlow
      simp only [parseDigits]
      rw [if_pos (by omega), Option.map_some]

/-- No number begins with a byte of a character that has several. -/
theorem fromStrRadix_of_le {high : UInt8} (h : 0xC0 ≤ high) (low : UInt8) :
    fromStrRadix 16 256 [high, low] = none := by
  have habove : ∀ bound < 0xC0, ¬high ≤ bound := fun bound hbound hle =>
    UInt8.not_lt.mpr (UInt8.le_trans h hle) hbound
  have hsign : high ≠ 43 := fun heq => habove 43 (by decide) (UInt8.le_of_eq heq)
  have hdigit : toDigit 16 high = none := by
    rw [toDigit, if_neg fun hd => habove 57 (by decide) hd.2,
      if_neg fun hd => habove 122 (by decide) hd.2, if_neg fun hd => habove 90 (by decide) hd.2]
    rfl
  rw [fromStrRadix_cons hsign, parseDigits_pair, hdigit, Option.bind_none]

/-- A sign before a digit has no effect. -/
theorem fromStrRadix_unsigned {c : Char} (hc : c.toNat < 0x80) (low : UInt8) :
    fromStrRadix 16 256 [UInt8.ofNat c.toNat, low] =
      parseDigits 16 256 0 [UInt8.ofNat (unsigned c).toNat, low] := by
  rw [unsigned]
  split_ifs with hsign
  · subst hsign
    have hzero : toDigit 16 (UInt8.ofNat '0'.toNat) = some 0 := rfl
    rw [parseDigits_pair, hzero, Option.bind_some]
    refine (parseDigits_singleton low).trans ?_
    simp only [Nat.zero_mul, Nat.zero_add, Option.map_id_fun', id_eq]
  · have hbyte : UInt8.ofNat c.toNat ≠ 43 := fun hplus => hsign
      (ascii_forall (P := fun c => UInt8.ofNat c.toNat = 43 → c = '+') (by decide) hc hplus)
    exact fromStrRadix_cons hbyte [low]

/-- **What the parser makes of two characters.** -/
theorem fromStrRadix_pair {c d : Char} (hc : c.toNat < 0x80) (hd : d.toNat < 0x80) :
    fromStrRadix 16 256 [UInt8.ofNat c.toNat, UInt8.ofNat d.toNat] =
      if SignedPair c d then some (pairValue c d) else none := by
  have hunsigned : (unsigned c).toNat < 0x80 := by
    rw [unsigned]
    split_ifs
    · decide
    · exact hc
  rw [fromStrRadix_unsigned hc, parseDigits_pair, toDigit_ofNat hunsigned, toDigit_ofNat hd]
  simp only [signedPair_iff]
  cases (unsigned c).isHexDigit <;> cases d.isHexDigit <;> rfl

/-! ### Texts of pairs -/

/-- The text is a sequence of pairs. -/
def SignedPairs : List Char → Prop
  | [] => True
  | [_] => False
  | c :: d :: text => SignedPair c d ∧ SignedPairs text

theorem length_utf8_of_signedPairs {text : List Char} (h : SignedPairs text) :
    (utf8 text).length % 2 = 0 := by
  induction text using SignedPairs.induct with
  | case1 => rfl
  | case2 c => exact h.elim
  | case3 c d text ih =>
    obtain ⟨hpair, hrest⟩ := h
    have hc := utf8Size_eq_one_iff.mpr hpair.toNat_lt.1
    have hd := utf8Size_eq_one_iff.mpr hpair.toNat_lt.2
    rw [utf8_cons, utf8_cons, List.length_append, List.length_append,
      String.length_utf8EncodeChar, String.length_utf8EncodeChar, hc, hd, ← Nat.add_assoc,
      Nat.add_mod_left]
    exact ih hrest

/-- The bytes of a sequence of pairs. -/
def hexBytes : List Char → List UInt8
  | c :: d :: text => UInt8.ofNat (pairValue c d) :: hexBytes text
  | _ => []

/-- **The text of the bytes of a text** is the text in lower case, with zeros for its signs. -/
theorem lowerHex_hexBytes {text : List Char} (h : SignedPairs text) :
    lowerHex (hexBytes text) = toAsciiLowercase (text.map unsigned) := by
  induction text using SignedPairs.induct with
  | case1 => rfl
  | case2 c => exact h.elim
  | case3 c d text ih =>
    obtain ⟨hpair, hrest⟩ := h
    have hc := digitChar_digitValue (signedPair_iff.mp hpair).1
    have hd := digitChar_digitValue hpair.2
    have hhigh : pairValue c d / 16 = digitValue (unsigned c) := by rw [pairValue]; omega
    have hlow : pairValue c d % 16 = digitValue d := by rw [pairValue]; omega
    rw [hexBytes, lowerHex, List.flatMap_cons, ← lowerHex, ih hrest,
      UInt8.toNat_ofNat_of_lt' hpair.pairValue_lt, hhigh, hlow, hc.2, hd.2]
    simp [toAsciiLowercase, unsigned_of_isHexDigit hpair.2]

/-- Without signs, the sequences of pairs are the texts of digits, an even number of them. -/
theorem signedPairs_iff_of_notMem {text : List Char} (h : '+' ∉ text) :
    SignedPairs text ↔ text.length % 2 = 0 ∧ ∀ c ∈ text, c.isHexDigit = true := by
  induction text using SignedPairs.induct with
  | case1 => simp [SignedPairs]
  | case2 c => simp [SignedPairs]
  | case3 c d text ih =>
    simp only [List.mem_cons, not_or] at h
    obtain ⟨hc, -, hrest⟩ := h
    have hsign : ¬c = '+' := fun heq => hc heq.symm
    have hlength : (c :: d :: text).length % 2 = text.length % 2 := Nat.add_mod_right _ 2
    rw [SignedPairs, ih hrest, SignedPair, or_iff_right hsign, hlength, List.forall_mem_cons,
      List.forall_mem_cons, and_left_comm, and_assoc]

/-- Where the signs of a text are. -/
def signs (text : List Char) : List Bool := text.map fun c => c = '+'

theorem toLower_eq_iff_of_unsigned {c d : Char} (h : (unsigned c).toLower = (unsigned d).toLower) :
    c.toLower = d.toLower ↔ decide (c = '+') = decide (d = '+') := by
  rw [unsigned, unsigned] at h
  split_ifs at h with hc hd hd
  · subst hc hd
    exact iff_of_true rfl rfl
  · refine iff_of_false (fun heq => ?_) (by simp [hc, hd])
    rw [← heq, hc] at h
    cases h
  · refine iff_of_false (fun heq => ?_) (by simp [hc, hd])
    rw [heq, hd] at h
    cases h
  · exact iff_of_true h (by simp [hc, hd])

/-- Texts that agree up to case once their signs are read as zeros agree up to case when their
signs are in the same places. -/
theorem toAsciiLowercase_eq_iff_of_unsigned {text text' : List Char}
    (h : toAsciiLowercase (text.map unsigned) = toAsciiLowercase (text'.map unsigned)) :
    toAsciiLowercase text = toAsciiLowercase text' ↔ signs text = signs text' := by
  induction text generalizing text' with
  | nil =>
    cases text' with
    | nil => exact iff_of_true rfl rfl
    | cons d text' => cases h
  | cons c text ih =>
    cases text' with
    | nil => cases h
    | cons d text' =>
      obtain ⟨hhead, htail⟩ := List.cons.inj h
      simp only [toAsciiLowercase, signs, List.map_cons, List.cons.injEq]
      exact and_congr (toLower_eq_iff_of_unsigned hhead) (ih htail)

end Text

end Foundation
