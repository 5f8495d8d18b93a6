import DaemonPki.Foundation.Hex
import DaemonPki.Revocation.Crl

/-!
# The texts of serial numbers

Which texts the decoder of serial numbers takes, and what a text that is none does to the signing
of a revocation list (`daemon-pki-core/src/revocation/crl.rs`). The decoder slices the text two
bytes at a time and hands each slice to the parser of integers. So it takes a sign in the place of
a first digit, as the parser does; and it panics when a slice ends inside a character, which can
happen as long as everything before was taken.

## Main definitions

* `DaemonPki.IsHexadecimal`: a text that is a serial number.
* `DaemonPki.SplitsCharacter`: two bytes that are sliced end inside a character.

## Main results

* `DaemonPki.hexToBytes_eq_some_iff`, `DaemonPki.hexToBytes_eq_panicked_iff`: which texts are
  decoded, and which make the decoder panic.
* `DaemonPki.decodesHexadecimal_iff`: when the decoder takes exactly hexadecimal.
* `DaemonPki.CertificateRevocationList.rejectsBadSerials_iff`: when a bad serial number is
  rejected.
-/

namespace DaemonPki

open Foundation

variable {text : List Char} {value value' : String} {bytes : List UInt8}

/-! ### The decoder on characters -/

/-- A byte before what was decoded. -/
def consByte (byte : UInt8) : Outcome (Option (List UInt8)) → Outcome (Option (List UInt8))
  | .returned (some bytes) => .returned (some (byte :: bytes))
  | .returned none => .returned none
  | .panicked => .panicked

/-- A slice that does not end between two characters. -/
theorem hexPairs_of_not_isCharBoundary {high low : UInt8} {rest : List UInt8}
    (h : Text.isCharBoundary rest = false) : hexPairs (high :: low :: rest) = .panicked := by
  rw [hexPairs, h, Bool.not_false, Bool.or_true]
  rfl

/-- A slice of whole characters. -/
theorem hexPairs_of_isCharBoundary {high low : UInt8} {rest : List UInt8}
    (h : Text.isCharBoundary (high :: low :: rest) = true)
    (hrest : Text.isCharBoundary rest = true) : hexPairs (high :: low :: rest) =
      match Text.fromStrRadix 16 256 [high, low] with
      | none => .returned none
      | some byte => consByte (UInt8.ofNat byte) (hexPairs rest) := by
  rw [hexPairs, h, hrest]
  cases Text.fromStrRadix 16 256 [high, low] with
  | none => rfl
  | some byte => cases hexPairs rest with
    | panicked => rfl
    | returned result => cases result <;> rfl

/-- The first two bytes of the text end inside a character: it has three bytes or more, or it has
several and comes after a single byte. -/
def Straddles : List Char → Prop
  | [] => False
  | [c] => 3 ≤ c.utf8Size
  | c :: d :: _ => 3 ≤ c.utf8Size ∨ c.utf8Size = 1 ∧ d.utf8Size ≠ 1

/-- A character of three bytes or more is not sliced after two. -/
theorem hexPairs_of_three_le {c : Char} (h : 3 ≤ c.utf8Size) :
    hexPairs (Text.utf8 (c :: text)) = .panicked := by
  obtain ⟨first, second, rest, hc, -, -, hrest, hlength⟩ :=
    Text.exists_bytes_of_ne_one (c := c) (by omega)
  cases rest with
  | nil =>
    rw [List.length_nil] at hlength
    omega
  | cons third rest =>
    rw [Text.utf8_cons, hc]
    exact hexPairs_of_not_isCharBoundary
      (Text.isCharBoundary_of_isContinuation (hrest third List.mem_cons_self) _)

theorem hexPairs_of_straddles (h : Straddles text) :
    hexPairs (Text.utf8 text) = .panicked := by
  cases text with
  | nil => exact h.elim
  | cons c text =>
    cases text with
    | nil => exact hexPairs_of_three_le h
    | cons d text =>
      rcases h with hc | ⟨hc, hd⟩
      · exact hexPairs_of_three_le hc
      · obtain ⟨first, second, rest, hbytes, -, hsecond, -⟩ := Text.exists_bytes_of_ne_one hd
        rw [Text.utf8_cons, Text.utf8_cons, Text.utf8EncodeChar_of_eq_one hc, hbytes]
        exact hexPairs_of_not_isCharBoundary (Text.isCharBoundary_of_isContinuation hsecond _)

/-- No number begins with a character of several bytes. -/
theorem hexPairs_of_two_bytes {c : Char} (h : c.utf8Size = 2) :
    hexPairs (Text.utf8 (c :: text)) = .returned none := by
  obtain ⟨first, second, rest, hc, hfirst, -, -, hlength⟩ :=
    Text.exists_bytes_of_ne_one (c := c) (by omega)
  have hnil : rest = [] := List.length_eq_zero_iff.mp (by omega)
  have hbytes : Text.utf8 (c :: text) = first :: second :: Text.utf8 text := by
    rw [Text.utf8_cons, hc, hnil]
    rfl
  have hwhole := Text.isCharBoundary_utf8 (c :: text)
  rw [hbytes] at hwhole
  rw [hbytes, hexPairs_of_isCharBoundary hwhole (Text.isCharBoundary_utf8 text),
    Text.fromStrRadix_of_le hfirst]

/-- Two characters of one byte are decoded when they are a pair. -/
theorem hexPairs_of_single_bytes {c d : Char} (hc : c.utf8Size = 1) (hd : d.utf8Size = 1) :
    hexPairs (Text.utf8 (c :: d :: text)) =
      if Text.SignedPair c d then
        consByte (UInt8.ofNat (Text.pairValue c d)) (hexPairs (Text.utf8 text))
      else .returned none := by
  have hbytes : Text.utf8 (c :: d :: text) =
      UInt8.ofNat c.toNat :: UInt8.ofNat d.toNat :: Text.utf8 text := by
    rw [Text.utf8_cons, Text.utf8_cons, Text.utf8EncodeChar_of_eq_one hc,
      Text.utf8EncodeChar_of_eq_one hd]
    rfl
  have hwhole := Text.isCharBoundary_utf8 (c :: d :: text)
  rw [hbytes] at hwhole
  rw [hbytes, hexPairs_of_isCharBoundary hwhole (Text.isCharBoundary_utf8 text),
    Text.fromStrRadix_pair (Text.utf8Size_eq_one_iff.mp hc) (Text.utf8Size_eq_one_iff.mp hd)]
  split_ifs <;> rfl

theorem hexPairs_singleton {c : Char} (h : ¬3 ≤ c.utf8Size) :
    hexPairs (Text.utf8 [c]) = .returned none := by
  by_cases hc : c.utf8Size = 1
  · rw [Text.utf8_cons, Text.utf8EncodeChar_of_eq_one hc]
    rfl
  · have hpos := c.utf8Size_pos
    exact hexPairs_of_two_bytes (by omega)

/-- **The decoder on characters.** It panics when the first two bytes straddle, goes on when the
first two characters are a pair, and rejects the text otherwise. -/
theorem hexPairs_utf8 (c d : Char) (text : List Char) :
    (Straddles (c :: d :: text) ∧ hexPairs (Text.utf8 (c :: d :: text)) = .panicked) ∨
      (Text.SignedPair c d ∧ hexPairs (Text.utf8 (c :: d :: text)) =
        consByte (UInt8.ofNat (Text.pairValue c d)) (hexPairs (Text.utf8 text))) ∨
      (¬Straddles (c :: d :: text) ∧ ¬Text.SignedPair c d ∧
        hexPairs (Text.utf8 (c :: d :: text)) = .returned none) := by
  by_cases hstraddles : Straddles (c :: d :: text)
  · exact Or.inl ⟨hstraddles, hexPairs_of_straddles hstraddles⟩
  · right
    obtain ⟨hc, hd⟩ := not_or.mp hstraddles
    by_cases hone : c.utf8Size = 1
    · have hd : d.utf8Size = 1 := not_not.mp fun h => hd ⟨hone, h⟩
      rw [hexPairs_of_single_bytes hone hd]
      by_cases hpair : Text.SignedPair c d
      · exact Or.inl ⟨hpair, if_pos hpair⟩
      · exact Or.inr ⟨hstraddles, hpair, if_neg hpair⟩
    · have hpos := c.utf8Size_pos
      refine Or.inr ⟨hstraddles, fun hpair => hone ?_, hexPairs_of_two_bytes (by omega)⟩
      exact Text.utf8Size_eq_one_iff.mpr hpair.toNat_lt.1

/-! ### Which texts are decoded -/

/-- Two bytes that are sliced end inside a character; there are only pairs before them. -/
def SplitsCharacter (text : List Char) : Prop :=
  ∃ pairs rest, text = pairs ++ rest ∧ Text.SignedPairs pairs ∧ Straddles rest

theorem not_straddles_of_signedPair {c d : Char} (h : Text.SignedPair c d) :
    ¬Straddles (c :: d :: text) := by
  have hc := Text.utf8Size_eq_one_iff.mpr h.toNat_lt.1
  have hd := Text.utf8Size_eq_one_iff.mpr h.toNat_lt.2
  rintro (hthree | ⟨-, hne⟩)
  · omega
  · exact hne hd

theorem splitsCharacter_cons_cons {c d : Char} : SplitsCharacter (c :: d :: text) ↔
    Straddles (c :: d :: text) ∨ Text.SignedPair c d ∧ SplitsCharacter text := by
  constructor
  · rintro ⟨pairs, rest, htext, hpairs, hrest⟩
    match pairs, hpairs with
    | [], _ => exact Or.inl (htext ▸ hrest)
    | [_], hpairs => exact hpairs.elim
    | _ :: _ :: pairs, ⟨hpair, hpairs⟩ =>
      obtain ⟨rfl, rfl, rfl⟩ : _ ∧ _ ∧ _ := by simpa using htext
      exact Or.inr ⟨hpair, pairs, rest, rfl, hpairs, hrest⟩
  · rintro (hstraddles | ⟨hpair, pairs, rest, rfl, hpairs, hrest⟩)
    · exact ⟨[], _, rfl, trivial, hstraddles⟩
    · exact ⟨c :: d :: pairs, rest, rfl, ⟨hpair, hpairs⟩, hrest⟩

theorem splitsCharacter_singleton {c : Char} : SplitsCharacter [c] ↔ 3 ≤ c.utf8Size := by
  constructor
  · rintro ⟨pairs, rest, htext, hpairs, hrest⟩
    match pairs, hpairs with
    | [], _ =>
      rw [List.nil_append] at htext
      subst htext
      exact hrest
    | [_], hpairs => exact hpairs.elim
    | _ :: _ :: _, _ => cases htext
  · exact fun h => ⟨[], [c], rfl, trivial, h⟩

theorem not_splitsCharacter_nil : ¬SplitsCharacter [] := by
  rintro ⟨pairs, rest, htext, -, hrest⟩
  obtain ⟨-, rfl⟩ := List.append_eq_nil_iff.mp htext.symm
  exact hrest

theorem consByte_eq_panicked_iff {byte : UInt8} {result : Outcome (Option (List UInt8))} :
    consByte byte result = .panicked ↔ result = .panicked := by
  cases result with
  | panicked => exact Iff.rfl
  | returned result => cases result <;> simp [consByte]

theorem consByte_eq_some_iff {byte : UInt8} {result : Outcome (Option (List UInt8))} :
    consByte byte result = .returned (some bytes) ↔
      ∃ rest, result = .returned (some rest) ∧ bytes = byte :: rest := by
  cases result with
  | panicked => simp [consByte]
  | returned result => cases result <;> simp [consByte, eq_comm]

theorem hexPairs_eq_panicked_iff :
    hexPairs (Text.utf8 text) = .panicked ↔ SplitsCharacter text := by
  induction text using Text.SignedPairs.induct with
  | case1 => exact iff_of_false (by rintro ⟨⟩) not_splitsCharacter_nil
  | case2 c =>
    rw [splitsCharacter_singleton]
    by_cases h : 3 ≤ c.utf8Size
    · exact iff_of_true (hexPairs_of_three_le h) h
    · rw [hexPairs_singleton h]
      exact iff_of_false (by rintro ⟨⟩) h
  | case3 c d text ih =>
    rw [splitsCharacter_cons_cons]
    rcases hexPairs_utf8 c d text with ⟨hstraddles, h⟩ | ⟨hpair, h⟩ | ⟨hstraddles, hpair, h⟩
    · exact iff_of_true h (Or.inl hstraddles)
    · rw [h, consByte_eq_panicked_iff, ih, or_iff_right (not_straddles_of_signedPair hpair),
        and_iff_right hpair]
    · rw [h]
      exact iff_of_false (by rintro ⟨⟩) (not_or.mpr ⟨hstraddles, fun hsplits => hpair hsplits.1⟩)

theorem hexPairs_eq_some_iff : hexPairs (Text.utf8 text) = .returned (some bytes) ↔
    Text.SignedPairs text ∧ bytes = Text.hexBytes text := by
  induction text using Text.SignedPairs.induct generalizing bytes with
  | case1 => exact ⟨fun h => by cases h; exact ⟨trivial, rfl⟩, fun h => by rw [h.2]; rfl⟩
  | case2 c =>
    refine iff_of_false (fun h => ?_) fun h => h.1.elim
    by_cases hthree : 3 ≤ c.utf8Size
    · cases (hexPairs_of_three_le hthree).symm.trans h
    · cases (hexPairs_singleton hthree).symm.trans h
  | case3 c d text ih =>
    rcases hexPairs_utf8 c d text with ⟨hstraddles, h⟩ | ⟨hpair, h⟩ | ⟨-, hpair, h⟩
    · rw [h]
      refine iff_of_false (by rintro ⟨⟩) fun hpairs => ?_
      exact not_straddles_of_signedPair hpairs.1.1 hstraddles
    · rw [h, consByte_eq_some_iff, Text.SignedPairs, and_iff_right hpair, Text.hexBytes]
      simp only [ih]
      constructor
      · rintro ⟨rest, ⟨hpairs, rfl⟩, hbytes⟩
        exact ⟨hpairs, hbytes⟩
      · rintro ⟨hpairs, hbytes⟩
        exact ⟨_, ⟨hpairs, rfl⟩, hbytes⟩
    · rw [h]
      exact iff_of_false (by rintro ⟨⟩) fun hpairs => hpair hpairs.1.1

/-- A serial number as text: hexadecimal digits, two for each byte. -/
def IsHexadecimal (value : String) : Prop :=
  value.toList ≠ [] ∧ value.toList.length % 2 = 0 ∧ ∀ c ∈ value.toList, c.isHexDigit = true

/-- The text is decoded. -/
def Decodable (value : String) : Prop := value.toList ≠ [] ∧ Text.SignedPairs value.toList

/-- The text is sliced inside a character. -/
def Splits (value : String) : Prop :=
  (Text.utf8 value.toList).length % 2 = 0 ∧ SplitsCharacter value.toList

theorem isHexadecimal_iff : IsHexadecimal value ↔ Decodable value ∧ '+' ∉ value.toList := by
  rw [IsHexadecimal, Decodable, and_assoc]
  refine and_congr_right fun _ => ⟨fun h => ?_, ?_⟩
  · have hsign : '+' ∉ value.toList := fun hmem => by cases h.2 _ hmem
    exact ⟨(Text.signedPairs_iff_of_notMem hsign).mpr h, hsign⟩
  · rintro ⟨hpairs, hsign⟩
    exact (Text.signedPairs_iff_of_notMem hsign).mp hpairs

theorem hexToBytes_eq_hexPairs (hne : value.toList ≠ [])
    (heven : (Text.utf8 value.toList).length % 2 = 0) :
    hexToBytes value = hexPairs (Text.utf8 value.toList) := by
  have hbytes : (Text.utf8 value.toList).isEmpty = false :=
    List.isEmpty_eq_false_iff.mpr (mt Text.utf8_eq_nil_iff.mp hne)
  rw [hexToBytes, hbytes, heven]
  rfl

/-- **Which texts are decoded**, and into which bytes. -/
theorem hexToBytes_eq_some_iff : hexToBytes value = .returned (some bytes) ↔
    Decodable value ∧ bytes = Text.hexBytes value.toList := by
  rw [Decodable, and_assoc, ← hexPairs_eq_some_iff]
  constructor
  · intro h
    rw [hexToBytes] at h
    split_ifs at h with hreject
    · cases h
    · rw [Bool.or_eq_true, not_or, List.isEmpty_iff, Text.utf8_eq_nil_iff] at hreject
      exact ⟨hreject.1, h⟩
  · rintro ⟨hne, h⟩
    rw [hexToBytes_eq_hexPairs hne (Text.length_utf8_of_signedPairs (hexPairs_eq_some_iff.mp h).1)]
    exact h

/-- **Which texts make the decoder panic.** -/
theorem hexToBytes_eq_panicked_iff : hexToBytes value = .panicked ↔ Splits value := by
  rw [Splits, ← hexPairs_eq_panicked_iff]
  constructor
  · intro h
    rw [hexToBytes] at h
    split_ifs at h with hreject
    rw [Bool.or_eq_true, not_or, decide_eq_true_eq, not_not] at hreject
    exact ⟨hreject.2, h⟩
  · rintro ⟨heven, h⟩
    have hne : value.toList ≠ [] := fun hnil => by
      rw [hnil] at h
      cases h
    rw [hexToBytes_eq_hexPairs hne heven]
    exact h

/-! ### Exactly hexadecimal -/

/-- The text is decoded exactly when it is hexadecimal, and its bytes are written as the text in
lower case. -/
def DecodesHexadecimal (value : String) : Prop :=
  ((∃ bytes, hexToBytes value = .returned (some bytes)) ↔ IsHexadecimal value) ∧
    ∀ bytes, hexToBytes value = .returned (some bytes) →
      lowerHex bytes = Text.toAsciiLowercase value.toList

/-- If both texts are decoded into the same bytes, they are equal up to case. -/
def DecodesApart (value value' : String) : Prop :=
  ∀ bytes, hexToBytes value = .returned (some bytes) → hexToBytes value' = .returned (some bytes) →
    Text.eqIgnoreAsciiCase value.toList value'.toList = true

theorem exists_hexToBytes_iff :
    (∃ bytes, hexToBytes value = .returned (some bytes)) ↔ Decodable value := by
  simp only [hexToBytes_eq_some_iff, exists_and_left, exists_eq, and_true]

/-- The bytes of a text are written as the text in lower case, with zeros for its signs. -/
theorem lowerHex_of_hexToBytes (h : hexToBytes value = .returned (some bytes)) :
    lowerHex bytes = Text.toAsciiLowercase (value.toList.map Text.unsigned) := by
  obtain ⟨hdecodable, rfl⟩ := hexToBytes_eq_some_iff.mp h
  exact Text.lowerHex_hexBytes hdecodable.2

theorem decodesHexadecimal_iff_notMem :
    DecodesHexadecimal value ↔ ¬(Decodable value ∧ '+' ∈ value.toList) := by
  rw [DecodesHexadecimal, exists_hexToBytes_iff, isHexadecimal_iff]
  constructor
  · rintro ⟨hiff, -⟩ ⟨hdecodable, hsign⟩
    exact (hiff.mp hdecodable).2 hsign
  · intro h
    have hsign : Decodable value → '+' ∉ value.toList := fun hdecodable hmem =>
      h ⟨hdecodable, hmem⟩
    refine ⟨⟨fun hdecodable => ⟨hdecodable, hsign hdecodable⟩, And.left⟩, fun bytes hbytes => ?_⟩
    have hdecodable := (hexToBytes_eq_some_iff.mp hbytes).1
    rw [lowerHex_of_hexToBytes hbytes, Text.map_unsigned_of_notMem (hsign hdecodable)]

theorem decodesApart_iff_signs : DecodesApart value value' ↔
    (Decodable value → Decodable value' →
      Text.eqIgnoreAsciiCase (value.toList.map Text.unsigned)
        (value'.toList.map Text.unsigned) = true →
      Text.signs value.toList = Text.signs value'.toList) := by
  simp only [DecodesApart, Text.eqIgnoreAsciiCase, decide_eq_true_eq]
  constructor
  · intro h hdecodable hdecodable' hunsigned
    obtain ⟨bytes, hbytes⟩ := exists_hexToBytes_iff.mpr hdecodable
    obtain ⟨bytes', hbytes'⟩ := exists_hexToBytes_iff.mpr hdecodable'
    have hsame : bytes = bytes' := by
      refine lowerHex_injective ?_
      rw [lowerHex_of_hexToBytes hbytes, lowerHex_of_hexToBytes hbytes', hunsigned]
    subst hsame
    exact (Text.toAsciiLowercase_eq_iff_of_unsigned hunsigned).mp (h bytes hbytes hbytes')
  · intro h bytes hbytes hbytes'
    have hunsigned := (lowerHex_of_hexToBytes hbytes).symm.trans (lowerHex_of_hexToBytes hbytes')
    refine (Text.toAsciiLowercase_eq_iff_of_unsigned hunsigned).mpr ?_
    exact h (hexToBytes_eq_some_iff.mp hbytes).1 (hexToBytes_eq_some_iff.mp hbytes').1 hunsigned

/-- **When the decoder takes exactly hexadecimal.** A text is decoded as its digits say unless it
is made of pairs and has a sign. Two texts are told apart unless they differ, up to case, only in
signs where the other has zeros. -/
theorem decodesHexadecimal_iff (value value' : String) :
    (DecodesHexadecimal value ↔ ¬(Decodable value ∧ '+' ∈ value.toList)) ∧
      (DecodesApart value value' ↔
        (Decodable value → Decodable value' →
          Text.eqIgnoreAsciiCase (value.toList.map Text.unsigned)
            (value'.toList.map Text.unsigned) = true →
          Text.signs value.toList = Text.signs value'.toList)) :=
  ⟨decodesHexadecimal_iff_notMem, decodesApart_iff_signs⟩

/-- A sign before a digit is decoded as a zero is. -/
theorem not_decodesHexadecimal : ¬DecodesHexadecimal "+1" ∧ ¬DecodesApart "+1" "01" := by
  constructor
  · intro h
    have hhexadecimal := h.1.mp ⟨[1], by decide⟩
    exact absurd (hhexadecimal.2.2 '+' (by decide)) (by decide)
  · intro h
    exact absurd (h [1] (by decide) (by decide)) (by decide)

/-! ### Lists with bad serial numbers -/

namespace CertificateRevocationList

variable {entries before : List CrlEntry} {bad : CrlEntry} {crl : CertificateRevocationList}

/-- Signing does not panic, and it rejects a list with an entry whose serial number is none. -/
def RejectsBadSerials (crl : CertificateRevocationList) : Prop :=
  ∀ crlNumber signs, crl.signedDer crlNumber signs ≠ .panicked ∧
    ((∃ entry ∈ crl.entries, ¬IsHexadecimal entry.serialNumber) →
      crl.signedDer crlNumber signs = .returned (.error .invalidSerialNumber))

/-- The loop ends at the first text that is not decoded, by a panic or by an error. -/
theorem revokedCertParams_append (after : List CrlEntry)
    (hbefore : ∀ entry ∈ before, Decodable entry.serialNumber)
    (hbad : ¬Decodable bad.serialNumber) :
    (Splits bad.serialNumber ∧ revokedCertParams (before ++ bad :: after) = .panicked) ∨
      (¬Splits bad.serialNumber ∧ revokedCertParams (before ++ bad :: after) =
        .returned (.error .invalidSerialNumber)) := by
  induction before with
  | nil =>
    rw [List.nil_append, revokedCertParams]
    cases hresult : hexToBytes bad.serialNumber with
    | panicked => exact Or.inl ⟨hexToBytes_eq_panicked_iff.mp hresult, rfl⟩
    | returned result =>
      cases result with
      | none =>
        refine Or.inr ⟨fun hsplits => ?_, rfl⟩
        cases hresult.symm.trans (hexToBytes_eq_panicked_iff.mpr hsplits)
      | some bytes => exact absurd (exists_hexToBytes_iff.mp ⟨bytes, hresult⟩) hbad
  | cons entry before ih =>
    obtain ⟨hentry, hbefore⟩ := List.forall_mem_cons.mp hbefore
    obtain ⟨serial, hserial⟩ := exists_hexToBytes_iff.mpr hentry
    rw [List.cons_append, revokedCertParams, hserial]
    refine (ih hbefore).imp (fun h => ⟨h.1, ?_⟩) fun h => ⟨h.1, ?_⟩ <;> rw [h.2]

theorem exists_first_bad (h : ¬∀ entry ∈ entries, Decodable entry.serialNumber) :
    ∃ before bad after, entries = before ++ bad :: after ∧
      (∀ entry ∈ before, Decodable entry.serialNumber) ∧ ¬Decodable bad.serialNumber := by
  induction entries with
  | nil => exact absurd (List.forall_mem_nil _) h
  | cons entry entries ih =>
    by_cases hentry : Decodable entry.serialNumber
    · have hentries : ¬∀ other ∈ entries, Decodable other.serialNumber := fun hall =>
        h (List.forall_mem_cons.mpr ⟨hentry, hall⟩)
      obtain ⟨before, bad, after, rfl, hbefore, hbad⟩ := ih hentries
      exact ⟨entry :: before, bad, after, rfl, List.forall_mem_cons.mpr ⟨hentry, hbefore⟩, hbad⟩
    · exact ⟨[], entry, entries, rfl, List.forall_mem_nil _, hentry⟩

/-- A list is rejected when the first text that is not decoded is not sliced inside a character.
If all texts are decoded, nothing is rejected, and all of them have to be hexadecimal. -/
def FirstBadIsWhole (entries : List CrlEntry) : Prop :=
  (∀ entry ∈ entries, IsHexadecimal entry.serialNumber) ∨
    ∃ before bad after, entries = before ++ bad :: after ∧
      (∀ entry ∈ before, Decodable entry.serialNumber) ∧ ¬Decodable bad.serialNumber ∧
      ¬Splits bad.serialNumber

/-- A list that is decoded is not rejected. -/
theorem signedDer_of_decodable (h : ∀ entry ∈ crl.entries, Decodable entry.serialNumber)
    (crlNumber : ℕ) (signs : Bool) : crl.signedDer crlNumber signs ≠ .panicked ∧
      crl.signedDer crlNumber signs ≠ .returned (.error .invalidSerialNumber) := by
  obtain ⟨certs, hcerts⟩ := exists_revokedCertParams fun entry hentry =>
    exists_hexToBytes_iff.mpr (h entry hentry)
  rw [signedDer, hcerts]
  cases signs <;> exact ⟨by rintro ⟨⟩, by rintro ⟨⟩⟩

theorem rejectsBadSerials_iff_firstBadIsWhole :
    RejectsBadSerials crl ↔ FirstBadIsWhole crl.entries := by
  constructor
  · intro h
    obtain ⟨hpanic, hreject⟩ := h 0 true
    by_cases hdecodable : ∀ entry ∈ crl.entries, Decodable entry.serialNumber
    · left
      by_contra hbad
      rw [not_forall₂] at hbad
      obtain ⟨entry, hentry, hbad⟩ := hbad
      exact (signedDer_of_decodable hdecodable 0 true).2 (hreject ⟨entry, hentry, hbad⟩)
    · right
      obtain ⟨before, bad, after, hentries, hbefore, hbad⟩ := exists_first_bad hdecodable
      refine ⟨before, bad, after, hentries, hbefore, hbad, fun hsplits => hpanic ?_⟩
      have hparams := (revokedCertParams_append after hbefore hbad).resolve_right
        fun hwhole => hwhole.1 hsplits
      rw [signedDer, hentries, hparams.2]
  · rintro (hhexadecimal | ⟨before, bad, after, hentries, hbefore, hbad, hwhole⟩) crlNumber signs
    · have hdecodable : ∀ entry ∈ crl.entries, Decodable entry.serialNumber :=
        fun entry hentry => (isHexadecimal_iff.mp (hhexadecimal entry hentry)).1
      refine ⟨(signedDer_of_decodable hdecodable crlNumber signs).1, ?_⟩
      rintro ⟨entry, hentry, hbad⟩
      exact absurd (hhexadecimal entry hentry) hbad
    · have hparams := (revokedCertParams_append after hbefore hbad).resolve_left
        fun hsplits => hwhole hsplits.1
      rw [signedDer, hentries, hparams.2]
      exact ⟨by rintro ⟨⟩, fun _ => rfl⟩

/-- **When a bad serial number is rejected.** Signing does not panic and rejects every list with
one exactly when all are hexadecimal, or the first one that is not decoded is not sliced inside a
character. The slices of a text fall inside a character exactly when two bytes after a sequence of
pairs do. -/
theorem rejectsBadSerials_iff (crl : CertificateRevocationList) (value : String) :
    (RejectsBadSerials crl ↔ FirstBadIsWhole crl.entries) ∧
      (hexToBytes value ≠ .panicked ↔ ¬Splits value) :=
  ⟨rejectsBadSerials_iff_firstBadIsWhole, not_congr hexToBytes_eq_panicked_iff⟩

/-- The second character has two bytes, and the first slice ends between them. -/
theorem not_rejectsBadSerials : ¬RejectsBadSerials ⟨0, "", 0, 0, [⟨"aé1", .unspecified, 0⟩]⟩ := by
  intro h
  exact (h 0 true).1 (by decide)

end CertificateRevocationList

end DaemonPki
