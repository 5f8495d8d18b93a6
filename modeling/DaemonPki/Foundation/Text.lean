import Mathlib.Data.Nat.Notation
import Mathlib.Tactic.SplitIfs

/-!
# Texts and their bytes

The operations on texts that Rust's standard library offers and the repository uses: the UTF-8
bytes of a text, trimming, lower case, and the parser of unsigned integers.

## Main definitions

* `Foundation.Text.utf8`, `Foundation.Text.isCharBoundary`.
* `Foundation.Text.trim`, `Foundation.Text.toAsciiLowercase`,
  `Foundation.Text.eqIgnoreAsciiCase`.
* `Foundation.Text.stripPrefix`, `Foundation.Text.stripSuffix`.
* `Foundation.Text.fromStrRadix`: the parser of unsigned integers.

## Main results

* `Foundation.Text.utf8EncodeChar_cases`: the two forms of a character in UTF-8.
* `Foundation.Text.fromStrRadix_toString`: a number in decimal notation is read back.
-/

namespace Foundation

namespace Text

/-- The UTF-8 bytes of a text. -/
def utf8 (text : List Char) : List UInt8 := text.flatMap String.utf8EncodeChar

/-- Whether a character begins, or the text ends, where `rest` is what remains of its bytes. -/
def isCharBoundary : List UInt8 → Bool
  | [] => true
  | byte :: _ => byte < 0x80 || 0xC0 ≤ byte

/-- The Unicode property `White_Space`. -/
def isWhitespace (c : Char) : Bool :=
  (0x9 ≤ c.toNat && c.toNat ≤ 0xD) || c.toNat = 0x20 || c.toNat = 0x85 || c.toNat = 0xA0 ||
    c.toNat = 0x1680 || (0x2000 ≤ c.toNat && c.toNat ≤ 0x200A) || c.toNat = 0x2028 ||
    c.toNat = 0x2029 || c.toNat = 0x202F || c.toNat = 0x205F || c.toNat = 0x3000

/-- `str::trim`. -/
def trim (text : List Char) : List Char :=
  ((text.dropWhile isWhitespace).reverse.dropWhile isWhitespace).reverse

/-- `str::to_ascii_lowercase`. -/
def toAsciiLowercase (text : List Char) : List Char := text.map Char.toLower

/-- `str::eq_ignore_ascii_case`. -/
def eqIgnoreAsciiCase (text text' : List Char) : Bool :=
  toAsciiLowercase text = toAsciiLowercase text'

/-- `str::strip_prefix`. -/
def stripPrefix (start text : List Char) : Option (List Char) :=
  if start.isPrefixOf text then some (text.drop start.length) else none

/-- `str::strip_suffix`. -/
def stripSuffix (ending text : List Char) : Option (List Char) :=
  if ending.isSuffixOf text then some (text.take (text.length - ending.length)) else none

/-! ### The bytes of a character -/

/-- The byte continues a character. -/
def IsContinuation (byte : UInt8) : Prop := 0x80 ≤ byte ∧ byte < 0xC0

theorem isContinuation_ofNat (n : ℕ) : IsContinuation (UInt8.ofNat (n % 64 + 0x80)) := by
  have hlt : n % 64 < 64 := Nat.mod_lt n (by decide)
  rw [IsContinuation, UInt8.le_iff_toNat_le, UInt8.lt_iff_toNat_lt, UInt8.toNat_ofNat_of_lt']
  · exact ⟨Nat.le_add_left _ _, Nat.add_lt_add_right hlt 0x80⟩
  · exact Nat.lt_trans (Nat.add_lt_add_right hlt 0x80) (by decide)

theorem le_ofNat {n : ℕ} (hle : 0xC0 ≤ n) (hlt : n < 256) : 0xC0 ≤ UInt8.ofNat n := by
  rw [UInt8.le_iff_toNat_le, UInt8.toNat_ofNat_of_lt' hlt]
  exact hle

/-- A character is a single byte below `0x80`, or a byte from `0xC0` on with continuation bytes
after it. -/
theorem utf8EncodeChar_cases (c : Char) :
    (c.toNat < 0x80 ∧ String.utf8EncodeChar c = [UInt8.ofNat c.toNat]) ∨
      ∃ first rest, String.utf8EncodeChar c = first :: rest ∧ 0xC0 ≤ first ∧ rest ≠ [] ∧
        ∀ byte ∈ rest, IsContinuation byte := by
  simp only [String.utf8EncodeChar]
  split_ifs with h1 h2 h3
  · exact Or.inl ⟨Nat.lt_succ_of_le h1, rfl⟩
  all_goals
    refine Or.inr ⟨_, _, rfl, le_ofNat (Nat.le_add_left _ _) (by omega), List.cons_ne_nil _ _, ?_⟩
    simp only [List.forall_mem_cons, List.not_mem_nil, false_implies, implies_true, and_true]
  · exact isContinuation_ofNat _
  · exact ⟨isContinuation_ofNat _, isContinuation_ofNat _⟩
  · exact ⟨isContinuation_ofNat _, isContinuation_ofNat _, isContinuation_ofNat _⟩

theorem utf8Size_eq_one_iff {c : Char} : c.utf8Size = 1 ↔ c.toNat < 0x80 := by
  rw [Char.utf8Size_eq_one_iff, UInt32.le_iff_toNat_le]
  exact Nat.lt_succ_iff.symm

/-- The byte of a character that has one. -/
theorem utf8EncodeChar_of_eq_one {c : Char} (h : c.utf8Size = 1) :
    String.utf8EncodeChar c = [UInt8.ofNat c.toNat] :=
  String.utf8EncodeChar_eq_singleton h

/-- The bytes of a character that has several. -/
theorem exists_bytes_of_ne_one {c : Char} (h : c.utf8Size ≠ 1) :
    ∃ first second rest, String.utf8EncodeChar c = first :: second :: rest ∧ 0xC0 ≤ first ∧
      IsContinuation second ∧ (∀ byte ∈ rest, IsContinuation byte) ∧
      rest.length + 2 = c.utf8Size := by
  rcases utf8EncodeChar_cases c with ⟨hascii, -⟩ | ⟨first, rest, hc, hfirst, hne, hrest⟩
  · exact absurd (utf8Size_eq_one_iff.mpr hascii) h
  · have hlength := String.length_utf8EncodeChar c
    cases rest with
    | nil => exact absurd rfl hne
    | cons second rest =>
      obtain ⟨hsecond, hrest⟩ := List.forall_mem_cons.mp hrest
      rw [hc] at hlength
      exact ⟨first, second, rest, hc, hfirst, hsecond, hrest, hlength⟩

theorem utf8_cons (c : Char) (text : List Char) :
    utf8 (c :: text) = String.utf8EncodeChar c ++ utf8 text :=
  List.flatMap_cons

theorem utf8_eq_nil_iff {text : List Char} : utf8 text = [] ↔ text = [] := by
  rw [utf8, List.flatMap_eq_nil_iff]
  constructor
  · intro h
    exact List.eq_nil_iff_forall_not_mem.mpr fun c hc => String.utf8EncodeChar_ne_nil (h c hc)
  · rintro rfl c hc
    cases hc

theorem lt_ofNat {n : ℕ} (h : n < 0x80) : UInt8.ofNat n < 0x80 := by
  rw [UInt8.lt_iff_toNat_lt, UInt8.toNat_ofNat_of_lt' (Nat.lt_trans h (by decide))]
  exact h

/-- Where a character begins is a boundary. -/
theorem isCharBoundary_utf8 (text : List Char) : isCharBoundary (utf8 text) = true := by
  cases text with
  | nil => rfl
  | cons c text =>
    rw [utf8_cons]
    rcases utf8EncodeChar_cases c with ⟨hascii, hc⟩ | ⟨first, rest, hc, hfirst, -, -⟩ <;>
      rw [hc, List.cons_append, isCharBoundary, Bool.or_eq_true]
    · exact Or.inl (decide_eq_true (lt_ofNat hascii))
    · exact Or.inr (decide_eq_true hfirst)

/-- Where a character goes on is none. -/
theorem isCharBoundary_of_isContinuation {byte : UInt8} (h : IsContinuation byte)
    (rest : List UInt8) : isCharBoundary (byte :: rest) = false := by
  rw [isCharBoundary, Bool.or_eq_false_iff, decide_eq_false_iff_not, decide_eq_false_iff_not]
  exact ⟨UInt8.not_lt.mpr h.1, UInt8.not_le.mpr h.2⟩

/-! ### Unsigned integers -/

/-- The value of a digit in the given radix. -/
def toDigit (radix : ℕ) (byte : UInt8) : Option ℕ :=
  let digit :=
    if 48 ≤ byte ∧ byte ≤ 57 then some (byte.toNat - 48)
    else if 97 ≤ byte ∧ byte ≤ 122 then some (byte.toNat - 87)
    else if 65 ≤ byte ∧ byte ≤ 90 then some (byte.toNat - 55)
    else none
  digit.filter fun d => d < radix

/-- The value of a sequence of digits that goes on from `value`, as long as it stays below
`bound`. -/
def parseDigits (radix bound value : ℕ) : List UInt8 → Option ℕ
  | [] => some value
  | byte :: bytes =>
    match toDigit radix byte with
    | none => none
    | some digit =>
      if value * radix + digit < bound then
        parseDigits radix bound (value * radix + digit) bytes
      else none

/-- `from_str_radix` of the unsigned integers below `bound`: one leading `+` is accepted, and at
least one digit has to follow. -/
def fromStrRadix (radix bound : ℕ) : List UInt8 → Option ℕ
  | [] => none
  | [43] => none
  | 43 :: digits => parseDigits radix bound 0 digits
  | digits => parseDigits radix bound 0 digits

/-! ### Decimal notation -/

/-- A digit of decimal or hexadecimal notation is a single byte and is read back. -/
theorem exists_byte_digitChar : ∀ d < 16, ∃ byte,
    String.utf8EncodeChar (Nat.digitChar d) = [byte] ∧ byte < 0x80 ∧ byte ≠ 43 ∧
      toDigit 16 byte = some d ∧ (d < 10 → toDigit 10 byte = some d) := by
  have h : ∀ d < 16, String.utf8EncodeChar (Nat.digitChar d) =
        [UInt8.ofNat (Nat.digitChar d).toNat] ∧
      UInt8.ofNat (Nat.digitChar d).toNat < 0x80 ∧ UInt8.ofNat (Nat.digitChar d).toNat ≠ 43 ∧
      toDigit 16 (UInt8.ofNat (Nat.digitChar d).toNat) = some d ∧
      (d < 10 → toDigit 10 (UInt8.ofNat (Nat.digitChar d).toNat) = some d) := by
    decide
  exact fun d hd => ⟨_, h d hd⟩

theorem isWhitespace_digitChar : ∀ d < 16, isWhitespace (Nat.digitChar d) = false := by
  decide

theorem utf8_append (text text' : List Char) : utf8 (text ++ text') = utf8 text ++ utf8 text' :=
  List.flatMap_append

theorem parseDigits_append (radix bound value : ℕ) (bytes bytes' : List UInt8) :
    parseDigits radix bound value (bytes ++ bytes') =
      (parseDigits radix bound value bytes).bind fun value' =>
        parseDigits radix bound value' bytes' := by
  induction bytes generalizing value with
  | nil => rfl
  | cons byte bytes ih =>
    rw [List.cons_append, parseDigits, parseDigits]
    cases toDigit radix byte with
    | none => rfl
    | some digit =>
      by_cases h : value * radix + digit < bound
      · simp only [if_pos h, ih]
      · simp only [if_neg h, Option.bind_none]

theorem parseDigits_toDigits {n bound : ℕ} (h : n < bound) :
    parseDigits 10 bound 0 (utf8 (Nat.toDigits 10 n)) = some n := by
  induction n using Nat.strongRecOn with
  | _ n ih =>
    obtain ⟨byte, hbyte, -, -, -, hdigit⟩ := exists_byte_digitChar (n % 10) (by omega)
    have hdigit := hdigit (Nat.mod_lt n (by decide))
    by_cases hn : n < 10
    · rw [Nat.mod_eq_of_lt hn] at hbyte hdigit
      simp [Nat.toDigits_of_lt_base hn, utf8, hbyte, parseDigits, hdigit, h]
    · have hlast : n / 10 * 10 + n % 10 = n := Nat.div_add_mod' n 10
      rw [Nat.toDigits_of_base_le (by decide) (by omega), utf8_append, parseDigits_append,
        ih (n / 10) (by omega) (by omega)]
      simp [utf8, hbyte, parseDigits, hdigit, hlast, h]

theorem exists_digitChar_of_mem_toDigits {n : ℕ} {c : Char} (hc : c ∈ Nat.toDigits 10 n) :
    ∃ d < 10, c = Nat.digitChar d := by
  induction n using Nat.strongRecOn with
  | _ n ih =>
    by_cases hn : n < 10
    · rw [Nat.toDigits_of_lt_base hn, List.mem_singleton] at hc
      exact ⟨n, hn, hc⟩
    · rw [Nat.toDigits_of_base_le (by decide) (by omega), List.mem_append,
        List.mem_singleton] at hc
      rcases hc with hc | hc
      · exact ih (n / 10) (by omega) hc
      · exact ⟨n % 10, Nat.mod_lt n (by decide), hc⟩

theorem dropWhile_eq_self {text : List Char} (h : ∀ c ∈ text, isWhitespace c = false) :
    text.dropWhile isWhitespace = text := by
  cases text with
  | nil => rfl
  | cons c text => rw [List.dropWhile_cons, h c List.mem_cons_self]; rfl

theorem trim_eq_self {text : List Char} (h : ∀ c ∈ text, isWhitespace c = false) :
    trim text = text := by
  rw [trim, dropWhile_eq_self h, dropWhile_eq_self (fun c hc => h c (List.mem_reverse.mp hc)),
    List.reverse_reverse]

/-- Bytes that do not begin with a sign are digits. -/
theorem fromStrRadix_cons {radix bound : ℕ} {byte : UInt8} (h : byte ≠ 43) (bytes : List UInt8) :
    fromStrRadix radix bound (byte :: bytes) = parseDigits radix bound 0 (byte :: bytes) := by
  rw [fromStrRadix]
  · exact List.cons_ne_nil byte bytes
  · exact fun heq => h (List.cons.inj heq).1
  · exact fun _ heq => h (List.cons.inj heq).1

/-- **A number in decimal notation is read back.** -/
theorem fromStrRadix_toString {n bound : ℕ} (h : n < bound) :
    fromStrRadix 10 bound (utf8 (trim (toString n).toList)) = some n := by
  have hspace : ∀ c ∈ Nat.toDigits 10 n, isWhitespace c = false := by
    intro c hc
    obtain ⟨d, hd, rfl⟩ := exists_digitChar_of_mem_toDigits hc
    exact isWhitespace_digitChar d (by omega)
  rw [Nat.toString_eq_repr, Nat.toList_repr, trim_eq_self hspace, ← parseDigits_toDigits h]
  cases hdigits : Nat.toDigits 10 n with
  | nil => exact absurd hdigits Nat.toDigits_ne_nil
  | cons c digits =>
    obtain ⟨d, hd, rfl⟩ := exists_digitChar_of_mem_toDigits
      (hdigits ▸ List.mem_cons_self : c ∈ Nat.toDigits 10 n)
    obtain ⟨byte, hbyte, -, hsign, -⟩ := exists_byte_digitChar d (by omega)
    rw [utf8, List.flatMap_cons, hbyte, List.singleton_append, fromStrRadix_cons hsign]

end Text

end Foundation
