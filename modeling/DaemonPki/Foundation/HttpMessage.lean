import DaemonPki.Foundation.Text
import Mathlib.Algebra.Group.Nat.Defs

/-!
# Messages with a head and a body

A response of HTTP/1.1 as bytes: a line with the status, lines with fields, an empty line, and a
body whose length one of the fields announces. The reader of this file finds the end of a message
in a stream without knowing what comes after it. What it reads does not change when more bytes
arrive, so it reads nothing from a message that is cut off.

## Main definitions

* `Foundation.HttpMessage`, `Foundation.HttpMessage.write`, `Foundation.HttpMessage.read`.
* `Foundation.HttpMessage.WellFormed`: what a message that is written has to satisfy.

## Main results

* `Foundation.HttpMessage.read_write`: a message is read back, whatever follows it.
* `Foundation.HttpMessage.read_eq_none`: no message is read from a proper prefix of one.
-/

namespace Foundation

/-- A response: the status, the text that goes with it, the fields and the body. -/
structure HttpMessage where
  status : ℕ
  reason : List UInt8
  fields : List (List UInt8 × List UInt8)
  body : List UInt8
  deriving DecidableEq, Repr

namespace HttpMessage

/-! ### Lines -/

/-- A carriage return and a line feed. -/
def crlf : List UInt8 := [13, 10]

/-- The lines up to an empty one and the bytes after it; `line` is what has been read of the
current line, its last byte first. -/
def readHead : (line : List UInt8) → List UInt8 → Option (List (List UInt8) × List UInt8)
  | _, [] => none
  | line, 13 :: 10 :: rest =>
    if line = [] then some ([], rest)
    else (readHead [] rest).map fun head => (line.reverse :: head.1, head.2)
  | line, byte :: rest => readHead (byte :: line) rest

/-- The bytes before the first occurrence of a byte, and the bytes after it. -/
def cutAt (separator : UInt8) : List UInt8 → Option (List UInt8 × List UInt8)
  | [] => none
  | byte :: rest =>
    if byte = separator then some ([], rest)
    else (cutAt separator rest).map fun parts => (byte :: parts.1, parts.2)

variable {line bytes rest : List UInt8} {lines : List (List UInt8)}

/-- Bytes without a carriage return continue the line. -/
theorem readHead_append (h : 13 ∉ bytes) (line rest : List UInt8) :
    readHead line (bytes ++ rest) = readHead (bytes.reverse ++ line) rest := by
  induction bytes generalizing line with
  | nil => rfl
  | cons byte bytes ih =>
    obtain ⟨hbyte, hbytes⟩ := List.ne_and_not_mem_of_not_mem_cons h
    rw [List.cons_append, readHead, ih hbytes, List.reverse_cons, List.append_assoc]
    · rfl
    · exact fun _ heq _ => hbyte heq.symm

/-- A line that is not empty is read. -/
theorem readHead_line (hline : line ≠ []) (h : 13 ∉ line) (rest : List UInt8) :
    readHead [] (line ++ crlf ++ rest) =
      (readHead [] rest).map fun head => (line :: head.1, head.2) := by
  rw [List.append_assoc, readHead_append h, List.append_nil, crlf, List.cons_append,
    List.cons_append, List.nil_append, readHead, if_neg (mt List.reverse_eq_nil_iff.mp hline),
    List.reverse_reverse]

/-- Lines are read up to the empty one. -/
theorem readHead_lines (h : ∀ line ∈ lines, line ≠ [] ∧ 13 ∉ line) (rest : List UInt8) :
    readHead [] (lines.flatMap (fun line => line ++ crlf) ++ crlf ++ rest) =
      some (lines, rest) := by
  induction lines with
  | nil => rfl
  | cons line lines ih =>
    obtain ⟨⟨hline, hcr⟩, hlines⟩ := List.forall_mem_cons.mp h
    have hassoc : (line :: lines).flatMap (fun line => line ++ crlf) ++ crlf ++ rest =
        line ++ crlf ++ (lines.flatMap (fun line => line ++ crlf) ++ crlf ++ rest) := by
      simp only [List.flatMap_cons, List.append_assoc]
    rw [hassoc, readHead_line hline hcr, ih hlines]
    rfl

/-- Lines that have been read stay, when more bytes arrive. -/
theorem readHead_more (h : readHead line bytes = some (lines, rest)) (more : List UInt8) :
    readHead line (bytes ++ more) = some (lines, rest ++ more) := by
  fun_induction readHead line bytes generalizing lines rest with
  | case1 => cases h
  | case2 rest' =>
    cases h
    rfl
  | case3 line rest' hline ih =>
    obtain ⟨head, hhead, heq⟩ := Option.map_eq_some_iff.mp h
    cases heq
    rw [List.cons_append, List.cons_append, readHead, if_neg hline, ih hhead]
    rfl
  | case4 line byte rest' hother ih =>
    have hcut : ∀ rest'', byte = 13 → rest' ++ more = 10 :: rest'' → False := by
      intro rest'' hbyte heq
      cases rest' with
      | nil => simp [readHead] at h
      | cons next rest' =>
        cases heq
        exact hother _ hbyte rfl
    rw [List.cons_append, readHead, ih h]
    exact hcut

theorem cutAt_append {separator : UInt8} (h : separator ∉ bytes) (rest : List UInt8) :
    cutAt separator (bytes ++ separator :: rest) = some (bytes, rest) := by
  induction bytes with
  | nil => simp [cutAt]
  | cons byte bytes ih =>
    obtain ⟨hbyte, hbytes⟩ := List.ne_and_not_mem_of_not_mem_cons h
    rw [List.cons_append, cutAt, if_neg hbyte.symm, ih hbytes]
    rfl

/-! ### Messages -/

/-- The digits of a number. -/
def decimal (n : ℕ) : List UInt8 := Text.utf8 (toString n).toList

def version : List UInt8 := Text.utf8 "HTTP/1.1".toList

/-- A name, a colon, a space and a value. -/
def fieldLine (field : List UInt8 × List UInt8) : List UInt8 := field.1 ++ 58 :: 32 :: field.2

/-- The lines of the head. -/
def headLines (m : HttpMessage) : List (List UInt8) :=
  (version ++ 32 :: (decimal m.status ++ 32 :: m.reason)) :: m.fields.map fieldLine

/-- The bytes of a message. -/
def write (m : HttpMessage) : List UInt8 :=
  m.headLines.flatMap (fun line => line ++ crlf) ++ crlf ++ m.body

/-- The name and the value of a field, without the spaces before the value. -/
def readField (line : List UInt8) : Option (List UInt8 × List UInt8) :=
  (cutAt 58 line).map fun parts => (parts.1, parts.2.dropWhile fun byte => byte = 32)

def readFields : List (List UInt8) → Option (List (List UInt8 × List UInt8))
  | [] => some []
  | line :: lines =>
    match readField line, readFields lines with
    | some field, some fields => some (field :: fields)
    | _, _ => none

/-- The lower-case letter of an upper-case one. -/
def lowerByte (byte : UInt8) : UInt8 := if 65 ≤ byte ∧ byte ≤ 90 then byte + 32 else byte

/-- The length that the fields announce; names are compared without regard to case. -/
def contentLength (fields : List (List UInt8 × List UInt8)) : Option ℕ :=
  match fields.find? fun field =>
    field.1.map lowerByte = Text.utf8 "content-length".toList with
  | none => none
  | some field => Text.fromStrRadix 10 (2 ^ 64) field.2

/-- The status, its text and the fields of a head. -/
def readLines : List (List UInt8) →
    Option (ℕ × List UInt8 × List (List UInt8 × List UInt8))
  | [] => none
  | statusLine :: fieldLines =>
    match cutAt 32 statusLine with
    | none => none
    | some (first, rest) =>
      if first ≠ version then none
      else
        match cutAt 32 rest with
        | none => none
        | some (code, reason) =>
          match Text.fromStrRadix 10 (2 ^ 16) code, readFields fieldLines with
          | some status, some fields => some (status, reason, fields)
          | _, _ => none

/-- The message at the beginning of the bytes, once it is there as a whole, and the bytes after
it. -/
def read (bytes : List UInt8) : Option (HttpMessage × List UInt8) :=
  match readHead [] bytes with
  | none => none
  | some (lines, rest) =>
    match readLines lines with
    | none => none
    | some (status, reason, fields) =>
      match contentLength fields with
      | none => none
      | some length =>
        if rest.length < length then none
        else some (⟨status, reason, fields, rest.take length⟩, rest.drop length)

/-- What a message that is written has to satisfy: nothing in the head ends a line or a name, and
the length that is announced is that of the body. -/
structure WellFormed (m : HttpMessage) : Prop where
  status_lt : m.status < 2 ^ 16
  reason : 13 ∉ m.reason
  fields : ∀ field ∈ m.fields, 13 ∉ field.1 ∧ 58 ∉ field.1 ∧ 13 ∉ field.2 ∧
    field.2.head? ≠ some 32
  contentLength_eq : contentLength m.fields = some m.body.length

variable {m : HttpMessage}

/-! ### Numbers -/

/-- The digits of a number are those of a text. -/
theorem forall_mem_decimal {P : UInt8 → Prop} (h : ∀ byte, 48 ≤ byte → byte ≤ 57 → P byte)
    (n : ℕ) : ∀ byte ∈ decimal n, P byte := by
  have hdigit : ∀ d < 10, String.utf8EncodeChar (Nat.digitChar d) = [UInt8.ofNat (48 + d)] := by
    decide
  intro byte hbyte
  rw [decimal, Nat.toString_eq_repr, Nat.toList_repr] at hbyte
  obtain ⟨c, hc, hbyte⟩ := List.mem_flatMap.mp hbyte
  obtain ⟨d, hd, rfl⟩ := Text.exists_digitChar_of_mem_toDigits hc
  rw [hdigit d hd, List.mem_singleton] at hbyte
  have htoNat : byte.toNat = 48 + d := by
    rw [hbyte]
    exact UInt8.toNat_ofNat_of_lt' (Nat.lt_of_lt_of_le (Nat.add_lt_add_left hd 48) (by decide))
  refine h byte (UInt8.le_iff_toNat_le.mpr ?_) (UInt8.le_iff_toNat_le.mpr ?_)
  · rw [htoNat]
    exact Nat.le_add_right 48 d
  · rw [htoNat]
    exact Nat.add_le_add_left (Nat.le_of_lt_succ hd) 48

theorem not_mem_decimal {byte : UInt8} (h : byte < 48 ∨ 57 < byte) (n : ℕ) :
    byte ∉ decimal n := by
  refine fun hmem => forall_mem_decimal (P := fun digit => digit ≠ byte) ?_ n byte hmem rfl
  rintro digit hlow hhigh rfl
  rcases h with h | h
  · exact absurd hlow (UInt8.not_le.mpr h)
  · exact absurd hhigh (UInt8.not_le.mpr h)

theorem fromStrRadix_decimal {n bound : ℕ} (h : n < bound) :
    Text.fromStrRadix 10 bound (decimal n) = some n := by
  have hspace : ∀ c ∈ (toString n).toList, Text.isWhitespace c = false := by
    intro c hc
    rw [Nat.toString_eq_repr, Nat.toList_repr] at hc
    obtain ⟨d, hd, rfl⟩ := Text.exists_digitChar_of_mem_toDigits hc
    exact Text.isWhitespace_digitChar d (by omega)
  have hread := Text.fromStrRadix_toString h
  rwa [Text.trim_eq_self hspace] at hread

/-! ### Reading a message back -/

theorem readField_fieldLine {field : List UInt8 × List UInt8} (hname : 58 ∉ field.1)
    (hvalue : field.2.head? ≠ some 32) : readField (fieldLine field) = some field := by
  have hdrop : (32 :: field.2).dropWhile (fun byte => byte = 32) = field.2 := by
    rw [List.dropWhile_cons_of_pos (by decide)]
    cases hrest : field.2 with
    | nil => rfl
    | cons byte rest =>
      rw [hrest, List.head?_cons] at hvalue
      have hbyte : byte ≠ 32 := fun heq => hvalue (heq ▸ rfl)
      exact List.dropWhile_cons_of_neg (by simpa using hbyte)
  rw [readField, fieldLine, cutAt_append hname, Option.map_some, hdrop]

theorem readFields_map {fields : List (List UInt8 × List UInt8)}
    (h : ∀ field ∈ fields, 58 ∉ field.1 ∧ field.2.head? ≠ some 32) :
    readFields (fields.map fieldLine) = some fields := by
  induction fields with
  | nil => rfl
  | cons field fields ih =>
    obtain ⟨⟨hname, hvalue⟩, hfields⟩ := List.forall_mem_cons.mp h
    rw [List.map_cons, readFields, readField_fieldLine hname hvalue, ih hfields]

namespace WellFormed

/-- The lines of the head are lines. -/
theorem headLines (h : m.WellFormed) : ∀ line ∈ m.headLines, line ≠ [] ∧ 13 ∉ line := by
  intro line hline
  rcases List.mem_cons.mp hline with rfl | hline
  · have hversion : 13 ∉ version := by decide
    have hstatus : 13 ∉ decimal m.status := not_mem_decimal (Or.inl (by decide)) m.status
    refine ⟨List.append_ne_nil_of_left_ne_nil (by decide) _, ?_⟩
    simp [hversion, hstatus, h.reason]
  · obtain ⟨field, hfield, rfl⟩ := List.mem_map.mp hline
    obtain ⟨hname, -, hvalue, -⟩ := h.fields field hfield
    refine ⟨List.append_ne_nil_of_right_ne_nil _ (List.cons_ne_nil _ _), ?_⟩
    simp [fieldLine, hname, hvalue]

theorem readLines_headLines (h : m.WellFormed) :
    readLines m.headLines = some (m.status, m.reason, m.fields) := by
  have hversion : 32 ∉ version := by decide
  have hstatus : 32 ∉ decimal m.status := not_mem_decimal (Or.inl (by decide)) m.status
  have hfields : readFields (m.fields.map fieldLine) = some m.fields :=
    readFields_map fun field hfield => ⟨(h.fields field hfield).2.1, (h.fields field hfield).2.2.2⟩
  rw [HttpMessage.headLines, readLines, cutAt_append hversion]
  simp only [ne_eq, not_true_eq_false, if_false, cutAt_append hstatus,
    fromStrRadix_decimal h.status_lt, hfields]

end WellFormed

/-- **A message is read back**, whatever follows it. -/
theorem read_write (h : m.WellFormed) (rest : List UInt8) :
    read (m.write ++ rest) = some (m, rest) := by
  have hassoc : m.write ++ rest =
      m.headLines.flatMap (fun line => line ++ crlf) ++ crlf ++ (m.body ++ rest) := by
    rw [write, List.append_assoc]
  have hlength : ¬ (m.body ++ rest).length < m.body.length := by
    rw [List.length_append]
    omega
  rw [read, hassoc, readHead_lines h.headLines]
  simp only [h.readLines_headLines, h.contentLength_eq, if_neg hlength, List.take_left,
    List.drop_left]

/-- A message that has been read stays, when more bytes arrive. -/
theorem read_more {bytes rest : List UInt8} (h : read bytes = some (m, rest))
    (more : List UInt8) : read (bytes ++ more) = some (m, rest ++ more) := by
  rw [read] at h
  split at h
  · cases h
  next lines body hhead =>
    split at h
    · cases h
    next status reason fields hlines =>
      split at h
      · cases h
      next length hfields =>
        split_ifs at h with hlength
        cases h
        have hlonger : ¬ (body ++ more).length < length := by
          rw [List.length_append]
          omega
        rw [read, readHead_more hhead]
        simp only [hlines, hfields, if_neg hlonger,
          List.take_append_of_le_length (Nat.le_of_not_lt hlength),
          List.drop_append_of_le_length (Nat.le_of_not_lt hlength)]

/-- **No message is read from a proper prefix of one.** -/
theorem read_eq_none (h : m.WellFormed) {bytes more : List UInt8} (hwrite : m.write = bytes ++ more)
    (hmore : more ≠ []) : read bytes = none := by
  cases hread : read bytes with
  | none => rfl
  | some result =>
    have hlonger := read_more hread more
    have hwhole := read_write h []
    rw [List.append_nil, hwrite, hlonger] at hwhole
    have hrest := (Prod.mk.inj (Option.some.inj hwhole)).2
    exact absurd (List.append_eq_nil_iff.mp hrest).2 hmore

end HttpMessage

end Foundation
