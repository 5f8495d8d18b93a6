import DaemonPki.Foundation.Text
import Mathlib.Algebra.Group.Nat.Defs

/-!
# The parser of internet addresses

The parser of Rust's standard library for addresses of either version, on the bytes of a text. Each
reader returns what it has read and the bytes that remain, or nothing, and then the bytes are read
again from where it began.

## Main definitions

* `Foundation.IpAddr`, `Foundation.IpAddr.parse`.
* `Foundation.IpAddr.octets`, `Foundation.IpAddr.ofOctets`.

## Main results

* `Foundation.IpAddr.ofOctets_octets`: an address is read back from its octets.
-/

namespace Foundation

/-- An IP address, as its bits. -/
inductive IpAddr
  | v4 (bits : BitVec 32)
  | v6 (bits : BitVec 128)
  deriving DecidableEq, Repr

namespace IpAddr

open Text

/-- The value of a sequence of groups in the given base. -/
def groupsValue (base : ℕ) (groups : List ℕ) : ℕ :=
  groups.foldl (fun value group => value * base + group) 0

/-- The number that begins the input: at most `maxDigits` digits, a value below `bound`, and no
zero before other digits unless `allowZeroPrefix`. -/
def readNumber (radix maxDigits bound : ℕ) (allowZeroPrefix : Bool) (input : List UInt8) :
    Option (ℕ × List UInt8) :=
  let digits := (input.takeWhile fun byte => (toDigit radix byte).isSome).filterMap (toDigit radix)
  let rest := input.dropWhile fun byte => (toDigit radix byte).isSome
  if digits.length = 0 || maxDigits < digits.length then none
  else if !allowZeroPrefix && digits.head? = some 0 && 1 < digits.length then none
  else if groupsValue radix digits < bound then some (groupsValue radix digits, rest)
  else none

/-- A reader that is preceded by the separator, unless it is the first of a sequence. -/
def readSeparator {α : Type*} (separator : UInt8) (first : Bool)
    (inner : List UInt8 → Option (α × List UInt8)) (input : List UInt8) :
    Option (α × List UInt8) :=
  if first then inner input
  else
    match input with
    | [] => none
    | byte :: rest => if byte = separator then inner rest else none

/-- The `remaining` last octets of an address of version four. -/
def readOctets : (remaining : ℕ) → (first : Bool) → List UInt8 → Option (List ℕ × List UInt8)
  | 0, _, input => some ([], input)
  | remaining + 1, first, input =>
    match readSeparator 46 first (readNumber 10 3 256 false) input with
    | none => none
    | some (octet, input) =>
      match readOctets remaining false input with
      | none => none
      | some (octets, input) => some (octet :: octets, input)

def readIpv4Addr (input : List UInt8) : Option (BitVec 32 × List UInt8) :=
  match readOctets 4 true input with
  | none => none
  | some (octets, input) => some (.ofNat 32 (groupsValue 256 octets), input)

/-- At most `remaining` groups of an address of version six, and whether the last two were
written as an address of version four. -/
def readGroups : (remaining : ℕ) → (first : Bool) → List UInt8 → List ℕ × Bool × List UInt8
  | 0, _, input => ([], false, input)
  | remaining + 1, first, input =>
    match if 1 ≤ remaining then readSeparator 58 first readIpv4Addr input else none with
    | some (address, input) => ([address.toNat / 65536, address.toNat % 65536], true, input)
    | none =>
      match readSeparator 58 first (readNumber 16 4 65536 true) input with
      | none => ([], false, input)
      | some (group, input) =>
        let (groups, ipv4, input) := readGroups remaining false input
        (group :: groups, ipv4, input)

/-- The groups before a double colon and after it; the latter stands for one group at least. -/
def readIpv6Addr (input : List UInt8) : Option (BitVec 128 × List UInt8) :=
  let (head, headIpv4, input) := readGroups 8 true input
  if head.length = 8 then some (.ofNat 128 (groupsValue 65536 head), input)
  else if headIpv4 then none
  else
    match input with
    | 58 :: 58 :: input =>
      let (tail, _, input) := readGroups (8 - (head.length + 1)) true input
      let zeros := List.replicate (8 - head.length - tail.length) 0
      some (.ofNat 128 (groupsValue 65536 (head ++ zeros ++ tail)), input)
    | _ => none

/-- `IpAddr::from_str`: one address, and nothing after it. -/
def parse (text : String) : Option IpAddr :=
  let input := utf8 text.toList
  let read :=
    match readIpv4Addr input with
    | some (address, rest) => some (v4 address, rest)
    | none =>
      match readIpv6Addr input with
      | some (address, rest) => some (v6 address, rest)
      | none => none
  match read with
  | some (address, []) => some address
  | _ => none

/-- `IpAddr::from` of the octets of an address of either version. -/
def ofOctets (octets : List UInt8) : Option IpAddr :=
  let value := groupsValue 256 (octets.map UInt8.toNat)
  if octets.length = 4 then some (.v4 (.ofNat 32 value))
  else if octets.length = 16 then some (.v6 (.ofNat 128 value))
  else none

/-- The octets of a number, the most significant first. -/
def octetsOf : (count : ℕ) → ℕ → List UInt8
  | 0, _ => []
  | count + 1, value => octetsOf count (value / 256) ++ [UInt8.ofNat (value % 256)]

/-- `IpAddr::octets`. -/
def octets : IpAddr → List UInt8
  | v4 bits => octetsOf 4 bits.toNat
  | v6 bits => octetsOf 16 bits.toNat

theorem length_octetsOf (count value : ℕ) : (octetsOf count value).length = count := by
  induction count generalizing value with
  | zero => rfl
  | succ count ih => rw [octetsOf, List.length_append, ih, List.length_singleton]

theorem groupsValue_octetsOf {count value : ℕ} (h : value < 256 ^ count) :
    groupsValue 256 ((octetsOf count value).map UInt8.toNat) = value := by
  induction count generalizing value with
  | zero =>
    rw [Nat.lt_one_iff.mp h]
    rfl
  | succ count ih =>
    have hhigh : value / 256 < 256 ^ count := Nat.div_lt_of_lt_mul (by rwa [Nat.mul_comm])
    have hlow : (UInt8.ofNat (value % 256)).toNat = value % 256 :=
      UInt8.toNat_ofNat_of_lt' (Nat.mod_lt _ (by decide))
    have hvalue := ih hhigh
    rw [groupsValue] at hvalue
    rw [groupsValue, octetsOf, List.map_append, List.foldl_append, hvalue]
    simp only [List.map_cons, List.map_nil, List.foldl_cons, List.foldl_nil, hlow]
    exact Nat.div_add_mod' value 256

/-- **An address is read back from its octets.** -/
theorem ofOctets_octets (address : IpAddr) : ofOctets address.octets = some address := by
  cases address with
  | v4 bits =>
    rw [ofOctets, octets, length_octetsOf, groupsValue_octetsOf bits.isLt]
    exact congrArg (some ∘ v4) ((BitVec.ofNat_toNat 32 bits).trans (BitVec.setWidth_eq bits))
  | v6 bits =>
    rw [ofOctets, octets, length_octetsOf, groupsValue_octetsOf bits.isLt]
    exact congrArg (some ∘ v6) ((BitVec.ofNat_toNat 128 bits).trans (BitVec.setWidth_eq bits))

example : parse "10.0.0.1" = some (.v4 0x0a000001#32) := by decide

example : parse "10.0.0.01" = none := by decide

example : parse "fe80::1:10.0.0.1" = some (.v6 0xfe8000000000000000000001_0a000001#128) := by
  decide

end IpAddr

end Foundation
