import Mathlib
import PomToGradle.Charset.Signature
import PomToGradle.Proofs.StrictReading

/-!
Texts written in UTF-16, in either byte order. Reading gives the text back, by `decode?_encode`, and no
text has an odd number of bytes.
-/
namespace PomToGradle.Utf16

/-- A character above U+FFFF takes two units. -/
def units (c : Char) : List Nat :=
  if c.toNat < 0x10000 then [c.toNat]
  else [0xD800 + (c.toNat - 0x10000) / 0x400, 0xDC00 + (c.toNat - 0x10000) % 0x400]

def codeUnits (s : String) : List Nat := s.toList.flatMap units

def highByte (u : Nat) : UInt8 := UInt8.ofNat (u / 256)

def lowByte (u : Nat) : UInt8 := UInt8.ofNat (u % 256)

def ByteOrder.bytes : ByteOrder → Nat → Bytes
  | .littleEndian, u => [lowByte u, highByte u]
  | .bigEndian, u => [highByte u, lowByte u]

def encodeUnits (order : ByteOrder) (l : List Nat) : Bytes := l.flatMap order.bytes

def encode (order : ByteOrder) (s : String) : Bytes := encodeUnits order (codeUnits s)

def ByteOrder.mark : ByteOrder → Bytes
  | .littleEndian => littleEndianMark
  | .bigEndian => bigEndianMark

theorem encodeUnits_cons (order : ByteOrder) (u : Nat) (l : List Nat) :
    encodeUnits order (u :: l) = order.bytes u ++ encodeUnits order l := List.flatMap_cons

theorem length_encodeUnits (order : ByteOrder) (l : List Nat) :
    (encodeUnits order l).length = 2 * l.length := by
  induction l with
  | nil => rfl
  | cons u l ih =>
    rw [encodeUnits_cons, List.length_append, ih, List.length_cons]
    cases order <;> simp [ByteOrder.bytes] <;> omega

theorem scalar_toNat (c : Char) :
    c.toNat < 0xD800 ∨ (0xDFFF < c.toNat ∧ c.toNat < 0x110000) := c.valid

theorem lt_of_mem_units {c : Char} {u : Nat} (member : u ∈ units c) : u < 0x10000 := by
  have valid := scalar_toNat c
  unfold units at member
  split at member
  next small => rwa [List.mem_singleton.mp member]
  next large =>
    rcases List.mem_pair.mp member with high | low <;> omega

theorem lt_of_mem_codeUnits {s : String} {u : Nat} (member : u ∈ codeUnits s) : u < 0x10000 := by
  obtain ⟨c, -, inside⟩ := List.mem_flatMap.mp member
  exact lt_of_mem_units inside

theorem units_ne_nil (c : Char) : units c ≠ [] := by
  unfold units
  split <;> simp

theorem encode_ne_nil (order : ByteOrder) {s : String} (some : s ≠ "") : encode order s ≠ [] := by
  intro none
  have shorter := congrArg List.length none
  rw [encode, length_encodeUnits] at shorter
  have units : codeUnits s = [] := List.length_eq_zero_iff.mp (by simpa using shorter)
  rw [codeUnits, List.flatMap_eq_nil_iff] at units
  have empty : s.toList = [] := List.eq_nil_iff_forall_not_mem.mpr fun c member =>
    units_ne_nil c (units c member)
  exact some (String.toList_eq_nil_iff.mp empty)

/-- An ASCII character is a byte of the text and a zero. -/
theorem ascii_mem_encode (order : ByteOrder) {c : Char} (small : c.toNat < 128) {s : String}
    (member : c ∈ s.toList) : ascii c ∈ encode order s := by
  have unit : c.toNat ∈ codeUnits s := by
    refine List.mem_flatMap.mpr ⟨c, member, ?_⟩
    rw [units, if_pos (by omega)]
    exact List.mem_singleton_self _
  have low : lowByte c.toNat = ascii c := by
    rw [lowByte, Nat.mod_eq_of_lt (by omega)]
    rfl
  refine List.mem_flatMap.mpr ⟨c.toNat, unit, ?_⟩
  cases order <;> simp [ByteOrder.bytes, low]

theorem units?_bytes (order : ByteOrder) {u : Nat} (small : u < 0x10000) (rest : Bytes) :
    units? order (order.bytes u ++ rest) = (units? order rest).map (u :: ·) := by
  have high : (highByte u).toNat = u / 256 := Utf8.toNat_ofNat_of_lt (by omega)
  have low : (lowByte u).toNat = u % 256 := Utf8.toNat_ofNat_of_lt (by omega)
  cases order with
  | littleEndian =>
    have whole : u % 256 + 256 * (u / 256) = u := by omega
    simp [ByteOrder.bytes, units?, ByteOrder.unit, high, low, whole]
  | bigEndian =>
    have whole : 256 * (u / 256) + u % 256 = u := by omega
    simp [ByteOrder.bytes, units?, ByteOrder.unit, high, low, whole]

theorem units?_encodeUnits (order : ByteOrder) {l : List Nat} (small : ∀ u ∈ l, u < 0x10000) :
    units? order (encodeUnits order l) = some l := by
  induction l with
  | nil => rfl
  | cons u l ih =>
    obtain ⟨first, others⟩ := List.forall_mem_cons.mp small
    rw [encodeUnits_cons, units?_bytes order first, ih others]
    rfl

theorem chars?_units (c : Char) (rest : List Nat) :
    chars? (units c ++ rest) = (chars? rest).map (c :: ·) := by
  have valid := scalar_toNat c
  unfold units
  split
  next small =>
    have high : isHigh c.toNat = false := by simp [isHigh]; omega
    have low : isLow c.toNat = false := by simp [isLow]; omega
    rw [List.singleton_append, chars?.eq_def]
    simp [high, low]
  next large =>
    have high : isHigh (0xD800 + (c.toNat - 0x10000) / 0x400) = true := by simp [isHigh]; omega
    have low : isLow (0xDC00 + (c.toNat - 0x10000) % 0x400) = true := by simp [isLow]; omega
    have whole : 0x10000 + (0xD800 + (c.toNat - 0x10000) / 0x400 - 0xD800) * 0x400
        + (0xDC00 + (c.toNat - 0x10000) % 0x400 - 0xDC00) = c.toNat := by omega
    simp only [List.cons_append, List.nil_append, chars?, high, low, if_true, whole, Char.ofNat_toNat]

theorem chars?_codeUnits (l : List Char) : chars? (l.flatMap units) = some l := by
  induction l with
  | nil => rfl
  | cons c l ih =>
    rw [List.flatMap_cons, chars?_units, ih]
    rfl

@[simp] theorem decode?_encode (order : ByteOrder) (s : String) :
    decode? order (encode order s) = some s := by
  have read := units?_encodeUnits order fun _ member => lt_of_mem_codeUnits (s := s) member
  rw [decode?, encode, read, Option.bind_some, codeUnits, chars?_codeUnits, Option.map_some,
    String.ofList_toList]

theorem decode?_of_odd (order : ByteOrder) {s : Bytes} (odd : s.length % 2 = 1) :
    decode? order s = none := by
  have none : units? order s = none := by
    fun_induction units? order s with
    | case1 => contradiction
    | case2 => rfl
    | case3 a b rest ih =>
      have shorter : rest.length % 2 = 1 := by
        simp only [List.length_cons] at odd
        omega
      rw [ih shorter]
      rfl
  rw [decode?, none]
  rfl

end PomToGradle.Utf16
