import Mathlib
import PomToGradle.Proofs.TokenMarks

/-!
Bytes in another code that has the same ASCII. Every other byte is replaced by bytes that are outside
ASCII as well, so what looks for ASCII bytes finds the same ones in the same order.
-/
namespace PomToGradle

/-- Bytes to put in place of each byte. ASCII stays, and nothing else becomes ASCII. -/
structure Recoding where
  code : UInt8 → Bytes
  code_ascii : ∀ b, Utf8.IsAscii b → code b = [b]
  code_ne_nil : ∀ b, code b ≠ []
  foreign : ∀ b, ¬ Utf8.IsAscii b → ∀ x ∈ code b, ¬ Utf8.IsAscii x

namespace Recoding

variable (r : Recoding)

def bytes (s : Bytes) : Bytes := s.flatMap r.code

/-- The same for bytes that are kept last first. -/
def lastFirst (s : Bytes) : Bytes := (r.bytes s.reverse).reverse

@[simp] theorem bytes_nil : r.bytes [] = [] := rfl

theorem bytes_cons (b : UInt8) (s : Bytes) : r.bytes (b :: s) = r.code b ++ r.bytes s :=
  List.flatMap_cons

theorem bytes_append (s t : Bytes) : r.bytes (s ++ t) = r.bytes s ++ r.bytes t :=
  List.flatMap_append

theorem bytes_concat {b : UInt8} (small : Utf8.IsAscii b) (s : Bytes) :
    r.bytes (s ++ [b]) = r.bytes s ++ [b] := by
  rw [bytes_append, bytes_cons, r.code_ascii b small]
  rfl

@[simp] theorem lastFirst_nil : r.lastFirst [] = [] := rfl

theorem reverse_lastFirst (s : Bytes) : (r.lastFirst s).reverse = r.bytes s.reverse :=
  List.reverse_reverse _

theorem lastFirst_cons (b : UInt8) (s : Bytes) :
    r.lastFirst (b :: s) = (r.code b).reverse ++ r.lastFirst s := by
  simp [lastFirst, bytes_append, bytes_cons]

theorem lastFirst_ascii {b : UInt8} (small : Utf8.IsAscii b) (s : Bytes) :
    r.lastFirst (b :: s) = b :: r.lastFirst s := by
  rw [lastFirst_cons, r.code_ascii b small]
  rfl

variable {r}

theorem bytes_of_ascii {s : Bytes} (small : ∀ b ∈ s, Utf8.IsAscii b) : r.bytes s = s := by
  induction s with
  | nil => rfl
  | cons b s ih =>
    obtain ⟨first, others⟩ := List.forall_mem_cons.mp small
    rw [bytes_cons, r.code_ascii b first, ih others]
    rfl

/-- A byte outside ASCII leaves a trace. -/
theorem isAscii_of_bytes {s : Bytes} (small : ∀ x ∈ r.bytes s, Utf8.IsAscii x) :
    ∀ b ∈ s, Utf8.IsAscii b := by
  intro b member
  by_contra large
  obtain ⟨x, inside⟩ := List.exists_mem_of_ne_nil _ (r.code_ne_nil b)
  exact r.foreign b large x inside (small x (List.mem_flatMap.mpr ⟨b, member, inside⟩))

theorem bytes_eq_iff {s k : Bytes} (small : ∀ b ∈ k, Utf8.IsAscii b) : r.bytes s = k ↔ s = k := by
  constructor
  · rintro rfl
    exact (bytes_of_ascii (isAscii_of_bytes small)).symm
  · rintro rfl
    exact bytes_of_ascii small

theorem bytes_isPrefixOf {k : Bytes} (small : ∀ b ∈ k, Utf8.IsAscii b) (s : Bytes) :
    (r.bytes s).isPrefixOf k = s.isPrefixOf k := by
  rw [Bool.eq_iff_iff, List.isPrefixOf_iff_prefix, List.isPrefixOf_iff_prefix]
  constructor
  · intro starts
    have ascii := isAscii_of_bytes fun x inside => small x (starts.subset inside)
    rwa [bytes_of_ascii ascii] at starts
  · intro starts
    rwa [bytes_of_ascii fun x inside => small x (starts.subset inside)]

/-- What is recoded begins with ASCII bytes just if it began with them. -/
theorem exists_of_lastFirst {k : Bytes} (small : ∀ b ∈ k, Utf8.IsAscii b) {s rest : Bytes}
    (starts : r.lastFirst s = k ++ rest) : ∃ tail, s = k ++ tail := by
  induction k generalizing s with
  | nil => exact ⟨s, rfl⟩
  | cons x k ih =>
    obtain ⟨first, others⟩ := List.forall_mem_cons.mp small
    cases s with
    | nil => simp at starts
    | cons b s =>
      by_cases low : Utf8.IsAscii b
      · rw [lastFirst_ascii r low] at starts
        obtain ⟨rfl, later⟩ := List.cons.inj starts
        obtain ⟨tail, rfl⟩ := ih others later
        exact ⟨tail, rfl⟩
      · -- such a byte would put a byte outside ASCII in front
        rw [lastFirst_cons] at starts
        obtain ⟨y, left, spelled⟩ :=
          List.exists_cons_of_ne_nil (List.reverse_ne_nil_iff.mpr (r.code_ne_nil b))
        rw [spelled] at starts
        obtain rfl := (List.cons.inj starts).1
        have inside : y ∈ r.code b := List.mem_reverse.mp (by simp [spelled])
        exact absurd first (r.foreign b low y inside)

theorem lastFirst_append_ascii {k : Bytes} (small : ∀ b ∈ k, Utf8.IsAscii b) (s : Bytes) :
    r.lastFirst (k ++ s) = k ++ r.lastFirst s := by
  induction k with
  | nil => rfl
  | cons x k ih =>
    obtain ⟨first, others⟩ := List.forall_mem_cons.mp small
    rw [List.cons_append, lastFirst_ascii r first, ih others]
    rfl

theorem take_lastFirst {k : Bytes} {n : Nat} (length : k.length = n)
    (small : ∀ b ∈ k, Utf8.IsAscii b) (s : Bytes) :
    (r.lastFirst s).take n = k ↔ s.take n = k := by
  subst length
  constructor
  · intro starts
    have whole := List.take_append_drop k.length (r.lastFirst s)
    rw [starts] at whole
    obtain ⟨tail, rfl⟩ := exists_of_lastFirst small whole.symm
    exact List.take_left
  · intro starts
    have whole := List.take_append_drop k.length s
    rw [starts] at whole
    rw [← whole, lastFirst_append_ascii small]
    exact List.take_left

/-- What is left of bytes that begin with ASCII ones, in order again. -/
theorem reverse_drop_lastFirst {k s : Bytes} {n : Nat} (length : k.length = n)
    (small : ∀ b ∈ k, Utf8.IsAscii b) (starts : s.take n = k) :
    ((r.lastFirst s).drop n).reverse = r.bytes (s.drop n).reverse := by
  subst length
  have whole := List.take_append_drop k.length s
  rw [starts] at whole
  rw [← whole, lastFirst_append_ascii small, List.drop_left, List.drop_left, reverse_lastFirst]

theorem lastFirst_eq_nil_iff (s : Bytes) : r.lastFirst s = [] ↔ s = [] := by
  cases s with
  | nil => simp
  | cons b s => simp [lastFirst_cons, r.code_ne_nil b]

theorem head?_lastFirst {x : UInt8} (small : Utf8.IsAscii x) (s : Bytes) :
    (r.lastFirst s).head? = some x ↔ s.head? = some x := by
  have one (l : Bytes) : l.head? = some x ↔ l.take 1 = [x] := by cases l <;> simp
  rw [one, one]
  exact take_lastFirst (k := [x]) rfl (by simpa using small) s

theorem reverse_tail_lastFirst {x : UInt8} (small : Utf8.IsAscii x) {s : Bytes}
    (head : s.head? = some x) : (r.lastFirst s).tail.reverse = r.bytes s.tail.reverse := by
  obtain ⟨tail, rfl⟩ := List.head?_eq_some_iff.mp head
  rw [lastFirst_ascii r small, List.tail_cons, List.tail_cons, reverse_lastFirst]

theorem bytes_mem_iff {l : List Bytes} (small : ∀ k ∈ l, ∀ b ∈ k, Utf8.IsAscii b) (s : Bytes) :
    r.bytes s ∈ l ↔ s ∈ l := by
  constructor
  · intro member
    have same : s = r.bytes s := (bytes_eq_iff (small _ member)).mp rfl
    rwa [same]
  · intro member
    rwa [bytes_of_ascii (small s member)]

end Recoding

/-! Bytes outside ASCII have no meaning in markup. -/

section Foreign

variable {b : UInt8} (large : ¬ Utf8.IsAscii b)
include large

theorem ne_ascii_of_foreign {c : Char} (small : c.toNat < 128) : b ≠ ascii c := by
  rintro rfl
  exact large (Utf8.isAscii_ascii small)

theorem ne_byte_of_foreign (q : Quote) : b ≠ q.byte := by
  rintro rfl
  exact large (by cases q <;> decide)

theorem ofByte?_of_foreign : Quote.ofByte? b = none := by
  simp [Quote.ofByte?, ne_byte_of_foreign large]

theorem isBlankByte_of_foreign : isBlankByte b = false := by
  rw [Bool.eq_false_iff]
  intro blank
  exact large (isAscii_of_isBlankByte blank)

theorem lowerByte_of_foreign : lowerByte b = b := by
  rw [lowerByte, if_neg]
  rintro ⟨-, high⟩
  exact large (Nat.lt_of_le_of_lt (UInt8.le_iff_toNat_le.mp high) (by decide))

end Foreign

theorem isAscii_lowerByte {b : UInt8} (small : Utf8.IsAscii b) : Utf8.IsAscii (lowerByte b) := by
  have all : ∀ n < 128, (lowerByte (UInt8.ofNat n)).toNat < 128 := by decide +kernel
  rw [← UInt8.ofNat_toNat (x := b)]
  exact all b.toNat small

namespace Recoding

variable {r : Recoding}

theorem code_isBlank (b : UInt8) : (r.code b).all isBlankByte = isBlankByte b := by
  by_cases low : Utf8.IsAscii b
  · simp [r.code_ascii b low]
  · obtain ⟨x, inside⟩ := List.exists_mem_of_ne_nil _ (r.code_ne_nil b)
    have other := isBlankByte_of_foreign (r.foreign b low x inside)
    rw [isBlankByte_of_foreign low, List.all_eq_false]
    exact ⟨x, inside, by simp [other]⟩

theorem all_lastFirst (s : Bytes) : (r.lastFirst s).all isBlankByte = s.all isBlankByte := by
  simp [lastFirst, bytes, List.all_flatMap, code_isBlank]

theorem map_lowerByte (s : Bytes) : (r.bytes s).map lowerByte = r.bytes (s.map lowerByte) := by
  induction s with
  | nil => rfl
  | cons b s ih =>
    rw [bytes_cons, List.map_append, ih, List.map_cons, bytes_cons]
    by_cases low : Utf8.IsAscii b
    · rw [r.code_ascii b low, r.code_ascii _ (isAscii_lowerByte low)]
      rfl
    · have kept : (r.code b).map lowerByte = r.code b := by
        refine (List.map_congr_left ?_).trans (List.map_id _)
        intro x inside
        exact lowerByte_of_foreign (r.foreign b low x inside)
      rw [kept, lowerByte_of_foreign low]

end Recoding

end PomToGradle
