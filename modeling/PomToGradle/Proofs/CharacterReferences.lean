import Mathlib
import PomToGradle.Tree.Assembly

/-!
Every character has references of its own. The digits of its number name it again, in either radix,
behind any number of zeros and, in hexadecimal, in either letter case.
-/
namespace PomToGradle

namespace Radix

theorem extend?_append (radix : Radix) (n : Nat) (l r : List Char) :
    radix.extend? n (l ++ r) = (radix.extend? n l).bind fun m => radix.extend? m r := by
  induction l generalizing n with
  | nil => rfl
  | cons c l ih => simp only [List.cons_append, extend?, ih, Option.bind_assoc]

/-- A number is made of digits only. -/
theorem digit?_of_mem_extend? {radix : Radix} {n m : Nat} {s : List Char}
    (read : radix.extend? n s = some m) : ∀ c ∈ s, ∃ d, radix.digit? c = some d := by
  induction s generalizing n with
  | nil => simp
  | cons c s ih =>
    obtain ⟨d, digit, rest⟩ := Option.bind_eq_some_iff.mp read
    exact List.forall_mem_cons.mpr ⟨⟨d, digit⟩, ih rest⟩

/-- What is no digit stands in no number. -/
theorem ne_of_mem_extend? {radix : Radix} {n m : Nat} {s : List Char}
    (read : radix.extend? n s = some m) {c d : Char} (member : c ∈ s) (foreign : radix.digit? d = none) :
    c ≠ d := by
  rintro rfl
  obtain ⟨value, digit⟩ := digit?_of_mem_extend? read c member
  rw [foreign] at digit
  contradiction

theorem digit?_digitChar (radix : Radix) {d : Nat} (small : d < radix.base) :
    radix.digit? (Nat.digitChar d) = some d := by
  cases radix with
  | decimal =>
    have all : ∀ d < 10, decimal.digit? (Nat.digitChar d) = some d := by decide
    exact all d small
  | hexadecimal =>
    have all : ∀ d < 16, hexadecimal.digit? (Nat.digitChar d) = some d := by decide
    exact all d small

theorem extend?_toDigits (radix : Radix) (n : Nat) :
    radix.extend? 0 (Nat.toDigits radix.base n) = some n := by
  have two : 1 < radix.base := by cases radix <;> decide
  -- the last digit is read last, so it comes off the end
  induction n using Nat.strong_induction_on with
  | _ n ih =>
    by_cases small : n < radix.base
    · rw [Nat.toDigits_of_lt_base small, extend?, digit?_digitChar radix small]
      simp [extend?]
    · have large : radix.base ≤ n := Nat.not_lt.mp small
      have shorter : n / radix.base < n := Nat.div_lt_self (by omega) two
      have last := digit?_digitChar radix (Nat.mod_lt n (by omega))
      rw [Nat.toDigits_of_base_le two large, extend?_append, ih _ shorter]
      simp [extend?, last, Nat.div_add_mod']

theorem extend?_zeros (radix : Radix) (zeros : Nat) (s : List Char) :
    radix.extend? 0 (List.replicate zeros '0' ++ s) = radix.extend? 0 s := by
  have zero : radix.digit? '0' = some 0 := by cases radix <;> rfl
  induction zeros with
  | zero => rfl
  | succ zeros ih => simp [List.replicate_succ, extend?, zero, ih]

theorem digit?_toLower (c : Char) : hexadecimal.digit? c.toLower = hexadecimal.digit? c := by
  by_cases small : c.toNat < 128
  · have all : ∀ n < 128,
        hexadecimal.digit? (Char.ofNat n).toLower = hexadecimal.digit? (Char.ofNat n) := by
      decide +kernel
    rw [← Char.ofNat_toNat c]
    exact all c.toNat small
  · have kept : c.toLower = c := by
      rw [Char.toLower, dif_neg]
      rintro ⟨-, low⟩
      exact small (Nat.lt_of_le_of_lt low (by decide))
    rw [kept]

theorem extend?_toLower (n : Nat) (s : List Char) :
    hexadecimal.extend? n (s.map Char.toLower) = hexadecimal.extend? n s := by
  induction s generalizing n with
  | nil => rfl
  | cons c s ih => simp only [List.map_cons, extend?, digit?_toLower, ih]

/-- Digits are read as a number, since no sign stands in front of them. -/
theorem number?_unsigned {radix : Radix} {s : List Char} {n : Nat} (some : s ≠ [])
    (read : radix.extend? 0 s = .some n) : radix.number? (unsigned s) = .some n := by
  have kept : unsigned s = s := by
    unfold unsigned
    split
    next digits =>
      have foreign : radix.digit? '+' = none := by cases radix <;> rfl
      exact absurd rfl (ne_of_mem_extend? read List.mem_cons_self foreign)
    next => rfl
  rw [kept, number?, if_neg (by simpa using some), read]

end Radix

theorem scalar?_toNat (c : Char) : scalar? c.toNat = some c := by
  have scalar : c.toNat < 0xD800 ∨ (0xDFFF < c.toNat ∧ c.toNat < 0x110000) := c.valid
  rw [scalar?, if_pos scalar, Char.ofNat_toNat]

/-- The names of the references to a character. -/
inductive RefersTo (c : Char) : List Char → Prop where
  | decimal (zeros : Nat) :
      RefersTo c ('#' :: (List.replicate zeros '0' ++ Nat.toDigits 10 c.toNat))
  | hexadecimal (zeros : Nat) {digits : List Char}
      (number : digits.map Char.toLower = Nat.toDigits 16 c.toNat) :
      RefersTo c ('#' :: 'x' :: (List.replicate zeros '0' ++ digits))
  | predefined {name : String}
      (named : (name, c) ∈
        [("amp", '&'), ("lt", '<'), ("gt", '>'), ("apos", '\x27'), ("quot", '"')]) :
      RefersTo c name.toList

theorem extend?_decimal (zeros : Nat) (c : Char) :
    Radix.decimal.extend? 0 (List.replicate zeros '0' ++ Nat.toDigits 10 c.toNat)
      = some c.toNat := by
  rw [Radix.extend?_zeros]
  exact Radix.extend?_toDigits .decimal c.toNat

theorem extend?_hexadecimal (zeros : Nat) {c : Char} {digits : List Char}
    (number : digits.map Char.toLower = Nat.toDigits 16 c.toNat) :
    Radix.hexadecimal.extend? 0 (List.replicate zeros '0' ++ digits) = some c.toNat := by
  rw [Radix.extend?_zeros, ← Radix.extend?_toLower, number]
  exact Radix.extend?_toDigits .hexadecimal c.toNat

theorem characterReference?_decimal {s : List Char} {c : Char} (some : s ≠ [])
    (read : Radix.decimal.extend? 0 s = .some c.toNat) : characterReference? s = .some c := by
  unfold characterReference?
  split
  next digits => exact absurd rfl (Radix.ne_of_mem_extend? read List.mem_cons_self (by rfl))
  next =>
    rw [Radix.number?_unsigned some read]
    exact scalar?_toNat c

theorem characterReference?_hexadecimal {s : List Char} {c : Char} (some : s ≠ [])
    (read : Radix.hexadecimal.extend? 0 s = .some c.toNat) :
    characterReference? ('x' :: s) = .some c := by
  change (Radix.hexadecimal.number? (unsigned s)).bind scalar? = _
  rw [Radix.number?_unsigned some read]
  exact scalar?_toNat c

theorem resolve_of_refersTo {c : Char} {name : List Char} (refers : RefersTo c name) :
    Assembly.resolve (String.ofList name) = .ok (String.singleton c) := by
  cases refers with
  | decimal zeros =>
    have read := characterReference?_decimal (by simp) (extend?_decimal zeros c)
    simp [Assembly.resolve, read]
  | @hexadecimal zeros digits number =>
    have some : digits ≠ [] := by
      rintro rfl
      exact Nat.toDigits_ne_nil number.symm
    have read := characterReference?_hexadecimal (by simp [some]) (extend?_hexadecimal zeros number)
    simp [Assembly.resolve, read]
  | @predefined name named =>
    simp only [List.mem_cons, Prod.mk.injEq, List.not_mem_nil, or_false] at named
    rcases named with ⟨rfl, rfl⟩ | ⟨rfl, rfl⟩ | ⟨rfl, rfl⟩ | ⟨rfl, rfl⟩ | ⟨rfl, rfl⟩ <;> rfl

/-- What delimits a reference or begins markup stands in no name of a reference. -/
theorem not_mem_of_refersTo {c : Char} {name : List Char} (refers : RefersTo c name) {d : Char}
    (delimiter : d ∈ [';', '&', '<']) : d ∉ name := by
  have foreign : ∀ radix : Radix, radix.digit? d = none := by
    simp only [List.mem_cons, List.not_mem_nil, or_false] at delimiter
    rcases delimiter with rfl | rfl | rfl <;> intro radix <;> cases radix <;> rfl
  have other : d ≠ '#' ∧ d ≠ 'x' := by
    constructor <;> rintro rfl <;> simp at delimiter
  cases refers with
  | decimal zeros =>
    have digits : d ∉ List.replicate zeros '0' ++ Nat.toDigits 10 c.toNat := fun member =>
      Radix.ne_of_mem_extend? (extend?_decimal zeros c) member (foreign .decimal) rfl
    exact List.not_mem_cons_of_ne_of_not_mem other.1 digits
  | @hexadecimal zeros digits number =>
    have digits : d ∉ List.replicate zeros '0' ++ digits := fun member =>
      Radix.ne_of_mem_extend? (extend?_hexadecimal zeros number) member (foreign .hexadecimal) rfl
    exact List.not_mem_cons_of_ne_of_not_mem other.1
      (List.not_mem_cons_of_ne_of_not_mem other.2 digits)
  | @predefined name named =>
    simp only [List.mem_cons, Prod.mk.injEq, List.not_mem_nil, or_false] at named delimiter
    rcases named with ⟨rfl, rfl⟩ | ⟨rfl, rfl⟩ | ⟨rfl, rfl⟩ | ⟨rfl, rfl⟩ | ⟨rfl, rfl⟩ <;>
      rcases delimiter with rfl | rfl | rfl <;> decide

end PomToGradle
