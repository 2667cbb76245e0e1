import Mathlib
import PomToGradle.Proofs.Utf8Boundaries

/-!
Strict reading takes nothing for a text but its own bytes: `decode?_eq_some_iff`. What the decoder
keeps of a character under way says which bytes are still to come, so the bytes read so far are whole
characters and a beginning that these bytes would complete.
-/
namespace PomToGradle.Utf8

/-- The bytes `u` begin a character: any bytes within the bounds, one of them and `missing` more,
    complete it. -/
def Begins : (missing value : Nat) → (low high : UInt8) → Bytes → Prop
  | 0, value, low, high, u => ∀ b, low ≤ b ∧ b ≤ high →
    String.utf8EncodeChar (Char.ofNat (value * 64 + (b.toNat - 0x80))) = u ++ [b]
  | missing + 1, value, low, high, u => ∀ b, low ≤ b ∧ b ≤ high →
    Begins missing (value * 64 + (b.toNat - 0x80)) 0x80 0xBF (u ++ [b])

def Pending.Since : Pending → Bytes → Prop
  | none, u => u = []
  | within value missing low high, u => Begins missing value low high u

theorem toNat_le_of_mem_bounds {low b high : UInt8} (h : low ≤ b ∧ b ≤ high) :
    low.toNat ≤ b.toNat ∧ b.toNat ≤ high.toNat :=
  ⟨UInt8.le_iff_toNat_le.mp h.1, UInt8.le_iff_toNat_le.mp h.2⟩

theorem ofNat_eq {n : Nat} {b : UInt8} (same : n = b.toNat) : UInt8.ofNat n = b := by
  rw [same, UInt8.ofNat_toNat]

theorem val_ofNat {n : Nat} (valid : n < 0xD800 ∨ (0xDFFF < n ∧ n < 0x110000)) :
    (Char.ofNat n).val.toNat = n := by
  have kept := Char.toNat_ofNat n
  rwa [if_pos valid] at kept

theorem utf8EncodeChar_ofNat {b : UInt8} (small : IsAscii b) :
    String.utf8EncodeChar (Char.ofNat b.toNat) = [b] := by
  have bound : b.toNat < 128 := small
  have value : (Char.ofNat b.toNat).toNat = b.toNat := val_ofNat (by omega)
  rw [utf8EncodeChar_of_ascii (by omega), ascii, value, UInt8.ofNat_toNat]

theorem begins_two {a : UInt8} (low : 0xC2 ≤ a.toNat) (high : a.toNat < 0xE0) :
    Begins 0 (a.toNat - 0xC0) 0x80 0xBF [a] := by
  intro b bounds
  have second := toNat_le_of_mem_bounds bounds
  simp only [show (0x80 : UInt8).toNat = 0x80 from rfl, show (0xBF : UInt8).toNat = 0xBF from rfl]
    at second
  have value := val_ofNat (n := (a.toNat - 0xC0) * 64 + (b.toNat - 0x80)) (by omega)
  simp only [String.utf8EncodeChar, value]
  rw [if_neg (by omega), if_pos (by omega), ofNat_eq (b := a) (by omega), ofNat_eq (b := b) (by omega)]
  rfl

theorem begins_three {a : UInt8} (low : 0xE0 ≤ a.toNat) (high : a.toNat < 0xF0) :
    Begins 1 (a.toNat - 0xE0) (if a.toNat = 0xE0 then 0xA0 else 0x80)
      (if a.toNat = 0xED then 0x9F else 0xBF) [a] := by
  intro b bounds c bounds'
  have third := toNat_le_of_mem_bounds bounds'
  simp only [show (0x80 : UInt8).toNat = 0x80 from rfl, show (0xBF : UInt8).toNat = 0xBF from rfl]
    at third
  -- the bounds of the second byte leave out overlong forms and surrogates
  have second : (0x80 ≤ b.toNat ∧ b.toNat ≤ 0xBF) ∧ (a.toNat = 0xE0 → 0xA0 ≤ b.toNat) ∧
      (a.toNat = 0xED → b.toNat ≤ 0x9F) := by
    have both := toNat_le_of_mem_bounds bounds
    split at both <;> split at both <;> simp at both <;> omega
  have value := val_ofNat
    (n := ((a.toNat - 0xE0) * 64 + (b.toNat - 0x80)) * 64 + (c.toNat - 0x80)) (by omega)
  simp only [String.utf8EncodeChar, value]
  rw [if_neg (by omega), if_neg (by omega), if_pos (by omega), ofNat_eq (b := a) (by omega),
    ofNat_eq (b := b) (by omega), ofNat_eq (b := c) (by omega)]
  rfl

theorem begins_four {a : UInt8} (low : 0xF0 ≤ a.toNat) (high : a.toNat < 0xF5) :
    Begins 2 (a.toNat - 0xF0) (if a.toNat = 0xF0 then 0x90 else 0x80)
      (if a.toNat = 0xF4 then 0x8F else 0xBF) [a] := by
  intro b bounds c bounds' d bounds''
  have third := toNat_le_of_mem_bounds bounds'
  have fourth := toNat_le_of_mem_bounds bounds''
  simp only [show (0x80 : UInt8).toNat = 0x80 from rfl, show (0xBF : UInt8).toNat = 0xBF from rfl]
    at third fourth
  -- the bounds of the second byte leave out overlong forms and numbers above U+10FFFF
  have second : (0x80 ≤ b.toNat ∧ b.toNat ≤ 0xBF) ∧ (a.toNat = 0xF0 → 0x90 ≤ b.toNat) ∧
      (a.toNat = 0xF4 → b.toNat ≤ 0x8F) := by
    have both := toNat_le_of_mem_bounds bounds
    split at both <;> split at both <;> simp at both <;> omega
  have value := val_ofNat
    (n := (((a.toNat - 0xF0) * 64 + (b.toNat - 0x80)) * 64 + (c.toNat - 0x80)) * 64
      + (d.toNat - 0x80)) (by omega)
  simp only [String.utf8EncodeChar, value]
  rw [if_neg (by omega), if_neg (by omega), if_neg (by omega), ofNat_eq (b := a) (by omega),
    ofNat_eq (b := b) (by omega), ofNat_eq (b := c) (by omega), ofNat_eq (b := d) (by omega)]
  rfl

/-- The output is the characters of the bytes read, up to a character that has only begun. -/
def Decoder.Follows (d : Decoder) (s : Bytes) : Prop :=
  ∃ l u, d.output = (l.map some).reverse ∧ d.pending.Since u ∧ s = encodeChars l ++ u

theorem follows_lead (l : List Char) (b : UInt8) :
    none ∈ (lead (l.map some).reverse b).output ∨
      (lead (l.map some).reverse b).Follows (encodeChars l ++ [b]) := by
  by_cases one : b.toNat < 0x80
  · have small : (Char.ofNat b.toNat).toNat < 128 := by
      rw [Char.toNat, val_ofNat (by omega)]
      exact one
    have byte : ascii (Char.ofNat b.toNat) = b := by
      rw [ascii, Char.toNat, val_ofNat (by omega), UInt8.ofNat_toNat]
    refine Or.inr ⟨l ++ [Char.ofNat b.toNat], [], ?_, ?_, ?_⟩
    · simp [lead, one]
    · simp [lead, one, Pending.Since]
    · rw [encodeChars_append, encodeChars_cons, utf8EncodeChar_of_ascii small, byte]
      simp [encodeChars]
  by_cases stray : b.toNat < 0xC2
  · exact Or.inl (by simp [lead, one, stray])
  by_cases two : b.toNat < 0xE0
  · rw [lead_two _ (by omega) two]
    exact Or.inr ⟨l, [b], rfl, begins_two (by omega) two, rfl⟩
  by_cases three : b.toNat < 0xF0
  · rw [lead_three _ (by omega) three]
    exact Or.inr ⟨l, [b], rfl, begins_three (by omega) three, rfl⟩
  by_cases four : b.toNat < 0xF5
  · rw [lead_four _ (by omega) four]
    exact Or.inr ⟨l, [b], rfl, begins_four (by omega) four, rfl⟩
  · exact Or.inl (by simp [lead, one, stray, two, three, four])

theorem mem_output_lead {x : Option Char} {output : List (Option Char)} (member : x ∈ output)
    (b : UInt8) : x ∈ (lead output b).output := by
  simp only [lead]
  split_ifs <;> simp [member]

theorem mem_output_step {x : Option Char} {d : Decoder} (member : x ∈ d.output) (b : UInt8) :
    x ∈ (d.step b).output := by
  unfold Decoder.step
  split
  · exact mem_output_lead member b
  · split
    · split
      · exact List.mem_cons_of_mem _ member
      · exact member
    · exact mem_output_lead (List.mem_cons_of_mem none member) b

theorem follows_step {d : Decoder} {s : Bytes} (follows : d.Follows s) (b : UInt8) :
    none ∈ (d.step b).output ∨ (d.step b).Follows (s ++ [b]) := by
  obtain ⟨pending, output⟩ := d
  obtain ⟨l, u, rfl, since, rfl⟩ := follows
  cases pending with
  | none =>
    obtain rfl : u = [] := since
    rw [List.append_nil]
    exact follows_lead l b
  | within value missing low high =>
    by_cases bounds : low ≤ b ∧ b ≤ high
    · cases missing with
      | zero =>
        refine Or.inr ⟨l ++ [Char.ofNat (value * 64 + (b.toNat - 0x80))], [], ?_, ?_, ?_⟩
        · simp [Decoder.step, bounds]
        · simp [Decoder.step, bounds, Pending.Since]
        · rw [encodeChars_append, encodeChars_cons, since b bounds]
          simp [encodeChars]
      | succ missing =>
        refine Or.inr ⟨l, u ++ [b], ?_, ?_, ?_⟩
        · simp [Decoder.step, bounds]
        · simp only [Decoder.step, bounds]
          exact since b bounds
        · simp
    · refine Or.inl ?_
      simp only [Decoder.step, bounds, if_false]
      exact mem_output_lead List.mem_cons_self b

theorem follows_foldl (s : Bytes) :
    none ∈ (s.foldl Decoder.step ⟨.none, []⟩).output ∨
      (s.foldl Decoder.step ⟨.none, []⟩).Follows s := by
  induction s using List.reverseRecOn with
  | nil => exact Or.inr ⟨[], [], rfl, rfl, rfl⟩
  | append_singleton s b ih =>
    rw [List.foldl_append]
    rcases ih with ill | follows
    · exact Or.inl (mem_output_step ill b)
    · exact follows_step follows b

theorem eq_map_some_of_mapM {l : List (Option Char)} {r : List Char} (whole : l.mapM id = some r) :
    l = r.map some := by
  induction l generalizing r with
  | nil =>
    obtain rfl := Option.some.inj whole
    rfl
  | cons c l ih =>
    simp only [List.mapM_cons, id, Option.bind_eq_bind, Option.bind_eq_some_iff] at whole
    obtain ⟨d, rfl, rest, tail, last⟩ := whole
    obtain rfl := Option.some.inj last
    rw [ih tail, List.map_cons]

theorem encode_of_decode? {s : Bytes} {t : String} (read : decode? s = some t) : encode t = s := by
  obtain ⟨r, whole, rfl⟩ := Option.map_eq_some_iff.mp read
  have parts := eq_map_some_of_mapM whole
  rw [decodeParts] at parts
  have some : none ∉ r.map some := by simp
  rcases follows_foldl s with ill | ⟨l, u, output, since, bytes⟩
  · refine absurd ?_ some
    rw [← parts, Decoder.finish]
    split <;> simp [ill]
  · cases pending : (s.foldl Decoder.step ⟨.none, []⟩).pending with
    | none =>
      rw [Decoder.finish, pending, output] at parts
      have same : l = r := by
        change (l.map Option.some).reverse.reverse = _ at parts
        rw [List.reverse_reverse] at parts
        exact (List.map_inj_right fun _ _ => Option.some.inj).mp parts
      rw [pending] at since
      obtain rfl : u = [] := since
      rw [encode, String.toList_ofList, bytes, same, List.append_nil]
    | within value missing low high =>
      refine absurd ?_ some
      rw [← parts, Decoder.finish, pending]
      simp

theorem decode?_eq_some_iff {s : Bytes} {t : String} : decode? s = some t ↔ encode t = s := by
  constructor
  · exact encode_of_decode?
  · rintro rfl
    exact decode?_encode t

theorem isText_iff {s : Bytes} : IsText s ↔ ∃ t, decode? s = some t := by
  constructor
  · rintro ⟨l, rfl⟩
    exact ⟨String.ofList l, by rw [decode?_eq_some_iff, encode, String.toList_ofList]⟩
  · rintro ⟨t, read⟩
    exact ⟨t.toList, encode_of_decode? read⟩

end PomToGradle.Utf8
