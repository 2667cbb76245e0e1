import PomToGradle.Text.Utf8

/-!
Reading what was written in UTF-8 gives the text back, by `decode?_encode`. Each lemma on the way says
what the decoder makes of one kind of byte.
-/
namespace PomToGradle.Utf8

theorem step_last {b low high : UInt8} {value : Nat} (output : List (Option Char))
    (h : low.toNat ≤ b.toNat ∧ b.toNat ≤ high.toNat) :
    Decoder.step ⟨.within value 0 low high, output⟩ b
      = ⟨.none, some (Char.ofNat (value * 64 + (b.toNat - 0x80))) :: output⟩ := by
  simp [Decoder.step, UInt8.le_iff_toNat_le, h]

theorem step_further {b low high : UInt8} {value missing : Nat} (output : List (Option Char))
    (h : low.toNat ≤ b.toNat ∧ b.toNat ≤ high.toNat) :
    Decoder.step ⟨.within value (missing + 1) low high, output⟩ b
      = ⟨.within (value * 64 + (b.toNat - 0x80)) missing 0x80 0xBF, output⟩ := by
  simp [Decoder.step, UInt8.le_iff_toNat_le, h]

theorem toNat_ofNat_of_lt {n : Nat} (h : n < 256) : (UInt8.ofNat n).toNat = n := by
  simp [Nat.mod_eq_of_lt h]

theorem lead_two {b : UInt8} (output : List (Option Char)) (low : 0xC2 ≤ b.toNat)
    (high : b.toNat < 0xE0) : lead output b = ⟨.within (b.toNat - 0xC0) 0 0x80 0xBF, output⟩ := by
  simp only [lead]
  rw [if_neg (by omega), if_neg (by omega), if_pos (by omega)]

theorem lead_three {b : UInt8} (output : List (Option Char)) (low : 0xE0 ≤ b.toNat)
    (high : b.toNat < 0xF0) :
    lead output b = ⟨.within (b.toNat - 0xE0) 1 (if b.toNat = 0xE0 then 0xA0 else 0x80)
      (if b.toNat = 0xED then 0x9F else 0xBF), output⟩ := by
  simp only [lead]
  rw [if_neg (by omega), if_neg (by omega), if_neg (by omega), if_pos (by omega)]

theorem lead_four {b : UInt8} (output : List (Option Char)) (low : 0xF0 ≤ b.toNat)
    (high : b.toNat < 0xF5) :
    lead output b = ⟨.within (b.toNat - 0xF0) 2 (if b.toNat = 0xF0 then 0x90 else 0x80)
      (if b.toNat = 0xF4 then 0x8F else 0xBF), output⟩ := by
  simp only [lead]
  rw [if_neg (by omega), if_neg (by omega), if_neg (by omega), if_neg (by omega),
    if_pos (by omega)]

/-- The bytes of a character, read between two characters, give the character. -/
theorem foldl_utf8EncodeChar (c : Char) (output : List (Option Char)) :
    (String.utf8EncodeChar c).foldl Decoder.step ⟨.none, output⟩ = ⟨.none, some c :: output⟩ := by
  have scalar : c.val.toNat < 0xD800 ∨ (0xDFFF < c.val.toNat ∧ c.val.toNat < 0x110000) := c.valid
  have back : Char.ofNat c.val.toNat = c := Char.ofNat_toNat c
  unfold String.utf8EncodeChar
  generalize c.val.toNat = v at scalar back
  simp only
  split
  next small =>
    have n := toNat_ofNat_of_lt (show v < 256 by omega)
    have opening : lead output (UInt8.ofNat v) = ⟨.none, some c :: output⟩ := by
      simp only [lead, n, back]
      rw [if_pos (by omega)]
    exact opening
  next =>
    have n₄ := toNat_ofNat_of_lt (show v % 64 + 128 < 256 by omega)
    split
    next =>
      have n₁ := toNat_ofNat_of_lt (show v / 64 % 32 + 192 < 256 by omega)
      have value : (v / 64 % 32 + 192 - 0xC0) * 64 + (v % 64 + 128 - 0x80) = v := by omega
      simp only [List.foldl_cons, List.foldl_nil]
      rw [show Decoder.step ⟨.none, output⟩ (UInt8.ofNat (v / 64 % 32 + 192)) = _ from
          lead_two output (by omega) (by omega),
        step_last output (by rw [n₄]; exact ⟨by simp, by simp; omega⟩), n₁, n₄, value, back]
    next =>
      have n₃ := toNat_ofNat_of_lt (show v / 64 % 64 + 128 < 256 by omega)
      split
      next =>
        have n₁ := toNat_ofNat_of_lt (show v / 4096 % 16 + 224 < 256 by omega)
        have value : ((v / 4096 % 16 + 224 - 0xE0) * 64 + (v / 64 % 64 + 128 - 0x80)) * 64
            + (v % 64 + 128 - 0x80) = v := by omega
        simp only [List.foldl_cons, List.foldl_nil]
        rw [show Decoder.step ⟨.none, output⟩ (UInt8.ofNat (v / 4096 % 16 + 224)) = _ from
            lead_three output (by omega) (by omega),
          step_further output (by
            rw [n₃, n₁]
            constructor
            · split
              · simp; omega
              · simp
            · split <;> simp <;> omega),
          step_last output (by rw [n₄]; exact ⟨by simp, by simp; omega⟩), n₁, n₃, n₄, value, back]
      next =>
        have n₂ := toNat_ofNat_of_lt (show v / 4096 % 64 + 128 < 256 by omega)
        have n₁ := toNat_ofNat_of_lt (show v / 262144 % 8 + 240 < 256 by omega)
        have value : (((v / 262144 % 8 + 240 - 0xF0) * 64 + (v / 4096 % 64 + 128 - 0x80)) * 64
            + (v / 64 % 64 + 128 - 0x80)) * 64 + (v % 64 + 128 - 0x80) = v := by omega
        simp only [List.foldl_cons, List.foldl_nil]
        rw [show Decoder.step ⟨.none, output⟩ (UInt8.ofNat (v / 262144 % 8 + 240)) = _ from
            lead_four output (by omega) (by omega),
          step_further output (by
            rw [n₂, n₁]
            constructor
            · split
              · simp; omega
              · simp
            · split <;> simp <;> omega),
          step_further output (by rw [n₃]; exact ⟨by simp, by simp; omega⟩),
          step_last output (by rw [n₄]; exact ⟨by simp, by simp; omega⟩), n₁, n₂, n₃, n₄, value, back]

theorem foldl_encodeChars (s : List Char) (output : List (Option Char)) :
    (encodeChars s).foldl Decoder.step ⟨.none, output⟩ = ⟨.none, (s.map some).reverse ++ output⟩ := by
  induction s generalizing output with
  | nil => rfl
  | cons c s ih =>
    rw [encodeChars, List.flatMap_cons, List.foldl_append, foldl_utf8EncodeChar]
    exact (ih (some c :: output)).trans (by simp)

theorem decodeParts_encodeChars (s : List Char) : decodeParts (encodeChars s) = s.map some := by
  simp [decodeParts, foldl_encodeChars, Decoder.finish]

@[simp] theorem decode?_encode (s : String) : decode? (encode s) = some s := by
  have whole : ∀ l : List Char, (l.map some).mapM id = some l := by
    intro l
    induction l with
    | nil => rfl
    | cons c l ih => simp [ih]
  simp [decode?, encode, decodeParts_encodeChars, whole]

end PomToGradle.Utf8
