import PomToGradle.Text.Utf8.Lemmas

/-!
Where UTF-8 text may be cut. No byte of a character outside ASCII is an ASCII byte, so the bytes on
either side of an ASCII byte are text of their own. No character's bytes start those of another, so
text that starts with the bytes of a text starts with its characters.
-/
namespace PomToGradle.Utf8

def IsText (s : Bytes) : Prop := ∃ l : List Char, encodeChars l = s

def IsAscii (b : UInt8) : Prop := b.toNat < 128

theorem encodeChars_cons (c : Char) (l : List Char) :
    encodeChars (c :: l) = String.utf8EncodeChar c ++ encodeChars l := List.flatMap_cons

theorem isText_encodeChars (l : List Char) : IsText (encodeChars l) := ⟨l, rfl⟩

theorem encodeChars_injective {s t : List Char} (same : encodeChars s = encodeChars t) : s = t := by
  have read : s.map some = t.map some := by
    rw [← decodeParts_encodeChars, ← decodeParts_encodeChars, same]
  exact (List.map_inj_right fun _ _ => Option.some.inj).mp read

theorem utf8EncodeChar_of_ascii {c : Char} (small : c.toNat < 128) :
    String.utf8EncodeChar c = [ascii c] := by
  have value : c.val.toNat ≤ 127 := Nat.le_of_lt_succ small
  simp only [String.utf8EncodeChar, value, if_true]
  rfl

theorem isAscii_ascii {c : Char} (small : c.toNat < 128) : IsAscii (ascii c) := by
  rw [IsAscii, ascii, toNat_ofNat_of_lt (by omega)]
  exact small

/-- All bytes of a character outside ASCII have their top bit set. -/
theorem not_isAscii_of_mem_utf8EncodeChar {c : Char} (large : 128 ≤ c.toNat) {b : UInt8}
    (member : b ∈ String.utf8EncodeChar c) : ¬ IsAscii b := by
  have value : ¬ c.val.toNat ≤ 127 := Nat.not_le.mpr large
  have range : c.val.toNat < 0x110000 := by
    rcases c.valid with h | h <;> omega
  simp only [String.utf8EncodeChar, value, if_false] at member
  simp only [IsAscii]
  split at member
  · simp only [List.mem_cons, List.not_mem_nil, or_false] at member
    rcases member with rfl | rfl
    · rw [toNat_ofNat_of_lt (by omega)]; omega
    · rw [toNat_ofNat_of_lt (by omega)]; omega
  · split at member
    · simp only [List.mem_cons, List.not_mem_nil, or_false] at member
      rcases member with rfl | rfl | rfl
      · rw [toNat_ofNat_of_lt (by omega)]; omega
      · rw [toNat_ofNat_of_lt (by omega)]; omega
      · rw [toNat_ofNat_of_lt (by omega)]; omega
    · simp only [List.mem_cons, List.not_mem_nil, or_false] at member
      rcases member with rfl | rfl | rfl | rfl
      · rw [toNat_ofNat_of_lt (by omega)]; omega
      · rw [toNat_ofNat_of_lt (by omega)]; omega
      · rw [toNat_ofNat_of_lt (by omega)]; omega
      · rw [toNat_ofNat_of_lt (by omega)]; omega

/-- An ASCII byte in a text is a character, with whole characters on both sides. -/
theorem encodeChars_eq_append_ascii {l : List Char} {u v : Bytes} {b : UInt8} (small : IsAscii b)
    (cut : encodeChars l = u ++ b :: v) :
    ∃ s c t, l = s ++ c :: t ∧ String.utf8EncodeChar c = [b] ∧ encodeChars s = u ∧
      encodeChars t = v := by
  induction l generalizing u with
  | nil => simp [encodeChars] at cut
  | cons c l ih =>
    rw [encodeChars_cons] at cut
    by_cases low : c.toNat < 128
    · rw [utf8EncodeChar_of_ascii low] at cut
      cases u with
      | nil =>
        obtain ⟨rfl, rfl⟩ := List.cons.inj cut
        exact ⟨[], c, l, rfl, utf8EncodeChar_of_ascii low, rfl, rfl⟩
      | cons a u =>
        obtain ⟨rfl, rest⟩ := List.cons.inj cut
        obtain ⟨s, d, t, rfl, single, rfl, rfl⟩ := ih rest
        refine ⟨c :: s, d, t, rfl, single, ?_, rfl⟩
        rw [encodeChars_cons, utf8EncodeChar_of_ascii low, List.singleton_append]
    · have foreign : b ∉ String.utf8EncodeChar c := fun member =>
        not_isAscii_of_mem_utf8EncodeChar (Nat.not_lt.mp low) member small
      rcases List.append_eq_append_iff.mp cut with ⟨w, rfl, rest⟩ | ⟨w, inside, rest⟩
      · obtain ⟨s, d, t, rfl, single, rfl, rfl⟩ := ih rest
        exact ⟨c :: s, d, t, rfl, single, encodeChars_cons c s, rfl⟩
      · cases w with
        | nil =>
          obtain ⟨s, d, t, rfl, single, empty, rfl⟩ := ih (u := []) rest.symm
          refine ⟨c :: s, d, t, rfl, single, ?_, rfl⟩
          rw [encodeChars_cons, empty, List.append_nil, inside, List.append_nil]
        | cons a w =>
          obtain ⟨rfl, _⟩ := List.cons.inj rest
          exact absurd (by simp [inside]) foreign

theorem isText_of_append_ascii {u v : Bytes} {b : UInt8} (small : IsAscii b)
    (text : IsText (u ++ b :: v)) : IsText u ∧ IsText v := by
  obtain ⟨l, cut⟩ := text
  obtain ⟨s, _, t, -, -, left, right⟩ := encodeChars_eq_append_ascii small cut
  exact ⟨⟨s, left⟩, ⟨t, right⟩⟩

theorem isText_from_ascii {u v : Bytes} {b : UInt8} (small : IsAscii b)
    (text : IsText (u ++ b :: v)) : IsText (b :: v) := by
  obtain ⟨l, cut⟩ := text
  obtain ⟨_, c, t, -, single, -, rfl⟩ := encodeChars_eq_append_ascii small cut
  exact ⟨c :: t, by rw [encodeChars_cons, single, List.singleton_append]⟩

theorem isText_of_ascii_append {u v : Bytes} (small : ∀ b ∈ u, IsAscii b) (text : IsText (u ++ v)) :
    IsText v := by
  induction u with
  | nil => exact text
  | cons b u ih =>
    have rest := (isText_of_append_ascii (u := []) (small b (by simp)) text).2
    exact ih (fun a member => small a (List.mem_cons_of_mem b member)) rest

theorem utf8EncodeChar_append_inj {c d : Char} {u v : Bytes}
    (same : String.utf8EncodeChar c ++ u = String.utf8EncodeChar d ++ v) : c = d ∧ u = v := by
  have read (c : Char) (u : Bytes) :
      (String.utf8EncodeChar c ++ u).toByteArray.utf8DecodeChar? 0 = some c := by
    rw [List.toByteArray_append, ByteArray.utf8DecodeChar?_utf8EncodeChar_append]
  have first : c = d := by
    have both := read c u
    rw [same, read d v] at both
    exact (Option.some.inj both).symm
  subst first
  exact ⟨rfl, List.append_cancel_left same⟩

theorem eq_of_utf8EncodeChar {c d : Char} (small : c.toNat < 128)
    (single : String.utf8EncodeChar d = [ascii c]) : c = d := by
  rw [← utf8EncodeChar_of_ascii small] at single
  exact (utf8EncodeChar_append_inj (congrArg (· ++ []) single.symm)).1

theorem encodeChars_eq_append {l s : List Char} {u : Bytes}
    (start : encodeChars l = encodeChars s ++ u) : ∃ t, l = s ++ t ∧ encodeChars t = u := by
  induction s generalizing l with
  | nil => exact ⟨l, rfl, start⟩
  | cons c s ih =>
    rw [encodeChars_cons, List.append_assoc] at start
    cases l with
    | nil =>
      have empty : String.utf8EncodeChar c = [] := (List.append_eq_nil_iff.mp start.symm).1
      exact absurd empty String.utf8EncodeChar_ne_nil
    | cons d l =>
      rw [encodeChars_cons] at start
      obtain ⟨rfl, rest⟩ := utf8EncodeChar_append_inj start
      obtain ⟨t, rfl, same⟩ := ih rest
      exact ⟨t, rfl, same⟩

/-- Where the bytes of a text that begins with an ASCII character stand in another text, there it
    stands itself. -/
theorem infix_of_encodeChars {c : Char} (small : c.toNat < 128) {p l : List Char}
    (inside : encodeChars (c :: p) <:+: encodeChars l) : c :: p <:+: l := by
  obtain ⟨u, v, whole⟩ := inside
  rw [encodeChars_cons, utf8EncodeChar_of_ascii small, List.append_assoc] at whole
  obtain ⟨s, d, t, rfl, single, -, behind⟩ :=
    encodeChars_eq_append_ascii (isAscii_ascii small) whole.symm
  obtain rfl := eq_of_utf8EncodeChar small single
  obtain ⟨rest, rfl, -⟩ := encodeChars_eq_append behind
  exact ⟨s, rest, by simp⟩

theorem ascii_mem_utf8EncodeChar {c d : Char} (small : c.toNat < 128) :
    ascii c ∈ String.utf8EncodeChar d ↔ c = d := by
  by_cases low : d.toNat < 128
  · have single : ascii c = ascii d ↔ c = d := by
      constructor
      · intro same
        have bytes : String.utf8EncodeChar c ++ [] = String.utf8EncodeChar d ++ [] := by
          rw [utf8EncodeChar_of_ascii small, utf8EncodeChar_of_ascii low, same]
        exact (utf8EncodeChar_append_inj bytes).1
      · intro same
        rw [same]
    rw [utf8EncodeChar_of_ascii low, List.mem_singleton, single]
  · constructor
    · intro member
      exact absurd (isAscii_ascii small)
        (not_isAscii_of_mem_utf8EncodeChar (Nat.not_lt.mp low) member)
    · intro same
      exact absurd (same ▸ small) low

/-- A byte of a character is an ASCII byte only if it is that character. -/
theorem eq_ascii_iff_of_mem {c d : Char} (small : d.toNat < 128) {b : UInt8}
    (member : b ∈ String.utf8EncodeChar c) : b = ascii d ↔ c = d := by
  constructor
  · rintro rfl
    exact ((ascii_mem_utf8EncodeChar small).mp member).symm
  · rintro rfl
    rwa [utf8EncodeChar_of_ascii small, List.mem_singleton] at member

/-- A text ends with an ASCII character if its bytes do. -/
theorem getLast?_of_encodeChars {c : Char} (small : c.toNat < 128) {l : List Char}
    (last : (encodeChars l).getLast? = some (ascii c)) : l.getLast? = some c := by
  obtain ⟨before, whole⟩ := List.getLast?_eq_some_iff.mp last
  obtain ⟨s, d, t, rfl, single, -, empty⟩ :=
    encodeChars_eq_append_ascii (v := []) (isAscii_ascii small) whole
  obtain rfl : t = [] := encodeChars_injective empty
  obtain rfl := eq_of_utf8EncodeChar small single
  exact List.getLast?_concat

theorem ascii_mem_encodeChars {c : Char} (small : c.toNat < 128) (l : List Char) :
    ascii c ∈ encodeChars l ↔ c ∈ l := by
  simp [encodeChars, ascii_mem_utf8EncodeChar small]

/-- What depends on the character only, and not on which of its bytes it is, holds of whole
    characters. -/
theorem takeWhile_encodeChars {p : UInt8 → Bool} {q : Char → Bool}
    (same : ∀ c, ∀ b ∈ String.utf8EncodeChar c, p b = q c) (l : List Char) :
    (encodeChars l).takeWhile p = encodeChars (l.takeWhile q) := by
  induction l with
  | nil => rfl
  | cons c l ih =>
    rw [encodeChars_cons]
    cases holds : q c with
    | true =>
      rw [List.takeWhile_append_of_pos fun b member => by rw [same c b member, holds], ih,
        List.takeWhile_cons_of_pos holds, encodeChars_cons]
    | false =>
      obtain ⟨b, rest, bytes⟩ := List.exists_cons_of_ne_nil (String.utf8EncodeChar_ne_nil (c := c))
      have stops : p b = false := by rw [same c b (by simp [bytes]), holds]
      rw [bytes, List.cons_append, List.takeWhile_cons_of_neg (by simp [stops]),
        List.takeWhile_cons_of_neg (by simp [holds])]
      rfl

theorem dropWhile_encodeChars {p : UInt8 → Bool} {q : Char → Bool}
    (same : ∀ c, ∀ b ∈ String.utf8EncodeChar c, p b = q c) (l : List Char) :
    (encodeChars l).dropWhile p = encodeChars (l.dropWhile q) := by
  have whole : encodeChars (l.takeWhile q) ++ (encodeChars l).dropWhile p
      = encodeChars (l.takeWhile q) ++ encodeChars (l.dropWhile q) := by
    rw [← takeWhile_encodeChars same, List.takeWhile_append_dropWhile, takeWhile_encodeChars same,
      ← encodeChars_append, List.takeWhile_append_dropWhile]
  exact List.append_cancel_left whole

/-- Whether a byte is an ASCII character depends on the character that it belongs to. -/
theorem beq_ascii_of_mem {c d : Char} (small : d.toNat < 128) {b : UInt8}
    (member : b ∈ String.utf8EncodeChar c) : (b == ascii d) = (c == d) := by
  rw [Bool.eq_iff_iff, beq_iff_eq, beq_iff_eq]
  exact eq_ascii_iff_of_mem small member

theorem isText_takeWhile {p : UInt8 → Bool} (small : ∀ b, p b = false → IsAscii b) {s : Bytes}
    (text : IsText s) : IsText (s.takeWhile p) := by
  cases rest : s.dropWhile p with
  | nil =>
    have whole := List.takeWhile_append_dropWhile (p := p) (l := s)
    rw [rest, List.append_nil] at whole
    rwa [whole]
  | cons b rest' =>
    have stops : p b = false := by
      have := List.head?_dropWhile_not p s
      simpa [rest] using this
    rw [← List.takeWhile_append_dropWhile (p := p) (l := s), rest] at text
    exact (isText_of_append_ascii (small b stops) text).1

end PomToGradle.Utf8
