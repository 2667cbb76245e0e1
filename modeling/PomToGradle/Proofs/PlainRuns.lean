import PomToGradle.Proofs.OrderedCollection
import PomToGradle.Proofs.StrictReading
import PomToGradle.Tree.Assembly

/-!
Where the ASCII in a text comes from. Every encoding that is read gives an ASCII character to its own byte
and to no other, by `Charset.asciiAmong_of_decode?`. So a run of text, which holds no ampersand, has no
escapes in any encoding, and replacing them leaves it as it is.
-/
namespace PomToGradle

/-- Each ASCII character has its own byte among these. -/
def AsciiAmong (s : Bytes) (l : List Char) : Prop := ∀ c ∈ l, c.toNat < 0x80 → ascii c ∈ s

namespace AsciiAmong

variable {s t : Bytes} {l m : List Char}

theorem nil : AsciiAmong s [] := fun _ member => absurd member List.not_mem_nil

theorem mono (among : AsciiAmong s l) (kept : ∀ b ∈ s, b ∈ t) : AsciiAmong t l :=
  fun c member small => kept _ (among c member small)

theorem append (first : AsciiAmong s l) (second : AsciiAmong s m) : AsciiAmong s (l ++ m) := by
  intro c member small
  rcases List.mem_append.mp member with left | right
  · exact first c left small
  · exact second c right small

theorem behind (b : UInt8) (among : AsciiAmong s l) : AsciiAmong (b :: s) l :=
  among.mono fun _ member => List.mem_cons_of_mem b member

theorem cons_foreign (f : Foreign) (among : AsciiAmong s l) : AsciiAmong s (f.char :: l) := by
  intro c member small
  rcases List.mem_cons.mp member with rfl | later
  · have outside := f.outside
    omega
  · exact among c later small

theorem foreign (l : List Foreign) : AsciiAmong s (l.map Foreign.char) := by
  induction l with
  | nil => exact nil
  | cons f l ih => exact ih.cons_foreign f

theorem cons_own {c : Char} {b : UInt8} (own : ascii c = b) (among : AsciiAmong s l) :
    AsciiAmong (b :: s) (c :: l) := by
  intro d member small
  rcases List.mem_cons.mp member with rfl | later
  · exact List.mem_cons.mpr (Or.inl own)
  · exact List.mem_cons_of_mem b (among d later small)

end AsciiAmong

theorem ascii_ofNat_toNat {b : UInt8} (small : b.toNat < 0x80) : ascii (Char.ofNat b.toNat) = b := by
  have value : (Char.ofNat b.toNat).toNat = b.toNat := Utf8.val_ofNat (by omega)
  rw [ascii, value, UInt8.ofNat_toNat]

namespace Utf16

theorem unit_lt (order : ByteOrder) (a b : UInt8) : order.unit a b < 0x10000 := by
  have first := a.toNat_lt
  have second := b.toNat_lt
  cases order <;> simp only [ByteOrder.unit] <;> omega

theorem mem_of_units? {order : ByteOrder} {s : Bytes} {l : List Nat} (read : units? order s = some l)
    {u : Nat} (member : u ∈ l) : u < 0x10000 ∧ (u < 0x80 → UInt8.ofNat u ∈ s) := by
  induction s using units?.induct generalizing l with
  | case1 =>
    obtain rfl := Option.some.inj read
    exact absurd member List.not_mem_nil
  | case2 b => contradiction
  | case3 a b rest ih =>
    obtain ⟨later, decoded, rfl⟩ := Option.map_eq_some_iff.mp read
    rcases List.mem_cons.mp member with rfl | inside
    · refine ⟨unit_lt order a b, fun small => ?_⟩
      -- the other byte of the unit is zero
      cases order with
      | littleEndian =>
        simp only [ByteOrder.unit] at small ⊢
        have same : a.toNat + 256 * b.toNat = a.toNat := by omega
        rw [same, UInt8.ofNat_toNat]
        simp
      | bigEndian =>
        simp only [ByteOrder.unit] at small ⊢
        have same : 256 * a.toNat + b.toNat = b.toNat := by omega
        rw [same, UInt8.ofNat_toNat]
        simp
    · obtain ⟨bound, own⟩ := ih decoded inside
      exact ⟨bound, fun small => by simp [own small]⟩

/-- Two surrogates are a character of a supplementary plane. -/
theorem not_small_of_pair {u v : Nat} (high : isHigh u = true) (low : isLow v = true) :
    ¬ (Char.ofNat (0x10000 + (u - 0xD800) * 0x400 + (v - 0xDC00))).toNat < 0x80 := by
  simp only [isHigh, isLow, Bool.and_eq_true, decide_eq_true_eq] at high low
  have value := Utf8.val_ofNat (n := 0x10000 + (u - 0xD800) * 0x400 + (v - 0xDC00)) (by omega)
  rw [Char.toNat, value]
  omega

theorem toNat_mem_of_chars? {l : List Nat} (units : ∀ u ∈ l, u < 0x10000) {chars : List Char}
    (read : chars? l = some chars) {c : Char} (member : c ∈ chars) (small : c.toNat < 0x80) :
    c.toNat ∈ l := by
  fun_induction chars? l generalizing chars with
  | case1 =>
    obtain rfl := Option.some.inj read
    exact absurd member List.not_mem_nil
  | case2 u high v rest low ih =>
    obtain ⟨later, decoded, rfl⟩ := Option.map_eq_some_iff.mp read
    rcases List.mem_cons.mp member with same | inside
    · rw [same] at small
      exact absurd small (not_small_of_pair high low)
    · have kept := ih (fun w within => units w (by simp [within])) decoded inside
      simp [kept]
  | case3 | case4 | case5 => contradiction
  | case6 u rest high low ih =>
    obtain ⟨later, decoded, rfl⟩ := Option.map_eq_some_iff.mp read
    rcases List.mem_cons.mp member with same | inside
    · have bound := units u (by simp)
      simp only [isHigh, isLow, Bool.and_eq_true, decide_eq_true_eq] at high low
      have value : (Char.ofNat u).toNat = u := Utf8.val_ofNat (by omega)
      simp [same, value]
    · exact List.mem_cons_of_mem u (ih (fun w within => units w (by simp [within])) decoded inside)

end Utf16

namespace SingleByte

theorem asciiAmong_of_mapM {page : Page} {s : Bytes} {l : List Char}
    (read : s.mapM page.char? = some l) : AsciiAmong s l := by
  have related := mapM_eq_some_iff.mp read
  clear read
  induction related with
  | nil => exact .nil
  | @cons b c s l first _ ih =>
    unfold Page.char? at first
    split at first
    next small =>
      obtain rfl := Option.some.inj first
      exact ih.cons_own (ascii_ofNat_toNat small)
    next =>
      obtain ⟨f, -, rfl⟩ := Option.map_eq_some_iff.mp first
      exact (ih.behind b).cons_foreign f

end SingleByte

namespace MultiByte

theorem asciiAmong_of_read? {code : Bytes → Code} {pending s : Bytes} {l : List Char}
    (read : read? code pending s = some l) : AsciiAmong s l := by
  induction s generalizing pending l with
  | nil =>
    obtain ⟨-, none⟩ := Option.ite_none_right_eq_some.mp read
    obtain rfl := Option.some.inj none
    exact .nil
  | cons b s ih =>
    unfold read? at read
    split at read
    next outside =>
      obtain ⟨later, decoded, rfl⟩ := Option.map_eq_some_iff.mp read
      exact (ih decoded).cons_own (ascii_ofNat_toNat outside.2)
    next =>
      split at read
      next first others whole =>
        obtain ⟨later, decoded, rfl⟩ := Option.map_eq_some_iff.mp read
        exact (AsciiAmong.foreign (first :: others)).append ((ih decoded).behind b)
      next => exact (ih read).behind b
      next => contradiction

/-- What a code set gives is outside ASCII or the byte itself. -/
theorem ascii_of_char? {set : CodeSet} {b : UInt8} {c : Char} (read : set.char? b.toNat = some c)
    (small : c.toNat < 0x80) : ascii c = b := by
  have own {c : Char} (read : unshifted? b.toNat = some c) : ascii c = b := by
    obtain ⟨bounds, same⟩ := Option.ite_none_right_eq_some.mp read
    obtain rfl := Option.some.inj same
    exact ascii_ofNat_toNat bounds.1
  have outside {n : Nat} (valid : n < 0xD800) (large : 0x80 ≤ n) : ¬ (Char.ofNat n).toNat < 0x80 := by
    have value : (Char.ofNat n).toNat = n := Utf8.val_ofNat (Or.inl valid)
    omega
  cases set with
  | ascii => exact own read
  | roman =>
    simp only [CodeSet.char?] at read
    split at read
    · obtain rfl := Option.some.inj read
      exact absurd small (outside (by decide) (by decide))
    · split at read
      · obtain rfl := Option.some.inj read
        exact absurd small (outside (by decide) (by decide))
      · exact own read
  | katakana =>
    obtain ⟨-, read⟩ := Option.ite_none_right_eq_some.mp read
    obtain ⟨f, -, rfl⟩ := Option.map_eq_some_iff.mp read
    have large := f.outside
    omega
  | ideographs => simp [CodeSet.char?] at read

theorem asciiAmong_of_iso2022Jp? {set : CodeSet} {escaped : Bool} {s : Bytes} {l : List Char}
    (read : iso2022Jp? set escaped s = some l) : AsciiAmong s l := by
  fun_induction iso2022Jp? set escaped s generalizing l with
  | case1 =>
    obtain rfl := Option.some.inj read
    exact .nil
  | case3 set escaped e escape a b rest next chosen fresh ih =>
    exact (((ih read).behind b).behind a).behind e
  | case6 escaped e escape b rest f whole ih =>
    obtain ⟨later, decoded, rfl⟩ := Option.map_eq_some_iff.mp read
    exact (((ih decoded).behind b).behind e).cons_foreign f
  | case9 set escaped e rest escape ideographs c given ih =>
    obtain ⟨later, decoded, rfl⟩ := Option.map_eq_some_iff.mp read
    intro d member small
    rcases List.mem_cons.mp member with rfl | inside
    · simp [ascii_of_char? given small]
    · exact List.mem_cons_of_mem e (ih decoded d inside small)
  | _ => contradiction

end MultiByte

namespace Charset

theorem asciiAmong_of_decode? {charset : Charset} {s : Bytes} {t : String}
    (read : charset.decode? s = some t) : AsciiAmong s t.toList := by
  have chars {x : Option (List Char)} (read : x.map String.ofList = some t) : x = some t.toList := by
    obtain ⟨l, found, rfl⟩ := Option.map_eq_some_iff.mp read
    rw [found, String.toList_ofList]
  cases charset with
  | utf8 =>
    intro c member small
    rw [← Utf8.decode?_eq_some_iff.mp read]
    exact (Utf8.ascii_mem_encodeChars small t.toList).mpr member
  | utf16 order =>
    obtain ⟨units, whole, read⟩ := Option.bind_eq_some_iff.mp (chars read)
    intro c member small
    have bounded : ∀ u ∈ units, u < 0x10000 := fun u inside => (Utf16.mem_of_units? whole inside).1
    exact (Utf16.mem_of_units? whole (Utf16.toNat_mem_of_chars? bounded read member small)).2 small
  | singleByte page => exact SingleByte.asciiAmong_of_mapM (chars read)
  | iso2022Jp => exact MultiByte.asciiAmong_of_iso2022Jp? (chars read)
  | replacement =>
    simp only [decode?] at read
    split at read
    next =>
      obtain rfl := Option.some.inj read
      exact .nil
    next => contradiction
  | gbk | gb18030 | shiftJis | eucJp | eucKr | big5 =>
    exact MultiByte.asciiAmong_of_read? (chars read)

/-- What is read from a run without ampersands has no escapes. -/
theorem unescape_of_decode? {charset : Charset} {run : Bytes} {raw : String}
    (read : charset.decode? run = some raw) (plain : ascii '&' ∉ run) : unescape raw = .ok raw :=
  unescape_of_plain fun member => plain (asciiAmong_of_decode? read '&' member (by decide))

end Charset

namespace Assembly

theorem readText_eq_ok_iff {a : Assembly} {run : Bytes} {content : String} :
    a.readText run = .ok content ↔ ∃ raw, a.decode run = .ok raw ∧ unescape raw = .ok content := by
  rw [readText, bind_eq_ok]
  simp only [mapError_eq_ok]

/-- A run of text without ampersands is what its bytes spell. -/
theorem readText_of_plain (a : Assembly) {run : Bytes} (plain : ascii '&' ∉ run) :
    a.readText run = a.decode run := by
  unfold readText decode
  cases read : a.charset.decode? run with
  | none => rfl
  | some raw =>
    simp only [bind, Except.bind, Charset.unescape_of_decode? read plain]
    rfl

end Assembly

end PomToGradle
