import PomToGradle.Proofs.PlainRuns

/-!
Which bytes read as the empty text. An encoding gives one character at least to whatever it reads, save
that an escape sequence of ISO-2022-JP is no character. Two of them in a row are ill-formed, so it is one
or none. What stands for an escape of markup is a character, too.
-/
namespace PomToGradle

theorem map_cons_ne {α : Type} (a : α) (x : Option (List α)) : x.map (a :: ·) ≠ some [] := by
  cases x <;> simp

namespace MultiByte

/-- Whatever is read from inside a code on gives a character. -/
theorem eq_nil_of_read? {code : Bytes → Code} {pending s : Bytes}
    (read : read? code pending s = some []) : pending = [] ∧ s = [] := by
  induction s generalizing pending with
  | nil =>
    obtain ⟨outside, -⟩ := Option.ite_none_right_eq_some.mp read
    exact ⟨outside, rfl⟩
  | cons b s ih =>
    unfold read? at read
    split at read
    · exact absurd read (map_cons_ne _ _)
    · split at read
      next first others whole => exact absurd read (by cases read? code [] s <;> simp)
      next =>
        obtain ⟨inside, -⟩ := ih read
        simp at inside
      next => contradiction

/-- An escape and the two bytes that choose a code set. -/
def IsEscape (s : List UInt8) : Prop := ∃ a b set, s = [0x1B, a, b] ∧ codeSet? a b = some set

/-- Nothing but an escape that comes first is read as no character. -/
theorem eq_nil_or_isEscape_of_iso2022Jp? {set : CodeSet} {escaped : Bool} {s : List UInt8}
    (read : iso2022Jp? set escaped s = some []) : s = [] ∨ escaped = false ∧ IsEscape s := by
  fun_induction iso2022Jp? set escaped s with
  | case1 => exact Or.inl rfl
  | case3 set escaped e escape a b rest next chosen fresh ih =>
    rcases ih read with rfl | ⟨contra, -⟩
    · have first : e = 0x1B := UInt8.toNat_inj.mp escape
      exact Or.inr ⟨by simpa using fresh, a, b, next, by rw [first], chosen⟩
    · contradiction
  | case6 => exact absurd read (map_cons_ne _ _)
  | case9 => exact absurd read (map_cons_ne _ _)
  | _ => contradiction

theorem iso2022Jp?_eq_nil_iff {set : CodeSet} {s : List UInt8} :
    iso2022Jp? set false s = some [] ↔ s = [] ∨ IsEscape s := by
  constructor
  · intro read
    exact (eq_nil_or_isEscape_of_iso2022Jp? read).imp_right And.right
  · rintro (rfl | ⟨a, b, next, rfl, chosen⟩)
    · rfl
    · simp [iso2022Jp?, chosen]

end MultiByte

theorem SingleByte.eq_nil_of_mapM {page : Page} {s : Bytes} (read : s.mapM page.char? = some []) :
    s = [] :=
  List.forall₂_nil_right_iff.mp (mapM_eq_some_iff.mp read)

theorem Utf16.eq_nil_of_units? {order : ByteOrder} {s : Bytes} (read : units? order s = some []) :
    s = [] := by
  unfold units? at read
  split at read
  · rfl
  · contradiction
  · exact absurd read (map_cons_ne _ _)

theorem Utf16.eq_nil_of_chars? {l : List Nat} (read : chars? l = some []) : l = [] := by
  unfold chars? at read
  repeat' split at read
  · rfl
  all_goals first | contradiction | exact absurd read (map_cons_ne _ _)

namespace Charset

theorem map_ofList_eq_empty {x : Option (List Char)} :
    x.map String.ofList = some "" ↔ x = some [] := by
  have empty : "" = String.ofList [] := rfl
  rw [empty]
  cases x <;> simp

/-- Only ISO-2022-JP reads anything else than no bytes at all as the empty text. -/
theorem decode?_eq_empty_iff {charset : Charset} {s : Bytes} :
    charset.decode? s = some "" ↔ s = [] ∨ charset = .iso2022Jp ∧ MultiByte.IsEscape s := by
  constructor
  · intro read
    cases charset with
    | iso2022Jp =>
      rcases MultiByte.iso2022Jp?_eq_nil_iff.mp (map_ofList_eq_empty.mp read) with none | escape
      · exact Or.inl none
      · exact Or.inr ⟨rfl, escape⟩
    | utf8 => exact Or.inl (Utf8.decode?_eq_some_iff.mp read).symm
    | utf16 order =>
      obtain ⟨units, whole, chars⟩ := Option.bind_eq_some_iff.mp (map_ofList_eq_empty.mp read)
      obtain rfl := Utf16.eq_nil_of_chars? chars
      exact Or.inl (Utf16.eq_nil_of_units? whole)
    | singleByte page => exact Or.inl (SingleByte.eq_nil_of_mapM (map_ofList_eq_empty.mp read))
    | gbk | gb18030 | shiftJis | eucJp | eucKr | big5 =>
      exact Or.inl (MultiByte.eq_nil_of_read? (map_ofList_eq_empty.mp read)).2
    | replacement =>
      simp only [decode?] at read
      split at read
      next none => exact Or.inl (List.isEmpty_iff.mp none)
      next => contradiction
  · rintro (rfl | ⟨rfl, escape⟩)
    · rcases charset with _ | order | page | _ <;> rfl
    · exact map_ofList_eq_empty.mpr (MultiByte.iso2022Jp?_eq_nil_iff.mpr (Or.inr escape))

end Charset

namespace Escape

theorem replaceFrom_ne_nil {l : List Char} {stop offset : Nat} {start : Nat × List Char} :
    replaceFrom stop offset (some start) l ≠ .ok [] := by
  induction l generalizing offset start with
  | nil => simp [replaceFrom]
  | cons c l ih =>
    unfold replaceFrom
    dsimp only
    split
    · simp
    · split
      · intro empty
        obtain ⟨shown, -, rest⟩ := bind_eq_ok.mp empty
        obtain ⟨later, -, whole⟩ := map_eq_ok.mp rest
        contradiction
      · exact ih

theorem replaceFrom_eq_nil_iff {l : List Char} {stop offset : Nat} :
    replaceFrom stop offset none l = .ok [] ↔ l = [] := by
  cases l with
  | nil => simp [replaceFrom]
  | cons c l =>
    simp only [replaceFrom, reduceCtorEq, iff_false]
    split
    · exact replaceFrom_ne_nil
    · simp [map_eq_ok]

end Escape

theorem unescape_eq_empty_iff {s : String} : unescape s = .ok "" ↔ s = "" := by
  constructor
  · intro empty
    obtain ⟨l, replaced, none⟩ := map_eq_ok.mp empty
    obtain rfl := String.ofList_injective (none.trans String.ofList_nil.symm)
    exact String.toList_eq_nil_iff.mp (Escape.replaceFrom_eq_nil_iff.mp replaced)
  · rintro rfl
    rfl

end PomToGradle
