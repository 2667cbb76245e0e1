import Mathlib
import PomToGradle.Proofs.CharacterReferences
import PomToGradle.Proofs.TokenEffects

/-!
Nothing but the references of a character is resolved to it, save that one plus sign may stand in
front of the digits. What reads as a number is the digits of the number behind zeros, so a name that is
resolved is a reference as soon as its sign is taken off. A document in which any other reference
stands has no tree.
-/
namespace PomToGradle

namespace Radix

variable {radix : Radix} {c : Char} {d n : Nat} {s : List Char}

theorem lt_of_digit? (digit : radix.digit? c = some d) : c.toNat < 128 := by
  simp only [digit?] at digit
  split at digit
  next => omega
  next =>
    cases radix with
    | decimal => contradiction
    | hexadecimal =>
      dsimp only at digit
      split at digit
      next => omega
      next =>
        split at digit
        next => omega
        next => contradiction

/-- What holds of every ASCII character that is a digit holds of every digit. -/
theorem of_digit? {P : Char → Nat → Prop} (digit : radix.digit? c = some d)
    (all : ∀ n < 128, ∀ d ∈ radix.digit? (Char.ofNat n), P (Char.ofNat n) d) : P c d := by
  have found := all c.toNat (lt_of_digit? digit)
  rw [Char.ofNat_toNat] at found
  exact found d digit

/-- A digit is written in one way but for its letter case. -/
theorem digit?_eq_some (digit : radix.digit? c = some d) :
    d < radix.base ∧ c.toLower = Nat.digitChar d := by
  refine of_digit? (P := fun c d => d < radix.base ∧ c.toLower = Nat.digitChar d) digit ?_
  cases radix <;> decide +kernel

theorem eq_zero_of_digit? (digit : radix.digit? c = some 0) : c = '0' := by
  refine of_digit? (P := fun c d => d = 0 → c = '0') digit ?_ rfl
  cases radix <;> decide +kernel

theorem toLower_of_decimal (digit : decimal.digit? c = some d) : c.toLower = c :=
  of_digit? (P := fun c _ => c.toLower = c) digit (by decide +kernel)

theorem one_lt_base (radix : Radix) : 1 < radix.base := by
  cases radix <;> decide

theorem extend?_concat_eq_some (read : radix.extend? 0 (s ++ [c]) = some n) :
    ∃ m d, radix.extend? 0 s = some m ∧ radix.digit? c = some d ∧ n = m * radix.base + d := by
  rw [extend?_append] at read
  obtain ⟨m, front, last⟩ := Option.bind_eq_some_iff.mp read
  obtain ⟨d, digit, value⟩ := Option.bind_eq_some_iff.mp last
  exact ⟨m, d, front, digit, (Option.some.inj value).symm⟩

/-- Only zeros read as zero. -/
theorem eq_replicate_of_extend? (read : radix.extend? 0 s = some 0) :
    s = List.replicate s.length '0' := by
  induction s using List.reverseRecOn with
  | nil => rfl
  | append_singleton s c ih =>
    obtain ⟨m, d, front, digit, whole⟩ := extend?_concat_eq_some read
    obtain ⟨left, rfl⟩ := Nat.add_eq_zero_iff.mp whole.symm
    have positive := radix.one_lt_base
    obtain rfl : m = 0 := (Nat.mul_eq_zero.mp left).resolve_right (by omega)
    rw [eq_zero_of_digit? digit, List.length_append, List.replicate_add, ← ih front]
    rfl

/-- What reads as a number is the digits of the number, behind zeros. -/
theorem exists_digits_of_extend? (some : s ≠ []) (read : radix.extend? 0 s = .some n) :
    ∃ zeros digits, s = List.replicate zeros '0' ++ digits ∧
      digits.map Char.toLower = Nat.toDigits radix.base n := by
  -- the last digit is read last, so it comes off the end
  induction s using List.reverseRecOn generalizing n with
  | nil => contradiction
  | append_singleton s c ih =>
    obtain ⟨m, d, front, digit, rfl⟩ := extend?_concat_eq_some read
    obtain ⟨small, written⟩ := digit?_eq_some digit
    by_cases zero : m = 0
    · subst zero
      refine ⟨s.length, [c], ?_, ?_⟩
      · rw [← eq_replicate_of_extend? front]
      · rw [Nat.zero_mul, Nat.zero_add, Nat.toDigits_of_lt_base small, ← written]
        rfl
    · have more : s ≠ [] := by
        rintro rfl
        exact zero (Option.some.inj front).symm
      obtain ⟨zeros, digits, rfl, number⟩ := ih more front
      have base := radix.one_lt_base
      have large : radix.base ≤ m * radix.base + d :=
        Nat.le_add_right_of_le (Nat.le_mul_of_pos_left _ (Nat.pos_of_ne_zero zero))
      have front : (m * radix.base + d) / radix.base = m := by
        rw [Nat.mul_comm, Nat.mul_add_div (by omega), Nat.div_eq_of_lt small, Nat.add_zero]
      have last : (m * radix.base + d) % radix.base = d := by
        rw [Nat.mul_comm, Nat.mul_add_mod, Nat.mod_eq_of_lt small]
      refine ⟨zeros, digits ++ [c], by rw [List.append_assoc], ?_⟩
      rw [Nat.toDigits_of_base_le base large, front, last, List.map_append, number, ← written]
      rfl

theorem number?_eq_some_iff :
    radix.number? s = some n ↔ s ≠ [] ∧ radix.extend? 0 s = some n := by
  rw [number?]
  split
  next empty => simp [List.isEmpty_iff.mp empty]
  next more => simp [mt List.isEmpty_iff.mpr more]

/-- A number begins with a digit. -/
theorem head?_ne_of_number? (read : radix.number? s = some n) (foreign : radix.digit? c = none) :
    s.head? ≠ some c := by
  intro first
  obtain ⟨rest, rfl⟩ := List.head?_eq_some_iff.mp first
  exact ne_of_mem_extend? (number?_eq_some_iff.mp read).2 List.mem_cons_self foreign rfl

end Radix

theorem eq_toNat_of_scalar? {n : Nat} {c : Char} (named : scalar? n = some c) : n = c.toNat := by
  unfold scalar? at named
  split at named
  next scalar =>
    obtain rfl := Option.some.inj named
    have kept := Char.toNat_ofNat n
    rw [if_pos scalar] at kept
    exact kept.symm
  next => contradiction

theorem refersTo_decimal {c : Char} {s : List Char} (some : s ≠ [])
    (read : Radix.decimal.extend? 0 s = .some c.toNat) : RefersTo c ('#' :: s) := by
  obtain ⟨zeros, digits, rfl, number⟩ := Radix.exists_digits_of_extend? some read
  have lower : digits.map Char.toLower = digits := by
    refine (List.map_congr_left fun d member => ?_).trans (List.map_id digits)
    obtain ⟨value, digit⟩ := Radix.digit?_of_mem_extend? read d (List.mem_append_right _ member)
    exact Radix.toLower_of_decimal digit
  rw [lower] at number
  rw [number]
  exact .decimal zeros

theorem refersTo_hexadecimal {c : Char} {s : List Char} (some : s ≠ [])
    (read : Radix.hexadecimal.extend? 0 s = .some c.toNat) : RefersTo c ('#' :: 'x' :: s) := by
  obtain ⟨zeros, digits, rfl, number⟩ := Radix.exists_digits_of_extend? some read
  exact .hexadecimal zeros number

namespace Radix

/-- What stands between the number sign and the digits. -/
def mark : Radix → List Char
  | decimal => []
  | hexadecimal => ['x']

theorem exists_mark (s : List Char) : ∃ (radix : Radix) (digits : List Char),
    s = radix.mark ++ digits ∧ (radix = .decimal → digits.head? ≠ some 'x') := by
  by_cases marked : s.head? = some 'x'
  · obtain ⟨digits, rfl⟩ := List.head?_eq_some_iff.mp marked
    exact ⟨.hexadecimal, digits, rfl, by simp⟩
  · exact ⟨.decimal, s, rfl, fun _ => marked⟩

theorem mark_append_inj {radix : Radix} (radix' : Radix) {s t : List Char}
    (same : radix.mark ++ s = radix'.mark ++ t) (left : radix = .decimal → s.head? ≠ some 'x')
    (right : radix' = .decimal → t.head? ≠ some 'x') : radix = radix' ∧ s = t := by
  cases radix with
  | decimal =>
    cases radix' with
    | decimal => exact ⟨rfl, same⟩
    | hexadecimal => exact absurd (congrArg List.head? same) (left rfl)
  | hexadecimal =>
    cases radix' with
    | decimal => exact absurd (congrArg List.head? same.symm) (right rfl)
    | hexadecimal => exact ⟨rfl, (List.cons.inj same).2⟩

end Radix

/-- A name with a plus sign in front of its digits, and the same name without the sign. -/
inductive Signed : (name plain : List Char) → Prop where
  | sign (radix : Radix) {digits : List Char} (unmarked : digits.head? ≠ some 'x') :
      Signed ('#' :: (radix.mark ++ '+' :: digits)) ('#' :: (radix.mark ++ digits))

/-- The names that are taken for a reference to the character. -/
def ResolvesTo (name : List Char) (c : Char) : Prop :=
  RefersTo c name ∨ ∃ plain, Signed name plain ∧ RefersTo c plain

section CharacterReference

variable {radix : Radix} {s : List Char} {c : Char}

theorem refersTo_mark_iff (radix : Radix) (unmarked : radix = .decimal → s.head? ≠ some 'x') :
    RefersTo c ('#' :: (radix.mark ++ s)) ↔ radix.number? s = some c.toNat := by
  constructor
  · intro refers
    generalize name : '#' :: (radix.mark ++ s) = l at refers
    cases refers with
    | decimal zeros =>
      have read : Radix.decimal.number? (List.replicate zeros '0' ++ Nat.toDigits 10 c.toNat)
          = some c.toNat := Radix.number?_eq_some_iff.mpr ⟨by simp, extend?_decimal zeros c⟩
      obtain ⟨rfl, rfl⟩ := Radix.mark_append_inj .decimal (List.cons.inj name).2 unmarked
        fun _ => Radix.head?_ne_of_number? read rfl
      exact read
    | @hexadecimal zeros digits number =>
      have some : digits ≠ [] := by
        rintro rfl
        exact Nat.toDigits_ne_nil number.symm
      obtain ⟨rfl, rfl⟩ := Radix.mark_append_inj .hexadecimal (List.cons.inj name).2 unmarked
        (by simp)
      exact Radix.number?_eq_some_iff.mpr ⟨by simp [some], extend?_hexadecimal zeros number⟩
    | @predefined name' named =>
      have first := congrArg List.head? name
      simp only [List.mem_cons, Prod.mk.injEq, List.not_mem_nil, or_false] at named
      rcases named with ⟨rfl, -⟩ | ⟨rfl, -⟩ | ⟨rfl, -⟩ | ⟨rfl, -⟩ | ⟨rfl, -⟩ <;> simp at first
  · intro read
    obtain ⟨some, read⟩ := Radix.number?_eq_some_iff.mp read
    cases radix with
    | decimal => exact refersTo_decimal some read
    | hexadecimal => exact refersTo_hexadecimal some read

theorem characterReference?_mark (unmarked : radix = .decimal → s.head? ≠ some 'x') :
    characterReference? (radix.mark ++ s) = (radix.number? (unsigned s)).bind scalar? := by
  cases radix with
  | hexadecimal => rfl
  | decimal =>
    unfold characterReference?
    split
    next digits marked => exact absurd (congrArg List.head? marked) (unmarked rfl)
    next => rfl

theorem bind_scalar?_eq_some_iff {number : Option Nat} :
    number.bind scalar? = some c ↔ number = some c.toNat := by
  rw [Option.bind_eq_some_iff]
  constructor
  · rintro ⟨n, rfl, named⟩
    rw [eq_toNat_of_scalar? named]
  · rintro rfl
    exact ⟨_, rfl, scalar?_toNat c⟩

theorem unsigned_of_head? (unsigned' : s.head? ≠ some '+') : unsigned s = s := by
  unfold unsigned
  split
  next digits => exact absurd rfl unsigned'
  next => rfl

theorem characterReference?_eq_some_iff :
    characterReference? s = some c ↔ ResolvesTo ('#' :: s) c := by
  obtain ⟨radix, digits, rfl, unmarked⟩ := Radix.exists_mark s
  rw [characterReference?_mark unmarked, bind_scalar?_eq_some_iff]
  constructor
  · intro read
    by_cases signed : digits.head? = some '+'
    · obtain ⟨plain, rfl⟩ := List.head?_eq_some_iff.mp signed
      have number : radix.number? plain = some c.toNat := read
      have bare : plain.head? ≠ some 'x' :=
        Radix.head?_ne_of_number? number (by cases radix <;> rfl)
      exact Or.inr ⟨_, .sign radix bare, (refersTo_mark_iff radix fun _ => bare).mpr number⟩
    · rw [unsigned_of_head? signed] at read
      exact Or.inl ((refersTo_mark_iff radix unmarked).mpr read)
  · rintro (refers | ⟨plain, signed, refers⟩)
    · obtain ⟨some, read⟩ := Radix.number?_eq_some_iff.mp ((refersTo_mark_iff radix unmarked).mp refers)
      exact Radix.number?_unsigned some read
    · generalize name : '#' :: (radix.mark ++ digits) = l at signed
      cases signed with
      | @sign radix' plain bare =>
        obtain ⟨rfl, rfl⟩ := Radix.mark_append_inj radix' (List.cons.inj name).2 unmarked (by simp)
        exact (refersTo_mark_iff radix fun _ => bare).mp refers

end CharacterReference

theorem head?_of_signed {name plain : List Char} (signed : Signed name plain) :
    name.head? = some '#' ∧ plain.head? = some '#' := by
  cases signed with
  | sign radix unmarked => exact ⟨rfl, rfl⟩

theorem predefinedEntity?_eq_some_iff {name : String} {c : Char}
    (entity : name.toList.head? ≠ some '#') :
    predefinedEntity? name = some c ↔ ResolvesTo name.toList c := by
  constructor
  · intro found
    refine Or.inl (.predefined ?_)
    unfold predefinedEntity? at found
    split_ifs at found with lt gt amp apos quot
    all_goals
      obtain rfl := Option.some.inj found
      subst name
      simp
  · rintro (refers | ⟨plain, signed, -⟩)
    · generalize spelled : name.toList = l at refers
      cases refers with
      | decimal zeros => exact absurd (congrArg List.head? spelled) entity
      | hexadecimal zeros number => exact absurd (congrArg List.head? spelled) entity
      | @predefined name' named =>
        obtain rfl := String.toList_inj.mp spelled
        simp only [List.mem_cons, Prod.mk.injEq, List.not_mem_nil, or_false] at named
        rcases named with ⟨rfl, rfl⟩ | ⟨rfl, rfl⟩ | ⟨rfl, rfl⟩ | ⟨rfl, rfl⟩ | ⟨rfl, rfl⟩ <;> rfl
    · exact absurd (head?_of_signed signed).1 entity

/-- The character that a name is resolved to. -/
def referredTo? (name : String) : Option Char :=
  match name.toList with
  | '#' :: number => characterReference? number
  | _ => predefinedEntity? name

theorem referredTo?_of_number {name : String} {number : List Char}
    (spelled : name.toList = '#' :: number) : referredTo? name = characterReference? number := by
  simp only [referredTo?, spelled]

theorem referredTo?_of_entity {name : String} (entity : name.toList.head? ≠ some '#') :
    referredTo? name = predefinedEntity? name := by
  unfold referredTo?
  split
  next number spelled => exact absurd (congrArg List.head? spelled) entity
  next => rfl

theorem referredTo?_eq_some_iff {name : String} {c : Char} :
    referredTo? name = some c ↔ ResolvesTo name.toList c := by
  by_cases first : name.toList.head? = some '#'
  · obtain ⟨number, spelled⟩ := List.head?_eq_some_iff.mp first
    rw [referredTo?_of_number spelled, spelled]
    exact characterReference?_eq_some_iff
  · rw [referredTo?_of_entity first]
    exact predefinedEntity?_eq_some_iff first

/-- How a name is refused that is resolved to nothing. -/
def refusal (name : String) : ParseError :=
  if name.toList.head? = some '#' then .invalidCharacterReference name else .unknownEntity name

theorem resolve_eq (name : String) :
    Assembly.resolve name =
      match referredTo? name with
      | some c => .ok (String.singleton c)
      | none => .error (refusal name) := by
  unfold Assembly.resolve
  split
  next number spelled =>
    have first : name.toList.head? = some '#' := congrArg List.head? spelled
    rw [referredTo?_of_number spelled]
    cases characterReference? number with
    | some c => rfl
    | none => exact congrArg Except.error (if_pos first).symm
  next other =>
    have first : name.toList.head? ≠ some '#' := fun head =>
      have ⟨number, spelled⟩ := List.head?_eq_some_iff.mp head
      other number spelled
    rw [referredTo?_of_entity first]
    cases predefinedEntity? name with
    | some c => rfl
    | none => exact congrArg Except.error (if_neg first).symm

theorem resolve_eq_ok_iff {name text : String} :
    Assembly.resolve name = .ok text ↔ ∃ c, text = String.singleton c ∧ ResolvesTo name.toList c := by
  simp only [← referredTo?_eq_some_iff, resolve_eq]
  cases referredTo? name with
  | none => simp
  | some c => simp [eq_comm]

theorem resolve_of_foreign {name : String} (foreign : ∀ c, ¬ ResolvesTo name.toList c) :
    Assembly.resolve name = .error (refusal name) := by
  have none : referredTo? name = none :=
    Option.eq_none_iff_forall_ne_some.mpr fun c found => foreign c (referredTo?_eq_some_iff.mp found)
  rw [resolve_eq, none]

/-- Every reference in what is read is resolved, in the encoding that it stands in. -/
theorem Assembly.exists_resolved_of_run {a b : Assembly} {before after : List Token} {raw : Bytes}
    (done : a.run (before ++ .reference raw :: after) = .ok b) :
    ∃ middle shown text, a.run before = .ok middle ∧ middle.decode raw = .ok shown ∧
      resolve shown = .ok text := by
  rw [run_append] at done
  obtain ⟨middle, front, rest⟩ := bind_eq_ok.mp done
  rw [run_cons] at rest
  obtain ⟨next, step, -⟩ := bind_eq_ok.mp rest
  obtain ⟨_, moves, -⟩ := step_eq_ok_iff.mp step
  cases moves with
  | reference read resolved => exact ⟨middle, _, _, front, read, resolved⟩

theorem Document.exists_run_of_parseBytes {s : Bytes} {d : Document} (read : parseBytes s = .ok d) :
    ∃ a, (Assembly.start (Charset.ofSignature (dropUtf8Mark s)).1 false).run (lexedBytes s).tokens
      = .ok a := by
  have whole : parseBytes s = ((Assembly.start (Charset.ofSignature (dropUtf8Mark s)).1 false).ofLexed
    (lexedBytes s)).map mk := rfl
  rw [whole] at read
  obtain ⟨f, built, -⟩ := map_eq_ok.mp read
  obtain ⟨a, ran, -⟩ := bind_eq_ok.mp built
  exact ⟨a, ran⟩

/-- A name is resolved if it is a reference to a character, or would be without its sign, and then to
    this character. Any other is refused, and so is every text in which it stands as a reference. In
    bytes a reference is the name that the encoding reads at that place. -/
theorem resolve_accepts (name : String) :
    (∀ text, Assembly.resolve name = .ok text ↔
      ∃ c, text = String.singleton c ∧ ResolvesTo name.toList c) ∧
    ((∀ c, ¬ ResolvesTo name.toList c) →
      Assembly.resolve name = .error (refusal name) ∧
      ∀ s, .reference (Utf8.encode name) ∈ (Document.lexed s).tokens →
        ∃ e, Document.parse s = .error e) ∧
    ∀ b d before raw after, Document.parseBytes b = .ok d →
      (Document.lexedBytes b).tokens = before ++ .reference raw :: after →
      ∃ a shown c, (Assembly.start (Charset.ofSignature (dropUtf8Mark b)).1 false).run before = .ok a ∧
        a.charset.decode? raw = some shown ∧ ResolvesTo shown.toList c := by
  refine ⟨fun text => resolve_eq_ok_iff, fun foreign => ⟨resolve_of_foreign foreign, ?_⟩, ?_⟩
  · intro s member
    cases read : Document.parse s with
    | error e => exact ⟨e, rfl⟩
    | ok d =>
      obtain ⟨-, -, marks, shows, -⟩ := Document.lexed_of_parse read
      obtain ⟨shown, text, same, resolved⟩ := Token.resolves_of_shows shows member
      obtain rfl := String.toList_inj.mp (Utf8.encodeChars_injective same)
      obtain ⟨c, -, resolves⟩ := resolve_eq_ok_iff.mp resolved
      exact absurd resolves (foreign c)
  · intro b d before raw after read tokens
    obtain ⟨final, ran⟩ := Document.exists_run_of_parseBytes read
    rw [tokens] at ran
    obtain ⟨a, shown, text, front, decoded, resolved⟩ := Assembly.exists_resolved_of_run ran
    obtain ⟨c, -, resolves⟩ := resolve_eq_ok_iff.mp resolved
    rw [← toOption_eq_some_iff, Assembly.toOption_decode] at decoded
    exact ⟨a, shown, c, front, decoded, resolves⟩

/-- One above the last code point behind a zero, and the last code point behind a declaration. -/
theorem resolve_accepts_beyond :
    (∀ c, ¬ ResolvesTo "#x0110000".toList c) ∧
    Assembly.resolve "#x0110000" = .error (.invalidCharacterReference "#x0110000") ∧
    (∃ e, Document.parse "<a>&#x0110000;</a>" = .error e) ∧
    ∃ (a : Assembly) (shown : String) (c : Char),
      a.charset.decode? (Bytes.ofAscii "#x010FFFF") = some shown ∧ ResolvesTo shown.toList c := by
  have accepts := resolve_accepts "#x0110000"
  have refused : Assembly.resolve "#x0110000" = .error (.invalidCharacterReference "#x0110000") := by
    rfl
  have foreign : ∀ c, ¬ ResolvesTo "#x0110000".toList c := by
    intro c resolves
    have resolved := (accepts.1 _).mpr ⟨c, rfl, resolves⟩
    rw [refused] at resolved
    contradiction
  have member : .reference (Utf8.encode "#x0110000")
      ∈ (Document.lexed "<a>&#x0110000;</a>").tokens := by
    decide +kernel
  have read : Document.parseBytes (Bytes.ofAscii "<?xml encoding='GBK'?>&#x010FFFF;")
      = .ok ⟨.text (String.singleton (Char.ofNat 0x10FFFF)) .nil⟩ := by
    cbv
  have tokens : (Document.lexedBytes (Bytes.ofAscii "<?xml encoding='GBK'?>&#x010FFFF;")).tokens
      = [.instruction (Bytes.ofAscii "xml encoding='GBK'")]
        ++ .reference (Bytes.ofAscii "#x010FFFF") :: [] := by
    decide +kernel
  obtain ⟨a, shown, c, -, decoded, resolves⟩ := accepts.2.2 _ _ _ _ _ read tokens
  exact ⟨foreign, (accepts.2.1 foreign).1, (accepts.2.1 foreign).2 _ member, a, shown, c, decoded,
    resolves⟩

/-- No reference of a character has a sign in it, but a name with one is resolved, and a document that
    refers to it is accepted. -/
theorem resolve_signed :
    (∀ c, ¬ RefersTo c "#+65".toList) ∧ Assembly.resolve "#+65" = .ok "A" ∧
      Document.parse "&#+65;" = .ok ⟨.text "A" .nil⟩ := by
  refine ⟨fun c refers => ?_, by rfl, by cbv⟩
  have read := (refersTo_mark_iff .decimal (s := "+65".toList) (by decide)).mp refers
  exact Radix.head?_ne_of_number? read (c := '+') rfl rfl

end PomToGradle
