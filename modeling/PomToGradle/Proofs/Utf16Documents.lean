import Mathlib
import PomToGradle.Proofs.JoinedDocuments
import PomToGradle.Proofs.TokenRecurrence
import PomToGradle.Proofs.UndecodableData
import PomToGradle.Proofs.Utf16Forms

/-!
What a mark of UTF-16 is good for. Character data is read in that encoding, but markup is looked for
byte by byte, and a delimiter leaves half of a code unit to the run of text next to it. So a document
without any delimiter is read as its text is, and one with markup is refused: by
`Lexed.exists_odd_run` and `Lexed.exists_odd_run_of_markup` it has a run of an odd number of bytes,
unless its markup is incomplete.
-/
namespace PomToGradle

/-- Neither the beginning nor the end of markup. -/
def IsQuiet (b : UInt8) : Prop := ∀ c ∈ ['&', ';', '<', '>', '?'], b ≠ ascii c

instance : DecidablePred IsQuiet := fun b => List.decidableBAll (b ≠ ascii ·) _

/-- Every other byte is quiet, the first one included. -/
def Alternates : Bytes → Prop
  | [] => True
  | [b] => IsQuiet b
  | b :: _ :: rest => IsQuiet b ∧ Alternates rest

theorem isPlainByte_of_isQuiet {b : UInt8} (quiet : IsQuiet b) : IsPlainByte b :=
  ⟨quiet '<' (by simp), quiet '&' (by simp)⟩

namespace Mode

/-- In markup that is no instruction, behind its first bytes. -/
def isUnderway : Mode → Bool
  | text _ | opened | instruction _ => false
  | _ => true

theorem close_of_isUnderway {m : Mode} (underway : m.isUnderway = true) : m.close.2 ≠ none := by
  intro complete
  obtain ⟨run, rfl⟩ := exists_run_of_complete complete
  contradiction

theorem declared?_tagToken (content : Bytes) : (tagToken content).declared? = none := by
  unfold tagToken
  split <;> rfl

theorem declared?_textToken {run : Bytes} {t : Token} (member : t ∈ (textToken run).toList) :
    t.declared? = none := by
  rcases textToken_cases run with ⟨-, none⟩ | ⟨-, some⟩
  · simp [none] at member
  · rw [some] at member
    obtain rfl := List.mem_singleton.mp member
    rfl

/-- Markup goes on, or the byte is one of the two that complete it and declares no encoding. -/
def Proceeds (b : UInt8) (after : Mode × Option Token) : Prop :=
  (after.2 = none ∧ after.1.isUnderway = true) ∨
    ∃ t, after = (start, some t) ∧ t.declared? = none ∧ (b = ascii ';' ∨ b = ascii '>')

theorem proceeds_on {b : UInt8} {next : Mode} (underway : next.isUnderway = true) :
    Proceeds b (next, none) := Or.inl ⟨rfl, underway⟩

theorem proceeds_to_end {b : UInt8} {t : Token} (undeclared : t.declared? = none)
    (delimiter : b = ascii ';' ∨ b = ascii '>') : Proceeds b (start, some t) :=
  Or.inr ⟨t, rfl, undeclared, delimiter⟩

theorem proceeds_of_ite {b : UInt8} {ends : Prop} [Decidable ends] {t : Token} {next : Mode}
    (undeclared : t.declared? = none) (angle : ends → b = ascii '>') (goes : next.isUnderway = true) :
    Proceeds b (if ends then (start, some t) else (next, none)) := by
  split
  next e => exact proceeds_to_end undeclared (Or.inr (angle e))
  next => exact proceeds_on goes

/-- A byte behind the beginning of markup takes it further or completes it. -/
theorem step_of_isUnderway {m : Mode} (underway : m.isUnderway = true) (b : UInt8) :
    Proceeds b (m.step b) := by
  cases m with
  | text run | opened | instruction content => contradiction
  | reference name =>
    simp only [step]
    split
    next semicolon => exact proceeds_to_end rfl (Or.inl semicolon)
    next => split <;> exact proceeds_on rfl
  | tag quote content => exact proceeds_of_ite (declared?_tagToken content) And.right rfl
  | endTag quote content => exact proceeds_of_ite rfl And.right rfl
  | comment content | cdata content => exact proceeds_of_ite rfl And.left rfl
  | doctype keyword scan content =>
    simp only [step]
    split
    next ends =>
      rw [endDoctype]
      split
      next => exact proceeds_on rfl
      next => exact proceeds_to_end rfl (Or.inr (Doctype.eq_of_step?_eq_none ends))
    next => exact proceeds_on rfl
  | bang =>
    simp only [step]
    split
    next => exact proceeds_on rfl
    next =>
      split
      next => exact proceeds_on rfl
      next => split <;> exact proceeds_on rfl
  | commentOpening =>
    simp only [step]
    split <;> exact proceeds_on rfl
  | cdataOpening seen =>
    simp only [step, cdataOpeningStep]
    split
    next => exact proceeds_on rfl
    next => split <;> exact proceeds_on rfl
  | doctypeOpening seen =>
    simp only [step, doctypeOpeningStep]
    split
    next => exact proceeds_on rfl
    next => split <;> exact proceeds_on rfl
  | failed fault => exact proceeds_on rfl

/-- A quiet byte ends no markup, and begins no instruction. -/
theorem step_of_isQuiet {m : Mode} (markup : m = opened ∨ m.isUnderway = true) {b : UInt8}
    (quiet : IsQuiet b) : (m.step b).2 = none ∧ (m.step b).1.isUnderway = true := by
  have semicolon := quiet ';' (by simp)
  have angle := quiet '>' (by simp)
  rcases markup with rfl | underway
  · have query := quiet '?' (by simp)
    simp only [step, if_neg query, if_neg angle]
    split
    next => exact ⟨rfl, rfl⟩
    next => split <;> exact ⟨rfl, rfl⟩
  · rcases step_of_isUnderway underway b with goes | ⟨t, -, -, rfl | rfl⟩
    · exact goes
    · exact absurd rfl semicolon
    · exact absurd rfl angle

end Mode

/-- The markup is incomplete, or a run of an odd number of bytes comes before any instruction. -/
def Lexed.IsHalved (lexed : Lexed) : Prop :=
  lexed.fault ≠ none ∨ ∃ before run after, lexed.tokens = before ++ .text run :: after ∧
    (∀ t ∈ before, t.declared? = none) ∧ run.length % 2 = 1

namespace Lexer

theorem not_isPlainByte_iff {b : UInt8} : ¬ IsPlainByte b ↔ b = ascii '<' ∨ b = ascii '&' := by
  unfold IsPlainByte
  tauto

/-- A delimiter puts an end to a run of text and begins a construct. -/
theorem finish_run_ended {b : UInt8} (delimiter : ¬ IsPlainByte b) :
    ∃ next : Mode, (next = .opened ∨ next.isUnderway = true) ∧ ∀ run s,
      ((Lexer.mk (.text run) []).run (b :: s)).finish
        = ⟨(Mode.textToken run).toList ++ ((Lexer.mk next []).run s).finish.tokens,
            ((Lexer.mk next []).run s).finish.fault⟩ := by
  rcases not_isPlainByte_iff.mp delimiter with rfl | rfl
  · exact ⟨.opened, Or.inl rfl, fun run s => finish_run_delimiter s (fun run => rfl) run []⟩
  · exact ⟨.reference [], Or.inr rfl, fun run s => finish_run_delimiter s (fun run => rfl) run []⟩

/-- Where no quiet byte stands next to a delimiter but in front of it, a run of text ends within a
    pair of bytes. -/
theorem exists_odd_run {s : Bytes} (alternates : Alternates s)
    (ends : s.length % 2 = 1 ∨ ∃ b ∈ s, ¬ IsPlainByte b) (before : Bytes)
    (even : before.length % 2 = 0) :
    ∃ run l, ((Lexer.mk (.text before) []).run s).finish.tokens = .text run :: l ∧
      run.length % 2 = 1 := by
  -- the run in front grows by whole pairs, so it is even wherever one begins
  induction s using Alternates.induct generalizing before with
  | case1 => simp at ends
  | case2 b =>
    refine ⟨(b :: before).reverse, [], ?_, ?_⟩
    · change ((Lexer.mk (.text before) []).step b).finish.tokens = _
      rw [step_text (isPlainByte_of_isQuiet alternates)]
      rfl
    · simp
      omega
  | case3 b c rest ih =>
    obtain ⟨quiet, others⟩ := alternates
    have taken : (Lexer.mk (.text before) []).run (b :: c :: rest)
        = (Lexer.mk (.text (b :: before)) []).run (c :: rest) := by
      rw [run_cons, step_text (isPlainByte_of_isQuiet quiet)]
    rw [taken]
    by_cases plain : IsPlainByte c
    · rw [run_cons, step_text plain]
      apply ih others
      · rcases ends with odd | ⟨d, member, delimiter⟩
        · left
          simp only [List.length_cons] at odd
          omega
        · right
          simp only [List.mem_cons] at member
          rcases member with rfl | rfl | inside
          · exact absurd (isPlainByte_of_isQuiet quiet) delimiter
          · exact absurd plain delimiter
          · exact ⟨d, inside, delimiter⟩
      · simp only [List.length_cons]
        omega
    · obtain ⟨next, -, ended⟩ := finish_run_ended plain
      rw [ended]
      refine ⟨(b :: before).reverse, _, rfl, ?_⟩
      simp
      omega

theorem step_of_flat {m : Mode} {b : UInt8} (flat : (m.step b).2 = none) (tokens : List Token) :
    (Lexer.mk m tokens).step b = ⟨(m.step b).1, tokens⟩ := by
  simp [step, flat]

theorem isHalved_of_markup {m : Mode} (markup : m = .opened ∨ m.isUnderway = true) {s : Bytes}
    (alternates : Alternates s) (odd : s.length % 2 = 1) :
    ((Lexer.mk m []).run s).finish.IsHalved := by
  -- only the second byte of a pair can complete the markup, and then an odd number is left
  induction s using Alternates.induct generalizing m with
  | case1 => contradiction
  | case2 b =>
    obtain ⟨-, underway⟩ := Mode.step_of_isQuiet markup alternates
    exact Or.inl (Mode.close_of_isUnderway underway)
  | case3 b c rest ih =>
    obtain ⟨quiet, others⟩ := alternates
    have shorter : rest.length % 2 = 1 := by
      simp only [List.length_cons] at odd
      omega
    obtain ⟨flat, underway⟩ := Mode.step_of_isQuiet markup quiet
    rw [run_cons, step_of_flat flat, run_cons]
    rcases Mode.step_of_isUnderway underway c with ⟨flat, goes⟩ | ⟨t, completes, undeclared, -⟩
    · rw [step_of_flat flat]
      exact ih (Or.inr goes) others shorter
    · have ended : (Lexer.mk (m.step b).1 []).step c = ⟨Mode.start, [t]⟩ := by
        simp [step, completes]
      obtain ⟨run, after, tokens, half⟩ :=
        exists_odd_run others (Or.inl shorter) [] rfl
      refine Or.inr ⟨[t], run, after, ?_, by simpa using undeclared, half⟩
      rw [ended, finish_run_mk]
      exact congrArg (t :: ·) tokens

theorem alternates_bigEndian {l : List Nat} (quiet : ∀ u ∈ l, IsQuiet (Utf16.highByte u)) :
    Alternates (Utf16.encodeUnits .bigEndian l) := by
  induction l with
  | nil => trivial
  | cons u l ih =>
    obtain ⟨first, others⟩ := List.forall_mem_cons.mp quiet
    rw [Utf16.encodeUnits_cons]
    exact ⟨first, ih others⟩

theorem alternates_littleEndian {b : UInt8} {l : List Nat} (first : IsQuiet b)
    (quiet : ∀ u ∈ l, IsQuiet (Utf16.highByte u)) :
    Alternates (b :: Utf16.encodeUnits .littleEndian l) := by
  induction l generalizing b with
  | nil => exact first
  | cons u l ih =>
    obtain ⟨next, others⟩ := List.forall_mem_cons.mp quiet
    rw [Utf16.encodeUnits_cons]
    exact ⟨first, ih next others⟩

theorem isHalved_littleEndian {l : List Nat} (quiet : ∀ u ∈ l, IsQuiet (Utf16.highByte u))
    (some : ∃ u ∈ l, ¬ IsPlainByte (Utf16.lowByte u)) (run : Bytes) :
    ((Lexer.mk (.text run) []).run (Utf16.encodeUnits .littleEndian l)).finish.IsHalved := by
  induction l generalizing run with
  | nil => simp at some
  | cons u l ih =>
    obtain ⟨first, others⟩ := List.forall_mem_cons.mp quiet
    have spelled : Utf16.encodeUnits .littleEndian (u :: l)
        = Utf16.lowByte u :: Utf16.highByte u :: Utf16.encodeUnits .littleEndian l := by
      rw [Utf16.encodeUnits_cons]
      rfl
    rw [spelled]
    by_cases plain : IsPlainByte (Utf16.lowByte u)
    · rw [run_cons, step_text plain, run_cons, step_text (isPlainByte_of_isQuiet first)]
      apply ih others
      obtain ⟨v, member, delimiter⟩ := some
      rcases List.mem_cons.mp member with rfl | inside
      · exact absurd plain delimiter
      · exact ⟨v, inside, delimiter⟩
    · -- the other half of the delimiter's code unit is still to come
      have odd : (Utf16.highByte u :: Utf16.encodeUnits .littleEndian l).length % 2 = 1 := by
        rw [List.length_cons, Utf16.length_encodeUnits]
        omega
      obtain ⟨next, markup, ended⟩ := finish_run_ended plain
      rw [ended]
      rcases isHalved_of_markup markup (alternates_littleEndian first others) odd with
        fault | ⟨before, half, after, tokens, undeclared, length⟩
      · exact Or.inl fault
      · refine Or.inr ⟨(Mode.textToken run).toList ++ before, half, after, ?_, ?_, length⟩
        · rw [tokens, List.append_assoc]
        · intro t member
          rcases List.mem_append.mp member with front | inside
          · exact Mode.declared?_textToken front
          · exact undeclared t inside

theorem isHalved_bigEndian {l : List Nat} (quiet : ∀ u ∈ l, IsQuiet (Utf16.highByte u))
    (some : ∃ b ∈ Utf16.encodeUnits .bigEndian l, ¬ IsPlainByte b) :
    (start.run (Utf16.encodeUnits .bigEndian l)).finish.IsHalved := by
  obtain ⟨run, after, tokens, half⟩ :=
    exists_odd_run (alternates_bigEndian quiet) (Or.inr some) [] rfl
  exact Or.inr ⟨[], run, after, tokens, by simp, half⟩

end Lexer

theorem Assembly.ofLexed_of_isHalved {a : Assembly} {order : Utf16.ByteOrder}
    (charset : a.charset = .utf16 order) {lexed : Lexed} (halved : lexed.IsHalved) (f : Forest) :
    a.ofLexed lexed ≠ .ok f := by
  intro done
  obtain ⟨b, ran, rest⟩ := bind_eq_ok.mp done
  rcases halved with fault | ⟨before, run, after, tokens, undeclared, odd⟩
  · cases broken : lexed.fault with
    | none => exact fault broken
    | some f =>
      rw [broken] at rest
      contradiction
  · rw [tokens, run_append] at ran
    obtain ⟨c, front, ran⟩ := bind_eq_ok.mp ran
    obtain ⟨d, step, -⟩ := bind_eq_ok.mp ran
    have steady : a.Steady before := Or.inr fun t member charset declared => by
      rw [undeclared t member] at declared
      contradiction
    obtain ⟨next, moves, -⟩ := step_eq_ok_iff.mp step
    cases moves with
    | text read =>
      obtain ⟨raw, read, -⟩ := readText_eq_ok_iff.mp read
      rw [decode, charset_of_run steady front, charset, Charset.decode?,
        Utf16.decode?_of_odd order odd] at read
      contradiction

namespace Document

theorem parseBytes_marked (order : Utf16.ByteOrder) (s : Bytes) :
    parseBytes (order.mark ++ s)
      = ((Assembly.start (.utf16 order) false).ofLexed (Lexed.ofBytes s)).map Document.mk := by
  cases order <;> rfl

theorem parseBytes_of_isHalved {order : Utf16.ByteOrder} {s : Bytes}
    (halved : (Lexed.ofBytes s).IsHalved) : ∃ e, parseBytes (order.mark ++ s) = .error e := by
  rw [parseBytes_marked]
  cases read : (Assembly.start (.utf16 order) false).ofLexed (Lexed.ofBytes s) with
  | error e => exact ⟨e, rfl⟩
  | ok f => exact absurd read (Assembly.ofLexed_of_isHalved rfl halved f)

theorem parseBytes_marked_text (order : Utf16.ByteOrder) {s : String}
    (unmarked : s.toList.head? ≠ some '\uFEFF')
    (plain : ∀ b ∈ Utf16.encode order s, IsPlainByte b) :
    parseBytes (order.mark ++ Utf16.encode order s) = parse s := by
  by_cases empty : s = ""
  · subst empty
    cases order <;> rfl
  have chars : ∀ c ∈ s.toList, IsPlainChar c := by
    intro c member
    constructor
    · rintro rfl
      exact (plain _ (Utf16.ascii_mem_encode order (by decide) member)).1 rfl
    · rintro rfl
      exact (plain _ (Utf16.ascii_mem_encode order (by decide) member)).2 rfl
  have alone {charset : Charset} {run : Bytes} (plain : ∀ b ∈ run, IsPlainByte b)
      (read : charset.decode? run = some s) :
      (Lexed.mk [.text run] none).document? charset = some ⟨.text s .nil⟩ := by
    have absent : ascii '&' ∉ run := fun inside => (plain _ inside).2 rfl
    simp [Lexed.document?, Token.effect?, charset.readText?_of_plain absent, read, Site.take, Site.top,
      Forest.pushText, Site.document?, Forest.reverse, Forest.reverseOnto]
  have wide : parseBytes (order.mark ++ Utf16.encode order s) = .ok ⟨.text s .nil⟩ := by
    have cut := Lexed.ofBytes_of_plain plain (Utf16.encode_ne_nil order empty)
    rw [← toOption_eq_some_iff, parseBytes_marked, cut]
    refine (Assembly.toOption_ofLexed rfl (Or.inr ?_)).trans (alone plain (Utf16.decode?_encode order s))
    simp [Token.declared?]
  have narrow : parse s = .ok ⟨.text s .nil⟩ := by
    have some : Utf8.encode s ≠ [] := fun none =>
      empty (String.toList_eq_nil_iff.mp (Utf8.encodeChars_injective (t := []) none))
    have bytes : ∀ b ∈ Utf8.encodeChars s.toList, IsPlainByte b := forall_isPlainByte_iff.mpr chars
    have cut := Lexed.ofBytes_of_plain bytes some
    rw [← toOption_eq_some_iff, toOption_parse, lexed_eq, input_of_unmarked unmarked, cut]
    exact alone bytes (Utf8.decode?_encode s)
  rw [wide, narrow]

/-- A document behind a mark of UTF-16 is read as its text if no delimiter is among its bytes. If one
    is, as wherever the text has markup, it is refused; left out are only texts with a code unit whose
    high byte is one of the five bytes that mean something. -/
theorem parseBytes_utf16 (order : Utf16.ByteOrder) {s : String}
    (unmarked : s.toList.head? ≠ some '\uFEFF') :
    ((∀ b ∈ Utf16.encode order s, IsPlainByte b) →
      parseBytes (order.mark ++ Utf16.encode order s) = parse s) ∧
    ((∀ u ∈ Utf16.codeUnits s, IsQuiet (Utf16.highByte u)) →
      (∃ b ∈ Utf16.encode order s, ¬ IsPlainByte b) →
      ∃ e, parseBytes (order.mark ++ Utf16.encode order s) = .error e) := by
  refine ⟨parseBytes_marked_text order unmarked, fun quiet some => ?_⟩
  apply parseBytes_of_isHalved
  cases order with
  | bigEndian => exact Lexer.isHalved_bigEndian quiet some
  | littleEndian =>
    refine Lexer.isHalved_littleEndian quiet ?_ []
    obtain ⟨b, member, delimiter⟩ := some
    obtain ⟨u, unit, inside⟩ := List.mem_flatMap.mp member
    rcases List.mem_pair.mp inside with rfl | rfl
    · exact ⟨u, unit, delimiter⟩
    · exact absurd (isPlainByte_of_isQuiet (quiet u unit)) delimiter

theorem parseBytes_utf16_letters :
    "<a>é</a>".toList.head? ≠ some '\uFEFF' ∧ "é€".toList.head? ≠ some '\uFEFF' ∧
    (∃ e, parseBytes (Utf16.ByteOrder.bigEndian.mark ++ Utf16.encode .bigEndian "<a>é</a>")
      = .error e) ∧
    parseBytes (Utf16.ByteOrder.littleEndian.mark ++ Utf16.encode .littleEndian "é€")
      = parse "é€" := by
  have unmarked : "<a>é</a>".toList.head? ≠ some '\uFEFF' := by decide
  have unmarked' : "é€".toList.head? ≠ some '\uFEFF' := by decide
  have units : Utf16.codeUnits "<a>é</a>" = [0x3C, 0x61, 0x3E, 0xE9, 0x3C, 0x2F, 0x61, 0x3E] := by
    simp [Utf16.codeUnits, Utf16.units]
  have bytes : Utf16.encode .littleEndian "é€" = [0xE9, 0x00, 0xAC, 0x20] := by
    simp [Utf16.encode, Utf16.codeUnits, Utf16.units]
    rfl
  have quiet : ∀ u ∈ Utf16.codeUnits "<a>é</a>", IsQuiet (Utf16.highByte u) := by
    have zero : ∀ u ∈ Utf16.codeUnits "<a>é</a>", Utf16.highByte u = 0 := by
      simp [units, Utf16.highByte]
    intro u member
    rw [zero u member]
    decide
  have delimiter : ∃ b ∈ Utf16.encode .bigEndian "<a>é</a>", ¬ IsPlainByte b :=
    ⟨ascii '<', Utf16.ascii_mem_encode .bigEndian (by decide) (by simp), by decide⟩
  have plain : ∀ b ∈ Utf16.encode .littleEndian "é€", IsPlainByte b := by
    rw [bytes]
    simp [IsPlainByte, ascii]
  exact ⟨unmarked, unmarked', (parseBytes_utf16 .bigEndian unmarked).2 quiet delimiter,
    (parseBytes_utf16 .littleEndian unmarked').1 plain⟩

/-- The smallest element is an element as a text, and nothing behind either mark. -/
theorem parseBytes_utf16_element :
    parse "<a/>" = .ok ⟨.element "a" .nil .nil⟩ ∧
    parseBytes (Utf16.ByteOrder.littleEndian.mark ++ Utf16.encode .littleEndian "<a/>")
      = .error (.undecodable (.utf16 .littleEndian)) ∧
    parseBytes (Utf16.ByteOrder.bigEndian.mark ++ Utf16.encode .bigEndian "<a/>")
      = .error (.undecodable (.utf16 .bigEndian)) := by
  refine ⟨by cbv, ?_, ?_⟩
  · cbv
  · cbv

end Document

end PomToGradle
