import Mathlib
import PomToGradle.Proofs.ErrorMessages
import PomToGradle.Proofs.TextPieces
import PomToGradle.Proofs.UndecodableData

/-!
What an offset in an error says. It is that of a token, and the tokens before it have been read
without an error. These tokens are what the text before the offset is cut into, whatever comes after
it; so that text alone is a document or lacks end tags, and no text that begins with it has an error at
a smaller offset.
-/
namespace PomToGradle

namespace Assembly

/-- All the ways in which a token can stop the reading. -/
inductive Stops (a : Assembly) : Token → ParseError → Prop where
  | undecodable (t : Token) : Stops a t (.undecodable a.charset)
  | badEscape {run : Bytes} {raw : String} {error : EscapeError} (read : a.decode run = .ok raw)
      (wrong : unescape raw = .error error) : Stops a (.text run) (.badEscape error)
  | invalidReference {raw : Bytes} {name : String} (read : a.decode raw = .ok name) :
      Stops a (.reference raw) (.invalidCharacterReference name)
  | unknownReference {raw : Bytes} {name : String} (read : a.decode raw = .ok name) :
      Stops a (.reference raw) (.unknownEntity name)
  | unmatched {content : Bytes} (closed : a.opened = []) :
      Stops a (.endTag content) (.unmatchedEndTag (a.shownName (endTagName content)) a.offset)
  | mismatched {content : Bytes} {innermost : OpenElement} {outer : List OpenElement}
      (opened : a.opened = innermost :: outer) (other : innermost.name ≠ endTagName content) :
      Stops a (.endTag content) (.mismatchedEndTag (a.shownName innermost.name)
        (a.shownName (endTagName content)) a.offset)

theorem eq_undecodable_of_decode {a : Assembly} {s : Bytes} {e : ParseError}
    (failed : a.decode s = .error e) : e = .undecodable a.charset := by
  unfold decode at failed
  split at failed
  · contradiction
  · exact (Except.error.inj failed).symm

theorem stops_of_resolve {a : Assembly} {raw : Bytes} {name : String} {e : ParseError}
    (read : a.decode raw = .ok name) (failed : resolve name = .error e) :
    Stops a (.reference raw) e := by
  unfold resolve at failed
  split at failed
  · split at failed
    · contradiction
    · obtain rfl := Except.error.inj failed
      exact .invalidReference read
  · split at failed
    · contradiction
    · obtain rfl := Except.error.inj failed
      exact .unknownReference read

theorem stops_of_step {a : Assembly} {t : Token} {e : ParseError} (failed : a.step t = .error e) :
    Stops a t e := by
  have failed : a.apply t = .error e := map_eq_error.mp failed
  cases t with
  | text run =>
    rcases bind_eq_error.mp (map_eq_error.mp failed) with unread | ⟨raw, read, rest⟩
    · rw [eq_undecodable_of_decode unread]
      exact .undecodable _
    · obtain ⟨error, wrong, rfl⟩ := mapError_eq_error.mp rest
      exact .badEscape read wrong
  | cdata content =>
    rw [eq_undecodable_of_decode (map_eq_error.mp failed)]
    exact .undecodable _
  | reference raw =>
    rcases bind_eq_error.mp failed with unread | ⟨name, read, rest⟩
    · rw [eq_undecodable_of_decode unread]
      exact .undecodable _
    · rcases bind_eq_error.mp rest with unresolved | ⟨text, _, done⟩
      · exact stops_of_resolve read unresolved
      · contradiction
  | endTag content =>
    simp only [apply, closeElement] at failed
    split at failed
    next closed =>
      obtain rfl := Except.error.inj failed
      exact .unmatched closed
    next innermost outer opened =>
      split at failed
      next => contradiction
      next other =>
        obtain rfl := Except.error.inj failed
        exact .mismatched opened other
  | _ => contradiction

/-- An error that stops the reading at a token is about this token. -/
theorem offset_of_stops {a : Assembly} {t : Token} {e : ParseError} {n : Nat} (stops : Stops a t e)
    (ends : e.EndsAt n) : n = a.offset := by
  rcases ParseError.offset?_of_endsAt ends with located | ⟨text, rfl⟩
  · cases stops with
    | unmatched closed => exact (Option.some.inj located).symm
    | mismatched opened other => exact (Option.some.inj located).symm
    | _ => contradiction
  · cases stops

theorem exists_stop_of_run {a : Assembly} {l : List Token} {e : ParseError}
    (failed : a.run l = .error e) :
    ∃ before t after b, l = before ++ t :: after ∧ a.run before = .ok b ∧ Stops b t e := by
  induction l generalizing a with
  | nil => contradiction
  | cons t l ih =>
    rw [run_cons] at failed
    rcases bind_eq_error.mp failed with first | ⟨next, first, rest⟩
    · exact ⟨[], t, l, a, rfl, rfl, stops_of_step first⟩
    · obtain ⟨before, u, after, b, rfl, front, stops⟩ := ih rest
      exact ⟨t :: before, u, after, b, rfl, by rw [run_cons, first]; exact front, stops⟩

/-- The offset counts the bytes that the tokens were spelled with. -/
theorem offset_of_run {a b : Assembly} {l : List Token} (done : a.run l = .ok b) :
    b.offset = a.offset + (Token.spellAll l).length := by
  induction l generalizing a with
  | nil =>
    obtain rfl := Except.ok.inj done
    rfl
  | cons t l ih =>
    rw [run_cons] at done
    obtain ⟨next, first, rest⟩ := bind_eq_ok.mp done
    obtain ⟨_, -, rfl⟩ := step_eq_ok_iff.mp first
    have whole : Token.spellAll (t :: l) = t.spell ++ Token.spellAll l := List.flatMap_cons
    rw [ih rest, whole, List.length_append, Token.length]
    exact Nat.add_assoc _ _ _

/-- An error with an offset comes after some of the tokens, which have been read up to it. -/
theorem exists_front_of_endsAt {a : Assembly} {lexed : Lexed} {e : ParseError} {n : Nat}
    (failed : a.ofLexed lexed = .error e) (ends : e.EndsAt n) :
    ∃ before after b, lexed.tokens = before ++ after ∧ a.run before = .ok b ∧ n = b.offset := by
  rcases bind_eq_error.mp failed with stopped | ⟨b, front, last⟩
  · obtain ⟨before, t, after, b, tokens, front, stops⟩ := exists_stop_of_run stopped
    exact ⟨before, t :: after, b, tokens, front, offset_of_stops stops ends⟩
  · refine ⟨lexed.tokens, [], b, (List.append_nil _).symm, front, ?_⟩
    split at last
    next fault _ =>
      obtain rfl := Except.error.inj last
      exact ParseError.offset_unique ends (ParseError.endsAt_of_offset? rfl)
    next =>
      unfold finish at last
      split at last
      next => contradiction
      next =>
        obtain rfl := Except.error.inj last
        rcases ParseError.offset?_of_endsAt ends with located | ⟨text, same⟩ <;> contradiction

theorem le_of_endsAt {a : Assembly} {lexed : Lexed} {e : ParseError} {n : Nat}
    (failed : a.ofLexed lexed = .error e) (ends : e.EndsAt n) : a.offset ≤ n := by
  obtain ⟨before, after, b, -, front, rfl⟩ := exists_front_of_endsAt failed ends
  rw [offset_of_run front]
  exact Nat.le_add_right _ _

end Assembly

namespace Lexer

theorem tokens_run_of_failed {l : Lexer} (failed : l.mode.isFailed = true) (s : Bytes) :
    (l.run s).tokens = l.tokens := by
  induction s generalizing l with
  | nil => rfl
  | cons b s ih =>
    have kept : (l.step b).tokens = l.tokens := by
      obtain ⟨mode, tokens⟩ := l
      cases mode with
      | failed fault => rfl
      | _ => contradiction
    exact (ih (l := l.step b) (Mode.isFailed_step failed b)).trans kept

/-- Whatever is wrong, the tokens spell what the document begins with. -/
theorem spellAll_tokens_run {l : Lexer} (sane : l.mode.isFailed = false) (s : Bytes) :
    Token.spellAll (l.run s).tokens.reverse <+: l.spelled ++ s := by
  induction s generalizing l with
  | nil => exact (List.prefix_append _ _).trans (List.prefix_append _ _)
  | cons b s ih =>
    cases after : (l.step b).mode.isFailed with
    | false =>
      have rest := ih after
      rw [spelled_step l b after, List.append_assoc] at rest
      exact rest
    | true =>
      have silent : (l.mode.step b).2 = none := by
        cases token : (l.mode.step b).2 with
        | none => rfl
        | some t =>
          have emits := Mode.emits_of_step token
          exact absurd (Mode.not_isFailed_of_emits emits) (by simpa [step] using after)
      have kept : (l.run (b :: s)).tokens = l.tokens := by
        rw [run_cons, tokens_run_of_failed after]
        simp [step, silent]
      rw [kept, spelled, List.append_assoc]
      exact List.prefix_append _ _

end Lexer

theorem Mode.close_of_fault {m : Mode} {fault : Fault} (closed : m.close.2 = some fault) :
    m.close.1 = none := by
  cases m with
  | text run => contradiction
  | tag quote content => cases quote <;> rfl
  | endTag quote content => cases quote <;> rfl
  | _ => rfl

namespace Lexed

theorem spellAll_tokens_prefix (s : Bytes) : Token.spellAll (ofBytes s).tokens <+: s := by
  cases complete : (ofBytes s).fault with
  | none => rw [spellAll_tokens complete]
  | some fault =>
    have none := Mode.close_of_fault complete
    have tokens : (ofBytes s).tokens = (Lexer.start.run s).tokens.reverse := by
      simp [ofBytes, Lexer.finish, none]
    rw [tokens]
    exact Lexer.spellAll_tokens_run rfl s

/-- What a token of a text is like: it is read again from its spelling, which is a text. -/
structure Lone (t : Token) : Prop where
  alone : ofBytes t.spell = ⟨[t], none⟩
  text : t.IsText

theorem lone_of_mem {s : Bytes} (text : Utf8.IsText s) {t : Token} (member : t ∈ (ofBytes s).tokens) :
    Lone t := by
  obtain ⟨inside, plain⟩ := tokens_of_text text t member
  obtain ⟨markup, run⟩ := recurs_of_mem member
  refine ⟨?_, inside⟩
  cases flat : t.isRun with
  | false => exact ofBytes_spell (markup flat)
  | true =>
    cases t with
    | text content => exact ofBytes_of_plain (run flat) (plain flat).1
    | _ => contradiction

end Lexed

namespace Assembly

/-- What tokens of a text spell is read as these tokens are. -/
theorem run_ofBytes_spellAll {l : List Token} (lone : ∀ t ∈ l, Lexed.Lone t) {w : List Char}
    (spelled : Utf8.encodeChars w = Token.spellAll l) {a : Assembly} (textual : a.Textual) :
    (Lexed.ofBytes (Utf8.encodeChars w)).fault = none ∧
      a.run (Lexed.ofBytes (Utf8.encodeChars w)).tokens = a.run l := by
  induction l generalizing a w with
  | nil =>
    obtain rfl : w = [] := Utf8.encodeChars_injective spelled
    exact ⟨rfl, rfl⟩
  | cons t l ih =>
    obtain ⟨first, others⟩ := List.forall_mem_cons.mp lone
    have whole : Token.spellAll (t :: l) = t.spell ++ Token.spellAll l := List.flatMap_cons
    obtain ⟨u, kept⟩ : Utf8.IsText t.spell := by
      simpa using Token.isText_spellAll (l := [t]) (by simpa using first.text)
    rw [whole, ← kept] at spelled
    obtain ⟨v, rfl, behind⟩ := Utf8.encodeChars_eq_append spelled
    have alone := first.alone
    rw [← kept] at alone
    obtain ⟨fault, tokens⟩ := run_ofBytes_append textual (u := u) (by rw [alone]) v
    refine ⟨fault.trans (ih others behind textual).1, ?_⟩
    have inTurn : a.run (t :: l) = a.run [t] >>= fun b => b.run l := run_append a [t] l
    rw [tokens, alone, inTurn]
    cases read : a.run [t] with
    | error e => rfl
    | ok b => exact (ih others behind (textual_of_run textual read)).2

/-- What follows a complete text is read from where that text has led. -/
theorem ofLexed_append {a b : Assembly} (textual : a.Textual) {u : List Char}
    (complete : (Lexed.ofBytes (Utf8.encodeChars u)).fault = none)
    (front : a.run (Lexed.ofBytes (Utf8.encodeChars u)).tokens = .ok b) (v : List Char) :
    a.ofLexed (Lexed.ofBytes (Utf8.encodeChars (u ++ v)))
      = b.ofLexed (Lexed.ofBytes (Utf8.encodeChars v)) := by
  obtain ⟨fault, tokens⟩ := run_ofBytes_append textual complete v
  rw [ofLexed, ofLexed, tokens, front, fault]
  rfl

theorem finish_cases (a : Assembly) :
    (∃ f, a.finish = .ok f) ∨ ∃ name, a.finish = .error (.unclosedElement name) := by
  unfold finish
  split
  · exact Or.inl ⟨_, rfl⟩
  · exact Or.inr ⟨_, rfl⟩

end Assembly

namespace Document

theorem parse_of_unmarked {s : String} (unmarked : s.toList.head? ≠ some '\uFEFF') :
    parse s = ((Assembly.start .utf8 true).ofLexed (Lexed.ofBytes (Utf8.encode s))).map mk := by
  rw [parse, lexed_eq, input_of_unmarked unmarked]
  rfl

/-- The text is read to its end, and this is what it has led to. -/
structure Leads (u : List Char) (a : Assembly) : Prop where
  complete : (Lexed.ofBytes (Utf8.encodeChars u)).fault = none
  read : (Assembly.start .utf8 true).run (Lexed.ofBytes (Utf8.encodeChars u)).tokens = .ok a

section Leads

variable {s t : String} {u w : List Char} {a : Assembly} {e : ParseError} {n : Nat}

theorem offset_of_leads (leads : Leads u a) : a.offset = (Utf8.encodeChars u).length := by
  have counted := Assembly.offset_of_run leads.read
  rw [Lexed.spellAll_tokens leads.complete] at counted
  exact counted.trans (Nat.zero_add _)

/-- A text that begins with a complete one goes on where that one has led. -/
theorem parse_of_leads (leads : Leads u a) (unmarked : (u ++ w).head? ≠ some '\uFEFF') :
    parse (String.ofList (u ++ w)) = (a.ofLexed (Lexed.ofBytes (Utf8.encodeChars w))).map mk := by
  rw [parse_of_unmarked (by simpa using unmarked), Utf8.encode, String.toList_ofList,
    Assembly.ofLexed_append Assembly.textual_start leads.complete leads.read]

/-- The characters in front of an error with an offset are read to their end. -/
theorem exists_leads_of_endsAt (unmarked : s.toList.head? ≠ some '\uFEFF')
    (failed : parse s = .error e) (ends : e.EndsAt n) :
    ∃ u v a, s.toList = u ++ v ∧ Leads u a ∧ a.offset = n := by
  rw [parse_of_unmarked unmarked] at failed
  obtain ⟨before, after, a, tokens, front, rfl⟩ :=
    Assembly.exists_front_of_endsAt (map_eq_error.mp failed) ends
  have text : Utf8.IsText (Utf8.encode s) := Utf8.isText_encodeChars s.toList
  have lone : ∀ t ∈ before, Lexed.Lone t := fun t member =>
    Lexed.lone_of_mem text (by rw [tokens]; exact List.mem_append_left _ member)
  obtain ⟨u, spelled⟩ := Token.isText_spellAll fun t member => (lone t member).text
  have begins : Token.spellAll before <+: Utf8.encode s := by
    have whole := Lexed.spellAll_tokens_prefix (Utf8.encode s)
    rw [tokens, Token.spellAll_append] at whole
    exact (List.prefix_append _ _).trans whole
  obtain ⟨rest, cut⟩ := begins
  rw [← spelled] at cut
  obtain ⟨v, split, -⟩ := Utf8.encodeChars_eq_append cut.symm
  obtain ⟨complete, read⟩ := Assembly.run_ofBytes_spellAll lone spelled Assembly.textual_start
  exact ⟨u, v, a, split, ⟨complete, read.trans front⟩, rfl⟩

theorem sound_of_leads (leads : Leads u a) (unmarked : u.head? ≠ some '\uFEFF') :
    (∃ d, parse (String.ofList u) = .ok d) ∨
      ∃ name, parse (String.ofList u) = .error (.unclosedElement name) := by
  have alone := parse_of_leads (w := []) leads (by simpa using unmarked)
  rw [List.append_nil] at alone
  rw [alone]
  rcases a.finish_cases with ⟨f, finished⟩ | ⟨name, finished⟩
  · exact Or.inl ⟨⟨f⟩, congrArg (Except.map mk) finished⟩
  · exact Or.inr ⟨name, congrArg (Except.map mk) finished⟩

/-- No text that begins with a complete one has an error inside it. -/
theorem offset_le_of_leads (leads : Leads u a) (unmarked : u.head? ≠ some '\uFEFF')
    (begins : Utf8.encodeChars u <+: Utf8.encode t) (failed : parse t = .error e)
    (ends : e.EndsAt n) : a.offset ≤ n := by
  cases u with
  | nil =>
    -- what follows nothing may be a mark, but no offset is smaller than this one
    rw [offset_of_leads leads]
    exact Nat.zero_le n
  | cons c u =>
    obtain ⟨rest, cut⟩ := begins
    obtain ⟨w, same, -⟩ := Utf8.encodeChars_eq_append cut.symm
    have going := parse_of_leads (w := w) leads (by simpa using unmarked)
    rw [← same, String.ofList_toList, failed] at going
    exact Assembly.le_of_endsAt (map_eq_error.mp going.symm) ends

end Leads

/-- The text in front of the offset of an error has nothing wrong with it but that end tags may be
    missing, and in no text that begins with it does an error come earlier. -/
theorem parse_sound_before_offset {s : String} {e : ParseError} {n : Nat}
    (unmarked : s.toList.head? ≠ some '\uFEFF') (failed : parse s = .error e) (ends : e.EndsAt n) :
    ∃ front rest : String, s = front ++ rest ∧ (Utf8.encode front).length = n ∧
      ((∃ d, parse front = .ok d) ∨ ∃ name, parse front = .error (.unclosedElement name)) ∧
      ∀ t : String, Utf8.encode front <+: Utf8.encode t →
        ∀ e' m, parse t = .error e' → e'.EndsAt m → n ≤ m := by
  obtain ⟨u, v, a, split, leads, rfl⟩ := exists_leads_of_endsAt unmarked failed ends
  have whole : s = String.ofList u ++ String.ofList v := by
    rw [← String.ofList_append, ← split, String.ofList_toList]
  have spelled : Utf8.encode (String.ofList u) = Utf8.encodeChars u := by
    rw [Utf8.encode, String.toList_ofList]
  have bare : u.head? ≠ some '\uFEFF' := by
    intro mark
    rw [split, List.head?_append, mark] at unmarked
    exact unmarked rfl
  refine ⟨String.ofList u, String.ofList v, whole, ?_, sound_of_leads leads bare, ?_⟩
  · rw [spelled, offset_of_leads leads]
  · intro t begins e' m failed' ends'
    rw [spelled] at begins
    exact offset_le_of_leads leads bare begins failed' ends'

/-- The end tag that does not match stands behind a character of two bytes. -/
theorem parse_sound_before_offset_mismatch :
    "<a>é</b>".toList.head? ≠ some '\uFEFF' ∧
    parse "<a>é</b>" = .error (.mismatchedEndTag "a" "b" 5) ∧
    (ParseError.mismatchedEndTag "a" "b" 5).EndsAt 5 ∧
    ∃ front rest : String, "<a>é</b>" = front ++ rest ∧ (Utf8.encode front).length = 5 ∧
      ((∃ d, parse front = .ok d) ∨ ∃ name, parse front = .error (.unclosedElement name)) ∧
      ∀ t : String, Utf8.encode front <+: Utf8.encode t →
        ∀ e' m, parse t = .error e' → e'.EndsAt m → 5 ≤ m := by
  have failed : parse "<a>é</b>" = .error (.mismatchedEndTag "a" "b" 5) := by cbv
  have ends : (ParseError.mismatchedEndTag "a" "b" 5).EndsAt 5 :=
    ParseError.endsAt_of_offset? rfl
  exact ⟨by decide, failed, ends, parse_sound_before_offset (by decide) failed ends⟩

end Document

end PomToGradle
