import Mathlib
import PomToGradle.Proofs.TokenEffects
import PomToGradle.Proofs.TokenRecurrence

/-!
Pieces of a text. A piece whose markup is complete does the same to the tree wherever it is read, and
what two such pieces do one after the other is what they do together. So a piece may be replaced by
another one that does the same, and the document stays what it was, by `Document.parse_of_replaces`.
-/
namespace PomToGradle

/-- No construct is left open at the end of the text. -/
def Complete (w : List Char) : Prop := (Lexed.ofBytes (Utf8.encodeChars w)).fault = none

/-- The text is complete and does this wherever it is read. -/
structure Acts (w : List Char) (f : Site → Option Site) : Prop where
  complete : (Lexed.ofBytes (Utf8.encodeChars w)).fault = none
  reads : ∀ s : Site, s.read .utf8 (Lexed.ofBytes (Utf8.encodeChars w)).tokens = f s

/-- A site as a tree under way, in a text. -/
def Site.assembly (s : Site) : Assembly := ⟨0, .utf8, true, s.level, s.opened⟩

theorem Site.read_eq (s : Site) (l : List Token) :
    s.read .utf8 l = (s.assembly.run l).toOption.map Assembly.site :=
  (Assembly.site_run (a := s.assembly) (Or.inl rfl)).symm

theorem ofBytes_enclosed {opening content closing : List Char} {begun filled : Mode} {t : Token}
    (opens : Lexer.start.run (Utf8.encodeChars opening) = ⟨begun, []⟩)
    (fills : (Lexer.mk begun []).run (Utf8.encodeChars content) = ⟨filled, []⟩)
    (closes : (Lexer.mk filled []).run (Utf8.encodeChars closing) = ⟨Mode.start, [t]⟩) :
    Lexed.ofBytes (Utf8.encodeChars (opening ++ content ++ closing)) = ⟨[t], none⟩ := by
  rw [Lexed.ofBytes, Utf8.encodeChars_append, Utf8.encodeChars_append, Lexer.run_append,
    Lexer.run_append, opens, fills, closes]
  rfl

theorem acts_nil : Acts [] some := ⟨rfl, fun _ => rfl⟩

theorem acts_of_complete {w : List Char} (complete : Complete w) :
    Acts w fun s => s.read .utf8 (Lexed.ofBytes (Utf8.encodeChars w)).tokens :=
  ⟨complete, fun _ => rfl⟩

theorem acts_token {w : List Char} {t : Token}
    (token : Lexed.ofBytes (Utf8.encodeChars w) = ⟨[t], none⟩) :
    Acts w fun s => (t.effect? .utf8).bind s.take := by
  refine ⟨by rw [token], fun s => ?_⟩
  rw [token, Site.read_cons]
  exact Option.bind_fun_some _

theorem acts_append {u v : List Char} {f g : Site → Option Site} (first : Acts u f)
    (second : Acts v g) : Acts (u ++ v) fun s => (f s).bind g := by
  have joined (s : Site) := Assembly.run_ofBytes_append (a := s.assembly) ⟨rfl, rfl⟩ first.complete v
  refine ⟨(joined Site.top).1.trans second.complete, fun s => ?_⟩
  rw [Site.read_eq, (joined s).2, ← first.reads, Site.read_eq]
  cases ran : s.assembly.run (Lexed.ofBytes (Utf8.encodeChars u)).tokens with
  | error e => rfl
  | ok b =>
    obtain ⟨utf8, settled⟩ : b.Textual := Assembly.textual_of_run ⟨rfl, rfl⟩ ran
    have rest := Assembly.site_run (a := b) (l := (Lexed.ofBytes (Utf8.encodeChars v)).tokens)
      (Or.inl settled)
    rw [utf8, second.reads] at rest
    exact rest

/-- The two texts do the same, and the second one begins with a delimiter unless it begins as the
    first one does. -/
structure Replaces (v w : List Char) : Prop where
  same : ∃ f, Acts v f ∧ Acts w f
  begins : w.head? = v.head? ∨ ∃ c, w.head? = some c ∧ ¬ IsPlainChar c

theorem replaces_refl {w : List Char} (complete : Complete w) : Replaces w w :=
  ⟨⟨_, acts_of_complete complete, acts_of_complete complete⟩, Or.inl rfl⟩

theorem replaces_append {v w v' w' : List Char} (first : Replaces v w) (second : Replaces v' w') :
    Replaces (v ++ v') (w ++ w') := by
  obtain ⟨f, left, right⟩ := first.same
  obtain ⟨g, left', right'⟩ := second.same
  refine ⟨⟨_, acts_append left left', acts_append right right'⟩, ?_⟩
  simp only [List.head?_append]
  rcases first.begins with same | ⟨c, head, delimiter⟩
  · rcases second.begins with same' | ⟨c, head, delimiter⟩
    · exact Or.inl (by rw [same, same'])
    · cases begun : w.head? with
      | none => exact Or.inr ⟨c, by simp [head], delimiter⟩
      | some d => exact Or.inl (by rw [← same, begun]; rfl)
  · exact Or.inr ⟨c, by rw [head]; rfl, delimiter⟩

/-- Each character of a run may be replaced on its own. -/
theorem replaces_characters {spells : Char → List Char → Prop} {run : List Char}
    {pieces : List (List Char)} (spelled : List.Forall₂ spells run pieces)
    (each : ∀ c ∈ run, ∀ piece, spells c piece → Replaces [c] piece) :
    Replaces run pieces.flatten := by
  induction spelled with
  | nil => exact replaces_refl rfl
  | @cons c piece run pieces first _ ih =>
    have others := ih fun d member => each d (List.mem_cons_of_mem c member)
    exact replaces_append (each c List.mem_cons_self piece first) others

/-- The first token of a text is replaced, and then the others. -/
theorem replaces_token {t : Token} {l : List Token} {v original piece w : List Char}
    (spelled : Utf8.encodeChars v = Token.spellAll (t :: l))
    (kept : Utf8.encodeChars original = t.spell) (first : Replaces original piece)
    (others : ∀ rest, Utf8.encodeChars rest = Token.spellAll l → Replaces rest w) :
    Replaces v (piece ++ w) := by
  have whole : Utf8.encodeChars v = Utf8.encodeChars original ++ Token.spellAll l := by
    rw [spelled, kept]
    exact List.flatMap_cons
  obtain ⟨rest, rfl, behind⟩ := Utf8.encodeChars_eq_append whole
  exact replaces_append first (others rest behind)

/-- What the tokens of a text have in common. -/
structure Token.Settled (t : Token) : Prop where
  markup : t.isRun = false → t.Recurs
  run : t.isRun = true → ∀ b ∈ t.content, IsPlainByte b

theorem complete_of_plain {run : List Char} (plain : ∀ c ∈ run, IsPlainChar c) : Complete run := by
  cases run with
  | nil => rfl
  | cons c run =>
    have some : Utf8.encodeChars (c :: run) ≠ [] := by
      simp [Utf8.encodeChars_cons, String.utf8EncodeChar_ne_nil]
    rw [Complete, Lexed.ofBytes_of_plain (forall_isPlainByte_iff.mpr plain) some]

theorem complete_of_settled {t : Token} {w : List Char} (settled : t.Settled)
    (flat : t.isRun = false) (kept : Utf8.encodeChars w = t.spell) : Complete w := by
  rw [Complete, kept, Lexed.ofBytes_spell (settled.markup flat)]

theorem decode?_encodeChars (l : List Char) :
    Charset.utf8.decode? (Utf8.encodeChars l) = some (String.ofList l) := by
  have read := Utf8.decode?_encode (String.ofList l)
  rwa [Utf8.encode, String.toList_ofList] at read

namespace Document

theorem input_mark (l : List Char) :
    input (String.ofList ('\uFEFF' :: l)) = dropMark (String.ofList l) := by
  rw [input, dropMark_mark]

/-- The marks that are dropped in front of a text are dropped in front of another one as well. -/
theorem input_of_marks {s s' : String} {marks w : List Char} (whole : s.toList = marks ++ input s)
    (whole' : s'.toList = marks ++ w)
    (begins : w.head? = some '\uFEFF' → (input s).head? = some '\uFEFF') : input s' = w := by
  obtain rfl : s' = String.ofList (marks ++ w) := by rw [← whole', String.ofList_toList]
  by_cases unmarked : s.toList.head? ≠ some '\uFEFF'
  · rw [input_of_unmarked unmarked] at whole begins
    obtain rfl : marks = [] := List.self_eq_append_left.mp whole
    rw [List.nil_append, input_of_unmarked (by simpa using mt begins unmarked),
      String.toList_ofList]
  obtain ⟨rest, marked⟩ : ∃ rest, s.toList = '\uFEFF' :: rest :=
    List.head?_eq_some_iff.mp (not_not.mp unmarked)
  obtain rfl : s = String.ofList ('\uFEFF' :: rest) := by rw [← marked, String.ofList_toList]
  rw [String.toList_ofList, input_mark] at whole
  rw [input_mark] at begins
  by_cases once : rest.head? ≠ some '\uFEFF'
  · rw [dropMark_of_unmarked once] at whole begins
    obtain rfl : marks = ['\uFEFF'] :=
      List.append_cancel_right (show marks ++ rest = ['\uFEFF'] ++ rest from whole.symm)
    rw [List.singleton_append, input_mark, dropMark_of_unmarked (mt begins once)]
  obtain ⟨more, rfl⟩ : ∃ more, rest = '\uFEFF' :: more :=
    List.head?_eq_some_iff.mp (not_not.mp once)
  rw [dropMark_mark] at whole
  obtain rfl : marks = ['\uFEFF', '\uFEFF'] :=
    List.append_cancel_right (show marks ++ more = ['\uFEFF', '\uFEFF'] ++ more from whole.symm)
  exact (input_mark _).trans (dropMark_mark w)

theorem settled_lexed (s : String) : ∀ t ∈ (lexed s).tokens, t.Settled := by
  intro t member
  rw [lexed_eq] at member
  obtain ⟨markup, run⟩ := Lexed.recurs_of_mem member
  exact ⟨markup, run⟩

theorem spellAll_lexed {s : String} (complete : (lexed s).fault = none) :
    Utf8.encodeChars (input s) = Token.spellAll (lexed s).tokens := by
  rw [lexed_eq] at complete ⊢
  exact (Lexed.spellAll_tokens complete).symm

/-- A text that is rewritten behind its marks into one that does the same is the same document. -/
theorem parse_of_replaces {s s' : String} {marks w : List Char} {d : Document}
    (whole : s.toList = marks ++ input s) (whole' : s'.toList = marks ++ w)
    (replaces : Replaces (input s) w) (read : parse s = .ok d) : parse s' = .ok d := by
  obtain ⟨⟨f, before, after⟩, begins⟩ := replaces
  have same : input s' = w := by
    refine input_of_marks whole whole' fun head => ?_
    rcases begins with alike | ⟨c, first, delimiter⟩
    · rw [← alike, head]
    · obtain rfl := Option.some.inj (first.symm.trans head)
      exact absurd ⟨by decide, by decide⟩ delimiter
  rw [← toOption_eq_some_iff, toOption_parse, lexed_eq, Lexed.document?] at read ⊢
  rwa [same, after.complete, after.reads, ← before.complete, ← before.reads]

end Document

end PomToGradle
