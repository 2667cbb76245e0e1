import Mathlib
import PomToGradle.Proofs.TextPieces

/-!
Tags may be spelled in many ways. A tag enters or leaves the element that its full name names, whatever
attributes and white space stand behind the name, and of the full name the tree keeps the local part
only. What stands inside an element does not see the name it has to be closed with, so both its tags
may take another prefix together; an element with nothing inside may be one tag or two.
-/
namespace PomToGradle

def startTagText (heading : List Char) : List Char := '<' :: (heading ++ ['>'])

def emptyTagText (heading : List Char) : List Char := '<' :: (heading ++ ['/', '>'])

def endTagText (name : List Char) : List Char := '<' :: '/' :: (name ++ ['>'])

/-- The spellings of an element of that name with nothing inside. -/
inductive Childless (name : String) : List Char → Prop where
  | empty {full heading : List Char} (named : FullName name full) (headed : Heading full heading) :
      Childless name (emptyTagText heading)
  | pair {full heading blanks : List Char} (named : FullName name full)
      (headed : Heading full heading) (space : ∀ c ∈ blanks, isBlankChar c = true) :
      Childless name (startTagText heading ++ endTagText (full ++ blanks))

/-- The text with any of its tags spelled in another way. A start tag may have other attributes and
    other white space, an end tag other white space, both tags of an element another prefix as well;
    for an element with nothing inside any spelling may stand. -/
inductive Restyles : List Char → List Char → Prop where
  | nil : Restyles [] []
  | kept {part v w : List Char} (complete : Complete part) (rest : Restyles v w) :
      Restyles (part ++ v) (part ++ w)
  | startTag {name : String} {full old new v w : List Char} (named : FullName name full)
      (before : Heading full old) (after : Heading full new) (rest : Restyles v w) :
      Restyles (startTagText old ++ v) (startTagText new ++ w)
  | endTag {name : String} {full old new v w : List Char} (named : FullName name full)
      (before : ∀ c ∈ old, isBlankChar c = true) (after : ∀ c ∈ new, isBlankChar c = true)
      (rest : Restyles v w) :
      Restyles (endTagText (full ++ old) ++ v) (endTagText (full ++ new) ++ w)
  | childless {name : String} {old new v w : List Char} (before : Childless name old)
      (after : Childless name new) (rest : Restyles v w) : Restyles (old ++ v) (new ++ w)
  | element {name : String} {full full' heading heading' blanks blanks' u u' v w : List Char}
      (named : FullName name full) (headed : Heading full heading)
      (space : ∀ c ∈ blanks, isBlankChar c = true) (named' : FullName name full')
      (headed' : Heading full' heading') (space' : ∀ c ∈ blanks', isBlankChar c = true)
      (inside : Restyles u u') (balanced : Balanced (Lexed.ofBytes (Utf8.encodeChars u)).tokens)
      (rest : Restyles v w) :
      Restyles (startTagText heading ++ (u ++ endTagText (full ++ blanks)) ++ v)
        (startTagText heading' ++ (u' ++ endTagText (full' ++ blanks')) ++ w)

theorem acts_tag {rest : List Char} {t : Token}
    (closed : (Lexer.mk .opened []).run (Utf8.encodeChars rest) = ⟨Mode.start, [t]⟩) :
    Acts ('<' :: rest) fun s => (t.effect? .utf8).bind s.take := by
  apply acts_token
  have spelled : Utf8.encodeChars ('<' :: rest) = ascii '<' :: Utf8.encodeChars rest := by
    rw [Utf8.encodeChars_cons]
    rfl
  rw [Lexed.ofBytes, spelled, Lexer.run_cons,
    show Lexer.start.step (ascii '<') = ⟨.opened, []⟩ from rfl, closed]
  rfl

section Tags

variable {name : String} {full heading blanks : List Char}

theorem acts_startTag (named : FullName name full) (headed : Heading full heading) :
    Acts (startTagText heading) fun s => s.take (.enter (Utf8.encodeChars full)) := by
  have closed : (Lexer.mk .opened []).run (Utf8.encodeChars (heading ++ ['>']))
      = ⟨Mode.start, [.startTag (Utf8.encodeChars heading)]⟩ := by
    rw [Utf8.encodeChars_append]
    exact Lexer.run_startTag named headed []
  have acts := acts_tag closed
  rwa [Token.effect?, tagName_heading named headed] at acts

theorem acts_emptyTag (named : FullName name full) (headed : Heading full heading) :
    Acts (emptyTagText heading) fun s => s.take (.leaf (Utf8.encodeChars full)) := by
  have closed : (Lexer.mk .opened []).run (Utf8.encodeChars (heading ++ ['/', '>']))
      = ⟨Mode.start, [.emptyTag (Utf8.encodeChars heading)]⟩ := by
    rw [Utf8.encodeChars_append]
    exact Lexer.run_emptyTag named headed []
  have acts := acts_tag closed
  rwa [Token.effect?, tagName_heading named headed] at acts

theorem acts_endTag (named : FullName name full) (space : ∀ c ∈ blanks, isBlankChar c = true) :
    Acts (endTagText (full ++ blanks)) fun s => s.take (.leave (Utf8.encodeChars full)) := by
  have closed : (Lexer.mk .opened []).run (Utf8.encodeChars ('/' :: (full ++ blanks ++ ['>'])))
      = ⟨Mode.start, [.endTag (Utf8.encodeChars (full ++ blanks))]⟩ := by
    rw [Utf8.encodeChars_cons, Utf8.encodeChars_append]
    exact Lexer.run_endTag named space []
  have acts := acts_tag closed
  rwa [Token.effect?, endTagName_fullName named space] at acts

theorem elementName_fullName (named : FullName name full) :
    elementName (Utf8.encodeChars full) = name := by
  rw [elementName_encodeChars, localName_fullName named]

end Tags

/-- A token that is no start tag and no end tag changes the level it stands on and nothing else. -/
theorem Token.exists_level_of_flat {t : Token} (flat : t.isTag = false) (charset : Charset) :
    ∃ change : Forest → Option Forest, ∀ s : Site,
      (t.effect? charset).bind s.take = (change s.level).map fun level => { s with level } := by
  cases t with
  | text run =>
    refine ⟨fun f => (charset.readText? run).map f.pushText, fun s => ?_⟩
    rw [effect?]
    cases charset.readText? run <;> rfl
  | cdata content =>
    refine ⟨fun f => (charset.decode? content).map f.pushText, fun s => ?_⟩
    rw [effect?]
    cases charset.decode? content <;> rfl
  | reference name =>
    refine ⟨fun f => ((charset.decode? name).bind fun shown =>
      (Assembly.resolve shown).toOption).map f.pushText, fun s => ?_⟩
    rw [effect?]
    cases charset.decode? name with
    | none => rfl
    | some shown =>
      simp only [Option.bind_some]
      cases Assembly.resolve shown <;> rfl
  | emptyTag content =>
    exact ⟨fun f => some (.element (elementName (tagName content)) .nil f), fun _ => rfl⟩
  | comment content => exact ⟨some, fun _ => rfl⟩
  | doctype keyword content => exact ⟨some, fun _ => rfl⟩
  | instruction content => exact ⟨some, fun _ => rfl⟩
  | startTag content => contradiction
  | endTag content => contradiction

/-- A balanced word changes the level it stands on and does not see the elements that are open. -/
theorem Site.exists_level_of_balanced {l : List Token} (balanced : Balanced l) (charset : Charset) :
    ∃ change : Forest → Option Forest, ∀ s : Site,
      s.read charset l = (change s.level).map fun level => { s with level } := by
  induction balanced with
  | nil => exact ⟨some, fun _ => rfl⟩
  | @skip t rest flat _ ih =>
    obtain ⟨first, here⟩ := Token.exists_level_of_flat flat charset
    obtain ⟨later, behind⟩ := ih
    refine ⟨fun f => (first f).bind later, fun s => ?_⟩
    rw [read_cons, here]
    simp only
    cases first s.level with
    | none => rfl
    | some level =>
      rw [Option.map_some, Option.bind_some, Option.bind_some]
      exact behind { s with level }
  | @pair content content' inner rest partners _ _ ih ih' =>
    obtain ⟨within, inside⟩ := ih
    obtain ⟨later, behind⟩ := ih'
    refine ⟨fun f => (within .nil).bind fun children =>
      later (.element (elementName (tagName content)) children.reverse f), fun s => ?_⟩
    have entered : ((Token.startTag content).effect? charset).bind s.take
        = some ⟨.nil, ⟨tagName content, s.level⟩ :: s.opened⟩ := rfl
    rw [read_cons, entered, Option.bind_some, read_append, inside]
    cases within .nil with
    | none => rfl
    | some children =>
      have left : ((Token.endTag content').effect? charset).bind
            (Site.mk children (⟨tagName content, s.level⟩ :: s.opened)).take
          = some { s with
              level := .element (elementName (tagName content)) children.reverse s.level } := by
        simp [Token.effect?, take, partners]
      rw [Option.map_some, Option.bind_some, read_cons, left, Option.bind_some, behind]
      rfl

theorem acts_childless {name : String} {x : List Char} (childless : Childless name x) :
    Acts x fun s => some { s with level := .element name .nil s.level } := by
  cases childless with
  | empty named headed =>
    have acts := acts_emptyTag named headed
    simpa only [Site.take, elementName_fullName named] using acts
  | pair named headed space =>
    have acts := acts_append (acts_startTag named headed) (acts_endTag named space)
    simpa [Site.take, elementName_fullName named, Forest.reverse, Forest.reverseOnto] using acts

/-- What stands inside an element becomes its children, whatever its full name is. -/
theorem acts_element {name : String} {full heading blanks u : List Char} {f : Site → Option Site}
    {change : Forest → Option Forest} (named : FullName name full) (headed : Heading full heading)
    (space : ∀ c ∈ blanks, isBlankChar c = true) (inside : Acts u f)
    (level : ∀ s, f s = (change s.level).map fun level => { s with level }) :
    Acts (startTagText heading ++ (u ++ endTagText (full ++ blanks))) fun s =>
      (change .nil).map fun children =>
        { s with level := .element name children.reverse s.level } := by
  have acts := acts_append (acts_startTag named headed) (acts_append inside (acts_endTag named space))
  refine ⟨acts.complete, fun s => (acts.reads s).trans ?_⟩
  simp only [Site.take, Option.bind_some, level]
  cases change .nil with
  | none => rfl
  | some children => simp [elementName_fullName named]

theorem head?_childless {name : String} {x : List Char} (childless : Childless name x) :
    x.head? = some '<' := by
  cases childless <;> rfl

theorem replaces_of_restyles {v w : List Char} (restyles : Restyles v w) : Replaces v w := by
  induction restyles with
  | nil => exact replaces_refl rfl
  | kept complete _ ih => exact replaces_append (replaces_refl complete) ih
  | startTag named before after _ ih =>
    exact replaces_append ⟨⟨_, acts_startTag named before, acts_startTag named after⟩, Or.inl rfl⟩ ih
  | endTag named before after _ ih =>
    exact replaces_append ⟨⟨_, acts_endTag named before, acts_endTag named after⟩, Or.inl rfl⟩ ih
  | childless before after _ ih =>
    have alike := (head?_childless after).trans (head?_childless before).symm
    exact replaces_append ⟨⟨_, acts_childless before, acts_childless after⟩, Or.inl alike⟩ ih
  | element named headed space named' headed' space' _ balanced _ within behind =>
    obtain ⟨f, before, after⟩ := within.same
    obtain ⟨change, level⟩ := Site.exists_level_of_balanced balanced .utf8
    have shared (s : Site) : f s = (change s.level).map fun level => { s with level } :=
      (before.reads s).symm.trans (level s)
    have first := acts_element named headed space before shared
    have second := acts_element named' headed' space' after shared
    exact replaces_append ⟨⟨_, first, second⟩, Or.inl rfl⟩ behind

namespace Document

/-- The same text in front, which is not part of the document, and then the text with other tags. -/
def Restyled (s s' : String) : Prop :=
  ∃ marks w, s.toList = marks ++ input s ∧ s'.toList = marks ++ w ∧ Restyles (input s) w

theorem restyled_of_unmarked {s s' : String} {v w : List Char}
    (unmarked : s.toList.head? ≠ some '\uFEFF') (before : s.toList = v) (after : s'.toList = w)
    (restyles : Restyles v w) : Restyled s s' := by
  rw [← before, ← input_of_unmarked unmarked] at restyles
  exact ⟨[], w, (input_of_unmarked unmarked).symm, after, restyles⟩

/-- The spelling of tags does not matter: with prefixes, attributes and white space put into any of
    them or taken out, and with elements that have nothing inside spelled as one tag or as two, a text
    is the same document, and the same is extracted from it and written. -/
theorem parse_restyled {s s' : String} {d : Document} (restyled : Restyled s s')
    (read : parse s = .ok d) : parse s' = .ok d ∧ (Source.text s').Agree (.text s) := by
  obtain ⟨marks, w, whole, whole', restyles⟩ := restyled
  have again := parse_of_replaces whole whole' (replaces_of_restyles restyles) read
  exact ⟨again, Source.agree_of_parse (again.trans read.symm)⟩

/-- A prefix on both tags of an element and an attribute with a whole tag in its value, white space in
    an end tag, one tag that becomes two, and two that become one. -/
theorem parse_restyled_tags :
    Restyled "<a>x<n/><m></m></a>" "<p:a k=\"></b\">x<n\t></n ><q:m/></p:a\n>" ∧
      parse "<a>x<n/><m></m></a>"
        = .ok ⟨.element "a" (.text "x" (.element "n" .nil (.element "m" .nil .nil))) .nil⟩ ∧
      parse "<p:a k=\"></b\">x<n\t></n ><q:m/></p:a\n>"
        = .ok ⟨.element "a" (.text "x" (.element "n" .nil (.element "m" .nil .nil))) .nil⟩ := by
  have letter {name : String} (c : Char) (spelled : name.toList = [c])
      (start : isNameStart c = true) : IsName name := ⟨c, [], spelled, start, by simp⟩
  have a : IsName "a" := letter 'a' rfl (by decide)
  have p : IsName "p" := letter 'p' rfl (by decide)
  have n : FullName "n" "n".toList := .bare (letter 'n' rfl (by decide))
  have m : IsName "m" := letter 'm' rfl (by decide)
  have q : IsName "q" := letter 'q' rfl (by decide)
  have bare : ∀ c ∈ ([] : List Char), isBlankChar c = true := by simp
  have space (c : Char) (blank : isBlankChar c = true) : ∀ d ∈ [c], isBlankChar d = true := by
    simpa using blank
  have solid : ∀ c ∈ ['k', '='], IsSolid c := by
    have letters : ∀ c ∈ ['k', '='], c ≠ '>' ∧ c ≠ '\x27' ∧ c ≠ '"' := by simp
    intro c member
    obtain ⟨angle, single, double⟩ := letters c member
    exact ⟨angle, by rintro (_ | _) <;> assumption⟩
  have valued := @IsAttribute.quoted ' ' _ ['>', '<', '/', 'b'] .double rfl solid
    (by simp [quoteChar])
  have heading := @Heading.mk ("p".toList ++ ':' :: "a".toList) _ _
    (List.forall_mem_singleton.mpr valued) bare
  have tabbed := @Heading.mk "n".toList [] _ (by simp) (space '\t' rfl)
  have two := Childless.pair n tabbed (space ' ' rfl)
  have pair := Childless.pair (.bare m) (heading_self _) bare
  have one := Childless.empty (.qualified q m) (heading_self _)
  have inside := @Restyles.kept ['x'] _ _ rfl
    (.childless (.empty n (heading_self _)) two (.childless pair one .nil))
  have restyles := Restyles.element (.bare a) (heading_self _) bare
    (.qualified p a) heading (space '\n' rfl) inside
    (balanced_iff.mpr (by decide +kernel)) .nil
  have restyled : Restyled "<a>x<n/><m></m></a>" "<p:a k=\"></b\">x<n\t></n ><q:m/></p:a\n>" :=
    restyled_of_unmarked (by decide +kernel) (by decide +kernel) (by decide +kernel) restyles
  have read : parse "<a>x<n/><m></m></a>"
      = .ok ⟨.element "a" (.text "x" (.element "n" .nil (.element "m" .nil .nil))) .nil⟩ := by
    cbv
  exact ⟨restyled, read, (parse_restyled restyled read).1⟩

end Document

end PomToGradle
