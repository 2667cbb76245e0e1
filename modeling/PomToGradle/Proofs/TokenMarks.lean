import PomToGradle.Proofs.OrderedCollection
import PomToGradle.Proofs.TokenText
import PomToGradle.Proofs.TreeWalk
import PomToGradle.Tree.Assembly

/-!
What a walk through a tree meets at each token. A token of a text shows one thing only, by
`Token.shows_unique`, and the names in its tags are texts, so that none of them is read with losses.
-/
namespace PomToGradle

/-- The part of a name behind its first colon, or all of it if it has none. -/
def localName (name : List Char) : String :=
  match name.dropWhile (· != ':') with
  | [] => String.ofList name
  | _ :: rest => String.ofList rest

/-- The reference has a meaning. -/
def Resolves (name : Bytes) : Prop :=
  ∃ shown content, Utf8.encode shown = name ∧ Assembly.resolve shown = .ok content

/-- What a walk through the tree meets at a token of a text. A run of text holds no `&`, so its
    characters stand for themselves. -/
inductive Token.Shows : Token → List Mark → Prop where
  | text {run : List Char} (plain : '&' ∉ run) :
      Shows (.text (Utf8.encodeChars run)) (marksOf run)
  | cdata (content : List Char) : Shows (.cdata (Utf8.encodeChars content)) (marksOf content)
  | reference {name content : String} (resolved : Assembly.resolve name = .ok content) :
      Shows (.reference (Utf8.encode name)) (marksOf content.toList)
  | startTag {content : Bytes} {name : List Char} (named : Utf8.encodeChars name = tagName content) :
      Shows (.startTag content) [.enter (localName name)]
  | emptyTag {content : Bytes} {name : List Char} (named : Utf8.encodeChars name = tagName content) :
      Shows (.emptyTag content) [.enter (localName name), .leave (localName name)]
  | endTag {content : Bytes} {name : List Char}
      (named : Utf8.encodeChars name = endTagName content) :
      Shows (.endTag content) [.leave (localName name)]
  | comment (content : Bytes) : Shows (.comment content) []
  | doctype (keyword content : Bytes) : Shows (.doctype keyword content) []
  | instruction (content : Bytes) : Shows (.instruction content) []

theorem Token.resolves_of_shows {l : List Token} {marks : List (List Mark)}
    (shows : List.Forall₂ Token.Shows l marks) {name : Bytes} (member : .reference name ∈ l) :
    Resolves name := by
  obtain ⟨part, shown⟩ := exists_of_forall₂ shows member
  cases shown with
  | reference resolved => exact ⟨_, _, rfl, resolved⟩

/-- A token shows one thing only. -/
theorem Token.shows_unique {t : Token} {marks marks' : List Mark} (first : t.Shows marks)
    (second : t.Shows marks') : marks = marks' := by
  generalize same : t = u at second
  cases first with
  | text _ =>
    cases second with
    | text _ => rw [Utf8.encodeChars_injective (Token.text.inj same)]
    | _ => contradiction
  | cdata _ =>
    cases second with
    | cdata _ => rw [Utf8.encodeChars_injective (Token.cdata.inj same)]
    | _ => contradiction
  | reference resolved =>
    cases second with
    | reference resolved' =>
      have name := Utf8.encodeChars_injective (Token.reference.inj same)
      rw [String.toList_inj.mp name] at resolved
      rw [Except.ok.inj (resolved.symm.trans resolved')]
    | _ => contradiction
  | startTag named =>
    cases second with
    | startTag named' =>
      obtain rfl := Token.startTag.inj same
      rw [Utf8.encodeChars_injective (named.trans named'.symm)]
    | _ => contradiction
  | emptyTag named =>
    cases second with
    | emptyTag named' =>
      obtain rfl := Token.emptyTag.inj same
      rw [Utf8.encodeChars_injective (named.trans named'.symm)]
    | _ => contradiction
  | endTag named =>
    cases second with
    | endTag named' =>
      obtain rfl := Token.endTag.inj same
      rw [Utf8.encodeChars_injective (named.trans named'.symm)]
    | _ => contradiction
  | comment _ =>
    cases second with
    | comment _ => rfl
    | _ => contradiction
  | doctype _ _ =>
    cases second with
    | doctype _ _ => rfl
    | _ => contradiction
  | instruction _ =>
    cases second with
    | instruction _ => rfl
    | _ => contradiction

theorem elementName_encodeChars (name : List Char) :
    elementName (Utf8.encodeChars name) = localName name := by
  have read (l : List Char) : Utf8.decodeLossy (Utf8.encodeChars l) = String.ofList l := by
    simp [Utf8.decodeLossy, Utf8.decodeParts_encodeChars, Function.comp_def]
  have colon (c : Char) (b : UInt8) (member : b ∈ String.utf8EncodeChar c) :
      (b != ascii ':') = (c != ':') := by
    rw [bne, bne, Utf8.beq_ascii_of_mem (by decide) member]
  unfold elementName localPart localName
  rw [Utf8.dropWhile_encodeChars colon]
  cases stop : name.dropWhile (· != ':') with
  | nil => exact read name
  | cons c rest =>
    have colon : c = ':' := by
      have := List.head?_dropWhile_not (· != ':') name
      simpa [stop] using this
    rw [colon, Utf8.encodeChars_cons, Utf8.utf8EncodeChar_of_ascii (by decide)]
    exact read rest

theorem isAscii_of_isBlankByte {b : UInt8} (blank : isBlankByte b = true) : Utf8.IsAscii b := by
  simp only [isBlankByte, Bool.or_eq_true, beq_iff_eq] at blank
  rcases blank with ((rfl | rfl) | rfl) | rfl <;> decide

theorem isText_tagName {content : Bytes} (text : Utf8.IsText content) :
    Utf8.IsText (tagName content) := by
  apply Utf8.isText_takeWhile _ text
  intro b stops
  exact isAscii_of_isBlankByte (by simpa using stops)

theorem isText_endTagName {content : Bytes} (text : Utf8.IsText content) :
    Utf8.IsText (endTagName content) := by
  unfold endTagName
  split
  · exact text
  · have whole := congrArg List.reverse
      (List.takeWhile_append_dropWhile (p := isBlankByte) (l := content.reverse))
    rw [List.reverse_append, List.reverse_reverse] at whole
    cases blanks : (content.reverse.takeWhile isBlankByte).reverse with
    | nil =>
      rw [blanks, List.append_nil] at whole
      rwa [whole]
    | cons b rest =>
      have blank : isBlankByte b = true := by
        have member : b ∈ content.reverse.takeWhile isBlankByte := by
          rw [← List.mem_reverse, blanks]
          simp
        exact List.all_eq_true.mp List.all_takeWhile b member
      rw [blanks] at whole
      rw [← whole] at text
      exact (Utf8.isText_of_append_ascii (isAscii_of_isBlankByte blank) text).1

end PomToGradle
