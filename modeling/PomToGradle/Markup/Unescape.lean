import PomToGradle.Markup.Reference

/-!
Escapes in a text: a name between an ampersand and a semicolon. Here a number takes no sign and is not
zero, and there is one of the predefined names or an error.
-/
namespace PomToGradle

inductive NumberError where
  | sign
  | empty
  | digit
  | tooLarge
  | notPermitted (n : Nat)
  | noCharacter (n : Nat)
deriving DecidableEq, Repr

/-- What is wrong with an escape, with the bytes that it is about where the message has them. -/
inductive EscapeError where
  | unknown (start stop : Nat) (name : String)
  | unclosed (start stop : Nat)
  | number (error : NumberError)
deriving DecidableEq, Repr

/-- A number in hexadecimal digits. -/
def hexadecimalText (n : Nat) : String := String.ofList (Nat.toDigits 16 n)

namespace NumberError

def message : NumberError → String
  | sign => "unexpected number sign"
  | empty => "cannot parse integer from empty string"
  | digit => "invalid digit found in string"
  | tooLarge => "number too large to fit in target type"
  | notPermitted n => s!"0x{hexadecimalText n} character is not permitted in XML"
  | noCharacter n => s!"`{n}` is not a valid codepoint"

end NumberError

namespace EscapeError

def message : EscapeError → String
  | unknown start stop name => s!"at {start}..{stop}: unrecognized entity `{name}`"
  | unclosed start stop =>
    s!"Error while escaping character at range {start}..{stop}: Cannot find ';' after '&'"
  | number e => s!"invalid character reference: {e.message}"

end EscapeError

namespace Escape

/-- The number of 32 bits whose digits come after those of `n`. -/
def wordAfter (radix : Radix) (n : Nat) : List Char → Except NumberError Nat
  | [] => .ok n
  | c :: rest =>
    match radix.digit? c with
    | none => .error .digit
    | some d =>
      if n * radix.base + d < 2 ^ 32 then wordAfter radix (n * radix.base + d) rest
      else .error .tooLarge

def word (radix : Radix) (s : List Char) : Except NumberError Nat :=
  match s with
  | [] => .error .empty
  | c :: rest => if c = '+' ∨ c = '-' then .error .sign else wordAfter radix 0 (c :: rest)

/-- The character that the text after a number sign names. -/
def numbered (s : List Char) : Except NumberError Char := do
  let n ← match s with
    | 'x' :: digits => word .hexadecimal digits
    | digits => word .decimal digits
  if n = 0 then throw (.notPermitted n)
  match scalar? n with
  | some c => return c
  | none => throw (.noCharacter n)

/-- The character that a name stands for which lies between these bytes. -/
def named (start stop : Nat) (name : List Char) : Except EscapeError Char :=
  match name with
  | '#' :: number => (numbered number).mapError .number
  | _ =>
    match predefinedEntity? (String.ofList name) with
    | some c => .ok c
    | none => .error (.unknown start stop (String.ofList name))

/-- Reads on behind `offset` bytes of a text that is `stop` bytes long. Of an escape under way it has
    the place of the ampersand and the characters since then, last first. -/
def replaceFrom (stop offset : Nat) (underway : Option (Nat × List Char)) :
    List Char → Except EscapeError (List Char)
  | [] =>
    match underway with
    | none => .ok []
    | some (start, _) => .error (.unclosed start stop)
  | c :: rest =>
    match underway with
    | none =>
      if c = '&' then replaceFrom stop (offset + c.utf8Size) (some (offset, [])) rest
      else (replaceFrom stop (offset + c.utf8Size) none rest).map (c :: ·)
    | some (start, name) =>
      if c = '&' then .error (.unclosed start stop)
      else if c = ';' then do
        let shown ← named (start + 1) offset name.reverse
        (replaceFrom stop (offset + c.utf8Size) none rest).map (shown :: ·)
      else replaceFrom stop (offset + c.utf8Size) (some (start, c :: name)) rest

end Escape

/-- A text with the characters in it that its escapes stand for. -/
def unescape (s : String) : Except EscapeError String :=
  (Escape.replaceFrom s.utf8ByteSize 0 none s.toList).map String.ofList

namespace Escape

theorem replaceFrom_of_plain {l : List Char} (plain : '&' ∉ l) (stop offset : Nat) :
    replaceFrom stop offset none l = .ok l := by
  induction l generalizing offset with
  | nil => rfl
  | cons c l ih =>
    obtain ⟨first, others⟩ := not_or.mp (mt List.mem_cons.mpr plain)
    simp only [replaceFrom, if_neg (Ne.symm first), ih others]
    rfl

end Escape

/-- Where no ampersand is there is no escape. -/
theorem unescape_of_plain {s : String} (plain : '&' ∉ s.toList) : unescape s = .ok s := by
  rw [unescape, Escape.replaceFrom_of_plain plain]
  exact congrArg Except.ok String.ofList_toList

end PomToGradle
