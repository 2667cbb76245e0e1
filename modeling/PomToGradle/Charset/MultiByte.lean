import PomToGradle.Charset.Index.Jis
import PomToGradle.Charset.Index.Gb18030
import PomToGradle.Charset.Index.Big5
import PomToGradle.Charset.Index.EucKr
import PomToGradle.Bytes

/-!
East Asian character encodings. In most of them a byte below 0x80 is ASCII wherever a code may begin,
and the codes of all other characters are one to four bytes long; ISO-2022-JP changes between sets of
characters instead.
-/
namespace PomToGradle.MultiByte

/-- What bytes are that begin where a code begins. -/
inductive Code where
  | complete (first : Foreign) (others : List Foreign)
  | unfinished
  | illFormed
deriving DecidableEq, Repr

namespace Code

def ofChar? (c : Option Foreign) : Code :=
  match c with
  | some c => complete c []
  | none => illFormed

def unfinishedIf (p : Prop) [Decidable p] : Code := if p then unfinished else illFormed

end Code

/-- Reads from inside a code on, `pending` being the bytes of it that came before. -/
def read? (code : Bytes → Code) (pending : Bytes) : Bytes → Option (List Char)
  | [] => if pending = [] then some [] else none
  | b :: rest =>
    if pending = [] ∧ b.toNat < 0x80 then (read? code [] rest).map (Char.ofNat b.toNat :: ·)
    else
      match code (pending ++ [b]) with
      | .complete first others =>
        (read? code [] rest).map ((first :: others).map Foreign.char ++ ·)
      | .unfinished => read? code (pending ++ [b]) rest
      | .illFormed => none

/-- Row and cell of a set of ninety-four rows, both in a byte that follows `base`. -/
def rowCell? (index : Index) (base a b : Nat) : Option Foreign :=
  if base < a ∧ a < base + 95 ∧ base < b ∧ b < base + 95 then
    index.char? ((a - base - 1) * 94 + (b - base - 1))
  else none

/-- The place of a second byte among those from 0x40 on, which leave out 0x7F. -/
def trailOffset (b : Nat) : Nat := b - (if b < 0x7F then 0x40 else 0x41)

/-- The number of a four-byte sequence, counted through its second and fourth bytes by ten and
    through its third by one hundred and twenty-six. -/
def fourByteNumber (a b c d : Nat) : Option Nat :=
  if 0x81 ≤ a ∧ a ≤ 0xFE ∧ 0x30 ≤ b ∧ b ≤ 0x39 ∧ 0x81 ≤ c ∧ c ≤ 0xFE ∧ 0x30 ≤ d ∧ d ≤ 0x39 then
    some ((((a - 0x81) * 10 + (b - 0x30)) * 126 + (c - 0x81)) * 10 + (d - 0x30))
  else none

/-- Numbers up to 39419 go through what the two-byte codes leave of the basic plane, with one place of
    its own; those from 189000 on go through the supplementary planes. -/
def fourByteChar? (n : Nat) : Option Foreign :=
  if n = 7457 then Foreign.ofNat? 0xE7C7
  else if n ≤ 39419 then do
    let (number, char) ← Index.gb18030Ranges.findRev? fun range => range.1 ≤ n
    Foreign.ofNat? (char + (n - number))
  else if 189000 ≤ n ∧ n < 189000 + 0x100000 then Foreign.ofNat? (0x10000 + (n - 189000))
  else none

/-- The private characters of the three areas that are left to users. -/
def userDefined? (a b : Nat) : Option Foreign :=
  if 0xAA ≤ a ∧ a ≤ 0xAF ∧ 0xA1 ≤ b then Foreign.ofNat? (0xE000 + (a - 0xAA) * 94 + (b - 0xA1))
  else if 0xF8 ≤ a ∧ 0xA1 ≤ b then Foreign.ofNat? (0xE234 + (a - 0xF8) * 94 + (b - 0xA1))
  else if 0xA1 ≤ a ∧ a ≤ 0xA7 ∧ b ≤ 0xA0 then
    Foreign.ofNat? (0xE4C6 + (a - 0xA1) * 96 + trailOffset b)
  else none

def gbPair? (a b : Nat) : Option Foreign :=
  if 0x40 ≤ b ∧ b ≤ 0xFE ∧ b ≠ 0x7F then
    (Index.gb18030.char? ((a - 0x81) * 190 + trailOffset b)).or (userDefined? a b)
  else none

/-- GBK and GB 18030. The euro sign has the byte 0x80 besides its code. -/
def gb : Bytes → Code
  | [a] =>
    if a.toNat = 0x80 then .ofChar? (Foreign.ofNat? 0x20AC)
    else .unfinishedIf (0x81 ≤ a.toNat ∧ a.toNat ≤ 0xFE)
  | [a, b] =>
    if 0x30 ≤ b.toNat ∧ b.toNat ≤ 0x39 then .unfinished else .ofChar? (gbPair? a.toNat b.toNat)
  | [_, _, c] => .unfinishedIf (0x81 ≤ c.toNat ∧ c.toNat ≤ 0xFE)
  | [a, b, c, d] =>
    .ofChar? ((fourByteNumber a.toNat b.toNat c.toNat d.toNat).bind fourByteChar?)
  | _ => .illFormed

/-- The place of a lead byte in Shift_JIS; half-width katakana lie between the two parts. -/
def shiftJisLead (a : Nat) : Nat := a - (if a < 0xA0 then 0x81 else 0xC1)

/-- The numbers from 8836 to 10715 are left to users. -/
def shiftJisPair? (a b : Nat) : Option Foreign :=
  let n := shiftJisLead a * 188 + trailOffset b
  if 0x40 ≤ b ∧ b ≤ 0xFC ∧ b ≠ 0x7F then
    if 8836 ≤ n ∧ n ≤ 10715 then Foreign.ofNat? (0xE000 + (n - 8836)) else Index.jis0208.char? n
  else none

def shiftJis : Bytes → Code
  | [a] =>
    if a.toNat = 0x80 then .ofChar? (Foreign.ofNat? 0x80)
    else if 0xA1 ≤ a.toNat ∧ a.toNat ≤ 0xDF then .ofChar? (Foreign.katakana? (a.toNat - 0xA1))
    else .unfinishedIf ((0x81 ≤ a.toNat ∧ a.toNat ≤ 0x9F) ∨ (0xE0 ≤ a.toNat ∧ a.toNat ≤ 0xFC))
  | [a, b] => .ofChar? (shiftJisPair? a.toNat b.toNat)
  | _ => .illFormed

/-- EUC-JP. The byte 0x8E stands before half-width katakana and 0x8F before the supplementary set. -/
def eucJp : Bytes → Code
  | [a] =>
    .unfinishedIf (a.toNat = 0x8E ∨ a.toNat = 0x8F ∨ (0xA1 ≤ a.toNat ∧ a.toNat ≤ 0xFE))
  | [a, b] =>
    if a.toNat = 0x8E then
      if 0xA1 ≤ b.toNat then .ofChar? (Foreign.katakana? (b.toNat - 0xA1)) else .illFormed
    else if a.toNat = 0x8F then .unfinishedIf (0xA1 ≤ b.toNat ∧ b.toNat ≤ 0xFE)
    else .ofChar? (rowCell? Index.jis0208 0xA0 a.toNat b.toNat)
  | [_, b, c] => .ofChar? (rowCell? Index.jis0212 0xA0 b.toNat c.toNat)
  | _ => .illFormed

def eucKr : Bytes → Code
  | [a] => .unfinishedIf (0x81 ≤ a.toNat ∧ a.toNat ≤ 0xFE)
  | [a, b] =>
    if 0x41 ≤ b.toNat ∧ b.toNat ≤ 0xFE then
      .ofChar? (Index.eucKr.char? ((a.toNat - 0x81) * 190 + (b.toNat - 0x41)))
    else .illFormed
  | _ => .illFormed

/-- The letters with two marks that have one number, each as a letter and a combining mark. -/
def big5Composed? (n : Nat) : Option (Nat × Nat) :=
  match n with
  | 1133 => some (0xCA, 0x304)
  | 1135 => some (0xCA, 0x30C)
  | 1164 => some (0xEA, 0x304)
  | 1166 => some (0xEA, 0x30C)
  | _ => none

def big5Number? (a b : Nat) : Option Nat :=
  if 0x40 ≤ b ∧ b ≤ 0x7E then some ((a - 0x81) * 157 + (b - 0x40))
  else if 0xA1 ≤ b ∧ b ≤ 0xFE then some ((a - 0x81) * 157 + (b - 0x62))
  else none

def big5 : Bytes → Code
  | [a] => .unfinishedIf (0x81 ≤ a.toNat ∧ a.toNat ≤ 0xFE)
  | [a, b] =>
    match big5Number? a.toNat b.toNat with
    | none => .illFormed
    | some n =>
      match big5Composed? n with
      | none => .ofChar? (Index.big5.char? n)
      | some (letter, mark) =>
        match Foreign.ofNat? letter, Foreign.ofNat? mark with
        | some letter, some mark => .complete letter [mark]
        | _, _ => .illFormed
  | _ => .illFormed

/-- What the bytes of ISO-2022-JP stand for until the next escape sequence. -/
inductive CodeSet where
  | ascii
  | roman
  | katakana
  | ideographs
deriving DecidableEq, Repr

/-- The code set that the two bytes after an escape choose. -/
def codeSet? (a b : UInt8) : Option CodeSet :=
  if a.toNat = 0x28 then
    if b.toNat = 0x42 then some .ascii
    else if b.toNat = 0x4A then some .roman
    else if b.toNat = 0x49 then some .katakana
    else none
  else if a.toNat = 0x24 ∧ (b.toNat = 0x40 ∨ b.toNat = 0x42) then some .ideographs
  else none

/-- ASCII without the two shift controls. -/
def unshifted? (b : Nat) : Option Char :=
  if b < 0x80 ∧ b ≠ 0x0E ∧ b ≠ 0x0F then some (Char.ofNat b) else none

/-- The character of one byte. Roman differs from ASCII in the yen sign and the overline; an ideograph
    takes two bytes. -/
def CodeSet.char? : CodeSet → Nat → Option Char
  | ascii, b => unshifted? b
  | roman, b =>
    if b = 0x5C then some (Char.ofNat 0xA5)
    else if b = 0x7E then some (Char.ofNat 0x203E)
    else unshifted? b
  | katakana, b =>
    if 0x21 ≤ b then (Foreign.katakana? (b - 0x21)).map Foreign.char else none
  | ideographs, _ => none

/-- ISO-2022-JP from some code set on. Between two escape sequences there has to be a character;
    `escaped` says that none has come since the last one. -/
def iso2022Jp? (set : CodeSet) (escaped : Bool) : Bytes → Option (List Char)
  | [] => some []
  | e :: rest =>
    if e.toNat = 0x1B then
      match rest with
      | a :: b :: rest =>
        match codeSet? a b with
        | some next => if escaped then none else iso2022Jp? next true rest
        | none => none
      | _ => none
    else if set = .ideographs then
      match rest with
      | b :: rest =>
        match rowCell? Index.jis0208 0x20 e.toNat b.toNat with
        | some c => (iso2022Jp? set false rest).map (c.char :: ·)
        | none => none
      | [] => none
    else
      match set.char? e.toNat with
      | some c => (iso2022Jp? set false rest).map (c :: ·)
      | none => none

end PomToGradle.MultiByte
