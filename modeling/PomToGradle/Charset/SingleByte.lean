import PomToGradle.Bytes
import PomToGradle.Charset.CodePages
import PomToGradle.Charset.Foreign

/-!
Single-byte character encodings. Each one is ASCII below 0x80; what the bytes above stand for is in its
table, which may leave some of them out.
-/
namespace PomToGradle.SingleByte

inductive Page where
  | windows1252
  | windows1250
  | windows1251
  | windows1253
  | windows1254
  | windows1255
  | windows1256
  | windows1257
  | windows1258
  | windows874
  | iso88592
  | iso88593
  | iso88594
  | iso88595
  | iso88596
  | iso88597
  | iso88598
  | iso88598i
  | iso885910
  | iso885913
  | iso885914
  | iso885915
  | iso885916
  | koi8r
  | koi8u
  | ibm866
  | macintosh
  | macCyrillic
  | userDefined
deriving DecidableEq, Repr

namespace Page

def all : List Page :=
  [windows1252, windows1250, windows1251, windows1253, windows1254, windows1255, windows1256,
   windows1257, windows1258, windows874, iso88592, iso88593, iso88594, iso88595, iso88596,
   iso88597, iso88598, iso88598i, iso885910, iso885913, iso885914, iso885915, iso885916, koi8r,
   koi8u, ibm866, macintosh, macCyrillic, userDefined]

def name : Page → String
  | windows1252 => "windows-1252"
  | windows1250 => "windows-1250"
  | windows1251 => "windows-1251"
  | windows1253 => "windows-1253"
  | windows1254 => "windows-1254"
  | windows1255 => "windows-1255"
  | windows1256 => "windows-1256"
  | windows1257 => "windows-1257"
  | windows1258 => "windows-1258"
  | windows874 => "windows-874"
  | iso88592 => "ISO-8859-2"
  | iso88593 => "ISO-8859-3"
  | iso88594 => "ISO-8859-4"
  | iso88595 => "ISO-8859-5"
  | iso88596 => "ISO-8859-6"
  | iso88597 => "ISO-8859-7"
  | iso88598 => "ISO-8859-8"
  | iso88598i => "ISO-8859-8-I"
  | iso885910 => "ISO-8859-10"
  | iso885913 => "ISO-8859-13"
  | iso885914 => "ISO-8859-14"
  | iso885915 => "ISO-8859-15"
  | iso885916 => "ISO-8859-16"
  | koi8r => "KOI8-R"
  | koi8u => "KOI8-U"
  | ibm866 => "IBM866"
  | macintosh => "macintosh"
  | macCyrillic => "x-mac-cyrillic"
  | userDefined => "x-user-defined"

def table : Page → Array Nat
  | windows1252 => CodePage.windows1252
  | windows1250 => CodePage.windows1250
  | windows1251 => CodePage.windows1251
  | windows1253 => CodePage.windows1253
  | windows1254 => CodePage.windows1254
  | windows1255 => CodePage.windows1255
  | windows1256 => CodePage.windows1256
  | windows1257 => CodePage.windows1257
  | windows1258 => CodePage.windows1258
  | windows874 => CodePage.windows874
  | iso88592 => CodePage.iso88592
  | iso88593 => CodePage.iso88593
  | iso88594 => CodePage.iso88594
  | iso88595 => CodePage.iso88595
  | iso88596 => CodePage.iso88596
  | iso88597 => CodePage.iso88597
  | iso88598 => CodePage.iso88598
  | iso88598i => CodePage.iso88598
  | iso885910 => CodePage.iso885910
  | iso885913 => CodePage.iso885913
  | iso885914 => CodePage.iso885914
  | iso885915 => CodePage.iso885915
  | iso885916 => CodePage.iso885916
  | koi8r => CodePage.koi8r
  | koi8u => CodePage.koi8u
  | ibm866 => CodePage.ibm866
  | macintosh => CodePage.macRoman
  | macCyrillic => CodePage.macCyrillic
  | userDefined => (Array.range 0x80).map (0xF780 + ·)

/-- The character of a byte from 0x80 on. A table ends with that of 0xFF, and the bytes in front of it
    are control characters, each with its own number. -/
def foreign? (page : Page) (n : Nat) : Option Foreign :=
  let first := 0x100 - page.table.size
  Foreign.ofNat? (if n < first then n else page.table.getD (n - first) 0)

def char? (page : Page) (b : UInt8) : Option Char :=
  if b.toNat < 0x80 then some (Char.ofNat b.toNat) else (page.foreign? b.toNat).map Foreign.char

end Page

def decode? (page : Page) (s : Bytes) : Option String := (s.mapM page.char?).map String.ofList

end PomToGradle.SingleByte
