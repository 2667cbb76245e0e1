import PomToGradle.Text.Utf8
import PomToGradle.Text.Utf16
import PomToGradle.Charset.SingleByte
import PomToGradle.Charset.MultiByte

/-!
The character encodings a document may be written in: their names, the labels they are declared by,
and how each reads a byte string. Reading is strict; a byte string with any ill-formed part has no
reading at all.
-/
namespace PomToGradle

inductive Charset where
  | utf8
  | utf16 (order : Utf16.ByteOrder)
  | singleByte (page : SingleByte.Page)
  | gbk
  | gb18030
  | shiftJis
  | eucJp
  | iso2022Jp
  | eucKr
  | big5
  | replacement
deriving DecidableEq, Repr

namespace Charset

def name : Charset → String
  | utf8 => "UTF-8"
  | utf16 .littleEndian => "UTF-16LE"
  | utf16 .bigEndian => "UTF-16BE"
  | singleByte page => page.name
  | gbk => "GBK"
  | gb18030 => "gb18030"
  | shiftJis => "Shift_JIS"
  | eucJp => "EUC-JP"
  | iso2022Jp => "ISO-2022-JP"
  | eucKr => "EUC-KR"
  | big5 => "Big5"
  | replacement => "replacement"

/-- The replacement encoding stands for encodings that are not to be read: it reads nothing but the
    empty text. -/
def decode? : Charset → Bytes → Option String
  | utf8, s => Utf8.decode? s
  | utf16 order, s => Utf16.decode? order s
  | singleByte page, s => SingleByte.decode? page s
  | gbk, s | gb18030, s => (MultiByte.read? MultiByte.gb [] s).map String.ofList
  | shiftJis, s => (MultiByte.read? MultiByte.shiftJis [] s).map String.ofList
  | eucJp, s => (MultiByte.read? MultiByte.eucJp [] s).map String.ofList
  | iso2022Jp, s => (MultiByte.iso2022Jp? .ascii false s).map String.ofList
  | eucKr, s => (MultiByte.read? MultiByte.eucKr [] s).map String.ofList
  | big5, s => (MultiByte.read? MultiByte.big5 [] s).map String.ofList
  | replacement, s => if s.isEmpty then some "" else none

end Charset

end PomToGradle
