import PomToGradle.Charset.Basic

/-!
Signatures at the start of a document: byte-order marks, and the way a declaration begins in UTF-16.
-/
namespace PomToGradle

def utf8Mark : Bytes := [0xEF, 0xBB, 0xBF]

def bigEndianMark : Bytes := [0xFE, 0xFF]

def littleEndianMark : Bytes := [0xFF, 0xFE]

/-- The bytes of `<?` in UTF-16. -/
def bigEndianDeclaration : Bytes := [0x00, ascii '<', 0x00, ascii '?']

def littleEndianDeclaration : Bytes := [ascii '<', 0x00, ascii '?', 0x00]

/-- The bytes without one leading mark. -/
def dropUtf8Mark (s : Bytes) : Bytes :=
  if utf8Mark.isPrefixOf s then s.drop utf8Mark.length else s

/-- The encoding that the first bytes announce, and the bytes that remain to be read. A mark is not
    part of the document; the start of a declaration is. -/
def Charset.ofSignature (s : Bytes) : Charset × Bytes :=
  if bigEndianMark.isPrefixOf s then (.utf16 .bigEndian, s.drop bigEndianMark.length)
  else if littleEndianMark.isPrefixOf s then (.utf16 .littleEndian, s.drop littleEndianMark.length)
  else if bigEndianDeclaration.isPrefixOf s then (.utf16 .bigEndian, s)
  else if littleEndianDeclaration.isPrefixOf s then (.utf16 .littleEndian, s)
  else (.utf8, dropUtf8Mark s)

end PomToGradle
