import PomToGradle.Text.Blank
import PomToGradle.Tree.Search

/-!
Fields of an element: the trimmed text of the first element of a name inside it, however deep.
-/
namespace PomToGradle.Element

def findText? (e : Element) (tag : String) : Option String :=
  (e.descendant? tag).map fun found => trim found.text

end PomToGradle.Element
