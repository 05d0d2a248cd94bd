import MapStandin.Unicode.Mark
import MapStandin.Unicode.Unprintable

/-! # Hidden characters

The characters that a quoted text does not show as themselves. -/

namespace MapStandin.Text

/-- Whether a quoted text hides a character: one without a shape, or one that cannot be shown apart
from the one before it. -/
def isHidden (c : Char) : Bool :=
  Unicode.isUnprintable c || Unicode.isExtending c

end MapStandin.Text
