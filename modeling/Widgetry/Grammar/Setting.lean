import Widgetry.Text.LetterCase

/-!
# Setting lines

Under the first line of a chart or a quiz stand lines of the form `key: value`. The letter case of
the key does not matter.
-/

namespace Widgetry.Grammar

/-- The key, in lower case, and the value of a setting line; nothing for a line without colon. -/
def readSetting? (line : Text) : Option (Text × Text) :=
  (Text.cutFirst? ':' line).map fun (key, value) => (Text.lower (Text.trim key), Text.trim value)

end Widgetry.Grammar
