import Widgetry.Text.Basic

/-!
# Allowed origins

Which web origins may use the service: a comma-separated list, and any origin if it is empty.
-/

namespace Widgetry.Settings

/-- Stands for any origin. -/
def anyOrigin : Text := "*".toList

/-- The origins that a setting lists. -/
def origins (setting : Option Text) : List Text :=
  let listed := ((Text.pieces (· == ',') (setting.getD anyOrigin)).map Text.trim).filter (· ≠ [])
  if listed = [] then [anyOrigin] else listed

end Widgetry.Settings
