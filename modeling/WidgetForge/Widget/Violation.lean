/-!
# What can be wrong with a request
-/

namespace WidgetForge.Widget

/-- Why a request is refused. -/
inductive Violation where
  /-- There is no command. -/
  | emptyCommand
  /-- The refresh interval is not positive. -/
  | intervalNotPositive
  /-- There is no markup. -/
  | emptyMarkup
  /-- There is no positioning. -/
  | emptyPositioning
  /-- A style variable is declared and not used. -/
  | unusedStyle (name : String)
  deriving DecidableEq

/-- The name of a violation, for programs. -/
def Violation.kind : Violation → String
  | .emptyCommand => "empty_command"
  | .intervalNotPositive => "invalid_refresh_frequency"
  | .emptyMarkup => "empty_markup"
  | .emptyPositioning => "empty_positioning"
  | .unusedStyle _ => "unreferenced_style_variable"

/-- The wording of a violation. -/
def Violation.message : Violation → String
  | .emptyCommand => "Bash command cannot be empty"
  | .intervalNotPositive => "Refresh frequency must be greater than 0"
  | .emptyMarkup => "Markup content cannot be empty"
  | .emptyPositioning => "CSS positioning cannot be empty"
  | .unusedStyle name =>
    "Style variable '" ++ name ++ "' is declared but never referenced in the markup"

end WidgetForge.Widget
