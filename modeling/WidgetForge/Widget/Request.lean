import WidgetForge.Json.Schema
import WidgetForge.Widget.Violation

/-!
# Requests for widgets

A request holds all that a widget is made of. It comes from the command line, from a file or as the
arguments of a tool call; the latter two are JSON, described by `Request.record`.
-/

namespace WidgetForge.Widget

open Json

/-- A request for a widget. -/
structure Request where
  /-- The shell command whose output the widget shows. -/
  command : String
  /-- The milliseconds between two runs of the command. -/
  interval : Int64
  /-- The CSS declarations of the widget's place on the screen. -/
  positioning : String
  /-- The JSX body of the widget. -/
  markup : String
  /-- The text of the style dictionary. -/
  styles : String
  deriving DecidableEq, Repr, Inhabited

namespace Request

/-- The members of a request in JSON. -/
def fields : List Json.Field :=
  [⟨"command", .text, "A bash command whose output the widget displays.", none⟩,
    ⟨"refreshIntervalMs", .int64,
      "The widget's refresh frequency in milliseconds. Must be greater than 0.", none⟩,
    ⟨"positioning", .text,
      "CSS positioning declarations for the widget root, either fixed and\n" ++
        "centered or absolutely offset from a screen edge.", none⟩,
    ⟨"markup", .text,
      "JSX body of the widget with a single root element. Elements reference\n" ++
        "style variables with `className=\x7bnameStyle\x7d` and the command output\n" ++
        "with `\x7bdata\x7d`.", none⟩,
    ⟨"styleVariablesRaw", .text,
      "JSON object mapping style-variable names (no hyphens) to CSS bodies,\n" ++
        "e.g. `\x7b\"titleStyle\": \"font-weight: bold;\"\x7d`. " ++
        "Use \"\x7b\x7d\" when no styles\nare needed.", some ""⟩]

/-- A request in JSON. -/
def record : Record where
  name := "WidgetRequest"
  subject := "struct WidgetRequest"
  about := some "The structured description of a widget, as supplied by the calling agent."
  fields := fields
  closed := true

/-- The request that a row holds. -/
def ofRow : Row record.fields → Request
  | (command, interval, positioning, markup, styles, ()) =>
    ⟨command, interval, positioning, markup, styles⟩

/-- The row that holds a request. -/
def toRow (r : Request) : Row record.fields :=
  (r.command, r.interval, r.positioning, r.markup, r.styles, ())

/-- Decodes a request from a value. -/
def ofValue (v : Value) : Except Mismatch Request := (record.ofValue v).map ofRow

/-- Decodes a request from a text. -/
def parse (text : String) : Except Error Request := (record.parse text).map ofRow

/-- A request as a value. -/
def toValue (r : Request) : Value := record.toValue r.toRow

/-- Whether a request can become a widget; of several violations the first in this order is
reported. -/
def check (r : Request) : Except Violation Unit :=
  if r.command.isEmpty then .error .emptyCommand
  else if r.interval.toInt ≤ 0 then .error .intervalNotPositive
  else if r.markup.isEmpty then .error .emptyMarkup
  else if r.positioning.isEmpty then .error .emptyPositioning
  else .ok ()

end Request

end WidgetForge.Widget
