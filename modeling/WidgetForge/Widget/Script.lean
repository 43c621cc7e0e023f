import WidgetForge.Widget.Literal
import WidgetForge.Widget.Request
import WidgetForge.Widget.StyleMapping

/-!
# Widget scripts

The script of a widget is made of the parts of its request and one declaration for each style. The
command is escaped; all other parts stand in the script as they are. A generator writes scripts into
a buffer, which is empty again when the script has been handed over.
-/

namespace WidgetForge.Widget

/-- A generated script. -/
structure Artifact where
  /-- Its text. -/
  text : String
  deriving DecidableEq, Repr

/-- How many octets the script takes. -/
def Artifact.size (a : Artifact) : Nat := a.text.utf8ByteSize

/-- Whether the script is empty. -/
def Artifact.isEmpty (a : Artifact) : Bool := a.text.isEmpty

namespace Script

/-- The first two lines. -/
def header : String :=
  "import \x7b css \x7d from 'uebersicht'; " ++
    "// Optional, use when Emotion's css functions are needed.\n" ++
    "import \x7b styled \x7d from 'uebersicht'; " ++
    "// Optional, use when Emotion styled functions are needed.\n"

/-- What stands for the declarations when there are none. -/
def noStyles : String := "// No CSS classes defined"

/-- The exports of a script, piece by piece. -/
def exports (r : Request) : List String :=
  ["export const command = \"", Literal.escape r.command, "\"\n",
    "export const refreshFrequency = ", toString r.interval.toInt, "\n\n",
    "export const render = (\x7b data_in \x7d) => (\n    ", r.markup, "\n);\n\n",
    "export const className = css`\n", r.positioning, "\n`;\n"]

/-- The declaration of a style variable. -/
def declaration (entry : String × String) : String :=
  "const " ++ entry.1 ++ " = css`" ++ entry.2 ++ "`;"

/-- The declarations of a script. -/
def declarations (styles : StyleMapping) : String :=
  if styles.entries.isEmpty then noStyles
  else "\n".intercalate (styles.entries.map declaration)

/-- A script, piece by piece. -/
def pieces (r : Request) (styles : StyleMapping) : List String :=
  [header, "\n", "/* ----- Übersicht exports ---- */\n\n"] ++ exports r ++
    ["\n", "/* ----- local stuff ---- */\n\n", declarations styles]

end Script

/-- What writes scripts. -/
structure Generator where
  /-- What has been written and not handed over. -/
  buffer : String

namespace Generator

/-- A generator that has written nothing. -/
def fresh : Generator := ⟨""⟩

/-- Writes a piece. -/
def push (g : Generator) (piece : String) : Generator := ⟨g.buffer ++ piece⟩

/-- Hands over what has been written. -/
def take (g : Generator) : Artifact × Generator := (⟨g.buffer⟩, fresh)

/-- Writes a script and hands it over. -/
def generate (g : Generator) (r : Request) (styles : StyleMapping) : Artifact × Generator :=
  ((Script.pieces r styles).foldl push g).take

/-- Writes some scripts, one after the other. -/
def generateAll (g : Generator) : List (Request × StyleMapping) → List Artifact × Generator
  | [] => ([], g)
  | (r, styles) :: rest =>
    let (artifact, g) := g.generate r styles
    let (artifacts, g) := g.generateAll rest
    (artifact :: artifacts, g)

end Generator

/-- The script of a request and its styles. -/
def Artifact.of (r : Request) (styles : StyleMapping) : Artifact :=
  (Generator.fresh.generate r styles).1

end WidgetForge.Widget
