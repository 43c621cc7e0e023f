import WidgetForge.Json.Fault
import WidgetForge.Procedure.Basic

/-!
# Reading documents

Requests, configurations and instructions may stand in files. A document has to be a text, and most
documents have to be JSON of some form. An error names what was read and where.
-/

namespace WidgetForge.Document

open Disk Text

/-- Why a document could not be taken. -/
inductive Error where
  /-- It could not be read. -/
  | reading (what : String) (path : Pathname) (cause : IoError)
  /-- It is not of the right form. -/
  | parsing (what : String) (path : Pathname) (cause : Json.Error)

/-- The wordings of an error and of what lies behind it. -/
def Error.chain : Error → List String
  | .reading what path cause => ["failed reading " ++ what ++ " " ++ path.text, cause.message]
  | .parsing what path cause => ["failed parsing " ++ what ++ " " ++ path.text, cause.message]

/-- The text that a file holds. -/
def textOf : Except IoError Octets → Except IoError String
  | .error e => .error e
  | .ok octets =>
    match Utf8.decode octets with
    | .error _ => .error .notText
    | .ok text => .ok text

/-- Reads a document. -/
def read (what : String) (path : Pathname) : Procedure (Except Error String) :=
  .step (.readFile path) fun content => .done <|
    match textOf content with
    | .error e => .error (.reading what path e)
    | .ok text => .ok text

/-- Reads a document and decodes it. -/
def load {α : Type} (what : String) (path : Pathname) (decode : String → Except Json.Error α) :
    Procedure (Except Error α) :=
  (read what path).map fun text =>
    match text with
    | .error e => .error e
    | .ok text =>
      match decode text with
      | .error e => .error (.parsing what path e)
      | .ok a => .ok a

end WidgetForge.Document
