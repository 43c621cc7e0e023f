import WidgetForge.Json.Record

/-!
# Messages from the agent

A message is a JSON object whose member `type` names its kind; its other members depend on the kind,
and members that the kind does not know are passed over. The members may come in any order, so all
of them are read before the kind is known to apply to them. Problems found from then on have no
place in the text any more. A message may also be an array: the kind first, then the members in
order.
-/

namespace WidgetForge.Host

open Json

/-- A message from the agent. -/
inductive Incoming where
  /-- Asks for the specifications of the tools. -/
  | listTools (id : Value)
  /-- Calls a tool. -/
  | callTool (id : Value) (name : String) (arguments : Value)

/-- The kinds of messages. -/
inductive Tag where
  /-- Asks for the specifications of the tools. -/
  | listTools
  /-- Calls a tool. -/
  | callTool
  deriving DecidableEq

namespace Tag

/-- The name of a kind. -/
def name : Tag → String
  | .listTools => "list_tools"
  | .callTool => "call_tool"

/-- All kinds. -/
def all : List Tag := [.listTools, .callTool]

/-- The kind that a value names. -/
def ofValue : Value → Except Mismatch Tag
  | .string s =>
    match all.find? fun tag => tag.name = s with
    | some tag => .ok tag
    | none => .error (.unknownVariant s (all.map name))
  | v => .error (.kind v.found "variant identifier")

/-- Reads a kind. -/
def read : Reader Tag := readScalar "variant identifier" ofValue

end Tag

namespace Incoming

/-- The member that names the kind. -/
def tagName : String := "type"

/-- The members of a request for the specifications. -/
def listRecord : Record where
  name := "ListTools"
  subject := "struct variant Incoming::ListTools"
  about := none
  fields := [⟨"id", .any, "What the reply is known by.", some .null⟩]
  closed := false

/-- The members of a call. -/
def callRecord : Record where
  name := "CallTool"
  subject := "struct variant Incoming::CallTool"
  about := none
  fields :=
    [⟨"id", .any, "What the reply is known by.", some .null⟩,
      ⟨"name", .text, "The name of the tool.", none⟩,
      ⟨"arguments", .any, "The arguments of the tool.", some .null⟩]
  closed := false

/-- What messages ask for when the array of a record is too long. -/
def excess (r : Record) : String :=
  toString r.fields.length ++
    (if r.fields.length = 1 then " element in sequence" else " elements in sequence")

/-- Decodes what stands beside the kind. -/
def rowOf (r : Record) : Value → Except Mismatch (Row r.fields)
  | .object members => r.ofObject members
  | .array items => r.ofArray (excess r) items.length items
  | v => .error (.kind v.found r.subject)

/-- Decodes a message of a kind from what stands beside the kind. -/
def ofContent (content : Value) : Tag → Except Mismatch Incoming
  | .listTools => (rowOf listRecord content).map fun (id, ()) => .listTools id
  | .callTool =>
    (rowOf callRecord content).map fun (id, name, arguments, ()) => .callTool id name arguments

/-! ### From texts -/

/-- The kind, if it has been met, and the other members, last first. -/
abbrev Parts := Option Tag × List (String × Value)

/-- Reads a member, from the colon on. -/
def readPart (depth : Nat) (parts : Parts) (key : String) : Reader Parts := fun cs =>
  if key = tagName then
    match parts.1 with
    | some _ => .error (Record.misfit (.duplicateField tagName) '\x7d' cs)
    | none =>
      match colon cs with
      | .error f => .error f
      | .ok (_, rest) => (Tag.read rest).map fun (tag, rest) => ((some tag, parts.2), rest)
  else (member (value depth) parts.2 key cs).map fun (read, rest) => ((parts.1, read), rest)

/-- Reads the items behind the kind, and the closing bracket. -/
def readRest (depth : Nat) : Reader (List Value) := fun cs =>
  (foldItems (item (value depth)) (cs.length + 1) false [] cs).map
    fun (read, rest) => (read.reverse, rest)

/-- Reads the kind and what stands beside it. -/
def readContent (depth : Nat) : Reader (Tag × Value) := fun cs =>
  match skipBlanks cs with
  | [] => .error (.on .endInValue [])
  | c :: rest =>
    if c = '\x7b' then
      match depth with
      | 0 => .error (.on .tooDeep (c :: rest))
      | depth + 1 =>
        match members (readPart depth) (none, []) rest with
        | .error f => .error f
        | .ok ((some tag, read), rest) => .ok ((tag, .object read.reverse), rest)
        | .ok ((none, _), rest) => .error (.before (.mismatch (.missingField tagName)) rest)
    else if c = '[' then
      match depth with
      | 0 => .error (.on .tooDeep (c :: rest))
      | depth + 1 =>
        match nextItem true rest with
        | .error f => .error f
        | .ok (false, rest) => .error (.before (.mismatch (.missingField tagName)) rest)
        | .ok (true, rest) =>
          match Tag.read rest with
          | .error f => .error f
          | .ok (tag, rest) =>
            (readRest depth rest).map fun (items, rest) => ((tag, .array items), rest)
    else
      readScalar "internally tagged enum Incoming"
        (fun v => .error (.kind v.found "internally tagged enum Incoming")) (c :: rest)

/-- Decodes a message from a text. -/
def parse (text : String) : Except Error Incoming :=
  match readContent depthLimit text.toList with
  | .error f => .error (f.place text)
  | .ok ((tag, content), rest) =>
    match ofContent content tag with
    | .error m => .error m.error
    | .ok message =>
      match skipBlanks rest with
      | [] => .ok message
      | c :: rest => .error (Fault.place text (.on .trailing (c :: rest)))

end Incoming

end WidgetForge.Host
