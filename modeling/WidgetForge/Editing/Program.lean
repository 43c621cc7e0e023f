import WidgetForge.Editing.Run
import WidgetForge.Utility.Files

/-!
# The program that edits lines

The program runs a script on the lines of files and prints what comes of it, or puts it into the
files themselves.
-/

namespace WidgetForge.Editing

open Machine Utility Text

/-- The options of the program. -/
def programOptions : Utility.Options :=
  ⟨"nErsuzI", "efl",
    [("quiet", 'n'), ("silent", 'n'), ("expression", 'e'), ("file", 'f'), ("regexp-extended", 'E'),
      ("separate", 's'), ("unbuffered", 'u'), ("null-data", 'z'), ("line-length", 'l'),
      ("posix", 'u'), ("sandbox", 'u'), ("debug", 'u')], true⟩

/-- The words without those that ask for files to be changed, and with which ending the old files
are kept if they do. -/
def inPlace (words : List String) : List String × Option String :=
  let suffix? (w : String) : Option String :=
    let cs := w.toList
    if "-i".toList.isPrefixOf cs then some (String.ofList (cs.drop 2))
    else if w = "--in-place" then some ""
    else if "--in-place=".toList.isPrefixOf cs then some (String.ofList (cs.drop 11))
    else if w = "-ni" || w = "-Ei" || w = "-ri" then some ""
    else none
  let rest (w : String) : Option String :=
    if (suffix? w).isNone then some w
    else if w = "-ni" then some "-n"
    else if w = "-Ei" || w = "-ri" then some "-E"
    else none
  (words.filterMap rest, words.findSome? suffix?)

/-- The place of a fault in a script that is made of pieces: the number of the piece, and how many
of its characters had been read. -/
def placeOf (read : Nat) : Nat → List Nat → Nat × Nat
  | n, [] => (n, read)
  | n, [_] => (n, read)
  | n, length :: rest => if read ≤ length then (n, read)
      else placeOf (read - length - 1) (n + 1) rest

/-- The files that a script writes to. -/
def writtenFiles (script : Array Command) : List String :=
  script.toList.filterMap fun c =>
    match c.action with
    | .writeFile file | .writeFirst file => some file
    | .substitute s => s.file
    | _ => none

/-- The file that lines are put into: its old name with an ending. -/
def backupName (file suffix : String) : String :=
  if suffix.toList.contains '*' then
    let name := (lastName file.toList)
    let new := suffix.toList.flatMap fun c => if c = '*' then name else [c]
    let folder := file.toList.take (file.length - name.length)
    String.ofList (if new.contains '/' then new else folder ++ new)
  else file ++ suffix

/-- Runs a script on the lines of one file and puts what is printed into the file. -/
def change (p : Invocation) (o : Options) (script : Array Command) (suffix file : String) :
    Act (Except String (Option Nat) × Bool) := do
  if ← isFolderAt file then
    p.report ("couldn't edit " ++ file ++ ": not a regular file")
    return (.ok none, true)
  match ← p.contents file with
  | .error e =>
    p.report ("can't read " ++ file ++ ": " ++ e.wording)
    return (.ok none, true)
  | .ok content =>
    let number ← Machine.opened (.memory [])
    let inner : Invocation := { p with descriptors := (1, number) :: p.descriptors }
    let lines := linesOfFile o file content.toList
    let result ← run inner o script lines
    match ← Machine.takeAll number with
    | .ok octets =>
      if !suffix.isEmpty then
        let _ ← p.store (backupName file suffix) .write content
      let _ ← p.store file .write (Octetwise.read octets)
    | .error _ => pure ()
    return (result, false)

/-- Edits the lines of files. -/
def program : Program := fun p => do
  let (words, suffix) := inPlace p.arguments
  let usage : Act Nat := do
    p.complain ("Usage: " ++ p.name ++
      " [OPTION]... \x7bscript-only-if-no-other-script\x7d [input-file]...\n\n")
    return 1
  match programOptions.read words with
  | .error complaint =>
    p.report complaint
    usage
  | .ok g =>
    let mut pieces : List String := []
    for (letter, value) in g.options do
      if letter = 'e' then pieces := pieces ++ [value]
      else if letter = 'f' then
        match ← p.contents value with
        | .ok content =>
          let cs := content.toList
          pieces := pieces ++ [String.ofList (if cs.getLast? = some '\n' then cs.dropLast else cs)]
        | .error e => return ← p.fail 4 ("couldn't open file " ++ value ++ ": " ++ e.wording)
    let own := pieces.isEmpty
    match own, g.operands with
    | true, [] => usage
    | _, _ =>
      let files := if own then g.operands.drop 1 else g.operands
      let parts := if own then g.operands.take 1 else pieces
      let text := ("\n".intercalate parts).toList
      match read (g.has 'E' || g.has 'r') text with
      | .error fault =>
        let (n, k) :=
          match fault.left with
          | none => (1, 0)
          | some left => placeOf (text.length - left) 1 (parts.map String.length)
        if fault.placed then
          p.fail 1 ("-e expression #" ++ toString n ++ ", char " ++ toString k ++
            ": " ++ fault.complaint)
        else p.fail 4 fault.complaint
      | .ok script =>
        let o : Options :=
          { quiet := g.has 'n' || "#n\n".toList.isPrefixOf text || text = ['#', 'n']
            lineEnd := g.lineEnd }
        for file in writtenFiles script do
          if file ≠ "/dev/stdout" then
            let _ ← p.store file .write ""
        let fails (complaint : String) : Act Nat :=
          p.fail 1 ("-e expression #1, char 0: " ++ complaint)
        let mut status := 0
        match suffix with
        | some suffix =>
          for file in files do
            let (result, failed) ← change p o script suffix file
            if failed then status := if ← isFolderAt file then 4 else 2
            match result with
            | .error complaint => return ← fails complaint
            | .ok (some n) => return n
            | .ok none => pure ()
          return status
        | none =>
          let mut lines : List (List Line) := []
          let mut broken : Option String := none
          for file in if files.isEmpty then ["-"] else files do
            match ← p.contents file with
            | .ok content => lines := lines ++ [linesOfFile o file content.toList]
            | .error e =>
              if e = .isFolder then
                broken := some ("read error on " ++ file ++ ": " ++ e.wording)
                break
              status := 2
              p.report ("can't read " ++ file ++ ": " ++ e.wording)
          for part in if g.has 's' then lines else [lines.flatten] do
            match ← run p o script part with
            | .error complaint => return ← fails complaint
            | .ok (some n) => return n
            | .ok none => pure ()
          match broken with
          | some complaint => p.fail 4 complaint
          | none => return status

end WidgetForge.Editing
