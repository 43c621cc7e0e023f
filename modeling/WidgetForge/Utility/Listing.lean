import WidgetForge.Disk.Entries
import WidgetForge.Shell.Pattern
import WidgetForge.Utility.Comparison
import WidgetForge.Utility.Files

/-!
# Programs that list files
-/

namespace WidgetForge.Utility.Listing

open Disk Machine Text

/-- Something that is listed. -/
structure Entry where
  /-- Its name as it is shown. -/
  name : String
  /-- Where it stands. -/
  place : Location
  deriving DecidableEq

/-- Whether a folder stands there. -/
def Entry.isFolder (t : Tree) (e : Entry) : Bool := t.hasFolder e.place

/-- The number of octets of a file, or of the path to which a symbolic link leads. -/
def Entry.size (t : Tree) (e : Entry) : Nat :=
  match t.link? e.place with
  | some target => target.text.utf8ByteSize
  | none => ((t.file? e.place).map List.length).getD 4096

/-- How entries are put in order. -/
def ordered (g : Given) (t : Tree) (all : List Entry) : List Entry :=
  if g.has 'U' || g.has 'f' then all
  else
    let text (e : Entry) : List Char := e.name.toList
    let ending (e : Entry) : List Char :=
      let behind := (text e).reverse.takeWhile (· ≠ '.')
      if behind.length < e.name.length then '.' :: behind.reverse else []
    let order (a b : Entry) : Ordering :=
      let byName := Comparison.octets (text a) (text b)
      match g.last? ['S', 't', 'X', 'v'] with
      | some 'S' => (compare (b.size t) (a.size t)).then byName
      | some 'X' => (Comparison.octets (ending a) (ending b)).then byName
      | some 'v' => (Comparison.versions (text a) (text b)).then byName
      | _ => byName
    let sorted := all.mergeSort fun a b => order a b ≠ .gt
    if g.has 'r' then sorted.reverse else sorted

/-- The name of an entry with the marks that are asked for. -/
def marked (g : Given) (t : Tree) (runnable : List Location) (e : Entry) : List Char :=
  let mark : List Char :=
    if e.isFolder t then if g.has 'p' || g.has 'F' then ['/'] else []
    else if g.has 'F' && (t.link? e.place).isSome then ['@']
    else if g.has 'F' && runnable.contains e.place then ['*']
    else []
  let name := if g.has 'Q' then ("\"" ++ e.name ++ "\"").toList else e.name.toList
  name ++ mark

/-- What stands between two columns: tabs as far as they go, and then blanks; `fuel` bounds their
number. -/
def gap : Nat → Nat → Nat → List Char
  | 0, _, _ => []
  | fuel + 1, column, target =>
    if target ≤ column then []
    else if (column + 1) / 8 < target / 8 then '\t' :: gap fuel (column + 8 - column % 8) target
    else ' ' :: gap fuel (column + 1) target

/-- Names in columns, from top to bottom or from left to right, as many side by side as a line
holds. -/
def inColumns (across : Bool) (width : Nat) (names : List (List Char)) : List Char :=
  let total := names.length
  let numbered := names.mapIdx fun i name => (i, name)
  let shape (columns : Nat) : List Nat × Nat :=
    let rows := (total + columns - 1) / columns
    let columnOf (i : Nat) : Nat := if across then i % columns else i / rows
    let widths := (List.range columns).map fun c =>
      (numbered.filter fun e => columnOf e.1 = c).foldl (fun n e => max n (e.2.length + 2)) 0
    (widths, rows)
  let fits (columns : Nat) : Bool :=
    let (widths, _) := shape columns
    widths.foldl (· + ·) 0 - 2 < width
  let columns := (((List.range (total + 1)).reverse.filter (0 < ·)).find? fits).getD 1
  let (widths, rows) := shape columns
  (List.range rows).flatMap fun r =>
    let row := (List.range columns).filterMap fun c =>
      (names[if across then r * columns + c else c * rows + r]?).map fun name => (c, name)
    let last := (row.getLast?.map Prod.fst).getD 0
    row.flatMap (fun (c, name) =>
      let start := (widths.take c).foldl (· + ·) 0
      if c = last then name
      else
        let stop := start + widths.getD c 0
        name ++ gap stop (start + name.length) stop) ++ ['\n']

/-- Names with commas between them, in lines of a width. -/
def withCommas (width : Nat) : Nat → List (List Char) → List Char
  | _, [] => ['\n']
  | column, [name] =>
    if column ≠ 0 && width ≤ column + name.length then '\n' :: name ++ ['\n'] else name ++ ['\n']
  | column, name :: rest =>
    if column ≠ 0 && width ≤ column + name.length + 1 then
      '\n' :: name ++ [',', ' '] ++ withCommas width (name.length + 2) rest
    else name ++ [',', ' '] ++ withCommas width (column + name.length + 2) rest

/-- The printed names. -/
def shown (g : Given) (names : List (List Char)) : List Char :=
  if names.isEmpty then []
  else
    let width := ((g.value? 'w').bind fun v => plainNumber? v.toList).getD 80
    match g.last? ['1', 'C', 'x', 'm', 'l'] with
    | some 'C' => inColumns false width names
    | some 'x' => inColumns true width names
    | some 'm' => withCommas width 0 names
    | _ => textBy '\n' names

/-- The entries of a folder. -/
def entriesOf (g : Given) (t : Tree) (place : Location) : List Entry :=
  let all := g.has 'a' || g.has 'f'
  let own : List Entry := if all then [⟨".", place⟩, ⟨"..", place.dropLast⟩] else []
  let names := (t.children place).filter fun name =>
    all || g.has 'A' || name.toList.head? ≠ some '.'
  let ignored (name : String) : Bool := (g.values 'I').any fun glob =>
    (Shell.Pattern.ofMarks (glob.toList.map fun c => ⟨c, false⟩)).holds name.toList
  let kept := names.filter fun name =>
    !(g.has 'B' && name.toList.getLast? = some '~') && !ignored (Octetwise.spread name)
  own ++ kept.map fun name => ⟨Octetwise.spread name, place ++ [name]⟩

/-- Folders with all folders below them; `fuel` bounds the depth. -/
def foldersBelow (g : Given) (t : Tree) : Nat → String → Location → List (String × Location)
  | 0, _, _ => []
  | fuel + 1, path, place =>
    let inner := (ordered g t (entriesOf g t place)).filter fun e =>
      e.isFolder t && e.name ≠ "." && e.name ≠ ".."
    (path, place) :: inner.flatMap fun e =>
      foldersBelow g t fuel (path ++ (if
      Pathname.endsWithSlash ⟨path⟩ then "" else "/") ++ e.name) e.place

/-- Lists files and what is in folders. -/
def ls : Program := fun p =>
  let o : Options :=
    ⟨"aABcCdDfFgGhHiklLmnNopqQrRsStuUvxXZ1", "wTIK",
      [("all", 'a'), ("almost-all", 'A'), ("ignore-backups", 'B'), ("directory", 'd'),
        ("human-readable", 'h'), ("inode", 'i'), ("reverse", 'r'), ("recursive", 'R'),
        ("size", 's'),
        ("quote-name", 'Q'), ("literal", 'N'), ("width", 'w'), ("no-group", 'G'), ("classify", 'F'),
        ("file-type", 'p'), ("color", 'c'), ("zero", 'Z')], true⟩
  let words := p.arguments.filter fun w => !"--color".toList.isPrefixOf w.toList
  withOptions o 2 { p with arguments := words } fun g => do
    let m ← get
    let t := m.tree
    let mut status := 0
    let mut found : List Entry := []
    for path in if g.operands.isEmpty then ["."] else g.operands do
      match if g.has 'd' then t.locateEntry (pathOf path) else t.locate (pathOf path),
          t.locateEntry (pathOf path) with
      | .ok place, _ | .error _, .ok place => found := found ++ [⟨path, place⟩]
      | .error e, .error _ =>
        status := 2
        p.report ("cannot access " ++ named path ++ ": " ++ e.wording)
    let apart (e : Entry) : Bool := !g.has 'd' && e.isFolder t
    let files := ordered g t (found.filter fun e => !apart e)
    let folders := ordered g t (found.filter apart)
    let folders : List (String × Location) :=
      folders.flatMap fun e =>
        if g.has 'R' then foldersBelow g t (t.nodes.length + 1) e.name e.place
        else [(e.name, e.place)]
    let print (entries : List Entry) : Act Unit :=
      p.print (String.ofList (shown g (entries.map (marked g t m.runnable))))
    print files
    let titled := 1 < g.operands.length || g.has 'R'
    let mut first := files.isEmpty
    for (path, place) in folders do
      if titled then
        p.print ((if first then "" else "\n") ++ path ++ ":\n")
      first := false
      print (ordered g t (entriesOf g t place))
    return status

/-! ### Facts about files -/

/-- A fact about a file, by the letter for it. -/
def fact (m : Machine) (e : Entry) (letter : Char) : Option String :=
  let isFolder := m.tree.hasFolder e.place
  let isDevice :=
    match m.tree.node? e.place with
    | some (.device _) => true
    | _ => false
  let target := m.tree.link? e.place
  let runs := isFolder || m.runnable.contains e.place
  match letter with
  | 'n' => some e.name
  | 'N' =>
    let behind := target.elim "" fun p => " -> " ++ Quoting.shown (Octetwise.spread p.text)
    some (Quoting.shown e.name ++ behind)
  | 's' => some (toString (if isDevice then 0 else e.size m.tree))
  | 'F' => some (if target.isSome then "symbolic link"
      else if isFolder then "directory" else if isDevice then "character special file"
      else if e.size m.tree = 0 then "regular empty file" else "regular file")
  | 'a' => some (if target.isSome then "777" else if runs then "755" else "644")
  | 'A' => some (if target.isSome then "lrwxrwxrwx"
      else (if isFolder then "d" else "-") ++ if runs then "rwxr-xr-x" else "rw-r--r--")
  | 'U' | 'G' => some "root"
  | 'u' | 'g' => some "0"
  | _ => none

/-- A format with facts in the places of letters behind percent signs. -/
def filled (m : Machine) (e : Entry) : List Char → List Char
  | '%' :: '%' :: rest => '%' :: filled m e rest
  | '%' :: c :: rest => ((fact m e c).getD "?").toList ++ filled m e rest
  | c :: rest => c :: filled m e rest
  | [] => []

/-- Prints facts about files by a format. -/
def stat : Program := fun p =>
  let o : Options :=
    ⟨"Lft", "cP", [("format", 'c'), ("printf", 'P'), ("dereference", 'L'),
    ("file-system", 'f')], true⟩
  withOptions o 1 p fun g => do
    if g.operands.isEmpty then misused p 1 "missing operand"
    else
      eachOperand g.operands fun path => do
        let m ← get
        let found :=
          if g.has 'L' then m.tree.locate (pathOf path) else m.tree.locateEntry (pathOf path)
        match found with
        | .error e => p.fail 1 ("cannot statx " ++ named path ++ ": " ++ e.wording)
        | .ok place =>
          let known : Escapes := ⟨true, true, false, true, false⟩
          let text (format : String) : String :=
            String.ofList (filled m ⟨path, place⟩ format.toList)
          match g.last? ['c', 'P'] with
          | some 'P' => p.print (text (known.resolve ((g.value? 'P').getD "")).1)
          | _ => p.print (text ((g.value? 'c').getD "  File: %n") ++ "\n")
          return 0

end WidgetForge.Utility.Listing
