import WidgetForge.Disk.Entries
import WidgetForge.Machine.Launch
import WidgetForge.Shell.Pattern
import WidgetForge.Text.Replace
import WidgetForge.Utility.Files

/-!
# Finding files

The program that visits files and folders and asks of each whether tests hold of it. Tests are
joined to larger ones, and some of them do something: print the path, run a command or delete the
file.
-/

namespace WidgetForge.Utility.Finding

open Disk Machine Text

/-- A file that is looked at: its path and where it stands. -/
structure Candidate where
  /-- The path. -/
  path : String
  /-- Where it stands. -/
  place : Location
  /-- How deep it is below where the search began. -/
  depth : Nat

/-- What is asked of a file, or done with it. -/
inductive Test where
  /-- Its last name matches a pattern. -/
  | name (pattern : Shell.Pattern) (folded : Bool)
  /-- Its path matches a pattern. -/
  | path (pattern : Shell.Pattern)
  /-- It is a folder, or it is a file. -/
  | kind (letter : Char)
  /-- It is empty. -/
  | empty
  /-- It has so many octets, or blocks of octets. -/
  | size (order : Ordering) (count unit : Nat)
  /-- It is always so. -/
  | always (b : Bool)
  /-- Its path is printed, with a mark behind it. -/
  | print (lineEnd : Char)
  /-- It is printed by a format. -/
  | format (text : List Char)
  /-- A command is run with its path. -/
  | run (words : List String)
  /-- It is taken away. -/
  | delete
  /-- What is in it is not looked at. -/
  | prune
  /-- The search ends. -/
  | quit
  /-- Another test fails. -/
  | not (t : Test)
  /-- Both of two tests. -/
  | and (a b : Test)
  /-- One of two tests. -/
  | or (a b : Test)
  /-- The second of two tests, behind the first. -/
  | comma (a b : Test)

/-- Whether a test does something. -/
def Test.acts : Test → Bool
  | .print _ | .format _ | .run _ | .delete | .quit => true
  | .not t => t.acts
  | .and a b | .or a b | .comma a b => a.acts || b.acts
  | _ => false

/-- The marks of a pattern. -/
def patternOf (text : String) (folded : Bool) : Shell.Pattern :=
  let rec marks : List Char → List Shell.Mark
    | '\\' :: c :: rest => ⟨c, true⟩ :: marks rest
    | c :: rest => ⟨c, false⟩ :: marks rest
    | [] => []
  Shell.Pattern.ofMarks (marks (if folded then text.toList.map Char.toLower else text.toList))

/-- The test by a size. -/
def sizeTest (word : String) : Except String Test :=
  let (order, cs) : Ordering × List Char :=
    match word.toList with
    | '+' :: cs => (.gt, cs)
    | '-' :: cs => (.lt, cs)
    | cs => (.eq, cs)
  let digits := cs.takeWhile Char.isDigit
  let units := [("", 512), ("b", 512), ("c", 1), ("w", 2), ("k", 1024), ("M", 1024 * 1024)]
  match digits.isEmpty, units.lookup (String.ofList (cs.drop digits.length)) with
  | false, some n => .ok (.size order (digitsValue digits) n)
  | _, _ => .error ("Invalid argument `" ++ word ++ "' to -size")

/-- Tests that have been read and the words behind them. -/
abbrev Reading := Except String (Test × List String)

mutual

/-- Reads tests with commas between them; `fuel` bounds the number of words. -/
def commas : Nat → List String → Reading
  | 0, _ => .error "invalid expression"
  | fuel + 1, ws => do
    let (a, rest) ← alternatives fuel ws
    match rest with
    | "," :: rest =>
      let (b, rest) ← commas fuel rest
      return (.comma a b, rest)
    | rest => return (a, rest)

/-- Reads alternatives. -/
def alternatives : Nat → List String → Reading
  | 0, _ => .error "invalid expression"
  | fuel + 1, ws => do
    let (a, rest) ← conjunction fuel ws
    match rest with
    | w :: more =>
      if w = "-o" || w = "-or" then
        let (b, rest) ← alternatives fuel more
        return (.or a b, rest)
      else return (a, rest)
    | [] => return (a, [])

/-- Reads tests that must all hold. -/
def conjunction : Nat → List String → Reading
  | 0, _ => .error "invalid expression"
  | fuel + 1, ws => do
    let (a, rest) ← single fuel ws
    match rest with
    | [] => return (a, [])
    | w :: more =>
      if w = "-o" || w = "-or" || w = ")" || w = "," then return (a, rest)
      else
        let (b, rest) ← conjunction fuel (if w = "-a" || w = "-and" then more else rest)
        return (.and a b, rest)

/-- Reads one test. -/
def single : Nat → List String → Reading
  | 0, _ => .error "invalid expression"
  | fuel + 1, ws =>
    let missing (w : String) : Reading := .error ("missing argument to `" ++ w ++ "'")
    match ws with
    | [] => .error "invalid expression"
    | w :: rest =>
      let value (f : String → Except String Test) : Reading :=
        match rest with
        | [] => missing w
        | v :: left => (f v).map fun t => (t, left)
      match w with
      | "!" | "-not" => do
        let (t, left) ← single fuel rest
        return (.not t, left)
      | "(" => do
        let (t, left) ← commas fuel rest
        match left with
        | ")" :: left => return (t, left)
        | _ =>
          throw ("invalid expression; " ++
            "I was expecting to find a ')' somewhere but did not see one.")
      | "-name" => value fun v => .ok (.name (patternOf v false) false)
      | "-iname" => value fun v => .ok (.name (patternOf v true) true)
      | "-path" | "-wholename" => value fun v => .ok (.path (patternOf v false))
      | "-type" =>
        value fun v =>
          match v.toList with
          | [c] =>
            if "bcdpflsD".toList.contains c then .ok (.kind c)
            else .error ("Unknown argument to -type: " ++ v)
          | _ => .error ("Arguments to -type should contain only one letter")
      | "-size" => value sizeTest
      | "-empty" => .ok (.empty, rest)
      | "-true" => .ok (.always true, rest)
      | "-false" => .ok (.always false, rest)
      | "-print" => .ok (.print '\n', rest)
      | "-print0" => .ok (.print (Char.ofNat 0), rest)
      | "-printf" => value fun v => .ok (.format v.toList)
      | "-delete" => .ok (.delete, rest)
      | "-prune" => .ok (.prune, rest)
      | "-quit" => .ok (.quit, rest)
      | "-exec" | "-execdir" | "-ok" =>
        let isEnd (w : String) : Bool := w = ";" || w = "+"
        let words := rest.takeWhile fun w => !isEnd w
        if words.length = rest.length then missing w
        else .ok (.run words, rest.drop (words.length + 1))
      | w => .error ("unknown predicate `" ++ w ++ "'")

end

/-- What happens while a file is looked at: whether the test holds, whether what is in the file is
not looked at, whether the search ends, and the status. -/
structure Verdict where
  /-- Whether the test holds. -/
  holds : Bool
  /-- Whether what is in it is not looked at. -/
  pruned : Bool
  /-- Whether the search ends. -/
  ended : Bool
  /-- The status. -/
  status : Nat

/-- A format with facts about a file. -/
def formatted (m : Machine) (c : Candidate) : List Char → List Char
  | '\\' :: 'n' :: rest => '\n' :: formatted m c rest
  | '\\' :: 't' :: rest => '\t' :: formatted m c rest
  | '\\' :: '0' :: rest => Char.ofNat 0 :: formatted m c rest
  | '\\' :: '\\' :: rest => '\\' :: formatted m c rest
  | '%' :: letter :: rest =>
    let size := ((m.tree.file? c.place).map List.length).getD 4096
    let text : List Char :=
      match letter with
      | 'p' => c.path.toList
      | 'f' => lastName c.path.toList
      | 'h' => folderName c.path.toList
      | 's' => Nat.toDigits 10 size
      | 'd' => Nat.toDigits 10 c.depth
      | 'y' =>
        if m.tree.hasFolder c.place then ['d']
        else if (m.tree.link? c.place).isSome then ['l']
        else ['f']
      | '%' => ['%']
      | c => ['%', c]
    text ++ formatted m c rest
  | c' :: rest => c' :: formatted m c rest
  | [] => []

/-- Looks at a file. -/
def Test.look (library : Library) (p : Invocation) (c : Candidate) : Test → Act Verdict
  | .name pattern folded => do
    let name := lastName c.path.toList
    return ⟨pattern.holds (if folded then name.map Char.toLower else name), false, false, 0⟩
  | .path pattern => return ⟨pattern.holds c.path.toList, false, false, 0⟩
  | .kind letter => do
    let t := (← get).tree
    let isFile := (t.file? c.place).isSome
    let isLink := (t.link? c.place).isSome
    return ⟨(letter = 'd' && t.hasFolder c.place) || (letter = 'f' && isFile) ||
      (letter = 'l' && isLink), false, false, 0⟩
  | .empty => do
    let t := (← get).tree
    let isEmpty :=
      if t.hasFolder c.place then (t.children c.place).isEmpty else t.file? c.place = some []
    return ⟨isEmpty, false, false, 0⟩
  | .size order count unit => do
    let size := (((← get).tree.file? c.place).map List.length).getD 4096
    return ⟨compare ((size + unit - 1) / unit) count = order, false, false, 0⟩
  | .always b => return ⟨b, false, false, 0⟩
  | .print lineEnd => do
    p.print (c.path ++ String.singleton lineEnd)
    return ⟨true, false, false, 0⟩
  | .format text => do
    p.print (String.ofList (formatted (← get) c text))
    return ⟨true, false, false, 0⟩
  | .run words => do
    let filled := words.map fun w =>
      replaceAll w "\x7b\x7d" c.path
    match ← Library.launch library p filled with
    | .ok status => return ⟨status = 0, false, false, 0⟩
    | .error e =>
      p.report (named (filled.headD "") ++ ": " ++ e.wording)
      return ⟨false, false, false, 0⟩
  | .delete => do
    if c.path = "." then return ⟨true, false, false, 0⟩
    let isFolder := (← get).tree.hasFolder c.place
    match ← Machine.change fun t =>
        if isFolder then t.removeFolder (pathOf c.path) else t.unlink (pathOf c.path) with
    | .ok () => return ⟨true, false, false, 0⟩
    | .error e =>
      p.report ("cannot delete " ++ named c.path ++ ": " ++ e.wording)
      return ⟨false, false, false, 1⟩
  | .prune => return ⟨true, true, false, 0⟩
  | .quit => return ⟨true, false, true, 0⟩
  | .not t => do
    let v ← t.look library p c
    return { v with holds := !v.holds }
  | .and a b => do
    let v ← a.look library p c
    if !v.holds || v.ended then return v
    let w ← b.look library p c
    return ⟨w.holds, v.pruned || w.pruned, w.ended, max v.status w.status⟩
  | .or a b => do
    let v ← a.look library p c
    if v.holds || v.ended then return v
    let w ← b.look library p c
    return ⟨w.holds, v.pruned || w.pruned, w.ended, max v.status w.status⟩
  | .comma a b => do
    let v ← a.look library p c
    if v.ended then return v
    let w ← b.look library p c
    return ⟨w.holds, v.pruned || w.pruned, w.ended, max v.status w.status⟩

/-- Whether a test takes files away, so that folders come behind what is in them. -/
def Test.deletes : Test → Bool
  | .delete => true
  | .not t => t.deletes
  | .and a b | .or a b | .comma a b => a.deletes || b.deletes
  | _ => false

/-- How a search goes through folders. -/
structure Route where
  /-- The least depth of a file that is looked at. -/
  least : Nat
  /-- The greatest depth. -/
  most : Option Nat
  /-- Whether folders come behind what is in them. -/
  after : Bool

/-- Looks at a file and at all that is in it; `fuel` bounds the depth. -/
def visit (library : Library) (p : Invocation) (r : Route) (test : Test) :
    Nat → Candidate → Act Verdict
  | 0, _ => return ⟨true, false, false, 0⟩
  | fuel + 1, c => do
    let t := (← get).tree
    let look : Act Verdict :=
      if r.least ≤ c.depth then test.look library p c else return ⟨true, false, false, 0⟩
    let names := if t.hasFolder c.place then t.children c.place else []
    let before ← if r.after then pure ⟨true, false, false, 0⟩ else look
    let mut verdict : Verdict := before
    if !before.ended && !before.pruned && r.most.all (c.depth < ·) then
      for name in names do
        if !verdict.ended then
          let slash := if Pathname.endsWithSlash ⟨c.path⟩ then "" else "/"
          let inner : Candidate :=
            ⟨c.path ++ slash ++ Octetwise.spread name, c.place ++ [name], c.depth + 1⟩
          let v ← visit library p r test fuel inner
          verdict := { verdict with ended := v.ended, status := max verdict.status v.status }
    if r.after && !verdict.ended then
      let v ← look
      verdict := { verdict with ended := v.ended, status := max verdict.status v.status }
    return verdict

/-- The words without those that say how deep a search goes, and what they say. -/
def routeOf : List String → Route → Except String (List String × Route)
  | [], r => .ok ([], r)
  | w :: rest, r =>
    let depth (f : Nat → Route) : Except String (List String × Route) :=
      match rest with
      | [] => .error ("missing argument to `" ++ w ++ "'")
      | v :: left =>
        match plainNumber? v.toList with
        | some n => routeOf left (f n)
        | none =>
          .error ("Expected a positive decimal integer argument to " ++ w ++ ", but got " ++
            Quoting.quoted v)
    if w = "-maxdepth" then depth fun n => { r with most := some n }
    else if w = "-mindepth" then depth fun n => { r with least := n }
    else if w = "-depth" || w = "-d" then routeOf rest { r with after := true }
    else if w = "-mount" || w = "-xdev" || w = "-noleaf" then routeOf rest r
    else (routeOf rest r).map fun (words, r) => (w :: words, r)

/-- Looks for files and does something with them. -/
def program (library : Library) : Program := fun p => do
  let isTest (w : String) : Bool :=
    match w.toList with
    | ['-'] => false
    | '-' :: _ => true
    | ['!'] | ['('] | [')'] | [','] => true
    | _ => false
  let words := p.arguments.dropWhile fun w => w = "-L" || w = "-H" || w = "-P"
  let paths := words.takeWhile fun w => !isTest w
  match routeOf (words.drop paths.length) ⟨0, none, false⟩ with
  | .error complaint => p.fail 1 complaint
  | .ok (rest, route) =>
    let read : Reading :=
      if rest.isEmpty then .ok (.always true, []) else commas (8 * rest.length + 8) rest
    match read with
    | .error complaint => p.fail 1 complaint
    | .ok (_, extra :: _) =>
      if extra = ")" then p.fail 1 "invalid expression; you have too many ')'"
      else p.fail 1 ("paths must precede expression: `" ++ extra ++ "'")
    | .ok (test, []) =>
      let test := if test.acts then test else .and test (.print '\n')
      let route := { route with after := route.after || test.deletes }
      let mut status := 0
      let mut ended := false
      for path in if paths.isEmpty then ["."] else paths do
        if !ended then
          match (← get).tree.locateEntry (pathOf path) with
          | .error e =>
            status := 1
            p.report (named path ++ ": " ++ e.wording)
          | .ok place =>
            let depth := (← get).tree.nodes.length + 1
            let v ← visit library p route test depth ⟨path, place, 0⟩
            status := max status v.status
            ended := v.ended
      return status

end WidgetForge.Utility.Finding
