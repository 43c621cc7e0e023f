import WidgetForge.Utility.Options
import WidgetForge.Text.Split

/-!
# Programs that work on the names of files
-/

namespace WidgetForge.Utility

open Disk Machine Text

/-- A text without the slashes at its end. -/
def withoutEndSlashes (cs : List Char) : List Char := (cs.reverse.dropWhile (· = '/')).reverse

/-- The last name of a path; that of the root is a slash. -/
def lastName (cs : List Char) : List Char :=
  match withoutEndSlashes cs with
  | [] => cs.take 1
  | cs => (cs.reverse.takeWhile (· ≠ '/')).reverse

/-- A name without an ending, unless it is all of the name. -/
def withoutEnding (ending name : List Char) : List Char :=
  if ending ≠ name && ending.isSuffixOf name then name.take (name.length - ending.length) else name

/-- The path of the folder that the last name of a path stands in. -/
def folderName (cs : List Char) : List Char :=
  match withoutEndSlashes cs with
  | [] => if cs.isEmpty then ['.'] else ['/']
  | cs =>
    match cs.reverse.dropWhile (· ≠ '/') with
    | [] => ['.']
    | before =>
      let folder := withoutEndSlashes before.reverse
      if folder.isEmpty then ['/'] else folder

/-- Ends a printed word with a line end, or with a NUL character if that is asked for. -/
def Given.finished (g : Given) (cs : List Char) : String :=
  String.ofList (cs ++ [if g.has 'z' then Char.ofNat 0 else '\n'])

/-- Prints the last names of paths. -/
def basename : Program := fun p =>
  let o : Options :=
    ⟨"az", "s", [("multiple", 'a'), ("suffix", 's'), ("zero", 'z')], false⟩
  withOptions o 1 p fun g => do
    let printName (ending : String) (path : String) : Act Unit :=
      p.print (g.finished (withoutEnding ending.toList (lastName path.toList)))
    if g.operands.isEmpty then misused p 1 "missing operand"
    else if g.has 'a' || g.has 's' then
      for path in g.operands do printName ((g.value? 's').getD "") path
      return 0
    else
      match g.operands with
      | _ :: _ :: extra :: _ =>
        misused p 1 ("extra operand " ++ Quoting.quoted extra)
      | path :: rest =>
        printName (rest.headD "") path
        return 0
      | [] => return 1

/-- Prints the folders of paths. -/
def dirname : Program := fun p =>
  withOptions ⟨"z", "", [("zero", 'z')], false⟩ 1 p fun g => do
    if g.operands.isEmpty then misused p 1 "missing operand"
    else
      for path in g.operands do p.print (g.finished (folderName path.toList))
      return 0

/-! ### The places that paths lead to -/

/-- How much of a path must be there. -/
inductive Presence where
  /-- All of it. -/
  | whole
  /-- All but the last name. -/
  | folder
  /-- None of it. -/
  | nothing
  deriving DecidableEq

/-- The location that names lead to if nothing stands in the way. -/
def plainWalk (place : Location) : List String → Location
  | [] => place
  | name :: rest =>
    if name = "." then plainWalk place rest
    else if name = ".." then plainWalk place.dropLast rest
    else plainWalk (place ++ [name]) rest

/-- The location that a path leads to. -/
def resolve (t : Tree) (presence : Presence) (p : Pathname) : Except OsError Location :=
  if p.text.isEmpty then .error .noEntry
  else
    match presence, t.locate p with
    | .nothing, _ => .ok (plainWalk (t.start p) p.names)
    | _, .ok place => .ok place
    | .whole, .error e => .error e
    | .folder, .error e =>
      match t.locateLast p with
      | .error e => .error e
      | .ok (_, none) => .error e
      | .ok (folder, some name) =>
        if (t.node? (folder ++ [name])).isSome then .error e else .ok (folder ++ [name])

/-- The path of a location. -/
def pathText (place : Location) : List Char :=
  (Octetwise.spread ("/" ++ "/".intercalate place)).toList

/-- How much of a path must be there by the options that are given. -/
def presenceOf (g : Given) (letters : List Char) : Presence :=
  match g.last? letters with
  | some 'e' => .whole
  | some 'm' => .nothing
  | _ => .folder

/-- Prints the paths of the places that paths lead to. -/
def realpath : Program := fun p =>
  let o : Options :=
    ⟨"emLPqsz", "", [("canonicalize-existing", 'e'), ("canonicalize-missing", 'm'),
      ("logical", 'L'), ("physical", 'P'), ("quiet", 'q'), ("strip", 's'), ("no-symlinks", 's'),
      ("zero", 'z')], true⟩
  withOptions o 1 p fun g => do
    if g.operands.isEmpty then misused p 1 "missing operand"
    else
      let mut status := 0
      for path in g.operands do
        match resolve (← get).tree (presenceOf g ['e', 'm']) (pathOf path) with
        | .ok place => p.print (g.finished (pathText place))
        | .error e =>
          status := 1
          if !g.has 'q' then reportFile p path e
      return status

/-- Prints to what path symbolic links lead, or where paths lead to if it is asked to go all the
way. -/
def readlink : Program := fun p =>
  let o : Options :=
    ⟨"femnqsvz", "", [("canonicalize", 'f'), ("canonicalize-existing", 'e'),
      ("canonicalize-missing", 'm'), ("no-newline", 'n'), ("quiet", 'q'), ("silent", 's'),
      ("verbose", 'v'), ("zero", 'z')], true⟩
  withOptions o 1 p fun g => do
    if g.operands.isEmpty then misused p 1 "missing operand"
    else
      let far := g.has 'f' || g.has 'e' || g.has 'm'
      let mut status := 0
      for path in g.operands do
        let found : Except OsError (List Char) :=
          let t := (← get).tree
          if far then (resolve t (presenceOf g ['f', 'e', 'm']) (pathOf path)).map pathText
          else
            match t.locateEntry (pathOf path) with
            | .ok place =>
              match t.link? place with
              | some target => .ok (Octetwise.spread target.text).toList
              | none => .error .invalid
            | .error e => .error e
        match found with
        | .ok text =>
          let bare := g.has 'n' && g.operands.length = 1
          p.print (if bare then String.ofList text else g.finished text)
        | .error e =>
          status := 1
          if g.has 'v' then reportFile p path e
      return status

end WidgetForge.Utility
