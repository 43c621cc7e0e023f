import WidgetForge.Utility.Lines
import WidgetForge.Utility.Names

/-!
# Programs that make, take away and move files
-/

namespace WidgetForge.Utility

open Disk Machine Text

/-- Does something with each operand and gives the worst status. -/
def eachOperand (operands : List String) (f : String → Act Nat) : Act Nat := do
  let mut status := 0
  for operand in operands do
    status := max status (← f operand)
  return status

/-- A path as it is named in complaints about it. -/
def named (path : String) : String := Quoting.forShell path

/-- Whether a folder stands at a path. -/
def isFolderAt (path : String) : Act Bool := Machine.look fun t => t.isFolder (pathOf path)

/-- What stands at a path, and where. -/
def nodeAt (path : String) : Act (Except OsError Location) :=
  Machine.look fun t => t.locate (pathOf path)

/-- Where the entry stands that a path names; a symbolic link at the end is not followed. -/
def entryAt (path : String) : Act (Except OsError Location) :=
  Machine.look fun t => t.locateEntry (pathOf path)

/-- Makes a folder. -/
def makeFolderAt (path : String) : Act (Except OsError Unit) :=
  Machine.change fun t => (t.makeFolder (pathOf path)).mapError osErrorOf

/-- The starts of a path that end with one of its names. -/
def stages (path : String) : List String :=
  let cs := path.toList
  let ends := (List.range (cs.length + 1)).filter fun n =>
    0 < n && (cs[n - 1]?).any (· ≠ '/') && (cs[n]?).all (· = '/')
  ends.map fun n => String.ofList (cs.take n)

/-! ### Folders -/

/-- Whether a word is a way to write permissions. -/
def isMode (word : String) : Bool :=
  let cs := word.toList
  let digits := cs.all fun c => '0' ≤ c && c ≤ '7'
  let clause (cs : List Char) : Bool :=
    let rest := cs.dropWhile fun c => "ugoa".toList.contains c
    (rest.head?.any fun c => "+-=".toList.contains c) &&
      rest.all fun c => "+-=rwxXstugo".toList.contains c
  !cs.isEmpty && (digits || (split ',' cs).all clause)

/-- Makes folders. -/
def mkdir : Program := fun p =>
  let o : Options := ⟨"pv", "m", [("parents", 'p'), ("verbose", 'v'), ("mode", 'm')], true⟩
  withOptions o 1 p fun g => do
    let complain (path : String) (e : OsError) : Act Nat :=
      p.fail 1 ("cannot create directory " ++ named path ++ ": " ++ e.wording)
    let tell (path : String) : Act Unit :=
      if g.has 'v' then p.print (p.name ++ ": created directory " ++ named path ++ "\n")
      else pure ()
    if g.operands.isEmpty then misused p 1 "missing operand"
    else if (g.values 'm').any fun mode => !isMode mode then
      p.fail 1 ("invalid mode " ++ Quoting.quoted ((g.value? 'm').getD ""))
    else
      eachOperand g.operands fun path => do
        if !g.has 'p' then
          match ← makeFolderAt path with
          | .ok () =>
            tell path
            return 0
          | .error e => complain path e
        else if path.isEmpty then complain path .noEntry
        else
          let all := stages path
          for stage in all do
            if !(← isFolderAt stage) then
              match ← makeFolderAt stage with
              | .ok () => tell stage
              | .error e =>
                let e := if e = .entryExists && all.getLast? ≠ some stage then .notFolder else e
                return ← complain stage e
          return 0

/-- Takes away empty folders. -/
def rmdir : Program := fun p =>
  let o : Options :=
    ⟨"pvi", "", [("parents", 'p'), ("verbose", 'v'), ("ignore-fail-on-non-empty", 'i')], true⟩
  withOptions o 1 p fun g => do
    if g.operands.isEmpty then misused p 1 "missing operand"
    else
      eachOperand g.operands fun path => do
        let all :=
          if g.has 'p' then (stages path).reverse.filter fun stage => stage ≠ path else []
        for stage in path :: all do
          if g.has 'v' then p.print (p.name ++ ": removing directory, " ++ named stage ++ "\n")
          match ← Machine.change fun t => t.removeFolder (pathOf stage) with
          | .ok () => pure ()
          | .error e =>
            if e = .notEmpty && g.has 'i' then return 0
            let doing :=
              if stage = path then "failed to remove " else "failed to remove directory "
            return ← p.fail 1 (doing ++ named stage ++ ": " ++ e.wording)
        return 0

/-! ### Taking away -/

/-- The locations at and below one, those below first, each with its path. -/
def below (t : Tree) (path : String) (place : Location) : List (String × Location) :=
  let inside :=
    (t.nodes.filter fun entry => place.isPrefixOf entry.1 && entry.1 ≠ place).map Prod.fst
  let sorted := inside.mergeSort fun a b => b.length ≤ a.length
  let behind (l : Location) : String :=
    path ++ String.join ((l.drop place.length).map fun name => "/" ++ Octetwise.spread name)
  (sorted.map fun l => (behind l, l)) ++ [(path, place)]

/-- Takes away files. -/
def rm : Program := fun p =>
  let o : Options :=
    ⟨"dfirRvI", "", [("dir", 'd'), ("force", 'f'), ("recursive", 'r'), ("verbose", 'v')], true⟩
  withOptions o 1 p fun g => do
    let deep := g.has 'r' || g.has 'R'
    let fail (path : String) (e : OsError) : Act Nat :=
      p.fail 1 ("cannot remove " ++ named path ++ ": " ++ e.wording)
    let tell (text : String) : Act Unit :=
      if g.has 'v' then p.print ("removed " ++ text ++ "\n") else pure ()
    if g.operands.isEmpty then if g.has 'f' then return 0 else misused p 1 "missing operand"
    else
      eachOperand g.operands fun path => do
        let last := String.ofList (lastName path.toList)
        match ← entryAt path with
        | .error e =>
          if g.has 'f' && (e = .noEntry || e = .notFolder) then return 0 else fail path e
        | .ok place =>
          let t := (← get).tree
          if !t.hasFolder place then
            match ← Machine.change fun t => t.unlink (pathOf path) with
            | .ok () =>
              tell (named path)
              return 0
            | .error e => fail path e
          else if last = "." || last = ".." then
            p.fail 1 ("refusing to remove '.' or '..' directory: skipping " ++ named path)
          else if place.isEmpty && deep then
            p.report ("it is dangerous to operate recursively on " ++ named path)
            p.fail 1 "use --no-preserve-root to override this failsafe"
          else if deep then
            let path := String.ofList (withoutEndSlashes path.toList)
            for (inside, l) in below t path place do
              tell ((if t.hasFolder l then "directory " else "") ++ named inside)
            let _ ← Machine.change fun t => .ok (t.prune place)
            return 0
          else if g.has 'd' then
            match ← Machine.change fun t => t.removeFolder (pathOf path) with
            | .ok () =>
              tell ("directory " ++ named path)
              return 0
            | .error e => fail path e
          else fail path .isFolder

/-- Takes away one file. -/
def unlink : Program := fun p => do
  match p.arguments with
  | [] => misused p 1 "missing operand"
  | [path] =>
    match ← Machine.change fun t => t.unlink (pathOf path) with
    | .ok () => return 0
    | .error e => p.fail 1 ("cannot unlink " ++ named path ++ ": " ++ e.wording)
  | _ :: extra :: _ => misused p 1 ("extra operand " ++ Quoting.quoted extra)

/-- Makes files that are not there. -/
def touch : Program := fun p =>
  let o : Options :=
    ⟨"acfhm", "drtT", [("no-create", 'c'), ("date", 'd'), ("reference", 'r'), ("time", 'T'),
      ("no-dereference", 'h')], true⟩
  withOptions o 1 p fun g => do
    if g.operands.isEmpty then misused p 1 "missing file operand"
    else
      eachOperand g.operands fun path => do
        match ← nodeAt path with
        | .ok _ => return 0
        | .error e =>
          if g.has 'c' then return 0
          else if Pathname.endsWithSlash ⟨path⟩ then
            p.fail 1 ("setting times of " ++ named path ++ ": " ++ e.wording)
          else
            match ← p.store path .append "" with
            | .ok () => return 0
            | .error e => p.fail 1 ("cannot touch " ++ named path ++ ": " ++ e.wording)

/-! ### Moving and copying -/

/-- A path in a folder. -/
def inside (folder source : String) : String :=
  let name := String.ofList (lastName source.toList)
  if folder.isEmpty || Pathname.endsWithSlash ⟨folder⟩ then folder ++ name
  else folder ++ "/" ++ name

/-- The pairs of what is moved or copied and its goal, or a complaint. -/
def goals (g : Given) : Act (Except (String × Bool) (List (String × String))) := do
  match g.value? 't', g.operands with
  | _, [] => return .error ("missing file operand", true)
  | some folder, operands =>
    match ← nodeAt folder with
    | .error e => return .error ("target directory " ++ named folder ++ ": " ++ e.wording, false)
    | .ok _ =>
      if ← isFolderAt folder then
        return .ok (operands.map fun source => (source, inside folder source))
      else return .error ("target directory " ++ named folder ++ ": Not a directory", false)
  | none, [source] =>
    return .error ("missing destination file operand after " ++ Quoting.forShell source, true)
  | none, operands =>
    let target := operands.getLastD ""
    let sources := operands.dropLast
    if g.has 'T' then
      match sources with
      | [source] => return .ok [(source, target)]
      | _ => return .error ("extra operand " ++ Quoting.quoted (operands.getD 2 ""), true)
    else if ← isFolderAt target then
      return .ok (sources.map fun source => (source, inside target source))
    else
      match sources with
      | [source] => return .ok [(source, target)]
      | _ =>
        let e ←
          match ← nodeAt target with
          | .ok _ => pure OsError.notFolder
          | .error e => pure e
        return .error ("target " ++ named target ++ ": " ++ e.wording, false)

/-- Does something with each pair of a source and its goal. -/
def eachGoal (p : Invocation) (g : Given) (f : String → String → Act Nat) : Act Nat := do
  match ← goals g with
  | .error (complaint, true) => misused p 1 complaint
  | .error (complaint, false) => p.fail 1 complaint
  | .ok pairs =>
    let mut status := 0
    for (source, goal) in pairs do
      status := max status (← f source goal)
    return status

/-- Moves files. -/
def mv : Program := fun p =>
  let o : Options :=
    ⟨"finuvT", "t", [("force", 'f'), ("no-clobber", 'n'), ("update", 'u'), ("verbose", 'v'),
      ("no-target-directory", 'T'), ("target-directory", 't')], true⟩
  withOptions o 1 p fun g =>
    eachGoal p g fun source goal => do
      match ← entryAt source with
      | .error e => p.fail 1 ("cannot stat " ++ named source ++ ": " ++ e.wording)
      | .ok place =>
        let t := (← get).tree
        let both := named source ++ " to " ++ named goal
        let found := (t.locate (pathOf goal)).toOption
        if found = some place then
          p.fail 1 (named source ++ " and " ++ named goal ++ " are the same file")
        else if found.isSome && g.has 'n' then return 0
        else if t.hasFolder place && found.any fun l => !t.hasFolder l then
          p.fail 1 ("cannot overwrite non-directory " ++ named goal ++ " with directory " ++
            named source)
        else if !t.hasFolder place && found.any fun l => t.hasFolder l then
          p.fail 1 ("cannot overwrite directory " ++ named goal ++ " with non-directory")
        else
          match ← Machine.change fun t => t.move (pathOf source) (pathOf goal) with
          | .ok () =>
            if g.has 'v' then p.print ("renamed " ++ named source ++ " -> " ++ named goal ++ "\n")
            return 0
          | .error e =>
            if e = .invalid then
              p.fail 1 ("cannot move " ++ named source ++ " to a subdirectory of itself, " ++
                named goal)
            else if e = .notEmpty then
              p.fail 1 ("cannot overwrite " ++ named goal ++ ": " ++ e.wording)
            else p.fail 1 ("cannot move " ++ both ++ ": " ++ e.wording)

/-- The tree with those of some entries that stand at a location or below it copied to another. -/
def copied (entries : List (Location × Node)) (source goal : Location) (t : Tree) : Tree :=
  (entries.filter fun entry => source.isPrefixOf entry.1).foldl
    (fun t entry => t.put (goal ++ entry.1.drop source.length) entry.2) t

/-- Copies files. -/
def cp : Program := fun p =>
  let o : Options :=
    ⟨"abdfHilLnpPrRsuvTx", "tS", [("archive", 'a'), ("force", 'f'), ("no-clobber", 'n'),
      ("recursive", 'r'), ("update", 'u'), ("verbose", 'v'), ("no-target-directory", 'T'),
      ("target-directory", 't')], true⟩
  withOptions o 1 p fun g =>
    eachGoal p g fun source goal => do
      match ← nodeAt source with
      | .error e => p.fail 1 ("cannot stat " ++ named source ++ ": " ++ e.wording)
      | .ok place =>
        let t := (← get).tree
        let found := (t.locate (pathOf goal)).toOption
        let tell (a b : String) : Act Unit :=
          if g.has 'v' then p.print (named a ++ " -> " ++ named b ++ "\n") else pure ()
        if t.hasFolder place then
          if !(g.has 'r' || g.has 'R' || g.has 'a') then
            p.fail 1 ("-r not specified; omitting directory " ++ named source)
          else if found.any fun l => !t.hasFolder l then
            p.fail 1 ("cannot overwrite non-directory " ++ named goal ++ " with directory " ++
              named source)
          else
            let made ← if found.isSome then pure (.ok ()) else makeFolderAt goal
            match made with
            | .error e => p.fail 1 ("cannot create directory " ++ named goal ++ ": " ++ e.wording)
            | .ok () =>
              match (← get).tree.locate (pathOf goal) with
              | .error _ => return 1
              | .ok target =>
                for (path, _) in (below t source place).reverse do
                  tell path (goal ++ String.ofList (path.toList.drop source.length))
                let _ ← Machine.change fun now => .ok (copied t.nodes place target now)
                if place.isPrefixOf target then
                  p.fail 1 ("cannot copy a directory, " ++ named source ++ ", into itself, " ++
                    named goal)
                else return 0
        else if found = some place then
          p.fail 1 (named source ++ " and " ++ named goal ++ " are the same file")
        else if found.any fun l => t.hasFolder l then
          p.fail 1 ("cannot overwrite directory " ++ named goal ++ " with non-directory")
        else if found.isSome && g.has 'n' then return 0
        else
          match ← p.contents source with
          | .error e => p.fail 1 ("error reading " ++ named source ++ ": " ++ e.wording)
          | .ok content =>
            match ← p.store goal .write content with
            | .ok () =>
              tell source goal
              return 0
            | .error e =>
              let e := if e = .isFolder then OsError.notFolder else e
              p.fail 1 ("cannot create regular file " ++ named goal ++ ": " ++ e.wording)

/-- Gives a file another name. There is no telling two names of one file apart from two files that
are alike, as long as neither is changed. -/
def hardLink (p : Invocation) (source goal : String) : Act (Except OsError Unit) := do
  match (← get).tree.locateEntry (pathOf source) with
  | .error e => return .error e
  | .ok place =>
    match (← get).tree.link? place with
    | some target => Machine.change fun t => t.makeLink target (pathOf goal)
    | none =>
      match ← p.contents source with
      | .error _ => return .ok ()
      | .ok content => p.store goal .write content

/-- Gives files another name, or makes symbolic links to paths. -/
def ln : Program := fun p =>
  let o : Options :=
    ⟨"finsvrTPL", "t", [("symbolic", 's'), ("force", 'f'), ("verbose", 'v'), ("relative", 'r'),
      ("no-dereference", 'n'), ("no-target-directory", 'T'), ("target-directory", 't')], true⟩
  withOptions o 1 p fun g => do
    let alone := g.operands.length = 1 && (g.value? 't').isNone
    let g := if alone then { g with operands := g.operands ++ ["."] } else g
    eachGoal p g fun source goal => do
      let kind := if g.has 's' then "symbolic link " else "hard link "
      let t := (← get).tree
      let found := t.locateEntry (pathOf source)
      match found with
      | .error e =>
        if !g.has 's' then
          return ← p.fail 1 ("failed to access " ++ named source ++ ": " ++ e.wording)
      | .ok place =>
        if t.hasFolder place && !g.has 's' then
          return ← p.fail 1 (Quoting.shown source ++ ": hard link not allowed for directory")
      if g.has 'f' then
        let _ ← Machine.change fun t => t.unlink (pathOf goal)
      let made ←
        if (t.locateEntry (pathOf goal)).toBool && !g.has 'f' then pure (.error .entryExists)
        else if g.has 's' then Machine.change fun t => t.makeLink (pathOf source) (pathOf goal)
        else hardLink p source goal
      match made with
      | .ok () =>
        if g.has 'v' then
          let arrow := if g.has 's' then " -> " else " => "
          p.print (named goal ++ arrow ++ named source ++ "\n")
        return 0
      | .error e => p.fail 1 ("failed to create " ++ kind ++ named goal ++ ": " ++ e.wording)

/-! ### Permissions and sizes -/

/-- Whether a way to write permissions makes a file one that may be run, or takes that away. -/
def makesRunnable (mode : String) : Option Bool :=
  let cs := mode.toList
  if cs.all Char.isDigit then
    some ((cs.drop (cs.length - 3)).any fun c => c.toNat % 2 = 1)
  else if !cs.contains 'x' then none
  else some !(cs.takeWhile (· ≠ 'x')).contains '-'

/-- Changes what may be done with files; of that only whether they may be run is kept. -/
def chmod : Program := fun p => do
  let isOption (w : String) : Bool :=
    match w.toList with
    | '-' :: cs => !cs.isEmpty && cs.all fun c => "Rvfc".toList.contains c
    | _ => false
  let words := p.arguments.filter fun w => !isOption w
  let words := if words.head? = some "--" then words.drop 1 else words
  match words with
  | [] => misused p 1 "missing operand"
  | [mode] => misused p 1 ("missing operand after " ++ Quoting.quoted mode)
  | mode :: files =>
    let bare := if mode.toList.head? = some '-' then String.ofList (mode.toList.drop 1) else mode
    if !isMode mode && !isMode bare then misused p 1 ("invalid mode: " ++ Quoting.quoted mode)
    else
      eachOperand files fun path => do
        match ← nodeAt path with
        | .error e => p.fail 1 ("cannot access " ++ named path ++ ": " ++ e.wording)
        | .ok place =>
          match makesRunnable mode with
          | none => return 0
          | some runs =>
            modify fun m =>
              let others := m.runnable.filter (· ≠ place)
              { m with runnable := if runs then place :: others else others }
            return 0

/-- Makes files shorter or longer. -/
def truncate : Program := fun p =>
  let o : Options := ⟨"co", "sr", [("size", 's'), ("no-create", 'c'), ("reference", 'r')], true⟩
  withOptions o 1 p fun g => do
    match g.value? 's' with
    | none => misused p 1 "you must specify either '--size' or '--reference'"
    | some word =>
      let sign := word.toList.head?
      let signed := sign = some '+' || sign = some '-'
      match size? (if signed then word.toList.drop 1 else word.toList) with
      | none => p.fail 1 ("Invalid number: " ++ Quoting.quoted word)
      | some n =>
        if g.operands.isEmpty then misused p 1 "missing file operand"
        else
          eachOperand g.operands fun path => do
            let old : List Char ←
              match ← nodeAt path with
              | .error _ => pure []
              | .ok place => pure (((← get).tree.file? place).getD [] |> Octetwise.read).toList
            if g.has 'c' && !(← nodeAt path).toBool then return 0
            let length :=
              if sign = some '+' then old.length + n
              else if sign = some '-' then old.length - n
              else n
            let new := old.take length ++ List.replicate (length - old.length) (Char.ofNat 0)
            match ← p.store path .write (String.ofList new) with
            | .ok () => return 0
            | .error e =>
              p.fail 1 ("cannot open " ++ named path ++ " for writing: " ++ e.wording)

/-- Makes a file under a name that is free, and prints the name. -/
def mktemp : Program := fun p =>
  let o : Options :=
    ⟨"duqt", "pS", [("directory", 'd'), ("dry-run", 'u'), ("quiet", 'q'), ("tmpdir", 'p'),
      ("suffix", 'S')], true⟩
  withOptions o 1 p fun g => do
    let usual := (p.value? "TMPDIR").getD "/tmp"
    let template := g.operands.headD "tmp.XXXXXXXXXX"
    let folder :=
      if g.has 'p' then some ((g.value? 'p').getD usual)
      else if g.operands.isEmpty || g.has 't' then some usual
      else none
    let path := folder.elim template fun f => f ++ "/" ++ template
    let cs := path.toList
    let behind := cs.reverse.takeWhile (· ≠ 'X')
    let marks := (cs.reverse.drop behind.length).takeWhile (· = 'X')
    let before := cs.take (cs.length - behind.length - marks.length)
    if marks.length < 3 then
      p.fail 1 ("too few X's in template " ++ Quoting.quoted template)
    else
      let candidate (n : Nat) : String :=
        let digits := Nat.toDigits 10 n
        String.ofList
          (before ++ List.replicate (marks.length - digits.length) 'A' ++ digits ++ behind.reverse)
      let t := (← get).tree
      let names := (List.range (t.nodes.length + 1)).map candidate
      let name := (names.find? fun name => !(t.locate (pathOf name)).toBool).getD path
      let made ←
        if g.has 'u' then pure (.ok ())
        else if g.has 'd' then makeFolderAt name
        else p.store name .write ""
      match made with
      | .ok () =>
        p.print (name ++ "\n")
        return 0
      | .error e =>
        let kind := if g.has 'd' then "directory" else "file"
        p.fail 1
          ("failed to create " ++ kind ++ " via template " ++ Quoting.quoted path ++
            ": " ++ e.wording)

end WidgetForge.Utility
