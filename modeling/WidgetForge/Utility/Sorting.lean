import WidgetForge.Utility.Comparison

/-!
# Programs that put lines in order

Lines are compared by keys, which are parts of them; lines that no key tells apart are compared as a
whole.
-/

namespace WidgetForge.Utility.Sorting

open Machine Text

/-- A part of a line by which it is compared. -/
structure Key where
  /-- The fields before it. -/
  field : Nat
  /-- The characters before it in its first field. -/
  char : Nat
  /-- The fields before the one that it ends in, unless it goes on to the end of the line. -/
  endField : Option Nat
  /-- How many characters of the field that it ends in belong to it; none stand for all. -/
  endChar : Nat
  /-- Whether blanks at its start are passed over. -/
  startBlanks : Bool
  /-- Whether blanks at the start of the field that it ends in are passed over. -/
  endBlanks : Bool
  /-- The letters of the ways to compare. -/
  letters : List Char

/-- The letters of the ways to compare. -/
def ways : List Char := "dfghiMnRrV".toList

/-- A number at the front of a text and the rest. -/
def countAt (complaint : String) (cs : List Char) : Except String (Nat × List Char) :=
  let digits := cs.takeWhile Char.isDigit
  if digits.isEmpty then
    .error (complaint ++ ": invalid count at start of " ++ Quoting.quoted (String.ofList cs))
  else .ok (digitsValue digits, cs.drop digits.length)

/-- The key that a word writes. -/
def Key.read (word : String) : Except String Key := do
  let bad {α : Type} (why : String) : Except String α :=
    .error (why ++ ": invalid field specification " ++ Quoting.quoted word)
  let (field, rest) ← countAt "invalid number at field start" word.toList
  if field = 0 then bad "field number is zero"
  let (char, rest) ←
    match rest with
    | '.' :: more => do
      let (n, rest) ← countAt "invalid number after '.'" more
      if n = 0 then bad "character offset is zero"
      pure (n - 1, rest)
    | rest => pure (0, rest)
  let isLetter (c : Char) : Bool := c = 'b' || ways.contains c
  let first := rest.takeWhile isLetter
  let key : Key := ⟨field - 1, char, none, 0, first.contains 'b', false, first.filter (· ≠ 'b')⟩
  match rest.drop first.length with
  | [] => return key
  | ',' :: more => do
    let (last, rest) ← countAt "invalid number after ','" more
    if last = 0 then bad "field number is zero"
    let (endChar, rest) ←
      match rest with
      | '.' :: more => countAt "invalid number after '.'" more
      | rest => pure (0, rest)
    let letters := rest.takeWhile isLetter
    if letters.length < rest.length then bad "stray character in field spec"
    return { key with
      endField := some (last - 1)
      endChar := endChar
      endBlanks := letters.contains 'b'
      letters := key.letters ++ letters.filter (· ≠ 'b') }
  | _ => bad "stray character in field spec"

/-- The text behind so many fields; without a mark a field is blanks and what follows them. -/
def behindFields (mark : Option Char) : Nat → List Char → List Char
  | 0, cs => cs
  | n + 1, cs =>
    match mark with
    | some c => behindFields mark n ((cs.dropWhile (· ≠ c)).drop 1)
    | none => behindFields mark n ((cs.dropWhile isBlank).dropWhile fun c => !isBlank c)

/-- The number of characters up to the end of a field, of which so many come before it. -/
def fieldEnd (mark : Option Char) (before : Nat) (cs : List Char) : Nat :=
  let behind := behindFields mark before cs
  match mark with
  | some c => cs.length - (behind.dropWhile (· ≠ c)).length
  | none => cs.length - (behindFields none 1 behind).length

/-- The part of a line that a key means. -/
def Key.part (mark : Option Char) (line : List Char) (k : Key) : List Char :=
  let behind := behindFields mark k.field line
  let behind := if k.startBlanks then behind.dropWhile isBlank else behind
  let start := line.length - (behind.drop k.char).length
  let stop :=
    match k.endField with
    | none => line.length
    | some before =>
      if k.endChar = 0 then fieldEnd mark before line
      else
        let field := behindFields mark before line
        let field := if k.endBlanks then field.dropWhile isBlank else field
        min line.length (line.length - field.length + k.endChar)
  (line.take stop).drop start

/-- How lines are put in order. -/
structure Manner where
  /-- The keys, each with its own ways to compare. -/
  keys : List Key
  /-- The mark between fields. -/
  mark : Option Char
  /-- Whether lines that no key tells apart are compared as a whole, and then backwards. -/
  lastResort : Option Bool

/-- Turns an order around. -/
def turned (backwards : Bool) (o : Ordering) : Ordering := if backwards then o.swap else o

/-- Compares lines by keys. -/
def byKeys (mark : Option Char) (a b : List Char) : List Key → Ordering
  | [] => .eq
  | k :: rest =>
    (turned (k.letters.contains 'r')
      (Comparison.byLetters k.letters (k.part mark a) (k.part mark b))).then (byKeys mark a b rest)

/-- Compares lines. -/
def Manner.compare (m : Manner) (a b : List Char) : Ordering :=
  (byKeys m.mark a b m.keys).then
    (m.lastResort.elim .eq fun backwards => turned backwards (Comparison.octets a b))

/-- Leaves out each line that is like the one before it. -/
def distinct (same : List Char → List Char → Bool) : List (List Char) → List (List Char)
  | [] => []
  | line :: rest => go line rest
where
  /-- Goes on behind a line. -/
  go (line : List Char) : List (List Char) → List (List Char)
    | [] => [line]
    | next :: rest => if same line next then go line rest else line :: go next rest

/-- The manner that the options ask for, or a complaint. -/
def mannerOf (g : Given) : Except String (Manner × Bool) := do
  let named : List (String × Char) :=
    [("general-numeric", 'g'), ("human-numeric", 'h'), ("month", 'M'), ("numeric", 'n'),
      ("random", 'R'), ("version", 'V')]
  let letters := g.options.filterMap fun (letter, value) =>
    if ways.contains letter then some letter
    else if letter = 'W' then named.lookup value
    else none
  let keys ← (g.values 'k').mapM Key.read
  let blanks := g.has 'b'
  let whole : Key := ⟨0, 0, none, 0, blanks, blanks, letters⟩
  let keys := keys.map fun k =>
    if k.letters.isEmpty && !k.startBlanks && !k.endBlanks then
      { k with letters := letters, startBlanks := blanks, endBlanks := blanks }
    else k
  let keys :=
    if keys.isEmpty && (blanks || letters.any (· ≠ 'r')) then [whole] else keys
  let mark ←
    match (g.value? 't').map String.toList with
    | none => pure none
    | some [] => throw "empty tab"
    | some [c] => pure (some c)
    | some ['\\', '0'] => pure (some (Char.ofNat 0))
    | some cs => throw ("multi-character tab " ++ Quoting.quoted (String.ofList cs))
  for k in keys do
    let kinds := ['n', 'g', 'h', 'M'].countP fun c => k.letters.contains c
    let texts := if ['V', 'R', 'd', 'i'].any fun c => k.letters.contains c then 1 else 0
    if 1 < kinds + texts then
      let shown := "dfghiMnRV".toList.filter fun c =>
        k.letters.contains c && !(c = 'i' && k.letters.contains 'd')
      throw ("options '-" ++ String.ofList shown ++ "' are incompatible")
  let backwards := letters.contains 'r'
  let unique := g.has 'u'
  let lastResort :=
    if (unique && !keys.isEmpty) || g.has 's' then none else some backwards
  let keys := if keys.isEmpty && g.has 's' then [whole] else keys
  return (⟨keys, mark, lastResort⟩, unique)

/-- The options of the program that sorts. -/
def options : Options :=
  ⟨"bdfghiMnRrVcCmsuz", "oStkTWX",
    [("ignore-leading-blanks", 'b'), ("dictionary-order", 'd'), ("ignore-case", 'f'),
      ("general-numeric-sort", 'g'), ("human-numeric-sort", 'h'), ("ignore-nonprinting", 'i'),
      ("month-sort", 'M'), ("numeric-sort", 'n'), ("random-sort", 'R'), ("reverse", 'r'),
      ("version-sort", 'V'), ("merge", 'm'), ("stable", 's'), ("unique", 'u'),
      ("zero-terminated", 'z'), ("output", 'o'), ("buffer-size", 'S'), ("field-separator", 't'),
      ("key", 'k'), ("temporary-directory", 'T'), ("sort", 'W'), ("parallel", 'X')], true⟩

/-- The first line that is out of order, with its number. -/
def firstFault (wrong : List Char → List Char → Bool) : Nat → List (List Char) →
    Option (Nat × List Char)
  | n, a :: b :: rest => if wrong a b then some (n + 1, b) else firstFault wrong (n + 1) (b :: rest)
  | _, _ => none

/-- Says whether the lines of a file are in order. -/
def check (p : Invocation) (g : Given) (m : Manner) (unique : Bool) : Act Nat := do
  let file := g.operands.headD "-"
  match ← p.contents file with
  | .error e => p.fail 2 ("cannot read: " ++ Quoting.shown file ++ ": " ++ e.wording)
  | .ok text =>
    let wrong (a b : List Char) : Bool :=
      let o := m.compare a b
      o = .gt || (unique && o = .eq)
    match firstFault wrong 1 (linesBy g.lineEnd text.toList) with
    | none => return 0
    | some (n, line) =>
      if !g.has 'C' then
        p.report (Quoting.shown file ++ ":" ++ toString n ++ ": disorder: " ++ String.ofList line)
      return 1

/-- Puts the lines of files in order. -/
def program : Program := fun p =>
  withOptions options 2 p fun g => do
    match mannerOf g with
    | .error complaint => p.fail 2 complaint
    | .ok (m, unique) =>
      if g.has 'c' && g.has 'C' then p.fail 2 "options '-cC' are incompatible"
      else if (g.has 'c' || g.has 'C') && g.has 'o' then
        p.fail 2 ("options '-" ++ (if g.has 'C' then "C" else "c") ++ "o' are incompatible")
      else if g.has 'c' || g.has 'C' then
        match g.operands with
        | _ :: extra :: _ =>
          let letter := if g.has 'C' then "C" else "c"
          p.fail 2 ("extra operand " ++ Quoting.quoted extra ++ " not allowed with -" ++ letter)
        | _ => check p g m unique
      else
        let before (a b : List Char) : Bool := m.compare a b ≠ .gt
        let mut lines : List (List Char) := []
        for file in if g.operands.isEmpty then ["-"] else g.operands do
          match ← p.contents file with
          | .ok text =>
            let new := linesBy g.lineEnd text.toList
            lines := if g.has 'm' then lines.merge new before else lines ++ new
          | .error e =>
            let doing := if e = .isFolder then "read failed: " else "cannot read: "
            return ← p.fail 2 (doing ++ Quoting.shown file ++ ": " ++ e.wording)
        let sorted := if g.has 'm' then lines else lines.mergeSort before
        let kept := if unique then distinct (fun a b => m.compare a b = .eq) sorted else sorted
        let text := String.ofList (textBy g.lineEnd kept)
        match g.value? 'o' with
        | none =>
          p.print text
          return 0
        | some file =>
          match ← p.store file .write text with
          | .ok () => return 0
          | .error e => p.fail 2 ("open failed: " ++ Quoting.shown file ++ ": " ++ e.wording)

end WidgetForge.Utility.Sorting

namespace WidgetForge.Utility

open Machine Text

/-! ### Lines that repeat -/

/-- The lines in groups of those that are alike side by side. -/
def groupsOf (same : List Char → List Char → Bool) : List (List Char) → List (List (List Char))
  | [] => []
  | line :: rest =>
    match groupsOf same rest with
    | [] => [[line]]
    | group :: groups =>
      if group.head?.any (same line) then (line :: group) :: groups else [line] :: group :: groups

/-- Prints lines that repeat only once, or tells them from those that do not. -/
def uniq : Program := fun p =>
  let o : Options :=
    ⟨"cdDiuz", "fsw", [("count", 'c'), ("repeated", 'd'), ("all-repeated", 'D'),
    ("ignore-case", 'i'),
      ("unique", 'u'), ("zero-terminated", 'z'), ("skip-fields", 'f'), ("skip-chars", 's'),
      ("check-chars", 'w')], true⟩
  withOptions o 1 p fun g => do
    let nouns := [('f', "fields to skip"), ('s', "bytes to skip"), ('w', "bytes to compare")]
    let bad := g.options.findSome? fun (letter, value) =>
      (nouns.lookup letter).bind fun noun =>
        if (plainNumber? value.toList).isNone then some (value ++ ": invalid number of " ++ noun)
        else none
    match bad, g.operands with
    | some complaint, _ => p.fail 1 complaint
    | none, _ :: _ :: extra :: _ => misused p 1 ("extra operand " ++ Quoting.quoted extra)
    | none, operands =>
      if g.has 'D' && g.has 'c' then
        misused p 1 "printing all duplicated lines and repeat counts is meaningless"
      else
        let number (letter : Char) : Option Nat :=
          (g.value? letter).bind fun v => plainNumber? v.toList
        let keyOf (line : List Char) : List Char :=
          let behind := ((Sorting.behindFields none ((number 'f').getD 0) line).drop
            ((number 's').getD 0))
          let key := (number 'w').elim behind behind.take
          if g.has 'i' then key.map Char.toUpper else key
        let file := operands.headD "-"
        match ← p.contents file with
        | .error e =>
          let place :=
            if e = .isFolder then "error reading " ++ Quoting.forShell file else Quoting.shown file
          p.fail 1 (place ++ ": " ++ e.wording)
        | .ok text =>
          let lines := linesBy g.lineEnd text.toList
          let keyed := lines.map fun line => (keyOf line, line)
          let groups := (groupsOf (fun a b => keyOf a = keyOf b) (keyed.map Prod.snd))
          let shown := groups.flatMap fun group =>
            let repeated := 1 < group.length
            let count := if g.has 'c' then (setRight 7 group.length ++ " ").toList else []
            if g.has 'D' then if repeated && !g.has 'u' then group else []
            else if (g.has 'd' && !repeated) || (g.has 'u' && repeated) then []
            else (group.take 1).map (count ++ ·)
          let output := String.ofList (textBy g.lineEnd shown)
          match operands.drop 1 with
          | target :: _ =>
            if target = "-" then
              p.print output
              return 0
            else
              match ← p.store target .write output with
              | .ok () => return 0
              | .error e => p.fail 1 (Quoting.shown target ++ ": " ++ e.wording)
          | [] =>
            p.print output
            return 0

/-! ### Lines of two files -/

/-- The lines of two texts that are in order, each with its column: in the first only, in the second
only, or in both; `fuel` bounds their number. -/
def mergedLines : Nat → List (List Char) → List (List Char) → List (Nat × List Char)
  | 0, _, _ => []
  | _, [], bs => bs.map fun line => (1, line)
  | _, as, [] => as.map fun line => (0, line)
  | fuel + 1, a :: as, b :: bs =>
    match Comparison.octets a b with
    | .lt => (0, a) :: mergedLines fuel as (b :: bs)
    | .gt => (1, b) :: mergedLines fuel (a :: as) bs
    | .eq => (2, a) :: mergedLines fuel as bs

/-- Compares the lines of two files that are in order. -/
def comm : Program := fun p =>
  let o : Options :=
    ⟨"123Nz", "O", [("nocheck-order", 'N'), ("check-order", 'N'), ("output-delimiter", 'O'),
      ("zero-terminated", 'z')], true⟩
  withOptions o 1 p fun g => do
    match g.operands with
    | [] => misused p 1 "missing operand"
    | [file] => misused p 1 ("missing operand after " ++ Quoting.quoted file)
    | _ :: _ :: extra :: _ => misused p 1 ("extra operand " ++ Quoting.quoted extra)
    | [first, second] =>
      match ← p.contents first with
      | .error e => p.fail 1 (Quoting.shown first ++ ": " ++ e.wording)
      | .ok a =>
        match ← p.contents second with
        | .error e => p.fail 1 (Quoting.shown second ++ ": " ++ e.wording)
        | .ok b =>
          let as := linesBy g.lineEnd a.toList
          let bs := linesBy g.lineEnd b.toList
          let hidden (column : Nat) : Bool := g.has (['1', '2', '3'].getD column '3')
          let mark := ((g.value? 'O').getD "\t").toList
          let lead (column : Nat) : List Char :=
            ((List.range column).filter fun i => !hidden i).flatMap fun _ => mark
          let shown :=
            (mergedLines (as.length + bs.length + 1) as bs).filterMap fun (column, line) =>
            if hidden column then none else some (lead column ++ line)
          p.print (String.ofList (textBy g.lineEnd shown))
          return 0

end WidgetForge.Utility
