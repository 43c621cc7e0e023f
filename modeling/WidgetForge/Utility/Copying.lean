import WidgetForge.Utility.Lines

/-!
# Programs that print what they read
-/

namespace WidgetForge.Utility

open Machine Text

/-- How a text is shown. -/
structure Display where
  /-- Whether each line is numbered. -/
  numbered : Bool
  /-- Whether each line that is not empty is numbered. -/
  filled : Bool
  /-- Whether empty lines beside others are left out. -/
  squeezed : Bool
  /-- Whether line ends are shown. -/
  ends : Bool
  /-- Whether tabs are shown. -/
  tabs : Bool
  /-- Whether other characters that cannot be seen are shown. -/
  hidden : Bool

/-- A character that cannot be seen, as a text. -/
def Display.visible (d : Display) (c : Char) : List Char :=
  if c = '\t' then if d.tabs then ['^', 'I'] else ['\t']
  else if !d.hidden then [c]
  else
    let low (n : Nat) : List Char :=
      if n < 32 then ['^', Char.ofNat (n + 64)] else if n = 127 then ['^', '?'] else [Char.ofNat n]
    if c.toNat < 128 then low c.toNat else 'M' :: '-' :: low (c.toNat - 128)

/-- The lines of a text as they are shown; `number` is that of the last numbered line. -/
def Display.lines (d : Display) : Nat → Bool → List (List Char) → List (List Char)
  | _, _, [] => []
  | number, afterEmpty, line :: rest =>
    let isEmpty := line.isEmpty
    if d.squeezed && isEmpty && afterEmpty then d.lines number true rest
    else
      let counts := if d.filled then !isEmpty else d.numbered
      let number := if counts then number + 1 else number
      let start := if counts then (setRight 6 number ++ "\t").toList else []
      let ending := if d.ends then ['$'] else []
      (start ++ line.flatMap d.visible ++ ending) :: d.lines number isEmpty rest

/-- The text as it is shown. -/
def Display.text (d : Display) (text : List Char) : List Char :=
  let pieces := Text.split '\n' text
  let whole := pieces.getLast? = some []
  let shown := d.lines 0 false (if whole then pieces.dropLast else pieces)
  let shown :=
    if whole || !d.ends then shown else shown.dropLast ++ (shown.getLast?.map List.dropLast).toList
  List.intercalate ['\n'] shown ++ if whole && !shown.isEmpty then ['\n'] else []

/-- Prints files one after the other. -/
def cat : Program := fun p =>
  let o : Options :=
    ⟨"nbsETAvetu", "", [("number", 'n'), ("number-nonblank", 'b'), ("squeeze-blank", 's'),
      ("show-ends", 'E'), ("show-tabs", 'T'), ("show-all", 'A'), ("show-nonprinting", 'v')], true⟩
  withOptions o 1 p fun g => do
    let d : Display :=
      { numbered := g.has 'n'
        filled := g.has 'b'
        squeezed := g.has 's'
        ends := g.has 'E' || g.has 'A' || g.has 'e'
        tabs := g.has 'T' || g.has 'A' || g.has 't'
        hidden := g.has 'v' || g.has 'A' || g.has 'e' || g.has 't' }
    if g.options.all fun option => option.1 = 'u' then
      eachFile p g.operands fun _ text => p.print text
    else
      let number ← Machine.opened (.memory [])
      let quiet : Invocation := { p with descriptors := [(1, number)] }
      let status ← eachFile p g.operands fun _ text => quiet.print text
      match ← Machine.takeAll number with
      | .ok octets => p.print (String.ofList (d.text (Octetwise.read octets).toList))
      | .error _ => pure ()
      return status

/-- Prints the lines of files in reverse order. -/
def tac : Program := fun p =>
  withOptions ⟨"", "", [], true⟩ 1 p fun g =>
    eachFile p g.operands fun _ text => do
      let pieces := Text.split '\n' text.toList
      let last := pieces.getLastD []
      let whole := pieces.dropLast.map (· ++ ['\n'])
      p.print (String.ofList (last ++ whole.reverse.flatten))

/-- Prints the lines of files backwards. -/
def rev : Program := fun p =>
  withOptions ⟨"", "", [], true⟩ 1 p fun g =>
    eachFile p g.operands fun _ text =>
      p.print (String.ofList
        (List.intercalate ['\n'] ((Text.split '\n' text.toList).map List.reverse)))

/-- Prints what it reads, and stores it in files too. -/
def tee : Program := fun p =>
  withOptions ⟨"aip", "", [("append", 'a'), ("ignore-interrupts", 'i')], true⟩ 1 p fun g => do
    match ← p.input with
    | .error _ => return 1
    | .ok text =>
      let mut status := 0
      for file in g.operands do
        match ← p.store file (if g.has 'a' then .append else .write) text with
        | .ok () => pure ()
        | .error e =>
          reportFile p file e
          status := 1
      p.print text
      return status

end WidgetForge.Utility
