import WidgetForge.Utility.Escape
import WidgetForge.Utility.Quoting
import WidgetForge.Utility.Options

/-!
# Putting characters in the place of others

Two texts describe lists of characters, by ranges, kinds and repetitions, and each character of the
first list gives way to the one at its place in the second. Characters can be taken away instead,
and runs of one character made into one.
-/

namespace WidgetForge.Utility.Transliteration

open Machine Text

/-- A piece of the description of a list of characters. -/
inductive Piece where
  /-- A character. -/
  | one (c : Char)
  /-- The characters from one to another. -/
  | range (first last : Char)
  /-- The characters of a kind. -/
  | kind (name : String)
  /-- A character again and again; without a number as often as it takes. -/
  | many (c : Char) (count : Option Nat)
  deriving DecidableEq

/-- Reads a character, perhaps written as an escape: the character, whether it was one, and the
rest. -/
def charAt : List Char → Option (Char × Bool × List Char)
  | [] => none
  | ['\\'] => some ('\\', false, [])
  | '\\' :: c :: rest =>
    if (octalValue c).isSome then
      let (n, left) := takeDigits 8 octalValue 3 0 (c :: rest)
      if 255 < n then
        let (n, left) := takeDigits 8 octalValue 2 0 (c :: rest)
        some (octet n, true, left)
      else some (octet n, true, left)
    else
      match if c = 'e' then none else controls.lookup c with
      | some n => some (octet n, true, rest)
      | none => some (c, true, rest)
  | c :: rest => some (c, false, rest)

/-- Reads what stands in brackets of a special kind, behind the opening bracket. -/
def bracketed? (cs : List Char) : Option (Except String (Piece × List Char)) :=
  match cs with
  | ':' :: rest =>
    let name := rest.takeWhile (· ≠ ':')
    match rest.drop name.length with
    | ':' :: ']' :: left =>
      let text := String.ofList name
      if (characterKinds.lookup text).isSome then some (.ok (.kind text, left))
      else some (.error ("invalid character class " ++ Quoting.quoted text))
    | _ => none
  | '=' :: c :: '=' :: ']' :: left => some (.ok (.one c, left))
  | _ =>
    match charAt cs with
    | some (c, _, '*' :: rest) =>
      let digits := rest.takeWhile Char.isDigit
      match rest.drop digits.length with
      | ']' :: left =>
        let base := if digits.head? = some '0' then 8 else 10
        let n := digits.foldl (fun n c => base * n + (c.toNat - 48)) 0
        some (.ok (.many c (if n = 0 then none else some n), left))
      | _ => none
    | _ => none

/-- A character as it is shown in a complaint about a range. -/
def shownChar (c : Char) : String :=
  if isVisible c then String.singleton c else String.ofList (Quoting.escaped c)

/-- Reads the description of a list; `fuel` bounds the number of pieces. -/
def piecesUpTo : Nat → List Char → Except String (List Piece)
  | 0, _ => .ok []
  | _, [] => .ok []
  | fuel + 1, c :: rest =>
    match if c = '[' then bracketed? rest else none with
    | some (.error e) => .error e
    | some (.ok (piece, left)) => (piecesUpTo fuel left).map (piece :: ·)
    | none =>
      match charAt (c :: rest) with
      | none => .ok []
      | some (first, _, '-' :: left) =>
        match charAt left with
        | none => (piecesUpTo fuel ['-']).map (.one first :: ·)
        | some (last, _, left) =>
          if last < first then
            .error ("range-endpoints of '" ++ shownChar first ++ "-" ++ shownChar last ++
              "' are in reverse collating sequence order")
          else (piecesUpTo fuel left).map (.range first last :: ·)
      | some (first, _, left) => (piecesUpTo fuel left).map (.one first :: ·)

/-- Reads the description of a list. -/
def pieces (text : String) : Except String (List Piece) :=
  piecesUpTo (text.length + 1) text.toList

/-- The characters of a piece, where one without a number is repeated so many times. -/
def Piece.chars (filler : Nat) : Piece → List Char
  | .one c => [c]
  | .range first last => allOctets.filter fun c => first ≤ c && c ≤ last
  | .kind name => allOctets.filter ((characterKinds.lookup name).getD fun _ => false)
  | .many c count => List.replicate (count.getD filler) c

/-- The characters of a list; what is repeated without a number fills it up to a length. -/
def charsOf (length : Nat) (all : List Piece) : List Char :=
  let others := (all.flatMap (Piece.chars 0)).length
  all.flatMap (Piece.chars (length - others))

/-- Whether a piece is repeated without a number. -/
def Piece.isOpen : Piece → Bool
  | .many _ none => true
  | _ => false

/-- Whether a piece is a kind that cannot be put in the place of others. -/
def Piece.isRigid : Piece → Bool
  | .kind name => name ≠ "upper" && name ≠ "lower"
  | _ => false

/-- Makes each run of a character that is among some into one. -/
def squeeze (set : Char → Bool) : List Char → List Char
  | a :: b :: rest =>
      if a = b && set a then squeeze set (b :: rest) else a :: squeeze set (b :: rest)
  | cs => cs

/-- The character in the place of another. -/
def replacement (table : List (Char × Char)) (c : Char) : Char :=
  (table.reverse.lookup c).getD c

/-- Puts characters in the place of others in what it reads. -/
def program : Program := fun p =>
  let o : Options :=
    ⟨"cCdst", "", [("complement", 'c'), ("delete", 'd'), ("squeeze-repeats", 's'),
      ("truncate-set1", 't')], false⟩
  withOptions o 1 p fun g => do
    let inverted := g.has 'c' || g.has 'C'
    let deletes := g.has 'd'
    let squeezes := g.has 's'
    let two := if deletes then squeezes else !squeezes || g.operands.length = 2
    let most := if deletes && !squeezes then 1 else 2
    let misuse (text : String) (more : Option String) : Act Nat := do
      p.report text
      match more with
      | some line => p.complain (line ++ "\n")
      | none => pure ()
      p.complain ("Try '" ++ p.name ++ " --help' for more information.\n")
      return 1
    match g.operands with
    | [] => misuse "missing operand" none
    | first :: rest =>
      if two && rest.isEmpty then
        misuse ("missing operand after " ++ Quoting.quoted first)
          (some (if deletes then
            "Two strings must be given when both deleting and squeezing repeats."
            else "Two strings must be given when translating."))
      else if most < g.operands.length then
        misuse ("extra operand " ++ Quoting.quoted (g.operands.getD most ""))
          (if most = 1 && g.operands.length = 2 then
            some "Only one string may be given when deleting without squeezing repeats." else none)
      else
        match pieces first, (rest.head?).mapM pieces with
        | .error e, _ => p.fail 1 e
        | _, .error e => p.fail 1 e
        | .ok pieces₁, .ok pieces₂ =>
          let set₁ := charsOf 0 pieces₁
          let set₁ := if inverted then allOctets.filter fun c => !set₁.contains c else set₁
          let exchanges := !deletes && pieces₂.isSome
          let pieces₂ := pieces₂.getD []
          let set₂ := charsOf set₁.length pieces₂
          let refused : Option String :=
            if pieces₁.any Piece.isOpen then
              some "the [c*] repeat construct may not appear in string1"
            else if 1 < pieces₂.countP Piece.isOpen then
              some "only one [c*] repeat construct may appear in string2"
            else if exchanges && pieces₂.any Piece.isRigid then
              some ("when translating, the only character classes that may appear in\n" ++
                "string2 are 'upper' and 'lower'")
            else if exchanges && set₂.isEmpty && !set₁.isEmpty && !g.has 't' then
              some "when not truncating set1, string2 must be non-empty"
            else if exchanges && inverted && 1 < set₂.eraseDups.length &&
                pieces₁.any (fun piece => match piece with | .kind _ => true | _ => false) then
              some ("when translating with complemented character classes,\n" ++
                "string2 must map all characters in the domain to one")
            else none
          match refused with
          | some complaint => p.fail 1 complaint
          | none =>
            match ← p.input with
            | .error e => p.fail 1 ("read error: " ++ e.wording)
            | .ok text =>
              let cs := text.toList
              let last := set₂.getLastD (Char.ofNat 0)
              let padded :=
                if g.has 't' then set₂ else set₂ ++ List.replicate (set₁.length - set₂.length) last
              let table := set₁.zip padded
              let map := allOctets.map (replacement table)
              let exchanged (cs : List Char) : List Char :=
                if exchanges then
                  let map := map.toArray
                  cs.map fun c => map.getD c.toNat c
                else cs
              let kept := if deletes then cs.filter fun c => !set₁.contains c else exchanged cs
              let marks := if pieces₂.isEmpty then set₁ else set₂
              p.print (String.ofList
                (if squeezes then squeeze (fun c => marks.contains c) kept else kept))
              return 0

end WidgetForge.Utility.Transliteration
