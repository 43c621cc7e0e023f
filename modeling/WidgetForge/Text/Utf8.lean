/-!
# Octets and texts

Files, standard input and the output of programs are octets. A text is written as UTF-8, and octets
are read as UTF-8 in two ways: strictly, where the first ill-formed sequence is an error that says
where it stands, and leniently, where each ill-formed sequence becomes the replacement character.
An ill-formed sequence is the longest start of a well-formed one, or a single octet.
-/

namespace WidgetForge.Text

/-- A sequence of octets. -/
abbrev Octets := List UInt8

namespace Utf8

/-- The octets of the characters, in order. -/
def encodeChars (cs : List Char) : Octets := cs.flatMap String.utf8EncodeChar

/-- The octets of a text. -/
def encode (s : String) : Octets := encodeChars s.toList

/-- How many octets the characters take. -/
def size (cs : List Char) : Nat := cs.foldr (fun c n => c.utf8Size + n) 0

/-- What stands at the front of some octets. -/
inductive Piece where
  /-- A character. -/
  | char (c : Char)
  /-- So many octets that no further octet can complete. -/
  | broken (length : Nat)
  /-- A sequence that the end of the octets cuts off. -/
  | cut
  deriving DecidableEq

/-- Whether an octet continues a sequence. -/
def isContinuation (b : UInt8) : Bool := 0x80 ≤ b && b ≤ 0xbf

/-- The six low bits of a continuation octet. -/
def low (b : UInt8) : Nat := b.toNat % 64

/-- Whether `b` may follow the lead octet `a` of a sequence of three or four. -/
def mayFollow (a b : UInt8) : Bool :=
  if a = 0xe0 then 0xa0 ≤ b && b ≤ 0xbf
  else if a = 0xed then 0x80 ≤ b && b ≤ 0x9f
  else if a = 0xf0 then 0x90 ≤ b && b ≤ 0xbf
  else if a = 0xf4 then 0x80 ≤ b && b ≤ 0x8f
  else isContinuation b

/-- The piece that the lead octet `a` begins, and the octets behind it. -/
def next (a : UInt8) (rest : Octets) : Piece × Octets :=
  if a < 0x80 then (.char (Char.ofNat a.toNat), rest)
  else if 0xc2 ≤ a && a ≤ 0xdf then
    match rest with
    | [] => (.cut, [])
    | b :: rest =>
      if isContinuation b then (.char (Char.ofNat ((a.toNat % 32) * 64 + low b)), rest)
      else (.broken 1, b :: rest)
  else if 0xe0 ≤ a && a ≤ 0xef then
    match rest with
    | [] => (.cut, [])
    | b :: rest =>
      if !mayFollow a b then (.broken 1, b :: rest)
      else match rest with
        | [] => (.cut, [])
        | c :: rest =>
          if isContinuation c then
            (.char (Char.ofNat (((a.toNat % 16) * 64 + low b) * 64 + low c)), rest)
          else (.broken 2, c :: rest)
  else if 0xf0 ≤ a && a ≤ 0xf4 then
    match rest with
    | [] => (.cut, [])
    | b :: rest =>
      if !mayFollow a b then (.broken 1, b :: rest)
      else match rest with
        | [] => (.cut, [])
        | c :: rest =>
          if !isContinuation c then (.broken 2, c :: rest)
          else match rest with
            | [] => (.cut, [])
            | d :: rest =>
              if isContinuation d then
                (.char (Char.ofNat ((((a.toNat % 8) * 64 + low b) * 64 + low c) * 64 + low d)),
                  rest)
              else (.broken 3, d :: rest)
  else (.broken 1, rest)

/-- The pieces of some octets, at most `fuel` of them. -/
def piecesUpTo : Nat → Octets → List Piece
  | _, [] => []
  | 0, _ => []
  | fuel + 1, a :: rest =>
    let (piece, rest) := next a rest
    piece :: piecesUpTo fuel rest

/-- The pieces of some octets. Each takes an octet at least, so there are no more pieces than
octets. -/
def pieces (bytes : Octets) : List Piece := piecesUpTo bytes.length bytes

/-- Where strict reading stops. -/
structure Fault where
  /-- The octets before the ill-formed sequence. -/
  index : Nat
  /-- The length of the sequence, none if the end of the octets cuts it off. -/
  length : Option Nat
  deriving DecidableEq

/-- The wording of a fault. -/
def Fault.message (f : Fault) : String :=
  match f.length with
  | some n =>
    "invalid utf-8 sequence of " ++ toString n ++ " bytes from index " ++ toString f.index
  | none => "incomplete utf-8 byte sequence from index " ++ toString f.index

/-- Reads pieces strictly; `index` octets stand before them. -/
def strict (index : Nat) : List Piece → Except Fault (List Char)
  | [] => .ok []
  | .char c :: rest => (strict (index + c.utf8Size) rest).map (c :: ·)
  | .broken n :: _ => .error ⟨index, some n⟩
  | .cut :: _ => .error ⟨index, none⟩

/-- The text that the octets write, or where they are ill-formed first. -/
def decode (bytes : Octets) : Except Fault String :=
  (strict 0 (pieces bytes)).map String.ofList

/-- A piece as a character; an ill-formed sequence is shown as U+FFFD. -/
def Piece.shown : Piece → Char
  | .char c => c
  | .broken _ => Char.ofNat 0xfffd
  | .cut => Char.ofNat 0xfffd

/-- The text that the octets write, each ill-formed sequence shown as U+FFFD. -/
def decodeLossy (bytes : Octets) : String :=
  String.ofList ((pieces bytes).map Piece.shown)

end Utf8

end WidgetForge.Text
