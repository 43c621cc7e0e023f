import WidgetForge.Regex.Basic

/-!
# Scripts that edit lines

A script is a list of commands, each with the lines that it is meant for. It is run for every line
of the input: the line is taken into a buffer, the commands change the buffer, and what is left of
it is printed.

Scripts that ask an operator use such scripts to change what other programs print, which is often a
path.
-/

namespace WidgetForge.Editing

/-- A regular expression, or the one that was used last. -/
abbrev Search := Option (Regex × Regex.Manner)

/-- A line that is meant. -/
inductive Address where
  /-- The line of a number. -/
  | line (n : Nat)
  /-- Every so many lines from one on. -/
  | every (first step : Nat)
  /-- The last line. -/
  | last
  /-- A line that matches. -/
  | found (s : Search)

/-- Where a range ends. -/
inductive Limit where
  /-- At a line. -/
  | address (a : Address)
  /-- So many lines further on. -/
  | plus (n : Nat)
  /-- At the next line whose number is a multiple. -/
  | multiple (n : Nat)

/-- The lines that a command is meant for. -/
inductive Scope where
  /-- All lines. -/
  | all
  /-- Some lines. -/
  | one (a : Address)
  /-- The lines from one to another. -/
  | range (a : Address) (limit : Limit)
  /-- The lines from the start to one that matches. -/
  | fromStart (s : Search)

/-- How letters change. -/
inductive Case where
  /-- They stay. -/
  | kept
  /-- They become capitals. -/
  | upper
  /-- They become small letters. -/
  | lower
  deriving DecidableEq

/-- A letter changed. -/
def Case.apply (c : Case) (letter : Char) : Char :=
  match c with
  | .kept => letter
  | .upper => letter.toUpper
  | .lower => letter.toLower

/-- A piece of what takes the place of a match. -/
inductive Piece where
  /-- A character. -/
  | char (c : Char)
  /-- What a group has matched; the group zero is the match. -/
  | group (n : Nat)
  /-- From here on letters change. -/
  | all (c : Case)
  /-- The next letter changes. -/
  | next (c : Case)
  deriving DecidableEq

/-- What becomes of matches. -/
structure Substitution where
  /-- What is looked for. -/
  search : Search
  /-- What takes its place. -/
  replacement : List Piece
  /-- The number of the first match that is replaced. -/
  number : Nat
  /-- Whether all further matches are replaced. -/
  all : Bool
  /-- Whether the buffer is printed if anything has been replaced. -/
  prints : Bool
  /-- The file that the buffer is written to if anything has been replaced. -/
  file : Option String

/-- What a command does. -/
inductive Action where
  /-- Nothing. -/
  | none
  /-- Begins a block that ends at a command with a number. -/
  | block (stop : Nat)
  /-- Prints the number of the line. -/
  | number
  /-- Prints a text behind the line. -/
  | append (text : List Char)
  /-- Prints a text before the line. -/
  | insert (text : List Char)
  /-- Prints a text in the place of the line. -/
  | change (text : List Char)
  /-- Goes on at a command with a number. -/
  | jump (target : Nat)
  /-- Goes on there if anything has been replaced since the last such question. -/
  | jumpIf (target : Nat)
  /-- Goes on there if nothing has been replaced. -/
  | jumpUnless (target : Nat)
  /-- Drops the buffer. -/
  | delete
  /-- Drops the first line of the buffer. -/
  | deleteFirst
  /-- Prints the name of the file. -/
  | fileName
  /-- Copies the store to the buffer. -/
  | fetch
  /-- Adds the store to the buffer. -/
  | fetchMore
  /-- Copies the buffer to the store. -/
  | store
  /-- Adds the buffer to the store. -/
  | storeMore
  /-- Prints the buffer so that all characters can be seen. -/
  | show (width : Option Nat)
  /-- Takes the next line into the buffer. -/
  | next
  /-- Adds the next line to the buffer. -/
  | nextMore
  /-- Prints the buffer. -/
  | print
  /-- Prints the first line of the buffer. -/
  | printFirst
  /-- Ends, and prints the buffer. -/
  | quit (status : Nat)
  /-- Ends at once. -/
  | leave (status : Nat)
  /-- Prints a file behind the line. -/
  | readFile (file : String)
  /-- Prints the next line of a file behind the line. -/
  | readLine (file : String)
  /-- Replaces matches. -/
  | substitute (s : Substitution)
  /-- Writes the buffer to a file. -/
  | writeFile (file : String)
  /-- Writes the first line of the buffer to a file. -/
  | writeFirst (file : String)
  /-- Exchanges the buffer and the store. -/
  | exchange
  /-- Puts characters in the place of others. -/
  | replaceEach (table : List (Char × Char))
  /-- Empties the buffer. -/
  | empty

/-- A command. -/
structure Command where
  /-- The lines that it is meant for. -/
  scope : Scope
  /-- Whether it is meant for all others instead. -/
  inverted : Bool
  /-- What it does. -/
  action : Action

end WidgetForge.Editing
