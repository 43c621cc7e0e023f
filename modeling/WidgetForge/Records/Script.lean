/-!
# Scripts on records

A script is a list of rules, each a pattern with an action. The input is a list of records, each cut
into fields, and for every record the actions are done whose patterns it fits.

Scripts that ask an operator use such scripts to pick fields from what other programs print.
-/

namespace WidgetForge.Records

/-- An operator between two numbers. -/
inductive Operator where
  /-- The sum. -/
  | add
  /-- The difference. -/
  | sub
  /-- The product. -/
  | mul
  /-- The quotient. -/
  | div
  /-- The remainder. -/
  | rem
  /-- The power. -/
  | pow
  deriving DecidableEq

/-- A comparison. -/
inductive Comparison where
  /-- Less. -/
  | lt
  /-- Less or equal. -/
  | le
  /-- Equal. -/
  | eq
  /-- Not equal. -/
  | ne
  /-- Greater. -/
  | gt
  /-- Greater or equal. -/
  | ge
  deriving DecidableEq

/-- Where records are read from besides the input. -/
inductive Source where
  /-- The input. -/
  | input
  /-- A file. -/
  | file
  /-- What a command prints. -/
  | command
  deriving DecidableEq

/-- An expression. -/
inductive Expr where
  /-- A number. -/
  | number (text : String)
  /-- A text. -/
  | text (s : String)
  /-- Whether the record matches a regular expression. -/
  | regex (s : String)
  /-- A variable. -/
  | var (name : String)
  /-- A field, by its number. -/
  | field (e : Expr)
  /-- An item of an array. -/
  | item (name : String) (index : List Expr)
  /-- Gives a value to a variable, a field or an item. -/
  | assign (target : Expr) (operator : Option Operator) (e : Expr)
  /-- Adds a number to a variable, a field or an item; gives the old value if `after`. -/
  | step (target : Expr) (up after : Bool)
  /-- One of two values, by a condition. -/
  | cond (test a b : Expr)
  /-- The second condition, if the first holds. -/
  | and (a b : Expr)
  /-- The second condition, unless the first holds. -/
  | or (a b : Expr)
  /-- Whether a condition fails. -/
  | not (e : Expr)
  /-- The negative of a number. -/
  | neg (e : Expr)
  /-- A value as a number. -/
  | plus (e : Expr)
  /-- An operator between numbers. -/
  | calc (operator : Operator) (a b : Expr)
  /-- A comparison. -/
  | compare (c : Comparison) (a b : Expr)
  /-- Whether a text matches a regular expression. -/
  | matches (e pattern : Expr)
  /-- Whether an array has an item. -/
  | has (index : List Expr) (name : String)
  /-- One text behind another. -/
  | concat (a b : Expr)
  /-- A function of the script. -/
  | call (name : String) (arguments : List Expr)
  /-- A function that is always there. -/
  | builtin (name : String) (arguments : List Expr)
  /-- Reads a record. -/
  | getline (source : Source) (name : Option Expr) (target : Option Expr)
  /-- An expression in parentheses. -/
  | group (e : Expr)

/-- Where output goes besides the output of the program. -/
inductive Sink where
  /-- To a file, which is emptied first. -/
  | file
  /-- To the end of a file. -/
  | append
  /-- To the input of a command. -/
  | command
  deriving DecidableEq

/-- A statement. -/
inductive Stmt where
  /-- Nothing. -/
  | skip
  /-- Prints values, or the record. -/
  | print (values : List Expr) (sink : Option (Sink × Expr))
  /-- Prints values by a format. -/
  | format (values : List Expr) (sink : Option (Sink × Expr))
  /-- An expression whose value is dropped. -/
  | expr (e : Expr)
  /-- One of two statements. -/
  | cond (test : Expr) (a b : Stmt)
  /-- A statement as long as a condition holds. -/
  | while (test : Expr) (body : Stmt)
  /-- A statement, and again as long as a condition holds. -/
  | until (body : Stmt) (test : Expr)
  /-- A loop with a start, a condition and a step. -/
  | for (start : Stmt) (test : Option Expr) (step body : Stmt)
  /-- A statement for the index of each item of an array. -/
  | forIn (name array : String) (body : Stmt)
  /-- One statement and then another. -/
  | seq (a b : Stmt)
  /-- Goes on with the next record. -/
  | next
  /-- Goes on with the next file. -/
  | nextFile
  /-- Ends, perhaps with a status. -/
  | exit (status : Option Expr)
  /-- Ends a function, perhaps with a value. -/
  | return (value : Option Expr)
  /-- Ends a loop. -/
  | break
  /-- Goes on with the next turn of a loop. -/
  | continue
  /-- Takes an item out of an array, or all of them. -/
  | delete (name : String) (index : Option (List Expr))

/-- When an action is done. -/
inductive Pattern where
  /-- Before the first record. -/
  | begin
  /-- Behind the last record. -/
  | end
  /-- For all records. -/
  | always
  /-- For the records that a condition holds of. -/
  | test (e : Expr)
  /-- For the records from one to another. -/
  | range (first last : Expr)

/-- A rule. -/
structure Rule where
  /-- When the action is done. -/
  pattern : Pattern
  /-- The action; without one the record is printed. -/
  action : Option Stmt

/-- A function. -/
structure Function where
  /-- Its name. -/
  name : String
  /-- The names of its parameters. -/
  parameters : List String
  /-- What it does. -/
  body : Stmt

/-- A script. -/
structure Script where
  /-- The rules. -/
  rules : List Rule
  /-- The functions. -/
  functions : List Function

end WidgetForge.Records
