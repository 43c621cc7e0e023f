/-!
# Scripts

What a shell is told to do: words, which stand for other words once their parameters are known, and
commands, which are made of words and of other commands.

An operator who is asked by more than one program is asked by a script: the words that a host is
configured with run the shell, and the script is one of them.
-/

namespace WidgetForge.Shell

mutual

/-- A piece of a word. -/
inductive Part where
  /-- A text. If it is not quoted, a part of it may stand for the names of files. -/
  | text (s : String) (quoted : Bool)
  /-- The value of a parameter, which may be changed first. -/
  | parameter (name : String) (change : Change) (quoted : Bool)
  /-- What a command prints. -/
  | output (body : Command) (quoted : Bool)
  /-- The value of an arithmetic expression. -/
  | arithmetic (expression : List Part) (quoted : Bool)

/-- How the value of a parameter is changed. Where a rule is for a parameter that is not set,
`empty` says that it is also for one that is empty. -/
inductive Change where
  /-- Not at all. -/
  | none
  /-- It gives way to its length. -/
  | length
  /-- A word stands in for it if it is not set. -/
  | default (empty : Bool) (word : List Part)
  /-- A word becomes its value if it is not set. -/
  | assign (empty : Bool) (word : List Part)
  /-- The shell ends with a word as its complaint if it is not set. -/
  | require (empty : Bool) (word : List Part)
  /-- A word stands in for it if it is set. -/
  | instead (empty : Bool) (word : List Part)
  /-- It loses the shortest or the longest start that a pattern matches. -/
  | dropStart (longest : Bool) (pattern : List Part)
  /-- It loses the shortest or the longest end that a pattern matches. -/
  | dropEnd (longest : Bool) (pattern : List Part)
  /-- In a way that does not exist. -/
  | bad

/-- Where a descriptor is led. -/
inductive Redirection where
  /-- A file is opened to be read. -/
  | read (descriptor : Nat) (file : List Part)
  /-- A file is opened to be written; `clobber` says that it may always lose what it holds. -/
  | write (descriptor : Nat) (file : List Part) (clobber : Bool)
  /-- A file is opened to be written at its end. -/
  | append (descriptor : Nat) (file : List Part)
  /-- A file is opened to be read and written. -/
  | update (descriptor : Nat) (file : List Part)
  /-- The descriptor becomes the same as another, or is closed. -/
  | same (descriptor : Nat) (other : List Part)
  /-- A text is there to be read. -/
  | here (descriptor : Nat) (text : List Part)

/-- A command. -/
inductive Command where
  /-- Nothing. -/
  | nothing
  /-- Words with assignments before them; the number is that of the line. -/
  | simple (line : Nat) (assignments : List (String × List Part)) (words : List (List Part))
      (redirections : List Redirection)
  /-- Commands of which each reads what the one before it writes. -/
  | pipe (stages : List Command)
  /-- Succeeds if the other fails. -/
  | negation (c : Command)
  /-- The second is run if the first succeeds. -/
  | both (a b : Command)
  /-- The second is run if the first fails. -/
  | either (a b : Command)
  /-- One after the other. -/
  | sequence (a b : Command)
  /-- Nobody waits for its end. -/
  | background (c : Command)
  /-- What it changes in the shell is undone at its end. -/
  | subshell (c : Command)
  /-- With descriptors led elsewhere; the number is that of the line. -/
  | redirected (line : Nat) (c : Command) (redirections : List Redirection)
  /-- One of two commands, by the success of a third. -/
  | branch (condition yes no : Command)
  /-- A command again and again, as long as a condition succeeds or, with `fails`, fails. -/
  | loop (fails : Bool) (condition body : Command)
  /-- A command for each word, or for each parameter if there are no words. -/
  | each (line : Nat) (name : String) (words : Option (List (List Part))) (body : Command)
  /-- The command of the first clause that has a pattern for a word. -/
  | choose (line : Nat) (word : List Part) (clauses : List (List (List Part) × Command))
  /-- Gives a command a name. -/
  | define (name : String) (body : Command)

end

instance : Inhabited Part := ⟨.text "" false⟩

instance : Inhabited Command := ⟨.nothing⟩

/-- A word. -/
abbrev Word := List Part

/-- The text of a word if it is not quoted and nothing in it stands for anything else. -/
def Word.plain? : Word → Option String
  | [.text s false] => some s
  | _ => none

/-- Why a script cannot be understood, and the line where that shows. -/
structure Refusal where
  /-- The line. -/
  line : Nat
  /-- The reason. -/
  reason : String

end WidgetForge.Shell
