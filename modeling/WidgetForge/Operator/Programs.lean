import WidgetForge.Editing.Program
import WidgetForge.Operator.Command
import WidgetForge.Records.Program
import WidgetForge.Shell.Program
import WidgetForge.Utility.Columns
import WidgetForge.Utility.Copying
import WidgetForge.Utility.Counting
import WidgetForge.Utility.Ends
import WidgetForge.Utility.Expression
import WidgetForge.Utility.Finding
import WidgetForge.Utility.Identity
import WidgetForge.Utility.Launching
import WidgetForge.Utility.Listing
import WidgetForge.Utility.Printing
import WidgetForge.Utility.Search
import WidgetForge.Utility.Sorting
import WidgetForge.Utility.Transliteration

/-!
# The programs that are always there

The programs by which an operator can be asked: a shell, and the small programs that scripts are
made of. A program is found by its name, or by its path in the folders where programs stand.

How to ask is a matter of configuration: it names a command, which may as well be a script for the
shell. What such a command answers, and what it does to the files on the way, decides where scripts
end up. So the programs are defined here too, as far as commands for this purpose go. A host can
then be run from its configuration to the file tree that it leaves, in which the programs see what
has been saved before, and what they do is seen by what is saved later.

The rest of the library takes programs as a parameter (`Command.picker`), and what it says of asking
through a command holds whatever the programs do. Of the programs here, those that only print what
they are told (`speakers`) change no file, and `echo` answers with its argument.

What is *not* formalized: other programs; programs that run at the same time, so that those on both
sides of a pipe run one after the other; signals, users and time.
-/

namespace WidgetForge.Operator

open Disk Machine Text Utility

/-- The programs that print what they are told. -/
def speakers : List (String × Program) :=
  [("echo", echo), ("printf", printf), ("true", ending 0), ("false", ending 1), ("sleep", ending 0),
    ("pwd", pwd), ("yes", yes), ("seq", seq), ("test", Condition.program), ("[", Condition.program),
    ("expr", Expression.program), ("basename", basename), ("dirname", dirname),
    ("realpath", realpath), ("readlink", readlink), ("printenv", Launching.printenv),
    ("whoami", whoami), ("id", numbersOfUser), ("uname", uname), ("tty", tty)]

/-- The programs that change what they read. -/
def filters : List (String × Program) :=
  [("cat", cat), ("tac", tac), ("rev", rev), ("tee", tee), ("head", head), ("tail", tail),
  ("wc", wc),
    ("nl", nl), ("cut", cut), ("paste", paste), ("fold", fold), ("expand", expand),
    ("unexpand", unexpand), ("tr", Transliteration.program), ("sort", Sorting.program),
    ("uniq", uniq), ("comm", comm), ("grep", Search.program 'G'), ("egrep", Search.program 'E'),
    ("fgrep", Search.program 'F'), ("sed", Editing.program)]

/-- The programs that work on files and folders. -/
def keepers : List (String × Program) :=
  [("ls", Listing.ls), ("stat", Listing.stat), ("mkdir", mkdir), ("rmdir", rmdir), ("rm", rm),
    ("unlink", unlink), ("touch", touch), ("mv", mv), ("cp", cp), ("ln", ln), ("chmod", chmod),
    ("truncate", truncate), ("mktemp", mktemp)]

/-- The programs that run no others. -/
def simple? : Library := fun name => (speakers ++ filters ++ keepers).lookup name

/-- The programs that run others, which they find in a library. -/
def launchers (others : Library) : List (String × Program) :=
  let plain (valued : String) : Program := Launching.plainly ⟨"", valued, [], false⟩ 125 others
  [("sh", Shell.program others), ("dash", Shell.program others), ("bash", Shell.program others),
    ("awk", Records.program others),
    ("mawk", Records.program others), ("env", Launching.env others),
    ("xargs", Launching.xargs others), ("find", Finding.program others),
    ("which", Launching.which others), ("timeout", Launching.timeout others),
    ("nice", plain "n"), ("nohup", plain ""), ("setsid", plain ""), ("stdbuf", plain "ioe")]

/-- The programs; those that run others do so no deeper than a bound. -/
def library : Nat → Library
  | 0, name => simple? name
  | n + 1, name =>
    match (launchers (library n)).lookup name with
    | some program => some program
    | none => simple? name

/-- How deep programs run others. -/
def depth : Nat := 64

/-- Why there is no program of a name: a name with a slash is the path of a file, and no file in the
tree is a program. -/
def missingProgram (tree : Tree) (name : String) : OsError :=
  if name.toList.contains '/' then
    match tree.locate ⟨name⟩ with
    | .ok _ => .notPermitted
    | .error e => e
  else .noEntry

/-- The program of a name or a path. -/
def program? (name : String) : Option Program :=
  if name.toList.contains '/' then Library.programAt (library depth) name else library depth name

/-- What programs find in their environment. -/
def environmentOf (home : Option Pathname) : List (String × String) :=
  (home.map fun path => ("HOME", Octetwise.spread path.text)).toList ++
    [("PATH", "/usr/local/sbin:/usr/local/bin:/usr/sbin:/usr/bin:/sbin:/bin")]

/-- Runs a program that reads nothing and whose output is kept. -/
def run (home : Option Pathname) (program : Program) (name : String) (arguments : List String)
    (s : Surroundings) : Ended × Surroundings :=
  let p : Invocation :=
    { name := Octetwise.spread name
      arguments := arguments.map Octetwise.spread
      environment := environmentOf home
      descriptors := [(0, 0), (1, 1), (2, 2)] }
  let (status, m) :=
    program p ⟨s.tree, #[.nothing, .memory [], .memory s.errors], []⟩
  let content (number : Nat) : Octets :=
    match m.channels[number]? with
    | some (.memory content) => content
    | _ => []
  (⟨status = 0, content 1⟩, ⟨{ m.tree with here := s.tree.here }, s.input, content 2⟩)

/-- The programs that are always there, for a user who may have a home. -/
def standardPrograms (home : Option Pathname) : Programs := fun s name arguments =>
  if (name :: arguments).any fun w => w.toList.contains (Char.ofNat 0) then
    (.error .nulInArgument, s)
  else
    match program? name with
    | none => (.error (.os (missingProgram s.tree name)), s)
    | some program =>
      let (ended, left) := run home program name arguments s
      (.ok ended, left)

end WidgetForge.Operator
