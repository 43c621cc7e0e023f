import WidgetForge.Utility.Options

/-!
# Programs that say who and where one is

Programs are run by the user with all rights on an ordinary machine.
-/

namespace WidgetForge.Utility

open Machine

/-- Prints the name of the user. -/
def whoami : Program := fun p =>
  withOptions ⟨"", "", [], true⟩ 1 p fun g => do
    match g.operands with
    | extra :: _ => misused p 1 ("extra operand " ++ Quoting.quoted extra)
    | [] =>
      p.print "root\n"
      return 0

/-- Prints the numbers and names of the user and of groups. -/
def numbersOfUser : Program := fun p =>
  let o : Options :=
    ⟨"agGnruz", "", [("group", 'g'), ("groups", 'G'), ("name", 'n'), ("real", 'r'), ("user", 'u'),
      ("zero", 'z')], true⟩
  withOptions o 1 p fun g => do
    if g.has 'u' || g.has 'g' || g.has 'G' then
      p.print (if g.has 'n' then "root\n" else "0\n")
      return 0
    else if g.has 'n' || g.has 'r' then
      p.fail 1 "printing only names or real IDs requires -u, -g, or -G"
    else
      p.print "uid=0(root) gid=0(root) groups=0(root)\n"
      return 0

/-- Prints what kind of system this is. -/
def uname : Program := fun p =>
  let o : Options :=
    ⟨"asnrvmpio", "", [("all", 'a'), ("kernel-name", 's'), ("nodename", 'n'),
    ("kernel-release", 'r'),
      ("kernel-version", 'v'), ("machine", 'm'), ("processor", 'p'), ("hardware-platform", 'i'),
      ("operating-system", 'o')], true⟩
  withOptions o 1 p fun g => do
    let facts : List (Char × String) :=
      [('s', "Linux"), ('n', "localhost"), ('m', "x86_64"), ('o', "GNU/Linux")]
    let chosen := facts.filter fun f => g.has f.1 || g.has 'a'
    let shown := if chosen.isEmpty then facts.take 1 else chosen
    p.print (" ".intercalate (shown.map Prod.snd) ++ "\n")
    return 0

/-- Says that there is no terminal. -/
def tty : Program := fun p => do
  if !p.arguments.any fun w => w = "-s" || w = "--silent" || w = "--quiet" then
    p.print "not a tty\n"
  return 1

end WidgetForge.Utility
