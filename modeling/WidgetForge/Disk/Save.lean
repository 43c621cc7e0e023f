import WidgetForge.Procedure.Basic

/-!
# Saving files

A file is saved without ever being seen half written: its content goes into a temporary file in the
same folder, which is then moved to the place of the file. When a step fails the temporary file is
taken away again.
-/

namespace WidgetForge.Disk

open Text (Octets)

/-- Fails with an error unless a folder stands at the path. -/
def unlessFolder (p : Pathname) (e : IoError) : Procedure (Except IoError Unit) :=
  .step (.isFolder p) fun there => .done (if there then .ok () else .error e)

/-- Makes a folder and those above it that are missing, at most `fuel` of them. -/
def makeFoldersUpTo : Nat → Pathname → Procedure (Except IoError Unit)
  | 0, _ => .done (.error (.os .noEntry))
  | fuel + 1, p =>
    if p.text.isEmpty then .done (.ok ())
    else
      .step (.makeFolder p) fun reply =>
        match reply with
        | .ok () => .done (.ok ())
        | .error e =>
          if e = .os .noEntry then
            match p.parent? with
            | none => .done (.error (.other "failed to create whole tree"))
            | some above =>
              (makeFoldersUpTo fuel above).bind fun made =>
                match made with
                | .error e => .done (.error e)
                | .ok () =>
                  .step (.makeFolder p) fun reply =>
                    match reply with
                    | .ok () => .done (.ok ())
                    | .error e => unlessFolder p e
          else unlessFolder p e

/-- Makes a folder and those above it that are missing. There are no more of them than characters in
the path. -/
def makeFolders (p : Pathname) : Procedure (Except IoError Unit) :=
  makeFoldersUpTo (p.text.length + 1) p

/-- Adds octets to a temporary file, in at most `fuel` steps. -/
def appendAllUpTo : Nat → Location → Octets → Procedure (Except IoError Unit)
  | _, _, [] => .done (.ok ())
  | 0, _, _ :: _ => .done (.error .nothingWritten)
  | fuel + 1, temp, octets =>
    .step (.append temp octets) fun reply =>
      match reply with
      | .error e => .done (.error e)
      | .ok 0 => .done (.error .nothingWritten)
      | .ok (n + 1) => appendAllUpTo fuel temp (octets.drop (n + 1))

/-- Adds octets to a temporary file. Each step adds one at least. -/
def appendAll (temp : Location) (octets : Octets) : Procedure (Except IoError Unit) :=
  appendAllUpTo octets.length temp octets

/-- Takes a temporary file away because of an error. -/
def abandon (temp : Location) (e : IoError) : Procedure (Except IoError Unit) :=
  .step (.discard temp) fun _ => .done (.error e)

/-- Fills a temporary file and moves it to its path. -/
def fillAndMove (temp : Location) (p : Pathname) (content : Octets) :
    Procedure (Except IoError Unit) :=
  (appendAll temp content).bind fun filled =>
    match filled with
    | .error e => abandon temp e
    | .ok () =>
      .step (.sync temp) fun stored =>
        match stored with
        | .error e => abandon temp e
        | .ok () =>
          .step (.rename temp p) fun moved =>
            match moved with
            | .error e => abandon temp e
            | .ok () => .done (.ok ())

/-- Saves a file. -/
def save (p : Pathname) (content : Octets) : Procedure (Except IoError Unit) :=
  .step (.createTemp p.folder) fun reply =>
    match reply with
    | .error e => .done (.error e)
    | .ok temp => fillAndMove temp p content

end WidgetForge.Disk
