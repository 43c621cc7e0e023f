import WidgetForge.Disk.Pathname

/-!
# Options of the compiler
-/

namespace WidgetForge.Compiler

open Disk

/-- How requests are compiled. -/
structure Options where
  /-- The folder into which scripts are saved, if there is one. -/
  folder : Option Pathname
  /-- The file name of a script. -/
  fileName : String
  /-- Whether every style variable has to be used. -/
  strict : Bool
  /-- Whether to say more. -/
  verbose : Bool

/-- The places of a user that matter here. -/
structure Environment where
  /-- The home folder, if one can be found. -/
  home : Option Pathname
  /-- The folder for the data of applications, if it is set. -/
  dataHome : Option Pathname

/-- The file name of a script, if none is given. -/
def defaultFileName : String := "index.jsx"

/-- The folder for the data of applications. One that is set must be absolute to count. Without a
home folder there is none, even if it is set. -/
def Environment.dataFolder (e : Environment) : Option Pathname :=
  e.home.map fun home => (e.dataHome.filter Pathname.isAbsolute).getD (home.join ".local/share")

/-- The widgets folder, if there is a folder for the data of applications. -/
def Environment.widgetsFolder (e : Environment) : Option Pathname :=
  e.dataFolder.map fun data => (data.join "Übersicht").join "widgets"

/-- The options if none are given. -/
def Environment.options (e : Environment) : Options where
  folder := e.widgetsFolder
  fileName := defaultFileName
  strict := false
  verbose := false

end WidgetForge.Compiler
