/-
Programs as files: where the tools are installed, how a program is looked up, and what
an executable file asks for.
-/

import FixtureRunner.Tool.Catalog

namespace FixtureRunner.Shell

def programFolder : Location := ["usr", "bin"]

def shellName : String := "sh"

def shellNames : List String := [shellName, "dash"]

def launcherNames : List String :=
  ["env", "nice", "nohup", "timeout", "xargs", "find", "sed", "stdbuf", "setsid"]

def imageMark : Bytes := [0x7F] ++ Text.toBytes "TOOL "

def image (name : String) : Bytes :=
  imageMark ++ Text.toBytes name

inductive Executable where
  | installed (name : String)
  | interpreted (interpreter : Raw) (argument : Option Raw)
  | unmarked

def Executable.ofContent (content : Bytes) : Executable :=
  if imageMark.isPrefixOf content then
    .installed (Text.ofBytes (content.drop imageMark.length))
  else
    match Raw.ofBytes content with
    | '#' :: '!' :: rest =>
        let isBlank (char : Char) : Bool := char = ' ' || char = '\t'
        let line := ((rest.takeWhile (· ≠ '\n')).dropWhile isBlank).reverse.dropWhile isBlank |>.reverse
        let interpreter := line.takeWhile fun char => !isBlank char
        let argument := (line.drop interpreter.length).dropWhile isBlank
        .interpreted interpreter (if argument.isEmpty then none else some argument)
    | _ => .unmarked

def defaultSearchPath : Raw :=
  "/usr/local/sbin:/usr/local/bin:/usr/sbin:/usr/bin:/sbin:/bin"

def executableAt (disk : Disk) (path : Path) : Except SystemError Location :=
  match disk.find path with
  | .error error => .error error
  | .ok (location, .file _ true) => .ok location
  | .ok _ => .error .denied

structure FoundProgram where
  location : Location
  path : Raw

/-- Looks a bare name up in the folders of a search path; a refusal other than for a
missing file is remembered. -/
def searchFolders (disk : Disk) (name : Raw) (refusal : SystemError) :
    List Raw → Except SystemError FoundProgram
  | [] => .error refusal
  | folder :: rest =>
      let path := if folder.isEmpty then name else Tool.joinPath folder name
      match executableAt disk (Eval.pathOf path) with
      | .ok location => .ok { location, path }
      | .error error =>
          searchFolders disk name (if error = .denied then .denied else refusal) rest

def findProgram (disk : Disk) (searchPath name : Raw) : Except SystemError FoundProgram := do
  if name.isEmpty then throw .missing
  else if name.contains '/' then return { location := ← executableAt disk (Eval.pathOf name), path := name }
  else searchFolders disk name .missing (Text.fields ':' searchPath)

def interpreterDepth : Nat := 4

def checkInterpreter (disk : Disk) : Nat → Location → Except SystemError Unit
  | 0, _ => .error .tooManyLinks
  | room + 1, location =>
      match disk.entryAt? location with
      | some (.file content _) =>
          match Executable.ofContent content with
          | .interpreted interpreter _ => do
              checkInterpreter disk room (← executableAt disk (Eval.pathOf interpreter))
          | _ => .ok ()
      | _ => .error .denied

def FoundProgram.check (disk : Disk) (program : FoundProgram) : Except SystemError Unit :=
  checkInterpreter disk (interpreterDepth + 1) program.location

def install (disk : Disk) : Disk :=
  let folders : List Location :=
    [["usr"], programFolder, ["usr", "local"], ["usr", "local", "bin"], ["dev"], ["dev", "fd"], ["tmp"],
      ["etc"], ["root"], ["home"], ["var"]]
  let prepared := folders.foldl (fun held folder => held.put folder .folder) disk
  let named := shellNames ++ launcherNames ++ Tool.catalog.map (·.1)
  let tools := named.foldl
    (fun held name => held.put (programFolder ++ [name]) (.file (image name) true)) prepared
  let linked := (tools.put ["bin"] (.link "usr/bin")).put ["sbin"] (.link "usr/sbin")
  let open_ := (List.range 10).foldl
    (fun held number => held.put ["dev", "fd", toString number] (.file [] false)) linked
  Eval.devices.foldl (fun held name => held.put ["dev", name] (.file [] false)) open_

end FixtureRunner.Shell
