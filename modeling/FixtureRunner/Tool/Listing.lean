/-
Tools that tell what is on the disk.
-/

import FixtureRunner.Tool.Files

namespace FixtureRunner.Tool

open Shell (Eval)

/-! ### Names in folders -/

def kindMark (disk : Disk) (location : Location) (foldersOnly : Bool) : Raw :=
  match disk.entryAt? location with
  | some .folder => ['/']
  | some (.link _) => if foldersOnly then [] else ['@']
  | some (.file _ true) => if foldersOnly then [] else ['*']
  | _ => []

def listedName (found : Arguments) (disk : Disk) (location : Location) (name : Raw) : Raw :=
  let shown :=
    if found.has "Q" then
      '"' :: name.flatMap (fun char => if char = '"' || char = '\\' then ['\\', char] else [char]) ++ ['"']
    else if found.has "b" then
      name.flatMap fun char => if char = ' ' || char = '\\' then ['\\', char] else [char]
    else name
  shown ++
    (if found.has "F" then kindMark disk location false
     else if found.has "p" then kindMark disk location true
     else [])

def listedNames (found : Arguments) (names : List Raw) : Raw :=
  if names.isEmpty then []
  else if found.has "m" then List.intercalate ", " names ++ ['\n']
  else unlines names

def listedIn (found : Arguments) (disk : Disk) (location : Location) : List Raw :=
  let all := sortedNames disk location
  let isHidden (name : Raw) : Bool := name.head? = some '.'
  let chosen :=
    if found.last? ["a", "A"] = some "a" || found.has "f" then ['.'] :: ['.', '.'] :: all
    else if found.has "A" then all
    else all.filter fun name => !isHidden name
  let chosen := if found.has "B" then chosen.filter fun name => name.getLast? ≠ some '~' else chosen
  let size (name : Raw) : Nat :=
    match disk.entryAt? (location ++ [Raw.toString name]) with
    | some (.file content _) => content.length
    | _ => 4096
  let ordered :=
    if found.has "S" then chosen.mergeSort fun left right => size right ≤ size left else chosen
  if found.has "r" then ordered.reverse else ordered

def listedFolder (found : Arguments) (disk : Disk) : Nat → Bool → Raw → Location → Raw
  | 0, _, _, _ => []
  | room + 1, isHeaded, path, location =>
      let names := listedIn found disk location
      let shown := names.map fun name => listedName found disk (location ++ [Raw.toString name]) name
      let head : Raw := if isHeaded then path ++ ":\n" else []
      let inner : Raw :=
        if found.has "R" then
          (names.filter fun name => name ≠ ['.'] && name ≠ ['.', '.']).flatMap fun name =>
            let place := location ++ [Raw.toString name]
            match disk.entryAt? place with
            | some .folder => '\n' :: listedFolder found disk room true (joinPath path name) place
            | _ => []
        else
          []
      head ++ listedNames found shown ++ inner

def listTool : Program := fun words =>
  withArguments
    { status := 2
      rules := flags "1BCDGHLNSUXZbcfghiklmnopqrstuvwx" ++ valued "ITw" ++
        [option 'a' "all", option 'A' "almost-all", option 'd' "directory", option 'F' "classify",
          option 'p' "indicator-style", option 'r' "reverse", option 'R' "recursive",
          option 'Q' "quote-name", wordOption "color" .attached,
          wordOption "group-directories-first", wordOption "sort" .always] } words fun found => do
  let operands := if found.operands.isEmpty then [['.']] else found.operands
  let disk ← Eval.disk
  let looked := operands.map fun name =>
    let followed := disk.find (Eval.pathOf name)
    (name, if found.has "d" || found.has "F" then entryNamed disk name
      else if followed.toOption.isSome then followed else entryNamed disk name)
  let failed := looked.filterMap fun (name, result) =>
    match result with
    | .error error => some (name, error)
    | .ok _ => none
  failed.forM fun (name, error) => complainOf ("cannot access " ++ quoted name) error
  let present := looked.filterMap fun (name, result) =>
    match result with
    | .ok (location, entry) => some (name, location, entry)
    | .error _ => none
  let ordered := present.mergeSort fun left right => !(right.1 < left.1)
  let directed := if found.has "r" then ordered.reverse else ordered
  let isFolder (item : Raw × Location × Entry) : Bool := item.2.2 = .folder && !found.has "d"
  let plain := directed.filter fun item => !isFolder item
  let folders := directed.filter isFolder
  let plainText := listedNames found (plain.map fun (name, location, _) =>
    listedName found disk location name)
  let isHeaded := 1 < operands.length || found.has "R"
  let folderTexts := folders.map fun (name, location, _) =>
    listedFolder found disk (disk.depth + 1) isHeaded name location
  let blocks := (if plain.isEmpty then [] else [plainText]) ++ folderTexts
  output (List.intercalate ['\n'] blocks) (if failed.isEmpty then 0 else 2)

/-! ### Where paths lead -/

/-- The path without dots, links left as they are. -/
def plainPath (disk : Disk) (name : Raw) : Raw :=
  let start := if name.head? = some '/' then [] else disk.here.map Raw.ofString
  let steps := (start ++ Text.fields '/' name).foldl (fun (found : List Raw) step =>
    if step.isEmpty || step = ['.'] then found
    else if step = ['.', '.'] then found.dropLast
    else found ++ [step]) []
  '/' :: List.intercalate ['/'] steps

/-- The path without links and dots, whether all of it exists or not; what is missing has to
be the last name unless `allowsMissing`. -/
def resolvedPath? (disk : Disk) (name : Raw) (needsAll allowsMissing : Bool) :
    Except SystemError Raw :=
  let pathText (location : Location) : Raw := Raw.ofString (Disk.pathTo location).text
  match disk.find (Eval.pathOf name) with
  | .ok (location, _) => .ok (pathText location)
  | .error error =>
      if needsAll then
        .error error
      else
        match disk.route .look (Eval.pathOf name) with
        | .ok (.folder location) => .ok (pathText location)
        | .ok (.name folder last _) =>
            if error = .notFolder && !allowsMissing then .error error
            else .ok (pathText (folder ++ [last]))
        | .error other =>
            if allowsMissing then .ok (plainPath disk name) else .error other

def linkTargetTool : Program := fun words =>
  withArguments
    { rules := [option 'f' "canonicalize", option 'e' "canonicalize-existing",
        option 'm' "canonicalize-missing", option 'n' "no-newline", option 'q' "quiet",
        option 's' "silent", option 'v' "verbose", option 'z' "zero"] } words fun found => do
  let isSingle := found.operands.length = 1
  let ending : Raw :=
    if found.has "n" && isSingle then [] else [found.mark]
  let refuse (name : Raw) (error : SystemError) : Eval Nat := do
    if found.has "v" then complainOf (quotedIfNeeded name) error
    return 1
  if found.operands.isEmpty then
    missingOperand
  else
    onEach found.operands fun name => do
      let disk ← Eval.disk
      if found.has "f" || found.has "e" || found.has "m" then
        match resolvedPath? disk name (found.has "e") (found.has "m") with
        | .ok path => output (path ++ ending)
        | .error error => refuse name error
      else
        match entryNamed disk name with
        | .ok (_, .link target) => output (Raw.ofString target ++ ending)
        | .ok _ => refuse name .invalid
        | .error error => refuse name error

def realPathTool : Program := fun words =>
  withArguments
    { rules := [option 'e' "canonicalize-existing", option 'm' "canonicalize-missing",
        option 'L' "logical", option 'P' "physical", option 'q' "quiet", option 's' "strip",
        option 's' "no-symlinks", option 'z' "zero", wordOption "relative-to" .always,
        wordOption "relative-base" .always] } words fun found => do
  let ending := [found.mark]
  if found.operands.isEmpty then
    missingOperand
  else
    onEach found.operands fun name => do
      let disk ← Eval.disk
      let resolved :=
        if found.has "s" then .ok (plainPath disk name)
        else resolvedPath? disk name (found.has "e") (found.has "m")
      match resolved with
      | .error error => do
          unless found.has "q" do complainOf (quotedIfNeeded name) error
          return 1
      | .ok path =>
          match found.value? "relative-to" with
          | none => output (path ++ ending)
          | some base =>
              let steps (text : Raw) : Location :=
                ((Text.fields '/' text).filter (!·.isEmpty)).map Raw.toString
              let from_ := (resolvedPath? disk base false true).toOption.getD base
              output (relativeTo (steps from_) (steps path) ++ ending)

/-! ### Facts about files -/

def kindText : Entry → Raw
  | .folder => "directory"
  | .link _ => "symbolic link"
  | .file [] _ => "regular empty file"
  | .file _ _ => "regular file"

def sizeOf : Entry → Nat
  | .folder => 4096
  | .link target => target.utf8ByteSize
  | .file content _ => content.length

def modeText : Entry → Raw
  | .folder => "755"
  | .link _ => "777"
  | .file _ true => "755"
  | .file _ false => "644"

def factsFrom (name : Raw) (entry : Entry) : Nat → Raw → Raw
  | 0, _ => []
  | _ + 1, [] => []
  | room + 1, '%' :: letter :: rest =>
      (match letter with
        | 's' => Raw.ofNat (sizeOf entry)
        | 'n' => name
        | 'N' =>
            match entry with
            | .link target => arrow name (Raw.ofString target)
            | _ => quoted name
        | 'F' => kindText entry
        | 'a' => modeText entry
        | 'u' | 'g' => ['0']
        | 'U' | 'G' => "root"
        | 'h' => ['1']
        | '%' => ['%']
        | other => ['%', other]) ++ factsFrom name entry room rest
  | room + 1, char :: rest => char :: factsFrom name entry room rest

def factTool : Program := fun words =>
  withArguments
    { rules := [option 'L' "dereference", option 'f' "file-system", option 't' "terse",
        option 'c' "format" .always, wordOption "printf" .always] } words fun found => do
  if found.operands.isEmpty then
    missingOperand
  else
    onEach found.operands fun name => do
      let disk ← Eval.disk
      let result :=
        if found.has "L" then disk.find (Eval.pathOf name) else entryNamed disk name
      match result with
      | .error error => failOf ("cannot statx " ++ quoted name) error
      | .ok (_, entry) =>
          match found.value? "c", found.value? "printf" with
          | some format, _ => output (factsFrom name entry (format.length + 1) format ++ ['\n'])
          | none, some format => output (factsFrom name entry (format.length + 1) format)
          | none, none => output ("  File: " ++ name ++ ['\n'])

def temporaryTool : Program := fun words =>
  withArguments
    { rules := [option 'd' "directory", option 'u' "dry-run", option 'q' "quiet", option 't' "t",
        option 'p' "tmpdir" .attached, wordOption "suffix" .always] } words fun found => do
  let identity ← Eval.newIdentity
  let template := found.operands.headD "tmp.XXXXXXXXXX"
  let marks := (template.reverse.takeWhile (· = 'X')).length
  let digits := Raw.ofNat identity
  let unique := (List.replicate marks 'a' ++ digits).drop digits.length
  let base := template.take (template.length - marks) ++ unique
  let name := if found.operands.isEmpty then joinPath "/tmp" base else base
  let disk ← Eval.disk
  let made :=
    if found.has "u" then .ok disk
    else if found.has "d" then disk.makeFolder (Eval.pathOf name)
    else disk.write (Eval.pathOf name) []
  let kind := if found.has "d" then "directory" else "file"
  let status ← request (("failed to create " ++ kind ++ " via template ").toList ++ quoted template) made
  if status = 0 then output (name ++ ['\n']) else return status

end FixtureRunner.Tool
