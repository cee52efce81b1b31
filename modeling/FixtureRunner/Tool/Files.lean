/-
Tools that make, copy, move and remove files.
-/

import FixtureRunner.Tool.Arguments

namespace FixtureRunner.Tool

open Shell (Eval)

def request (message : Raw) (result : Except SystemError Disk) : Eval Nat := do
  match result with
  | .ok disk => do
      Eval.setDisk disk
      return 0
  | .error error => failOf message error

def announce (isVerbose : Bool) (text : Raw) : Eval Unit := do
  if isVerbose then Eval.say 1 (text ++ ['\n'])

def entryNamed (disk : Disk) (name : Raw) : Except SystemError (Location × Entry) := do
  let path := Eval.pathOf name
  match ← disk.route .edit path with
  | .folder location => return (location, .folder)
  | .name folder last closed =>
      match disk.entryAt? (folder ++ [last]) with
      | none => throw .missing
      | some (.link target) =>
          if closed then disk.find path else return (folder ++ [last], .link target)
      | some (.file content executable) =>
          if closed then throw .notFolder else return (folder ++ [last], .file content executable)
      | some .folder => return (folder ++ [last], .folder)

def isLinkNamed (disk : Disk) (name : Raw) : Bool :=
  match entryNamed disk name with
  | .ok (_, .link _) => true
  | _ => false

def treeAt (disk : Disk) (location : Location) : List (Location × Entry) :=
  (disk.entries.toList.filter fun (place, _) => location.isPrefixOf place).map
    fun (place, entry) => (place.drop location.length, entry)

def sortedNames (disk : Disk) (location : Location) : List Raw :=
  ((disk.names location).map Raw.ofString).mergeSort fun left right => !(right < left)

/-! ### Removing -/

def removalLines (disk : Disk) : Nat → Location → Raw → Raw
  | 0, _, _ => []
  | room + 1, location, name =>
      (sortedNames disk location).flatMap (fun inner =>
        let place := location ++ [Raw.toString inner]
        let path := joinPath name inner
        match disk.entryAt? place with
        | some .folder => removalLines disk room place path
        | _ => "removed " ++ quoted path ++ ['\n']) ++
        "removed directory " ++ quoted name ++ ['\n']

def removeTool : Program := fun words =>
  withArguments
    { rules := flags "iI" ++
        [option 'f' "force", option 'r' "recursive", option 'R' "recursive", option 'd' "dir",
          option 'v' "verbose", wordOption "interactive" .attached, wordOption "one-file-system",
          wordOption "no-preserve-root", wordOption "preserve-root" .attached] } words fun found => do
  let isForced := found.last? ["f", "i", "I"] = some "f"
  let isRecursive := found.has "r" || found.has "R"
  let isVerbose := found.has "v"
  if found.operands.isEmpty then
    if found.has "f" then return 0 else missingOperand
  else
    onEach found.operands fun name => do
      let disk ← Eval.disk
      let path := Eval.pathOf name
      let refuse (error : SystemError) : Eval Nat := do
        failOf ("cannot remove " ++ quoted name) error
      let last := baseName name
      match entryNamed disk name with
      | .error error =>
          if isForced && (error = .missing || error = .notFolder) then return 0 else refuse error
      | .ok (location, entry) =>
          if isRecursive && location.isEmpty then do
            complain "it is dangerous to operate recursively on '/'"
            fail "use --no-preserve-root to override this failsafe"
          else if isRecursive && (last = ['.'] || last = ['.', '.']) then
            fail ("refusing to remove '.' or '..' directory: skipping " ++ quoted name)
          else
            match entry with
            | .folder =>
                if name.getLast? = some '/' && (disk.removable (Eval.pathOf
                    ((name.reverse.dropWhile (· = '/')).reverse))).toOption.isSome then
                  refuse .notFolder
                else if isRecursive then do
                  announce isVerbose (removalLines disk (disk.depth + 1) location
                    ((name.reverse.dropWhile (· = '/')).reverse)).dropLast
                  Eval.setDisk (disk.eraseTree location)
                  return 0
                else if found.has "d" then
                  if (disk.names location).isEmpty then do
                    Eval.setDisk (disk.erase location)
                    announce isVerbose ("removed directory " ++ quoted name)
                    return 0
                  else
                    refuse .notEmpty
                else
                  refuse .isFolder
            | _ =>
                match disk.remove path with
                | .ok smaller => do
                    Eval.setDisk smaller
                    announce isVerbose ("removed " ++ quoted name)
                    return 0
                | .error error => refuse error

def removeFolderTool : Program := fun words =>
  withArguments
    { rules := [option 'p' "parents", option 'v' "verbose", wordOption "ignore-fail-on-non-empty"] }
    words fun found => do
  if found.operands.isEmpty then
    missingOperand
  else
    onEach found.operands fun name => removeFrom found (name.length + 1) name
where
  removeOne (found : Arguments) (name : Raw) : Eval Bool := do
    let disk ← Eval.disk
    announce (found.has "v") ((← Eval.process).name ++ ": removing directory, " ++ quoted name)
    let refuse (error : SystemError) : Eval Bool := do
      if error = .notEmpty && found.has "ignore-fail-on-non-empty" then
        return false
      else do
        complainOf ("failed to remove " ++ quoted name) error
        return false
    match disk.route .edit (Eval.pathOf name) with
    | .error error => refuse error
    | .ok (.folder location) =>
        if baseName name = ['.'] then refuse .invalid
        else if location.isEmpty then refuse .busy
        else refuse .notEmpty
    | .ok (.name folder last _) =>
        let location := folder ++ [last]
        match disk.entryAt? location with
        | none => refuse .missing
        | some .folder =>
            if (disk.names location).isEmpty then do
              Eval.setDisk (disk.erase location)
              return true
            else
              refuse .notEmpty
        | some _ => refuse .notFolder
  removeFrom (found : Arguments) : Nat → Raw → Eval Nat
  | 0, _ => return 0
  | room + 1, name => do
      if ← removeOne found name then
        let above := folderName name
        if found.has "p" && above ≠ ['.'] && above ≠ ['/'] then removeFrom found room above
        else return 0
      else
        return if found.has "ignore-fail-on-non-empty" then 0 else 1

def unlinkTool : Program := fun words =>
  withArguments { } words fun found => do
  match found.operands with
  | [] => missingOperand
  | [name] =>
      request ("cannot unlink " ++ quoted name) ((← Eval.disk).remove (Eval.pathOf name))
  | _ :: extra :: _ => extraOperand extra

/-! ### Making -/

def beginnings (name : Raw) : List Raw :=
  let trimmed := (name.reverse.dropWhile (· = '/')).reverse
  let whole := if trimmed.isEmpty then name else trimmed
  (List.range (whole.length + 1)).filterMap fun count =>
    if count = whole.length ||
        (0 < count && whole[count]? = some '/' && whole[count - 1]? ≠ some '/') then
      some (whole.take count)
    else
      none

def makeEach (isVerbose : Bool) : List Raw → Eval Nat
  | [] => return 0
  | name :: rest => do
      let disk ← Eval.disk
      let path := Eval.pathOf name
      if disk.isFolder path then
        makeEach isVerbose rest
      else
        match disk.makeFolder path with
        | .ok made => do
            Eval.setDisk made
            announce isVerbose
              ((← Eval.process).name ++ ": created directory " ++ quoted name)
            makeEach isVerbose rest
        | .error error => do
            let shown := if error = .alreadyExists && !rest.isEmpty then SystemError.notFolder else error
            failOf ("cannot create directory " ++ quoted name) shown

def makeFolderTool : Program := fun words =>
  withArguments
    { rules := flags "Z" ++ [option 'p' "parents", option 'v' "verbose", option 'm' "mode" .always] }
    words fun found => do
  if found.operands.isEmpty then
    missingOperand
  else
    onEach found.operands fun name => do
      let isVerbose := found.has "v"
      if found.has "p" && !name.isEmpty then
        makeEach isVerbose (beginnings name)
      else do
        let status ← request ("cannot create directory " ++ quoted name)
          ((← Eval.disk).makeFolder (Eval.pathOf name))
        if status = 0 then
          announce isVerbose
            ((← Eval.process).name ++ ": created directory " ++ quoted name)
        return status

def touchTool : Program := fun words =>
  withArguments
    { rules := flags "afhm" ++ valued "dt" ++
        [option 'c' "no-create", option 'd' "date" .always, option 'r' "reference" .always,
          wordOption "time" .always, option 'h' "no-dereference"] } words fun found => do
  if found.operands.isEmpty then
    misuse "missing file operand"
  else
    onEach found.operands fun name => do
      let disk ← Eval.disk
      let path := Eval.pathOf name
      if (disk.find path).toOption.isSome || name = ['-'] then
        return 0
      else if found.has "c" then
        return 0
      else
        match disk.write path [] with
        | .ok written => do
            Eval.setDisk written
            return 0
        | .error error =>
            if error = .isFolder then
              failOf ("setting times of " ++ quoted name) .missing
            else
              failOf ("cannot touch " ++ quoted name) error

/-! ### Copying and moving -/

structure Transfer where
  sources : List Raw
  target : Raw
  isInto : Bool

def folderFault (disk : Disk) (name : Raw) : SystemError :=
  match disk.find (Eval.pathOf name) with
  | .error error => error
  | .ok _ => .notFolder

def withTransfer (found : Arguments) (action : Transfer → Eval Nat) : Eval Nat := do
  let disk ← Eval.disk
  let isFolder (name : Raw) : Bool := disk.isFolder (Eval.pathOf name)
  match found.value? "t", found.operands.reverse with
  | _, [] => misuse "missing file operand"
  | some folder, _ =>
      if isFolder folder then
        action { sources := found.operands, target := folder, isInto := true }
      else
        failOf ("target directory " ++ quoted folder) (folderFault disk folder)
  | none, [only] => misuse ("missing destination file operand after " ++ quoted only)
  | none, target :: sources =>
      if found.has "T" then
        match found.operands with
        | _ :: _ :: extra :: _ => extraOperand extra
        | _ => action { sources := sources.reverse, target, isInto := false }
      else if isFolder target then
        action { sources := sources.reverse, target, isInto := true }
      else if 1 < sources.length then
        failOf ("target " ++ quoted target) (folderFault disk target)
      else
        action { sources := sources.reverse, target, isInto := false }

def Transfer.each (transfer : Transfer) (action : Raw → Raw → Eval Nat) : Eval Nat :=
  onEach transfer.sources fun source =>
    action source
      (if transfer.isInto then joinPath transfer.target (baseName source) else transfer.target)

def arrow (source target : Raw) : Raw :=
  quoted source ++ " -> " ++ quoted target

def sameFile (source target : Raw) : Raw :=
  quoted source ++ " and " ++ quoted target ++ " are the same file"

def overFolder (target : Raw) : Raw :=
  "cannot overwrite directory " ++ quoted target ++ " with non-directory"

def overFile (source target : Raw) : Raw :=
  "cannot overwrite non-directory " ++ quoted target ++ " with directory " ++ quoted source

def intoItself (source target : Raw) : Raw :=
  "cannot copy a directory, " ++ quoted source ++ ", into itself, " ++ quoted target

def transferRules : List OptionRule :=
  flags "biuZ" ++ valued "S" ++
    [option 'f' "force", option 'n' "no-clobber", option 'v' "verbose",
      option 'T' "no-target-directory", option 't' "target-directory" .always,
      option 'i' "interactive", wordOption "backup" .attached, wordOption "update" .attached,
      wordOption "strip-trailing-slashes"]

def copyTo (found : Arguments) : Nat → Raw → Raw → Eval Nat
  | 0, _, _ => return 0
  | room + 1, source, target => do
      let disk ← Eval.disk
      let isRecursive := found.has "r" || found.has "R" || found.has "a"
      let keepsLinks := found.has "P" || found.has "d" || found.has "a" ||
        (isRecursive && !found.has "L")
      let isVerbose := found.has "v"
      let found? := if keepsLinks then entryNamed disk source else disk.find (Eval.pathOf source)
      match found? with
      | .error error => failOf ("cannot stat " ++ quoted source) error
      | .ok (from_, .link goal) =>
          match disk.route .edit (Eval.pathOf target) with
          | .ok (.name folder name _) =>
              if folder ++ [name] = from_ then
                fail (sameFile source target)
              else do
                announce isVerbose (arrow source target)
                Eval.setDisk (disk.put (folder ++ [name]) (.link goal))
                return 0
          | _ => return 1
      | .ok (from_, .file content executable) => do
          let targetEntry := (disk.find (Eval.pathOf target)).toOption
          let isDangling := targetEntry.isNone && isLinkNamed disk target
          match targetEntry with
          | some (_, .folder) =>
              fail (overFolder target)
          | other =>
              if other.any fun held => held.1 = from_ then
                fail (sameFile source target)
              else if isDangling then
                fail ("not writing through dangling symlink " ++ quoted target)
              else if found.has "n" && other.isSome then
                return 0
              else
                match disk.writable (Eval.pathOf target) with
                | .error error =>
                    failOf ("cannot create regular file " ++ quoted target)
                      (if error = .isFolder then .notFolder else error)
                | .ok (location, wasExecutable) => do
                    announce isVerbose (arrow source target)
                    let keepsMode := found.has "p" || found.has "a" || other.isNone
                    if Eval.isDevice location then
                      return 0
                    else do
                      let bytes ←
                        if Eval.isDevice from_ then do
                          pure (Raw.toBytes (((← Eval.readFile source).toOption).getD []))
                        else
                          pure content
                      Eval.setDisk ((← Eval.disk).put location
                        (.file bytes (if keepsMode then executable else wasExecutable)))
                      return 0
      | .ok (from_, .folder) =>
          if !isRecursive then
            fail ("-r not specified; omitting directory " ++ quoted source)
          else
            match disk.find (Eval.pathOf target) with
            | .ok (_, .file _ _) =>
                fail (overFile source target)
            | .ok (place, _) => inside room from_ place source target
            | .error _ =>
                match disk.route .edit (Eval.pathOf target) with
                | .ok (.name folder name _) =>
                    let place := folder ++ [name]
                    if from_.isPrefixOf place then
                      fail (intoItself source target)
                    else do
                      announce isVerbose (arrow source target)
                      Eval.setDisk (disk.put place .folder)
                      inside room from_ place source target
                | .ok (.folder _) => return 1
                | .error error => failOf ("cannot create directory " ++ quoted target) error
where
  inside (room : Nat) (from_ place : Location) (source target : Raw) : Eval Nat := do
    let disk ← Eval.disk
    if from_.isPrefixOf place then
      fail (intoItself source target)
    else
      onEach (sortedNames disk from_) fun name =>
        copyTo found room (joinPath source name) (joinPath target name)

def copyTool : Program := fun words =>
  withArguments
    { rules := transferRules ++ flags "lsxH" ++
        [option 'a' "archive", option 'd' "no-deref", option 'L' "dereference",
          option 'P' "no-dereference", option 'p' "preserve", option 'r' "recursive",
          option 'R' "recursive", wordOption "preserve" .attached, wordOption "parents",
          wordOption "reflink" .attached, wordOption "sparse" .always,
          wordOption "attributes-only", wordOption "remove-destination"] } words fun found => do
  withTransfer found fun transfer => do
    if found.has "n" then
      complain ("warning: behavior of -n is non-portable and may change in future; " ++
        "use --update=none instead")
    transfer.each fun source target => do
      let disk ← Eval.disk
      copyTo found (disk.depth + 2) source target

def relocate (disk : Disk) (source target : Location) : Disk :=
  let moved := treeAt disk source
  moved.foldl (fun held (place, entry) => held.put (target ++ place) entry)
    ((disk.eraseTree source).eraseTree target)

def moveTool : Program := fun words =>
  withArguments { rules := transferRules } words fun found =>
  withTransfer found fun transfer => transfer.each fun source target => do
    let disk ← Eval.disk
    let cannotMove := "cannot move " ++ quoted source ++ " to "
    match entryNamed disk source with
    | .error error => failOf ("cannot stat " ++ quoted source) error
    | .ok (from_, entry) =>
        let isFolder := entry = .folder
        match disk.route .edit (Eval.pathOf target) with
        | .error error =>
            if target.isEmpty then fail (overFolder target)
            else failOf (cannotMove ++ quoted target) error
        | .ok (.folder place) =>
            fail (if place = from_ then sameFile source target else cannotMove ++ quoted target)
        | .ok (.name folder name closed) => do
            let place := folder ++ [name]
            let held? := disk.entryAt? place
            let isOverFolder := held? = some .folder
            if place = from_ then
              fail (sameFile source target)
            else if isFolder && from_.isPrefixOf place then
              fail (cannotMove ++ "a subdirectory of itself, " ++ quoted target)
            else if closed && !isFolder && !isOverFolder then
              failOf (cannotMove ++ quoted target) .notFolder
            else if found.has "n" && held?.isSome then
              fail ("not replacing " ++ quoted target)
            else if isOverFolder && !isFolder then
              fail (overFolder target)
            else if isOverFolder && !(disk.names place).isEmpty then
              failOf ("cannot overwrite " ++ quoted target) .notEmpty
            else if isFolder && held?.isSome && !isOverFolder then
              fail (overFile source target)
            else do
              Eval.setDisk (relocate disk from_ place)
              announce (found.has "v") ("renamed " ++ arrow source target)
              return 0

/-! ### Links -/

def relativeTo (folder place : Location) : Raw :=
  let common := ((folder.zip place).takeWhile fun (left, right) => left = right).length
  let up := List.replicate (folder.length - common) "..".toList
  let down := (place.drop common).map Raw.ofString
  let steps := up ++ down
  if steps.isEmpty then ['.'] else List.intercalate ['/'] steps

def linkTool : Program := fun words =>
  withArguments
    { rules := transferRules ++ flags "dFLP" ++
        [option 's' "symbolic", option 'r' "relative", option 'n' "no-dereference"] } words
    fun found => do
  let disk ← Eval.disk
  let isSymbolic := found.has "s"
  let adjusted : Arguments :=
    match found.operands, found.value? "t" with
    | [only], none => { found with operands := [only, ['.']] }
    | [_, target], none =>
        if found.has "n" && isLinkNamed disk target then
          { found with options := found.options ++ [("T", none)] }
        else
          found
    | _, _ => found
  withTransfer adjusted fun transfer => transfer.each fun source target => do
    let disk ← Eval.disk
    let kind := if isSymbolic then "symbolic link " else "hard link "
    let refuse (error : SystemError) : Eval Nat := do
      failOf ("failed to create " ++ kind ++ quoted target) error
    let place (location : Location) (entry : Entry) : Eval Nat := do
      Eval.setDisk (disk.put location entry)
      announce (found.has "v")
        (quoted target ++ (if isSymbolic then " -> " else " => ") ++ quoted source)
      return 0
    match disk.route .edit (Eval.pathOf target) with
    | .error error => refuse error
    | .ok (.folder _) => refuse .alreadyExists
    | .ok (.name folder name _) =>
        let location := folder ++ [name]
        let held? := disk.entryAt? location
        if isSymbolic then
          if source.isEmpty then
            failOf ("failed to create symbolic link " ++ arrow target source) .missing
          else if held?.isSome && !found.has "f" then
            refuse .alreadyExists
          else if held? = some .folder then
            fail (target ++ ": cannot overwrite directory")
          else
            let goal :=
              if found.has "r" then
                match disk.find (Eval.pathOf source) with
                | .ok (goal, _) => relativeTo folder goal
                | .error _ => source
              else source
            place location (.link (Raw.toString goal))
        else
          match entryNamed disk source with
          | .error error => failOf ("failed to access " ++ quoted source) error
          | .ok (_, .folder) => fail (source ++ ": hard link not allowed for directory")
          | .ok (_, entry) =>
              if held?.isSome && !found.has "f" then refuse .alreadyExists
              else place location entry

def plainLinkTool : Program := fun words =>
  withArguments { } words fun found => do
  match found.operands with
  | [] => missingOperand
  | [only] => misuse ("missing operand after " ++ quoted only)
  | [source, target] => do
      let disk ← Eval.disk
      let refuse (error : SystemError) : Eval Nat := do
        failOf ("cannot create link " ++ quoted target ++ " to " ++ quoted source) error
      match entryNamed disk source, disk.route .edit (Eval.pathOf target) with
      | .error error, _ => refuse error
      | _, .error error => refuse error
      | .ok (_, entry), .ok (.name folder name _) =>
          if (disk.entryAt? (folder ++ [name])).isSome then
            refuse .alreadyExists
          else do
            Eval.setDisk (disk.put (folder ++ [name]) entry)
            return 0
      | _, _ => refuse .alreadyExists
  | _ :: _ :: extra :: _ => extraOperand extra

/-! ### Permissions -/

def modeClause? (isExecutable : Bool) (clause : Raw) : Option Bool :=
  let who := clause.takeWhile fun char => "ugoa".toList.contains char
  let rest := clause.drop who.length
  let rec apply : Nat → Raw → Bool → Option Bool
    | 0, _, state => some state
    | _ + 1, [], state => some state
    | room + 1, operator :: body, state =>
        if !("+-=".toList.contains operator) then
          none
        else
          let letters := body.takeWhile fun char => "rwxXstugo".toList.contains char
          let after := body.drop letters.length
          let names := letters.contains 'x' || (letters.contains 'X' && state) ||
            letters.any fun char => ['u', 'g', 'o'].contains char && state
          let next :=
            match operator with
            | '+' => state || names
            | '-' => if letters.contains 'x' then false else state
            | _ => names
          apply room after next
  if rest.isEmpty then none else apply (rest.length + 1) rest isExecutable

def changedMode? (isExecutable : Bool) (mode : Raw) : Option Bool :=
  if (mode.head?.map Char.isDigit).getD false then
    if mode.all fun char => '0' ≤ char && char ≤ '7' then
      let value := (Raw.digits? 8 mode).getD 0
      if 4095 < value then none
      else some (value % 2 = 1 || value / 8 % 2 = 1 || value / 64 % 2 = 1)
    else
      none
  else
    (Text.fields ',' mode).foldl (fun state clause =>
      state.bind fun held => modeClause? held clause) (some isExecutable)

def modeTool : Program := fun words => do
  let isFlag (word : Raw) : Bool :=
    match word with
    | '-' :: letter :: letters => (letter :: letters).all fun char => "Rcfv".toList.contains char
    | _ => false
  let isRecursive := words.any fun word => isFlag word && word.contains 'R'
  let isSilent := words.any fun word => isFlag word && word.contains 'f'
  let operands := words.filter fun word => !isFlag word && word ≠ ['-', '-']
  match operands with
  | mode :: name :: others =>
      if (changedMode? false mode).isNone then
        misuse ("invalid mode: " ++ quoted mode)
      else
        onEach (name :: others) fun name => do
          let disk ← Eval.disk
          match disk.find (Eval.pathOf name) with
          | .error error => do
              unless isSilent do
                match entryNamed disk name with
                | .ok (_, .link _) =>
                    complain ("cannot operate on dangling symlink " ++ quoted name)
                | _ => complainOf ("cannot access " ++ quoted name) error
              return 1
          | .ok (location, .file content executable) => do
              Eval.setDisk
                (disk.put location (.file content ((changedMode? executable mode).getD executable)))
              return 0
          | .ok (location, _) => do
              if isRecursive then
                Eval.setDisk ((treeAt disk location).foldl (fun held (place, entry) =>
                  match entry with
                  | .file content executable =>
                      held.put (location ++ place)
                        (.file content ((changedMode? executable mode).getD executable))
                  | _ => held) disk)
              return 0
  | [mode] => misuse ("missing operand after " ++ quoted mode)
  | [] => missingOperand

def installTool : Program := fun words =>
  withArguments
    { rules := transferRules ++ flags "cCps" ++
        [option 'd' "directory", option 'D' "create-leading", option 'm' "mode" .always,
          option 'o' "owner" .always, option 'g' "group" .always] } words fun found => do
  if found.has "d" then
    onEach found.operands fun name => makeEach (found.has "v") (beginnings name)
  else do
    if found.has "D" then
      match found.operands with
      | [_, target] => do
          let _ ← makeEach false (beginnings (folderName target))
      | _ => pure ()
    withTransfer found fun transfer => transfer.each fun source target => do
      let disk ← Eval.disk
      let status ← copyTo { } (disk.depth + 2) source target
      if status = 0 then do
        let after ← Eval.disk
        match after.find (Eval.pathOf target) with
        | .ok (location, .file content _) =>
            let mode := (found.value? "m").getD "755"
            Eval.setDisk (after.put location (.file content ((changedMode? true mode).getD true)))
        | _ => pure ()
      return status

def truncateTool : Program := fun words =>
  withArguments
    { rules := [option 'c' "no-create", option 'o' "io-blocks", option 'r' "reference" .always,
        option 's' "size" .always] } words fun found => do
  match found.value? "s" with
  | none => misuse "you must specify either '--size' or '--reference'"
  | some size =>
      let (sign, digits) : Char × Raw :=
        match size with
        | char :: rest => if "+-<>/%".toList.contains char then (char, rest) else ('=', size)
        | [] => ('=', [])
      match count? digits with
      | .error _ => fail ("Invalid number: " ++ quoted size)
      | .ok amount =>
          if found.operands.isEmpty then
            misuse "missing file operand"
          else
            onEach found.operands fun name => do
              let disk ← Eval.disk
              let content := ((disk.read (Eval.pathOf name)).toOption).getD []
              let isAbsent := (disk.find (Eval.pathOf name)).toOption.isNone
              let length := content.length
              let wanted :=
                match sign with
                | '+' => length + amount
                | '-' => length - amount
                | '<' => min length amount
                | '>' => max length amount
                | '/' => if amount = 0 then length else length / amount * amount
                | '%' => if amount = 0 then length else (length + amount - 1) / amount * amount
                | _ => amount
              if isAbsent && found.has "c" then
                return 0
              else
                request ("cannot open " ++ quoted name ++ " for writing")
                  (disk.write (Eval.pathOf name)
                    (content.take wanted ++ List.replicate (wanted - length) 0))

end FixtureRunner.Tool
