/-
Commands that the shell carries out itself and that need no other command to be run.
-/

import FixtureRunner.Shell.Program
import FixtureRunner.Shell.Variables

namespace FixtureRunner.Shell

open Tool (Program)

/-! ### Output -/

def saying (text : Raw) (status : Nat := 0) : Eval Nat := do
  Eval.say 1 text
  return status

def echoBuiltin : Program := fun words =>
  let (bare, shown) :=
    match words with
    | ['-', 'n'] :: rest => (true, rest)
    | _ => (false, words)
  saying (Tool.echoWords bare shown)

def formatDialect : Tool.Dialect :=
  { badNumber := fun argument fault =>
      argument ++ ": " ++
        (match fault with
          | .notNumeric => "expected numeric value"
          | .cutShort => "not completely converted"
          | .tooLarge => "Numerical result out of range")
    badDirective := fun directive => directive ++ ": invalid directive"
    badStatus := 2
    unfinished := fun _ => "missing format character"
    escape := fun text =>
      let (char, rest) := Tool.escape text
      ([char], rest, false)
    unescape := Tool.unescape }

def printfBuiltin : Program := fun words => do
  let found ← optionWords "" "" words
  match found.operands with
  | [] => Eval.abort "usage: printf format [arg ...]"
  | format :: arguments => do
      let done := Tool.formatted formatDialect format arguments
      done.complaints.reverse.forM Eval.complain
      saying done.written.reverse done.status

/-! ### Conditions -/

def conditionBuiltin : Program := fun words => do
  match Tool.holds (← Eval.disk) words with
  | .ok true => return 0
  | .ok false => return 1
  | .error fault => Eval.abort fault.message

def bracketBuiltin : Program := fun words => do
  if (words.getLast?.bind List.head?) = some ']' then conditionBuiltin words.dropLast
  else Eval.abort "missing ]"

/-! ### Places -/

def physicalPlace : Eval Raw :=
  return Raw.ofString (Disk.pathTo (← Eval.disk).here).text

def stepsFrom : List Raw → List Raw → List Raw
  | found, [] => found.reverse
  | found, name :: rest =>
      if name.isEmpty || name = ['.'] then stepsFrom found rest
      else if name = ['.', '.'] then stepsFrom (found.drop 1) rest
      else stepsFrom (name :: found) rest

def logicalPlace (place path : Raw) : Raw :=
  let whole := if path.head? = some '/' then path else place ++ '/' :: path
  '/' :: List.intercalate ['/'] (stepsFrom [] (Text.fields '/' whole))

def enter (isPhysical : Bool) (target : Raw) : Eval Bool := do
  let process ← Eval.process
  let disk ← Eval.disk
  let logical := logicalPlace process.place target
  match disk.find (Eval.pathOf (if isPhysical then target else logical)) with
  | .ok (location, .folder) => do
      Eval.setDisk { disk with here := location }
      let place := if isPhysical then Raw.ofString (Disk.pathTo location).text else logical
      let export_ (name value : Raw) : Eval Unit := do
        Eval.assign name value
        Eval.exportName name
      export_ "OLDPWD" process.place
      export_ "PWD" place
      Eval.modifyProcess fun held => { held with place }
      return true
  | _ => return false

def isAnchored (path : Raw) : Bool :=
  path.head? = some '/' || path = ['.'] || path = ['.', '.'] || "./".toList.isPrefixOf path ||
    "../".toList.isPrefixOf path

def enterSearching (isPhysical : Bool) (target : Raw) : List Raw → Eval (Option Raw)
  | [] => return if ← enter isPhysical target then some [] else none
  | folder :: rest => do
      let candidate := if folder.isEmpty then target else Tool.joinPath folder target
      if ← enter isPhysical candidate then
        return some (if folder.isEmpty then [] else candidate)
      else
        enterSearching isPhysical target rest

def changeFolder : Program := fun words => do
  let found ← optionWords "LP" "" words
  let isPhysical := (found.options.getLast?).map (·.1) = some 'P'
  let goesBack := found.operands.head? = some ['-']
  let target ←
    match found.operands with
    | [] => (·.getD []) <$> Eval.lookup? "HOME"
    | given :: _ =>
        if goesBack then (·.getD []) <$> Eval.lookup? "OLDPWD" else pure given
  let target := if target.isEmpty then ['.'] else target
  let searchPath ← (·.getD []) <$> Eval.lookup? "CDPATH"
  let folders := if isAnchored target || searchPath.isEmpty then [] else Text.fields ':' searchPath
  match ← enterSearching isPhysical target folders with
  | none => Eval.abort ("can't cd to " ++ target)
  | some shown => do
      if goesBack || !shown.isEmpty then Eval.say 1 ((← Eval.process).place ++ ['\n'])
      return 0

def placeBuiltin : Program := fun words => do
  let found ← optionWords "LP" "" words
  let isPhysical := (found.options.getLast?).map (·.1) = some 'P'
  let place ← if isPhysical then physicalPlace else (·.place) <$> Eval.process
  saying (place ++ ['\n'])

/-! ### Permissions of new files -/

def permissionLetters (bits : Nat) : Raw :=
  (if bits / 4 % 2 = 1 then ['r'] else []) ++ (if bits / 2 % 2 = 1 then ['w'] else []) ++
    (if bits % 2 = 1 then ['x'] else [])

def maskBuiltin : Program := fun words => do
  let found ← optionWords "S" "" words
  let mask := (← Eval.process).mask
  match found.operands with
  | [] => do
      let kept := 511 - mask
      let octal (number : Nat) : Raw :=
        let digits := Nat.toDigits 8 number
        List.replicate (4 - digits.length) '0' ++ digits
      Eval.say 1 <|
        (if found.has 'S' then
          "u=" ++ permissionLetters (kept / 64) ++ ",g=" ++
            permissionLetters (kept / 8 % 8) ++ ",o=" ++ permissionLetters (kept % 8)
         else octal mask) ++ ['\n']
      return 0
  | word :: _ =>
      if (word.head?.map Char.isDigit).getD false then
        match Raw.digits? 8 word with
        | some mask => do
            Eval.modifyProcess fun process => { process with mask := mask % 512 }
            return 0
        | none => Eval.abort ("Illegal number: " ++ word)
      else
        return 0

/-! ### The end of loops, functions and the script -/

/-- Leaves loops or goes on with them; outside of a loop nothing happens. -/
def leaveBuiltin (stop : Nat → Stop) : Program := fun words => do
  let count ← numberOr 1 words
  if count = 0 then Eval.abort ("Illegal number: " ++ words.headD [])
  let loops := (← Eval.process).loops
  if loops = 0 then return 0 else throw (stop (min count loops))

def exitBuiltin : Program := fun words => do
  let process ← Eval.process
  throw (.exit (← numberOr (process.leaving.getD process.status) words))

def returnBuiltin : Program := fun words => do
  throw (.return (← numberOr (← Eval.process).status words))

def plainBuiltins : List (String × Program) :=
  [(":", fun _ => return 0), ("true", fun _ => return 0), ("false", fun _ => return 1),
    ("echo", echoBuiltin), ("printf", printfBuiltin), ("test", conditionBuiltin),
    ("[", bracketBuiltin), ("exit", exitBuiltin), ("return", returnBuiltin),
    ("break", leaveBuiltin .leave), ("continue", leaveBuiltin .again), ("set", setBuiltin),
    ("shift", shiftBuiltin), ("getopts", optionsBuiltin),
    ("export", markBuiltin "export" (·.exported) fun held => { held with exported := true }),
    ("readonly", markBuiltin "readonly" (·.constant) fun held => { held with constant := true }),
    ("local", localBuiltin), ("unset", unsetBuiltin), ("alias", aliasBuiltin),
    ("unalias", unaliasBuiltin), ("read", readBuiltin), ("cd", changeFolder),
    ("chdir", changeFolder), ("pwd", placeBuiltin), ("trap", trapBuiltin), ("umask", maskBuiltin),
    ("times", fun _ => saying "0m0.000000s 0m0.000000s\n0m0.000000s 0m0.000000s\n"),
    ("ulimit", fun _ => saying "unlimited\n"),
    ("jobs", fun _ => return 0),
    ("fg", fun _ => Eval.abort "No current job"),
    ("bg", fun _ => Eval.abort "No current job")]

def plainBuiltin? (name : Raw) : Option Program :=
  plainBuiltins.lookup (String.ofList name)

def assigningBuiltins : List String :=
  ["export", "readonly", "local", "alias"]

end FixtureRunner.Shell
