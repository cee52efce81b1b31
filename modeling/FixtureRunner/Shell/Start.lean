/-
The shell as a program: its options, and the text that it reads.
-/

import FixtureRunner.Shell.Command

namespace FixtureRunner.Shell

def startLetters (value : Bool) : Raw → List Raw → Bool → Eval (Bool × List Raw)
  | [], rest, isCommand => return (isCommand, rest)
  | 'c' :: letters, rest, _ => startLetters value letters rest true
  | 'l' :: letters, rest, isCommand => startLetters value letters rest isCommand
  | 'o' :: letters, rest, isCommand => do
      setNamed rest.head? value
      startLetters value letters (rest.drop 1) isCommand
  | letter :: letters, rest, isCommand => do
      setLetter letter value
      startLetters value letters rest isCommand

def startOptions : Nat → List Raw → Bool → Eval (Bool × List Raw)
  | 0, words, isCommand => return (isCommand, words)
  | room + 1, words, isCommand => do
      match words with
      | ['-'] :: rest | ['-', '-'] :: rest => return (isCommand, rest)
      | ('-' :: letters) :: rest => do
          let (found, others) ← startLetters true letters rest isCommand
          startOptions room others found
      | ('+' :: letters) :: rest => do
          let (found, others) ← startLetters false letters rest isCommand
          startOptions room others found
      | _ => return (isCommand, words)

def provide (name value : String) : Eval Unit := do
  if (← Eval.lookup? name.toList).isNone then Eval.assign name.toList value.toList

def inheritedPlace? : Eval (Option Raw) := do
  let disk ← Eval.disk
  match ← Eval.lookup? "PWD" with
  | some place =>
      if place.head? = some '/' then
        match disk.find (Eval.pathOf place) with
        | .ok (location, .folder) => return if location = disk.here then some place else none
        | _ => return none
      else
        return none
  | none => return none

def startVariables : Eval Unit := do
  Eval.modifyProcess fun process =>
    { process with bindings := process.bindings.filter fun held => isName held.name }
  Eval.assign "IFS" [' ', '\t', '\n']
  Eval.assign "OPTIND" ['1']
  Eval.assign "PPID" (Raw.ofNat ((← Eval.process).ancestors.headD 0))
  provide "PS1" "# "
  provide "PS2" "> "
  provide "PS4" "+ "
  provide "PATH" (String.ofList defaultSearchPath)
  let place ←
    match ← inheritedPlace? with
    | some place => pure place
    | none => physicalPlace
  Eval.assign "PWD" place
  Eval.exportName "PWD"
  Eval.modifyProcess fun process => { process with place }

def runScriptText (run : Runner) (name : Raw) (arguments : List Raw) (isFile ends : Bool) (text : Raw) :
    Eval Nat := do
  Eval.modifyProcess fun process =>
    { process with name, arguments, line := 1, lastLine := 1, status := 0 }
  untilExit run (run (.source { rest := text, isFile } ends))

def runShell (run : Runner) (name : Raw) (arguments : List Raw) : Eval Nat := do
  Eval.modifyProcess fun process =>
    { process with
      name
      line := 0
      status := 0
      arguments := []
      shellIdentity := process.identity
      lastJob := none }
  startVariables
  let (isCommand, words) ← startOptions (arguments.length + 1) arguments false
  let readsInput := (← Eval.process).has .input
  match isCommand, words with
  | true, [] => Eval.abort "-c requires an argument"
  | true, [text] => runScriptText run name [] false (!readsInput) text
  | true, text :: zero :: others => runScriptText run zero others false (!readsInput) text
  | false, [] => fromInput []
  | false, file :: others => do
      if readsInput then
        fromInput (file :: others)
      else
        match ← scriptText file with
        | .ok text => runScriptText run file others true false text
        | .error error => Eval.abort (openFault .read file error)
where
  fromInput (words : List Raw) : Eval Nat := do
    setSwitch .input true
    match ← Eval.readAll 0 with
    | .ok text => runScriptText run name words true false text
    | .error _ => return 0

end FixtureRunner.Shell
