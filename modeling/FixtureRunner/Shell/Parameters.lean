/-
Options of commands, and the commands that handle options and arguments of a script.
-/

import FixtureRunner.Shell.Expansion
import FixtureRunner.Shell.Signal
import FixtureRunner.Tool.Message

namespace FixtureRunner.Shell

open Tool (Program)

structure OptionWords where
  options : List (Char × Raw) := []
  operands : List Raw := []

def OptionWords.has (found : OptionWords) (letter : Char) : Bool :=
  found.options.any (·.1 = letter)

/-- The letters of one word; those in `valued` take the rest of the word or the next one. -/
def letterOptions (flags valued : Raw) : Raw → List Raw → Eval (List (Char × Raw) × List Raw)
  | [], rest => return ([], rest)
  | letter :: others, rest => do
      if valued.contains letter then
        if others.isEmpty then
          match rest with
          | value :: after => return ([(letter, value)], after)
          | [] => Eval.abort ("No arg for -" ++ letter :: " option")
        else
          return ([(letter, others)], rest)
      else if flags.contains letter then do
        let (more, after) ← letterOptions flags valued others rest
        return ((letter, []) :: more, after)
      else
        Eval.abort ("Illegal option -" ++ [letter])

def optionWordsFrom (flags valued : Raw) : Nat → List Raw → Eval OptionWords
  | 0, operands => return { operands }
  | room + 1, words => do
      match words with
      | ['-', '-'] :: rest => return { operands := rest }
      | ('-' :: letter :: letters) :: rest => do
          let (options, after) ← letterOptions flags valued (letter :: letters) rest
          let others ← optionWordsFrom flags valued room after
          return { others with options := options ++ others.options }
      | operands => return { operands }

def optionWords (flags valued : String) (words : List Raw) : Eval OptionWords :=
  optionWordsFrom flags.toList valued.toList (words.length + 1) words

def numberOf (word : Raw) : Eval Nat := do
  let trimmed := (word.dropWhile Raw.isSpace).reverse.dropWhile Raw.isSpace |>.reverse
  let digits :=
    match trimmed with
    | '+' :: rest => rest
    | _ => trimmed
  match Raw.nat? digits with
  | some number =>
      if number < Nat.pow 2 31 then return number else Eval.abort ("Illegal number: " ++ word)
  | none => Eval.abort ("Illegal number: " ++ word)

def numberOr (standard : Nat) (words : List Raw) : Eval Nat := do
  match words with
  | [] => return standard
  | word :: _ => numberOf word

def singleQuoted (text : Raw) : Raw :=
  let stretch := text.takeWhile (· ≠ '\'')
  if stretch.length = text.length then '\'' :: text ++ ['\'']
  else quoteFrom (text.length + 1) text
where
  quoteFrom : Nat → Raw → Raw
  | 0, _ => []
  | room + 1, text =>
      let plain := text.takeWhile (· ≠ '\'')
      let marks := (text.drop plain.length).takeWhile (· = '\'')
      let rest := text.drop (plain.length + marks.length)
      '\'' :: plain ++ ['\''] ++ (if marks.isEmpty then [] else '"' :: marks ++ ['"']) ++
        (if rest.isEmpty then [] else quoteFrom room rest)

/-! ### Options of the shell -/

def setSwitch (switch : Switch) (value : Bool) : Eval Unit :=
  Eval.modifyProcess fun process =>
    let others := process.switches.filter (· ≠ switch)
    { process with switches := if value then switch :: others else others }

def letterSwitch? (letter : Char) : Option Switch :=
  (switchTable.find? (·.2.1 = some letter)).map (·.1)

def setLetter (letter : Char) (value : Bool) : Eval Unit := do
  match letterSwitch? letter with
  | some switch => setSwitch switch value
  | none => Eval.abort ("Illegal option -" ++ [letter])

def listSwitches (asCommands : Bool) : Eval Unit := do
  let process ← Eval.process
  unless asCommands do Eval.say 1 "Current option settings\n"
  switchTable.forM fun (switch, _, name) =>
    let isOn := process.has switch
    Eval.say 1 <|
      if asCommands then ("set " ++ (if isOn then "-o " else "+o ") ++ name ++ "\n").toList
      else (name ++ String.ofList (List.replicate (16 - name.length) ' ') ++
        (if isOn then "on\n" else "off\n")).toList

def setNamed (name? : Option Raw) (value : Bool) : Eval Unit := do
  match name? with
  | none => listSwitches (!value)
  | some name =>
      match switchTable.find? (·.2.2.toList = name) with
      | some (switch, _, _) => setSwitch switch value
      | none => Eval.abort ("Illegal option -o " ++ name)

def setLetters (value : Bool) : Raw → List Raw → Eval (List Raw)
  | [], rest => return rest
  | letter :: others, rest => do
      if letter = 'o' then do
        setNamed rest.head? value
        setLetters value others (rest.drop 1)
      else do
        setLetter letter value
        setLetters value others rest

def setFrom : Nat → List Raw → Eval Unit
  | 0, _ => return ()
  | _ + 1, [] => return ()
  | room + 1, word :: rest => do
      match word with
      | ['-'] => do
          setSwitch .trace false
          setSwitch .verbose false
          unless rest.isEmpty do setArguments rest
      | ['-', '-'] => setArguments rest
      | '-' :: letters => do setFrom room (← setLetters true letters rest)
      | '+' :: letters => do setFrom room (← setLetters false letters rest)
      | _ => setArguments (word :: rest)
where
  setArguments (arguments : List Raw) : Eval Unit :=
    Eval.modifyProcess fun process =>
      { process with arguments, optionIndex := 1, optionOffset := none }

def listVariables (lead : Raw) (chosen : Variable → Bool) : Eval Unit := do
  let ordered := ((← Eval.process).bindings.filter chosen).mergeSort fun left right =>
    !(right.name < left.name)
  ordered.forM fun held =>
    Eval.say 1 (lead ++ held.name ++
      (match held.value with
        | some value => '=' :: singleQuoted value
        | none => []) ++ ['\n'])

def setBuiltin : Program := fun words => do
  if words.isEmpty then listVariables [] (·.value.isSome)
  else setFrom (words.length + 1) words
  return 0

def shiftBuiltin : Program := fun words => do
  let count ← numberOr 1 words
  let arguments := (← Eval.process).arguments
  if arguments.length < count then
    Eval.abort "can't shift that many"
  else do
    Eval.modifyProcess fun process =>
      { process with arguments := arguments.drop count, optionIndex := 1, optionOffset := none }
    return 0

/-! ### Reading the options of a script -/

def wantedOptions : Raw → List (Char × Bool)
  | [] => []
  | letter :: ':' :: rest => (letter, true) :: wantedOptions rest
  | letter :: rest => (letter, false) :: wantedOptions rest

def nextOption (wanted name : Raw) (arguments : List Raw) : Eval Nat := do
  let process ← Eval.process
  let isSilent := wanted.head? = some ':'
  let known := wantedOptions (if isSilent then wanted.drop 1 else wanted)
  let current : Raw :=
    match process.optionOffset with
    | some offset =>
        if process.optionIndex ≤ 1 then []
        else (arguments.getD (process.optionIndex - 2) []).drop offset
    | none => []
  let finish (letter : Char) (index : Nat) (offset : Option Nat) (status : Nat) : Eval Nat := do
    Eval.assign "OPTIND" (Raw.ofNat index)
    Eval.assign name [letter]
    Eval.modifyProcess fun held => { held with optionIndex := index, optionOffset := offset }
    return status
  let setValue (value : Raw) : Eval Unit := Eval.assign "OPTARG" value
  let start : Option (Raw × Nat) ←
    if !current.isEmpty then
      pure (some (current, process.optionIndex))
    else
      match arguments[process.optionIndex - 1]? with
      | some ('-' :: '-' :: []) => pure none
      | some ('-' :: letter :: more) => pure (some (letter :: more, process.optionIndex + 1))
      | _ => pure none
  match start with
  | none =>
      let isClosing := arguments[process.optionIndex - 1]? = some ['-', '-']
      finish '?' (if isClosing then process.optionIndex + 1 else process.optionIndex) none 1
  | some ([], _) => finish '?' process.optionIndex none 1
  | some (letter :: rest, index) => do
      let offset := (arguments.getD (index - 2) []).length - rest.length
      match if letter = ':' then none else known.lookup letter with
      | none => do
          if isSilent then
            setValue [letter]
          else do
            Eval.say 2 ("Illegal option -" ++ [letter, '\n'])
            Eval.forget "OPTARG"
          finish '?' index (some offset) 0
      | some false => do
          setValue []
          finish letter index (some offset) 0
      | some true =>
          if !rest.isEmpty then do
            setValue rest
            finish letter index none 0
          else
            match arguments[index - 1]? with
            | some value => do
                setValue value
                finish letter (index + 1) none 0
            | none =>
                if isSilent then do
                  setValue [letter]
                  finish ':' index (some offset) 0
                else do
                  Eval.say 2 ("No arg for -" ++ letter :: " option\n")
                  Eval.forget "OPTARG"
                  finish '?' index (some offset) 0

def optionsBuiltin : Program := fun words => do
  match words with
  | wanted :: name :: [] => do nextOption wanted name (← Eval.process).arguments
  | wanted :: name :: arguments => nextOption wanted name arguments
  | _ => Eval.abort "Usage: getopts optstring var [arg...]"

/-! ### Signals -/

def trapBuiltin : Program := fun words => do
  let found ← optionWords "" "" words
  match found.operands with
  | [] => do
      let ordered := (← Eval.process).traps.mergeSort fun left right => left.1 ≤ right.1
      ordered.forM fun (signal, command) =>
        Eval.say 1 ("trap -- " ++ singleQuoted command ++ ' ' :: signalName signal ++ ['\n'])
      return 0
  | first :: others =>
      let isSignal := others.isEmpty || (numberedSignal? first).isSome
      let action : Option Raw := if isSignal || first = ['-'] then none else some first
      set action (if isSignal then first :: others else others)
where
  set (action : Option Raw) : List Raw → Eval Nat
  | [] => return 0
  | name :: rest => do
      match signal? name with
      | none => do
          Eval.say 2 ("trap: " ++ name ++ ": bad trap\n")
          return 1
      | some signal => do
          Eval.modifyProcess fun process =>
            let others := process.traps.filter (·.1 ≠ signal)
            { process with
              traps :=
                match action with
                | none => others
                | some command => (signal, command) :: others }
          set action rest

end FixtureRunner.Shell
