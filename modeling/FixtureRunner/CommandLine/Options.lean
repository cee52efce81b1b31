/-
Reading a command line.

Arguments are read one after another.  An option that takes a value waits for it: its
value is the next argument unless that looks like an option, and it is checked when the
next thing is read.  After `--` every argument is a fragment.
-/

import FixtureRunner.CommandLine.Usage

namespace FixtureRunner.CommandLine

structure Options where
  mode : RunMode := .clean
  root : String := "."
  config : Option String := none
  compiler : Option String := none
  timeoutMs : Option Nat := none
  reportOut : Option String := none
  verbose : Nat := 0
  fragments : List String := []
deriving DecidableEq

structure Reading where
  /-- The modes in the order in which they were given. -/
  modes : List ModeFlag := []
  /-- The settings with their values, the last one first. -/
  settings : List (Setting × String) := []
  verbose : Nat := 0
  fragments : List String := []
  /-- An option that waits for its value, or whose value has not been checked. -/
  pending : Option (Setting × Option String) := none
  onlyFragments : Bool := false
deriving DecidableEq

/-! ### Values -/

def greatestNumber : Nat := Nat.pow 2 64 - 1

/-- The value of digits, read from the left; the first fault that is met counts. -/
def readDigits : Nat → Text → Except NumberFault Nat
  | value, [] => .ok value
  | value, char :: rest =>
      if !char.isDigit then
        .error .badDigit
      else
        let longer := value * 10 + (char.toNat - '0'.toNat)
        if greatestNumber < longer then .error .tooLarge else readDigits longer rest

def readNumber (text : Text) : Except NumberFault Nat :=
  match text with
  | [] => .error .empty
  | '+' :: digit :: rest => readDigits 0 (digit :: rest)
  | _ => readDigits 0 text

/-- A path cannot be empty, and a time has to be a number. -/
def checkValue (setting : Setting) (value : String) : Except Refusal Unit :=
  match setting with
  | .timeoutMs =>
      match readNumber value.toList with
      | .ok _ => .ok ()
      | .error fault => .error (.badNumber setting value fault)
  | _ => if value = "" then .error (.valueMissing setting) else .ok ()

namespace Reading

def accept (reading : Reading) (setting : Setting) (value : String) : Except Refusal Reading :=
  if reading.settings.any (·.1 = setting) then
    .error (.repeatedSetting setting)
  else do
    checkValue setting value
    return { reading with settings := (setting, value) :: reading.settings }

def resolve (reading : Reading) : Except Refusal Reading :=
  match reading.pending with
  | none => .ok reading
  | some (setting, none) => .error (.valueMissing setting)
  | some (setting, some value) => { reading with pending := none }.accept setting value

def flag (reading : Reading) (flag : Flag) : Except Refusal Reading := do
  let settled ← reading.resolve
  match flag with
  | .help => throw .help
  | .version => throw .version
  | .verbose => return { settled with verbose := min 255 (settled.verbose + 1) }
  | .mode mode =>
      if settled.modes.contains mode then throw (.repeatedMode mode)
      else return { settled with modes := settled.modes ++ [mode] }

/-- Options written as letters behind one dash. -/
def letters : Text → Reading → Except Refusal Reading
  | [], reading => .ok reading
  | letter :: rest, reading =>
      match Flag.all.find? (·.letter = letter) with
      | none => .error (.unknown (String.ofList ['-', letter]))
      | some found => do letters rest (← reading.flag found)

/-- An option written as a word behind two dashes, with the value that stands behind an
equals sign. -/
def word (reading : Reading) (name : Text) (value : Option Text) : Except Refusal Reading :=
  match Flag.all.find? (·.name.toList = name), Setting.all.find? (·.name.toList = name) with
  | some found, _ =>
      match value with
      | none => reading.flag found
      | some text => .error (.valueUnwanted found (String.ofList text))
  | none, some setting => do
      let settled ← reading.resolve
      match value with
      | none => return { settled with pending := some (setting, none) }
      | some text => settled.accept setting (String.ofList text)
  | none, none => .error (.unknown (String.ofList ('-' :: '-' :: name)))

def plain (reading : Reading) (argument : String) : Except Refusal Reading :=
  match reading.pending, reading.onlyFragments with
  | some (setting, none), false =>
      .ok { reading with pending := some (setting, some argument) }
  | _, _ => do
      let settled ← reading.resolve
      return { settled with fragments := settled.fragments ++ [argument] }

def step (reading : Reading) (argument : String) : Except Refusal Reading :=
  if reading.onlyFragments then
    reading.plain argument
  else
    match argument.toList with
    | ['-', '-'] => .ok { reading with onlyFragments := true }
    | '-' :: '-' :: rest =>
        match rest.span (· ≠ '=') with
        | (name, []) => reading.word name none
        | (name, _ :: value) => reading.word name (some value)
    | ['-'] => reading.plain argument
    | '-' :: rest => letters rest reading
    | _ => reading.plain argument

/-- At most one mode can be given. -/
def options (reading : Reading) : Except Refusal Options :=
  let value (setting : Setting) : Option String := reading.settings.lookup setting
  match reading.modes with
  | first :: second :: rest => .error (.modeConflict first (second :: rest))
  | modes =>
      .ok
        { mode := (modes.head?.map ModeFlag.runMode).getD .clean
          root := (value .root).getD "."
          config := value .config
          compiler := value .compiler
          timeoutMs := (value .timeoutMs).bind fun text => (readNumber text.toList).toOption
          reportOut := value .reportOut
          verbose := reading.verbose
          fragments := reading.fragments }

end Reading

def parse (arguments : List String) : Except Refusal Options := do
  let reading ← arguments.foldlM Reading.step {}
  (← reading.resolve).options

end FixtureRunner.CommandLine
