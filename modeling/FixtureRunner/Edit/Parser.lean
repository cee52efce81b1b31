/-
Reading scripts that edit: addresses, commands with their arguments, and the branches
between them.
-/

import FixtureRunner.Edit.Script

namespace FixtureRunner.Edit

inductive Fault where
  | missingCommand
  | unknownCommand (letter : Char)
  | unexpectedComma
  | badFirstAddress
  | lineZero
  | repeatedNot
  | oneAddress
  | commentAddress
  | labelAddress
  | closingAddress
  | extraCharacters
  | unterminatedAddress
  | unterminatedSubstitution
  | unterminatedExchange
  | unevenExchange
  | unexpectedClosing
  | unmatchedOpening
  | expectedText
  | missingLabel
  | missingFile
  | unknownFlag
  | repeatedGlobal
  | repeatedPrint
  | repeatedNumber
  | zeroNumber
  | badReference (number : Nat)
  | newerVersion
  | sandboxed
  | expression (fault : Search.Fault)
  | unknownLabel (label : Raw)

def Fault.message : Fault → Raw
  | .missingCommand => "missing command"
  | .unknownCommand letter => "unknown command: `" ++ [letter, '\'']
  | .unexpectedComma => "unexpected `,'"
  | .badFirstAddress => "invalid usage of +N or ~N as first address"
  | .lineZero => "invalid usage of line address 0"
  | .repeatedNot => "multiple `!'s"
  | .oneAddress => "command only uses one address"
  | .commentAddress => "comments don't accept any addresses"
  | .labelAddress => ": doesn't want any addresses"
  | .closingAddress => "\x7d doesn't want any addresses"
  | .extraCharacters => "extra characters after command"
  | .unterminatedAddress => "unterminated address regex"
  | .unterminatedSubstitution => "unterminated `s' command"
  | .unterminatedExchange => "unterminated `y' command"
  | .unevenExchange => "strings for `y' command are different lengths"
  | .unexpectedClosing => "unexpected `\x7d'"
  | .unmatchedOpening => "unmatched `\x7b'"
  | .expectedText => "expected \\ after `a', `c' or `i'"
  | .missingLabel => "\":\" lacks a label"
  | .missingFile => "missing filename in r/R/w/W commands"
  | .unknownFlag => "unknown option to `s'"
  | .repeatedGlobal => "multiple `g' options to `s' command"
  | .repeatedPrint => "multiple `p' options to `s' command"
  | .repeatedNumber => "multiple number options to `s' command"
  | .zeroNumber => "number option to `s' command may not be zero"
  | .badReference number =>
      "invalid reference \\" ++ Raw.ofNat number ++ " on `s' command's RHS"
  | .newerVersion => "expected newer version of sed"
  | .sandboxed => "e/r/w commands disabled in sandbox mode"
  | .expression fault => fault.message
  | .unknownLabel label => "can't find label for jump to `" ++ label ++ ['\'']

/-- A fault and how many characters of the script had been read, if that is told. -/
structure Refusal where
  fault : Fault
  consumed : Nat

structure Dialect where
  extended : Bool := false
  isSandboxed : Bool := false

structure PendingBranch where
  index : Nat
  label : Raw

structure Reading where
  rest : Raw
  consumed : Nat := 0
  commands : Array Command := #[]
  /-- Where blocks have been opened: the index of the command and the place in the script. -/
  opened : List (Nat × Nat) := []
  labels : List (Raw × Nat) := []
  branches : List PendingBranch := []
  files : List Raw := []
  isQuiet : Bool := false
  dialect : Dialect := {}

abbrev Reader := StateT Reading (Except Refusal)

namespace Reader

def refuse {α : Type} (fault : Fault) : Reader α := do
  throw { fault, consumed := (← get).consumed }

def take : Reader (Option Char) := do
  match (← get).rest with
  | [] => return none
  | char :: rest => do
      modify fun reading => { reading with rest, consumed := reading.consumed + 1 }
      return some char

def peek : Reader (Option Char) :=
  return (← get).rest.head?

def skip (count : Nat) : Reader Unit :=
  modify fun reading =>
    { reading with
      rest := reading.rest.drop count
      consumed := reading.consumed + min count reading.rest.length }

def takeWhile (condition : Char → Bool) : Reader Raw := do
  let found := (← get).rest.takeWhile condition
  skip found.length
  return found

def isBlank (char : Char) : Bool :=
  char = ' ' || char = '\t'

def skipBlanks : Reader Unit := do
  let _ ← takeWhile isBlank

def number : Reader (Option Nat) := do
  return Raw.nat? (← takeWhile Char.isDigit)

/-! ### Delimited texts -/

inductive BracketState where
  | outside
  /-- Right behind the opening, where a closing bracket is a member. -/
  | opening
  | inside
  | named (mark : Char)
  | closing
deriving DecidableEq

def BracketState.step (state : BracketState) (char : Char) (next : Option Char) : BracketState :=
  match state with
  | .outside => if char = '[' then .opening else .outside
  | .opening =>
      if char = '^' then .opening
      else if char = '[' && (next = some ':' || next = some '.' || next = some '=') then
        .named (next.getD ':')
      else .inside
  | .inside =>
      if char = ']' then .outside
      else if char = '[' && (next = some ':' || next = some '.' || next = some '=') then
        .named (next.getD ':')
      else .inside
  | .named mark => if char = mark && next = some ']' then .closing else .named mark
  | .closing => .inside

/-- A text up to its delimiter, backwards: nothing if the delimiter is missing.  Escapes of
the delimiter and of newlines are resolved; `room` bounds its length. -/
def delimitedFrom (delimiter : Char) (isExpression : Bool) :
    Nat → BracketState → Raw → Reader (Option Raw)
  | 0, _, _ => return none
  | room + 1, state, found => do
      match ← peek with
      | none => return none
      | some '\n' => return none
      | some char =>
          if char = delimiter && state = .outside then do
            skip 1
            return some found
          else if char = '\\' then do
            skip 1
            match ← take with
            | none => return none
            | some escaped => do
                let following ← peek
                let after := if state = .outside then state else state.step escaped following
                if isExpression && escaped = 'n' && delimiter ≠ 'n' then
                  delimitedFrom delimiter isExpression room after ('\n' :: found)
                else if escaped = '\n' then
                  delimitedFrom delimiter isExpression room after ('\n' :: found)
                else if escaped = delimiter && (isExpression || delimiter ≠ '&') then
                  delimitedFrom delimiter isExpression room after (escaped :: found)
                else
                  delimitedFrom delimiter isExpression room after (escaped :: '\\' :: found)
          else do
            skip 1
            let following ← peek
            let after := if isExpression then state.step char following else state
            delimitedFrom delimiter isExpression room after (char :: found)

def delimited (delimiter : Char) (isExpression : Bool) : Reader (Option Raw) := do
  let room := (← get).rest.length + 1
  return (← delimitedFrom delimiter isExpression room .outside []).map List.reverse

/-! ### Escapes -/

def numbered? (text : Raw) : Option (Char × Raw) :=
  let digitsOf (base most : Nat) (rest : Raw) : Option (Char × Raw) :=
    let digits := (rest.take most).takeWhile fun char => (Raw.hexDigit? char).any (· < base)
    if digits.isEmpty then none
    else
      let value := digits.foldl (fun value char => value * base + (Raw.hexDigit? char).getD 0) 0
      some (Char.ofNat (value % 256), rest.drop digits.length)
  match text with
  | 'c' :: char :: rest => some (Char.ofNat (char.toUpper.toNat ^^^ 64), rest)
  | 'd' :: rest => digitsOf 10 3 rest
  | 'o' :: rest => digitsOf 8 3 rest
  | 'x' :: rest => digitsOf 16 2 rest
  | 'b' :: _ => none
  | char :: rest => (Raw.letterEscape? char).map (·, rest)
  | [] => none

/-- A text with its characters that are given by letters or numbers put in; those with a
meaning of their own are protected.  `room` bounds its length. -/
def resolvedFrom (isSpecial : Char → Bool) : Nat → Raw → Raw → Raw
  | 0, _, found => found.reverse
  | _ + 1, [], found => found.reverse
  | room + 1, '\\' :: rest, found =>
      match numbered? rest with
      | some (char, after) =>
          resolvedFrom isSpecial room after
            (if isSpecial char then char :: '\\' :: found else char :: found)
      | none =>
          match rest with
          | char :: after => resolvedFrom isSpecial room after (char :: '\\' :: found)
          | [] => ('\\' :: found).reverse
  | room + 1, char :: rest, found => resolvedFrom isSpecial room rest (char :: found)

def resolved (isSpecial : Char → Bool) (text : Raw) : Raw :=
  resolvedFrom isSpecial (text.length + 1) text []

def unescaped : Raw → Raw
  | '\\' :: char :: rest => char :: unescaped rest
  | ['\\'] => []
  | char :: rest => char :: unescaped rest
  | [] => []

def isExpressionSpecial (extended : Bool) (char : Char) : Bool :=
  "$*.[\\]^".toList.contains char || (extended && "+?\x7b\x7d()|".toList.contains char)

def pattern (text : Raw) (ignoresCase multiline : Bool) : Reader Pattern := do
  let extended := (← get).dialect.extended
  if text.isEmpty then
    return { compiled := none, ignoresCase, multiline }
  else
    match Search.read extended (resolved (isExpressionSpecial extended) text) (!extended) with
    | .ok compiled => return { compiled := some compiled, ignoresCase, multiline }
    | .error fault => refuse (.expression fault)

/-! ### Addresses -/

def addressFlags : Nat → Bool → Bool → Reader (Bool × Bool)
  | 0, ignoresCase, multiline => return (ignoresCase, multiline)
  | room + 1, ignoresCase, multiline => do
      skipBlanks
      match ← peek with
      | some 'I' => do
          skip 1
          addressFlags room true multiline
      | some 'M' => do
          skip 1
          addressFlags room ignoresCase true
      | _ => return (ignoresCase, multiline)

def address? : Reader (Option RangeStop) := do
  match ← peek with
  | some '/' => do
      skip 1
      expression '/'
  | some '\\' => do
      skip 1
      match ← take with
      | some delimiter => expression delimiter
      | none => refuse .unterminatedAddress
  | some '$' => do
      skip 1
      return some (.address .last)
  | some '+' => do
      skip 1
      skipBlanks
      return some (.after ((← number).getD 0))
  | some '~' => do
      skip 1
      skipBlanks
      return some (.multiple ((← number).getD 0))
  | some char =>
      if char.isDigit then do
        let first := (← number).getD 0
        skipBlanks
        if (← peek) = some '~' then do
          skip 1
          skipBlanks
          let step := (← number).getD 0
          return some (.address (if step = 0 then .line first else .step first step))
        else
          return some (.address (.line first))
      else
        return none
  | none => return none
where
  expression (delimiter : Char) : Reader (Option RangeStop) := do
    match ← delimited delimiter true with
    | none => refuse .unterminatedAddress
    | some text => do
        let (ignoresCase, multiline) ← addressFlags (← get).rest.length false false
        return some (.address (.pattern (← pattern text ignoresCase multiline)))

def isPatternStop : Option RangeStop → Bool
  | some (.address (.pattern _)) => true
  | _ => false

/-- The addresses in front of a command and whether they are negated; the letter of the
command has been taken afterwards. -/
def scope : Reader (Scope × Char) := do
  let first? ← address?
  let (first, stop) ← match first? with
    | none => pure (none, none)
    | some (.address first) => do
        skipBlanks
        if (← peek) = some ',' then do
          skip 1
          skipBlanks
          match ← address? with
          | none => do
              let _ ← take
              refuse .unexpectedComma
          | some stop => pure (some first, some stop)
        else
          pure (some first, none)
    | some _ => refuse .badFirstAddress
  skipBlanks
  let char? ← take
  match first with
  | some (.line 0) => if !isPatternStop stop then refuse .lineZero
  | _ => pure ()
  match char? with
  | none => refuse .missingCommand
  | some '!' => do
      skipBlanks
      match ← take with
      | none => refuse .missingCommand
      | some '!' => refuse .repeatedNot
      | some letter => return ({ first, stop, negated := true }, letter)
  | some letter => return ({ first, stop }, letter)

/-! ### Arguments of commands -/

def commandEnd : Reader Unit := do
  skipBlanks
  match ← peek with
  | none => return ()
  | some char =>
      if char = '\x7d' || char = '#' then
        return ()
      else do
        skip 1
        unless char = '\n' || char = ';' do refuse .extraCharacters

/-- A label ends at a blank, a semicolon or a closing brace. -/
def label : Reader Raw := do
  skipBlanks
  takeWhile fun char => !(Raw.isSpace char || char = ';' || char = '\x7d')

def requireFree : Reader Unit := do
  if (← get).dialect.isSandboxed then refuse .sandboxed

def fileName : Reader Raw := do
  requireFree
  skipBlanks
  let name ← takeWhile (· ≠ '\n')
  if name.isEmpty then refuse .missingFile
  return name

/-- The lines of a text that is put in: a backslash in front of a newline goes on with the
text.  The result is backwards and still holds its escapes; `room` bounds its length. -/
def textFrom : Nat → Raw → Reader Raw
  | 0, found => return found
  | room + 1, found => do
      match ← take with
      | none => return found
      | some '\n' => return found
      | some '\\' => do
          match ← take with
          | none => return found
          | some '\n' => textFrom room ('\n' :: found)
          | some char => textFrom room (char :: '\\' :: found)
      | some char => textFrom room (char :: found)

def textArgument : Reader Raw := do
  skipBlanks
  let room := (← get).rest.length + 1
  match ← peek with
  | none => refuse .expectedText
  | some '\\' => do
      skip 1
      match ← peek with
      | none => return []
      | some '\n' => do
          skip 1
          finish (← textFrom room [])
      | some _ => finish (← textFrom room [])
  | some _ => finish (← textFrom room [])
where
  finish (backwards : Raw) : Reader Raw :=
    return unescaped (resolved (· = '\\') backwards.reverse) ++ ['\n']

/-! ### Substitutions -/

/-- Reads a replacement.  `case` goes on until it is changed, `first` only for the next piece;
`text` is the current piece backwards. -/
def replacementFrom : Nat → Raw → Case → Case → Raw → List Replacement → List Replacement
  | 0, _, _, _, _, found => found.reverse
  | _ + 1, [], case, first, text, found =>
      (if text.isEmpty then found
        else { text := text.reverse, case, first } :: found).reverse
  | room + 1, '&' :: rest, case, first, text, found =>
      replacementFrom room rest case .same []
        ({ text := text.reverse, group := some 0, case, first } :: found)
  | room + 1, '\\' :: char :: rest, case, first, text, found =>
      let closed (group : Option Nat) : List Replacement :=
        { text := text.reverse, group, case, first } :: found
      if char.isDigit then
        replacementFrom room rest case .same [] (closed (some (char.toNat - '0'.toNat)))
      else
        match char with
        | 'L' => replacementFrom room rest .lower .same [] (closed none)
        | 'U' => replacementFrom room rest .upper .same [] (closed none)
        | 'E' => replacementFrom room rest .same .same [] (closed none)
        | 'l' => replacementFrom room rest case .lower [] (closed none)
        | 'u' => replacementFrom room rest case .upper [] (closed none)
        | _ => replacementFrom room rest case first (char :: text) found
  | room + 1, char :: rest, case, first, text, found =>
      replacementFrom room rest case first (char :: text) found

def replacement (text : Raw) : List Replacement :=
  replacementFrom (text.length + 1) text .same .same [] []

def substitutionFlags : Nat → Substitution → Option Nat → Reader (Substitution × Option Nat)
  | 0, made, number => return (made, number)
  | room + 1, made, given => do
      skipBlanks
      match ← peek with
      | none => return (made, given)
      | some char =>
          if char = '\x7d' || char = '#' then
            return (made, given)
          else if char.isDigit then do
            let value := (← number).getD 0
            if given.isSome then refuse .repeatedNumber
            if value = 0 then refuse .zeroNumber
            substitutionFlags room made (some value)
          else do
            skip 1
            match char with
            | '\n' | ';' => return (made, given)
            | 'i' | 'I' =>
                substitutionFlags room
                  { made with pattern := { made.pattern with ignoresCase := true } } given
            | 'm' | 'M' =>
                substitutionFlags room
                  { made with pattern := { made.pattern with multiline := true } } given
            | 'g' =>
                if made.isGlobal then refuse .repeatedGlobal
                else substitutionFlags room { made with isGlobal := true } given
            | 'p' =>
                if made.prints then refuse .repeatedPrint
                else substitutionFlags room { made with prints := true } given
            | 'e' => do
                requireFree
                substitutionFlags room { made with executes := true } given
            | 'w' => do
                let name ← fileName
                let _ ← take
                modify fun reading => { reading with files := reading.files ++ [name] }
                return ({ made with file := some name }, given)
            | _ => refuse .unknownFlag

def substitution : Reader Substitution := do
  match ← take with
  | none => refuse .unterminatedSubstitution
  | some delimiter => do
      match ← delimited delimiter true with
      | none => refuse .unterminatedSubstitution
      | some expression => do
          match ← delimited delimiter false with
          | none => refuse .unterminatedSubstitution
          | some text => do
              let pieces := replacement (resolved (fun char => char = '&' || char = '\\') text)
              let blank : Substitution := { pattern := { compiled := none }, replacement := pieces }
              let (made, given) ← substitutionFlags ((← get).rest.length + 1) blank none
              let read ← pattern expression made.pattern.ignoresCase made.pattern.multiline
              let groups := (read.compiled.map (·.groups)).getD 9
              let highest := pieces.foldl (fun most piece => max most (piece.group.getD 0)) 0
              if groups < highest then refuse (.badReference highest)
              return { made with pattern := read, number := given.getD 1 }

def exchangeSide (text : Raw) : Raw :=
  unescaped (resolved (· = '\\') text)

def exchangeTable : Reader (List (Char × Char)) := do
  match ← take with
  | none => refuse .unterminatedExchange
  | some delimiter => do
      match ← delimited delimiter false with
      | none => refuse .unterminatedExchange
      | some left => do
          match ← delimited delimiter false with
          | none => refuse .unterminatedExchange
          | some right => do
              let from_ := exchangeSide left
              let to_ := exchangeSide right
              if from_.length ≠ to_.length then refuse .unevenExchange
              commandEnd
              return from_.zip to_

/-! ### Commands -/

def add (scope : Scope) (action : Action) : Reader Unit :=
  modify fun reading => { reading with commands := reading.commands.push { scope, action } }

def addFile (name : Raw) : Reader Unit :=
  modify fun reading => { reading with files := reading.files ++ [name] }

def addBranch (scope : Scope) (when : BranchWhen) : Reader Unit := do
  let name ← label
  let index := (← get).commands.size
  add scope (.branch when 0)
  modify fun reading => { reading with branches := { index, label := name } :: reading.branches }

def comment : Reader Unit := do
  let isFirst := (← get).consumed = 1
  let text ← takeWhile (· ≠ '\n')
  if isFirst && text = ['n'] then
    modify fun reading => { reading with isQuiet := true }

def simpleAction? (letter : Char) : Option Action :=
  match letter with
  | '=' => some .lineNumber
  | 'd' => some .delete
  | 'D' => some .deleteFirst
  | 'F' => some .fileName
  | 'g' => some .get
  | 'G' => some .getAppend
  | 'h' => some .hold
  | 'H' => some .holdAppend
  | 'n' => some .next
  | 'N' => some .nextAppend
  | 'p' => some .print
  | 'P' => some .printFirst
  | 'x' => some .exchange
  | 'z' => some .clear
  | _ => none

def command (scope : Scope) (letter : Char) : Reader Unit := do
  match simpleAction? letter with
  | some action => do
      commandEnd
      add scope action
  | none =>
      match letter with
      | '#' => do
          if scope.first.isSome then refuse .commentAddress
          comment
      | ':' => do
          if scope.first.isSome then refuse .labelAddress
          let name ← label
          if name.isEmpty then refuse .missingLabel
          modify fun reading =>
            { reading with labels := (name, reading.commands.size) :: reading.labels }
      | '\x7b' => do
          let reading ← get
          set { reading with opened := (reading.commands.size, reading.consumed) :: reading.opened }
          add scope (.block 0)
      | '\x7d' => do
          match (← get).opened with
          | [] => refuse .unexpectedClosing
          | (index, _) :: opened => do
              if scope.first.isSome then refuse .closingAddress
              commandEnd
              modify fun reading =>
                { reading with
                  opened
                  commands := reading.commands.modify index fun held =>
                    { held with action := .block reading.commands.size } }
              add {} .blockEnd
      | 'b' => addBranch scope .always
      | 't' => addBranch scope .replaced
      | 'T' => addBranch scope .notReplaced
      | 'q' | 'Q' => do
          if scope.stop.isSome then refuse .oneAddress
          skipBlanks
          let status := (← number).getD 0
          commandEnd
          add scope (if letter = 'q' then .quit status else .quitSilently status)
      | 'l' => do
          skipBlanks
          let width ← number
          commandEnd
          add scope (.list width)
      | 'v' => do
          let version ← label
          if version.head?.any ('5' ≤ ·) then refuse .newerVersion
      | 'e' => do
          requireFree
          skipBlanks
          let following ← peek
          if following = none || following = some '\n' then
            add scope (.execute none)
          else
            add scope (.execute (some (← textArgument)))
      | 'a' => do add scope (.append (← textArgument))
      | 'i' => do add scope (.insert (← textArgument))
      | 'c' => do add scope (.change (← textArgument))
      | 'r' => do add scope (.appendFile (← fileName))
      | 'R' => do add scope (.appendLine (← fileName))
      | 'w' => do
          let name ← fileName
          addFile name
          add scope (.write name)
      | 'W' => do
          let name ← fileName
          addFile name
          add scope (.writeFirst name)
      | 's' => do add scope (.substitute (← substitution))
      | 'y' => do add scope (.exchangeChars (← exchangeTable))
      | _ => refuse (.unknownCommand letter)

def commands : Nat → Reader Unit
  | 0 => return ()
  | room + 1 => do
      let _ ← takeWhile fun char => Raw.isSpace char || char = ';'
      match ← peek with
      | none => return ()
      | some _ => do
          let (scope, letter) ← scope
          command scope letter
          commands room

/-- Lets branches lead to their labels, the end of the script for none. -/
def resolveBranches (reading : Reading) : Except Refusal (Array Command) :=
  reading.branches.foldlM (fun commands branch => do
    let target ←
      if branch.label.isEmpty then pure reading.commands.size
      else
        match reading.labels.reverse.lookup branch.label with
        | some target => pure target
        | none => throw { fault := .unknownLabel branch.label, consumed := 0 }
    return commands.modify branch.index fun held =>
      match held.action with
      | .branch when _ => { held with action := .branch when target }
      | _ => held) reading.commands

end Reader

def Script.read (dialect : Dialect) (text : Raw) : Except Refusal Script := do
  let ((), reading) ← (Reader.commands (text.length + 1)).run { rest := text, dialect }
  match reading.opened.getLast? with
  | some (_, consumed) => throw { fault := .unmatchedOpening, consumed }
  | none => do
      return {
        commands := ← Reader.resolveBranches reading
        isQuiet := reading.isQuiet
        files := reading.files }

end FixtureRunner.Edit
