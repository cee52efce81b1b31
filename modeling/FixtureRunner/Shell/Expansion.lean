/-
From words to the texts they stand for: parameters, substitutions and arithmetic are
replaced, the results are split into fields, and patterns are matched against files.
-/

import FixtureRunner.Shell.Arithmetic
import FixtureRunner.Shell.Glob
import FixtureRunner.Shell.Machine
import FixtureRunner.Shell.Source

namespace FixtureRunner.Shell

inductive Piece where
  /-- A character; `splits` if it can separate fields. -/
  | glyph (glyph : Glyph) (splits : Bool)
  | boundary
  | hold

abbrev Capturing := Script → Eval Raw

def piecesOf (quoted splits : Bool) (text : Raw) : List Piece :=
  if text.isEmpty && quoted then [.hold]
  else text.map fun char => .glyph ⟨char, quoted⟩ splits

def flatText (pieces : List Piece) : Raw :=
  pieces.filterMap fun piece =>
    match piece with
    | .glyph glyph _ => some glyph.char
    | .boundary => some ' '
    | .hold => none

def glyphsOf (pieces : List Piece) : List Glyph :=
  pieces.filterMap fun piece =>
    match piece with
    | .glyph glyph _ => some glyph
    | .boundary => some ⟨' ', true⟩
    | .hold => none

def separate (quoted : Bool) : List Raw → List Piece
  | [] => []
  | [last] => piecesOf quoted (!quoted) last
  | text :: rest => piecesOf quoted (!quoted) text ++ .boundary :: separate quoted rest

def separators : Eval Raw :=
  return (← Eval.lookup? "IFS").getD [' ', '\t', '\n']

def joint : Eval Raw := do
  match ← Eval.lookup? "IFS" with
  | none => return [' ']
  | some separators => return separators.take 1

def switchTable : List (Switch × Option Char × String) :=
  [(.exitOnError, some 'e', "errexit"), (.noPathnames, some 'f', "noglob"),
    (.ignoreEnd, some 'I', "ignoreeof"), (.interactive, some 'i', "interactive"),
    (.monitor, some 'm', "monitor"), (.noRun, some 'n', "noexec"), (.input, some 's', "stdin"),
    (.trace, some 'x', "xtrace"), (.verbose, some 'v', "verbose"), (.vi, some 'V', "vi"),
    (.emacs, some 'E', "emacs"), (.noOverwrite, some 'C', "noclobber"),
    (.exportAll, some 'a', "allexport"), (.notify, some 'b', "notify"),
    (.refuseUnset, some 'u', "nounset"), (.privileged, some 'p', "privileged"),
    (.noLog, none, "nolog"), (.debug, none, "debug")]

def switchLetters (switches : List Switch) : Raw :=
  switchTable.reverse.filterMap fun (switch, letter?, _) =>
    if switches.contains switch then letter? else none

def parameter? (name : Raw) : Eval (Option Raw) := do
  let process ← Eval.process
  match name with
  | ['#'] => return some (Raw.ofNat process.arguments.length)
  | ['?'] => return some (Raw.ofNat process.status)
  | ['$'] => return some (Raw.ofNat process.shellIdentity)
  | ['!'] => return process.lastJob.map Raw.ofNat
  | ['-'] => return some (switchLetters process.switches)
  | ['@'] | ['*'] => return some (List.intercalate [' '] process.arguments)
  | _ =>
      match Raw.nat? name with
      | some 0 => return some process.name
      | some number => return process.arguments[number - 1]?
      | none => Eval.lookup? name

def refuseUnset {α : Type} (name message : Raw) : Eval α :=
  Eval.abort (name ++ ": " ++ message)

/-- All fields of a parameter without any operation; where nothing is split the arguments
are joined. -/
def plainParameter (splits : Bool) (name : Raw) (quoted : Bool) : Eval (List Piece) := do
  let process ← Eval.process
  let joined : Eval (List Piece) := do
    return piecesOf quoted false (List.intercalate (← joint) process.arguments)
  match name with
  | ['@'] => if splits then return separate quoted process.arguments else joined
  | ['*'] => if splits && !quoted then return separate false process.arguments else joined
  | _ =>
      match ← parameter? name with
      | some value => return piecesOf quoted (!quoted) value
      | none =>
          if process.has .refuseUnset then refuseUnset name "parameter not set"
          else return piecesOf quoted (!quoted) []

/-- Text that was not quoted where it stands can separate fields once it is a value. -/
def loosened (quoted : Bool) (pieces : List Piece) : List Piece :=
  pieces.map fun piece =>
    match piece with
    | .glyph glyph _ => .glyph glyph (!quoted && !glyph.quoted)
    | other => other

def trimmed (kind : Trim) (pattern : List Glob) (value : Raw) : Raw :=
  match kind with
  | .shortestStart => cutStart false pattern value
  | .longestStart => cutStart true pattern value
  | .shortestEnd => cutEnd false pattern value
  | .longestEnd => cutEnd true pattern value

/-! ### Home folders -/

def users : List (String × String) :=
  [("root", "/root"), ("daemon", "/usr/sbin"), ("bin", "/bin"), ("sys", "/dev"), ("games", "/usr/games"),
    ("mail", "/var/mail"), ("www-data", "/var/www"), ("nobody", "/nonexistent")]

def homeOf? (user : Raw) : Eval (Option Raw) := do
  if user.isEmpty then Eval.lookup? "HOME"
  else return (users.find? (·.1.toList = user)).map (·.2.toList)

/-- A tilde with the name of a user at the front of a part is a home folder. -/
def withHome (inAssignment isLast : Bool) (text : Raw) : Eval (List Part) := do
  match text with
  | '~' :: rest =>
      let user := rest.takeWhile fun char => char ≠ '/' && !(inAssignment && char = ':')
      let after := rest.drop user.length
      if after.isEmpty && !isLast then
        return [.literal text false]
      else
        match ← homeOf? user with
        | none => return [.literal text false]
        | some home =>
            return .literal home true :: (if after.isEmpty then [] else [.literal after false])
  | _ => return [.literal text false]

def colonStretches (text : Raw) : List Raw :=
  match text with
  | [] => [[]]
  | char :: rest =>
      match colonStretches rest with
      | [] => [[char]]
      | first :: others => if char = ':' then [char] :: first :: others else (char :: first) :: others

def withHomes (isLast : Bool) : List Raw → Eval (List Part)
  | [] => return []
  | [last] => if last.isEmpty then return [] else withHome true isLast last
  | stretch :: rest => return (← withHome true true stretch) ++ (← withHomes isLast rest)

def settleHomes (inAssignment isStart : Bool) : List Part → Eval (List Part)
  | [] => return []
  | part :: rest => do
      match part with
      | .literal text false =>
          if inAssignment then
            let stretches := colonStretches text
            let first ←
              if isStart then withHomes rest.isEmpty stretches
              else do
                let others ← withHomes rest.isEmpty (stretches.drop 1)
                pure (.literal (stretches.headD []) false :: others)
            return first ++ (← settleHomes inAssignment false rest)
          else if isStart then
            return (← withHome false rest.isEmpty text) ++ rest
          else
            return part :: rest
      | _ => if inAssignment then return part :: (← settleHomes inAssignment false rest) else return part :: rest

def hasTilde (parts : List Part) : Bool :=
  parts.any fun part =>
    match part with
    | .literal text false => text.contains '~'
    | _ => false

def expandHomes (inAssignment : Bool) (parts : List Part) : Eval (List Part) :=
  if hasTilde parts then settleHomes inAssignment true parts else return parts

/-! ### Parts -/

/-- Expands the parts of a word, of which fields are made where it `splits`; `room` bounds
the nesting. -/
def expandParts (capture : Capturing) (splits : Bool) : Nat → List Part → Eval (List Piece)
  | 0, _ => return []
  | room + 1, parts =>
      parts.foldlM (fun pieces part => do return pieces ++ (← expandPart splits room part)) []
where
  expandPart (splits : Bool) : Nat → Part → Eval (List Piece)
  | 0, _ => return []
  | _ + 1, .literal text quoted => return piecesOf quoted false text
  | _ + 1, .substitution body quoted => do
      let output ← capture body
      let kept := (output.filter (· ≠ '\x00')).reverse.dropWhile (· = '\n')
      return piecesOf quoted (!quoted) kept.reverse
  | room + 1, .arithmetic expression quoted => do
      let text := flatText (← expandParts capture false room expression)
      let bindings := (← Eval.process).bindings
      let values (name : Raw) : Option Raw :=
        (bindings.find? (·.name = name)).bind (·.value)
      match Arithmetic.value values text with
      | .ok (value, assigned) => do
          assigned.forM fun (name, value) => Eval.assign name (Raw.ofInt value)
          return piecesOf quoted (!quoted) (Raw.ofInt value)
      | .error fault => Eval.abort (fault.message text)
  | room + 1, .parameter name form argument quoted => do
      if form = .unknown then Eval.abort "Bad substitution"
      let value? ← parameter? name
      let present (orEmpty : Bool) : Bool :=
        match value? with
        | none => false
        | some value => !(orEmpty && value.isEmpty)
      let argumentPieces (splits : Bool) : Eval (List Piece) := do
        expandParts capture splits room (← expandHomes false argument)
      let known : Eval Raw := do
        match value? with
        | some value => return value
        | none =>
            if (← Eval.process).has .refuseUnset then refuseUnset name "parameter not set"
            else return []
      match form with
      | .value | .unknown => plainParameter splits name quoted
      | .length => return piecesOf quoted (!quoted) (Raw.ofNat (← known).length)
      | .otherwise orEmpty =>
          if present orEmpty then plainParameter splits name quoted
          else return loosened quoted (← argumentPieces splits)
      | .instead orEmpty =>
          if present orEmpty then return loosened quoted (← argumentPieces splits)
          else return piecesOf quoted (!quoted) []
      | .assign orEmpty =>
          if present orEmpty then
            plainParameter splits name quoted
          else do
            let text := flatText (← argumentPieces false)
            if name.all fun char => !isNameChar char then
              Eval.abort (name ++ ": bad variable name")
            if (name.head?.map Char.isDigit).getD true then
              Eval.abort (name ++ ": bad variable name")
            Eval.assign name text
            return piecesOf quoted (!quoted) text
      | .insist orEmpty =>
          if present orEmpty then
            plainParameter splits name quoted
          else do
            let text := flatText (← argumentPieces false)
            let message :=
              if argument.isEmpty then
                if orEmpty then "parameter not set or null".toList else "parameter not set".toList
              else text
            refuseUnset name message
      | .trim kind => do
          let value ← known
          let pattern := globOf (glyphsOf (← argumentPieces false))
          return piecesOf quoted (!quoted) (trimmed kind pattern value)

def expansionDepth : Nat := Nat.pow 2 30

/-! ### Fields -/

structure Cutting where
  fields : List (List Glyph) := []
  current : List Glyph := []
  isStarted : Bool := false
  /-- White space has ended a field, and a separator may still belong to it. -/
  isPending : Bool := false

def Cutting.finish (cutting : Cutting) (isPending : Bool) : Cutting :=
  { fields := cutting.current.reverse :: cutting.fields, isPending }

def Cutting.step (separators : Raw) (cutting : Cutting) : Piece → Cutting
  | .hold => { cutting with isStarted := true, isPending := false }
  | .boundary => if cutting.isStarted then cutting.finish false else { cutting with isPending := false }
  | .glyph glyph splits =>
      if splits && separators.contains glyph.char then
        if glyph.char = ' ' || glyph.char = '\t' || glyph.char = '\n' then
          if cutting.isStarted then cutting.finish true else cutting
        else if cutting.isStarted then cutting.finish false
        else if cutting.isPending then { cutting with isPending := false }
        else cutting.finish false
      else
        { cutting with
          current := glyph :: cutting.current
          isStarted := true
          isPending := false }

def fieldsOf (separators : Raw) (pieces : List Piece) : List (List Glyph) :=
  let cut := pieces.foldl (Cutting.step separators) {}
  (if cut.isStarted then cut.finish false else cut).fields.reverse

def expandWord (capture : Capturing) (word : Word) : Eval (List Raw) := do
  match word with
  | [.literal text true] => return [text]
  | _ => do
      let pieces ← expandParts capture true expansionDepth (← expandHomes false word)
      let fields := fieldsOf (← separators) pieces
      let disk ← Eval.disk
      let noPathnames := (← Eval.process).has .noPathnames
      return fields.flatMap fun field =>
        if noPathnames then [field.map (·.char)] else expandPathnames disk field

def expandWords (capture : Capturing) (words : List Word) : Eval (List Raw) := do
  let found ← words.foldlM (fun found word => do return (← expandWord capture word).reverse ++ found) []
  return found.reverse

def expandText (capture : Capturing) (word : Word) : Eval Raw := do
  return flatText (← expandParts capture false expansionDepth (← expandHomes false word))

def expandValue (capture : Capturing) (word : Word) : Eval Raw := do
  return flatText (← expandParts capture false expansionDepth (← expandHomes true word))

def expandPattern (capture : Capturing) (word : Word) : Eval (List Glob) := do
  return globOf (glyphsOf (← expandParts capture false expansionDepth (← expandHomes false word)))

end FixtureRunner.Shell
