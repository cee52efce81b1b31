/-
Commands on variables, functions and aliases, and the command that reads a line.
-/

import FixtureRunner.Shell.Parameters

namespace FixtureRunner.Shell

open Tool (Program)

def assignment (word : Raw) : Raw × Option Raw :=
  let name := word.takeWhile (· ≠ '=')
  (name, if name.length < word.length then some (word.drop (name.length + 1)) else none)

def requireName (name : Raw) : Eval Unit := do
  unless isName name do Eval.abort (name ++ ": bad variable name")

/-- Gives variables values, if the words have any, and marks them; without words it shows
those that are marked. -/
def markBuiltin (tool : String) (isMarked : Variable → Bool) (mark : Variable → Variable) :
    Program := fun words => do
  let found ← optionWords "p" "" words
  if found.has 'p' || found.operands.isEmpty then
    listVariables (tool.toList ++ [' ']) isMarked
  else
    found.operands.forM fun word => do
      let (name, value?) := assignment word
      requireName name
      match value? with
      | some value => Eval.assign name value
      | none => pure ()
      Eval.modifyVariable name mark
  return 0

def hide (name : Raw) : Eval Unit := do
  let before ← Eval.bindingOf? name
  Eval.modifyProcess fun process =>
    { process with hidden := process.hidden.map ((name, before) :: ·) }

def unhide (hidden : List (Raw × Option Variable)) (bindings : List Variable) : List Variable :=
  hidden.foldl (fun bindings (name, held?) =>
    held?.toList ++ bindings.filter (·.name ≠ name)) bindings

def localBuiltin : Program := fun words => do
  match (← Eval.process).hidden with
  | none => Eval.abort "not in a function"
  | some _ => do
      let found ← optionWords "" "" words
      found.operands.forM fun word => do
        let (name, value?) := assignment word
        hide name
        match value? with
        | some value => Eval.assign name value
        | none => Eval.modifyVariable name id
      return 0

def unsetBuiltin : Program := fun words => do
  let found ← optionWords "vf" "" words
  let isFunction := (found.options.getLast?).map (·.1) = some 'f'
  found.operands.forM fun name => do
    if isFunction then
      Eval.modifyProcess fun process =>
        { process with functions := process.functions.filter (·.1 ≠ name) }
    else do
      requireName name
      Eval.forget name
  return 0

/-! ### Aliases -/

def showAlias (name value : Raw) : Eval Unit :=
  Eval.say 1 (name ++ '=' :: singleQuoted value ++ ['\n'])

def aliasBuiltin : Program := fun words => do
  if words.isEmpty then do
    (← Eval.process).aliases.reverse.forM fun (name, value) => showAlias name value
    return 0
  else
    Tool.onEach words fun word => do
      let (name, value?) := assignment word
      match value? with
      | some value => do
          Eval.modifyProcess fun process =>
            { process with aliases := (name, value) :: process.aliases.filter (·.1 ≠ name) }
          return 0
      | none => do
          match (← Eval.process).aliases.lookup name with
          | some value => do
              showAlias name value
              return 0
          | none => do
              Eval.say 2 ("alias: " ++ name ++ " not found\n")
              return 1

def unaliasBuiltin : Program := fun words => do
  let found ← optionWords "a" "" words
  if found.has 'a' then do
    Eval.modifyProcess fun process => { process with aliases := [] }
    return 0
  else
    Tool.onEach found.operands fun name => do
      let aliases := (← Eval.process).aliases
      if (aliases.lookup name).isSome then do
        Eval.modifyProcess fun process =>
          { process with aliases := aliases.filter (·.1 ≠ name) }
        return 0
      else do
        Eval.say 2 ("unalias: " ++ name ++ " not found\n")
        return 1

/-! ### Input -/

/-- A line as it is read: its characters with whether they can separate fields, the last one
first; how many bytes have been used, and whether the line was ended. -/
structure InputLine where
  chars : List (Char × Bool) := []
  used : Nat := 0
  isEnded : Bool := false

/-- Reads a line; a backslash protects the next character unless `isRaw`. -/
def inputLineFrom (isRaw : Bool) : Bytes → Bool → InputLine → InputLine
  | [], _, line => line
  | byte :: rest, isProtected, line =>
      let char := Char.ofNat byte.toNat
      let next := { line with used := line.used + 1 }
      if char = '\x00' then inputLineFrom isRaw rest isProtected next
      else if isProtected then
        if char = '\n' then inputLineFrom isRaw rest false next
        else inputLineFrom isRaw rest false { next with chars := (char, false) :: next.chars }
      else if char = '\\' && !isRaw then inputLineFrom isRaw rest true next
      else if char = '\n' then { next with isEnded := true }
      else inputLineFrom isRaw rest false { next with chars := (char, true) :: next.chars }

structure LineCut where
  fields : List Raw := []
  start : Nat := 0
  surplus : Option Nat := none
  /-- White space has ended a field, and a separator may still belong to it. -/
  isPending : Bool := false
  left : Nat
  wasLoose : Bool := false

def LineCut.step (separators : Raw) (text : Array Char) (cut : LineCut) (position : Nat)
    (char : Char) (isLoose : Bool) : LineCut :=
  if !isLoose then
    { cut with wasLoose := false }
  else
    let cut := if cut.wasLoose then cut else { cut with isPending := false, wasLoose := true }
    let isSeparator := separators.contains char
    let isBlank := isSeparator && (char = ' ' || char = '\t' || char = '\n')
    if cut.left = 0 then
      if isBlank then
        { cut with surplus := cut.surplus.or (some position) }
      else
        { cut with
          surplus := if isSeparator && cut.isPending then cut.surplus else none
          isPending := false }
    else if cut.isPending && isBlank then
      { cut with start := position + 1 }
    else if cut.isPending then
      { cut with start := if isSeparator then position + 1 else position, isPending := false }
    else if isSeparator then
      if position = cut.start && isBlank then
        { cut with start := position + 1 }
      else if cut.left = 1 then
        { cut with left := 0, surplus := some position, isPending := isBlank }
      else
        { cut with
          fields := (text.extract cut.start position).toList :: cut.fields
          start := position + 1
          left := cut.left - 1
          isPending := isBlank }
    else
      cut

def lineFields (separators : Raw) (most : Nat) (line : InputLine) : List Raw :=
  let chars := line.chars.reverse
  let text := (chars.map (·.1)).toArray
  let (cut, _) := chars.foldl (fun (cut, position) (char, isLoose) =>
    (cut.step separators text position char isLoose, position + 1)) (({ left := most } : LineCut), 0)
  let stop := cut.surplus.getD text.size
  let last := (text.extract cut.start stop).toList
  (if last.isEmpty then cut.fields else last :: cut.fields).reverse

def readBuiltin : Program := fun words => do
  let found ← optionWords "r" "p" words
  if found.operands.isEmpty then
    Eval.abort "arg count"
  else do
    let bytes := ((← Eval.remaining 0 Stream.supplyBound).toOption).getD []
    let line := inputLineFrom (found.has 'r') bytes false {}
    Eval.consume 0 line.used
    let fields := lineFields (← separators) found.operands.length line
    found.operands.zipIdx.forM fun (name, index) => do
      requireName name
      Eval.assign name (fields.getD index [])
    return if line.isEnded then 0 else 1

end FixtureRunner.Shell
