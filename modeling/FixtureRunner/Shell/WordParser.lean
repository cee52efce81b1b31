/-
Reading words: literals, quotes, and what a dollar sign or a backquote introduces.
-/

import FixtureRunner.Shell.Source

namespace FixtureRunner.Shell

inductive Context where
  | bare
  | quoted
  | braced (doubled inDocument : Bool)
  | arithmetic (depth : Nat)
  | document
  | delimiter
  | quotedDelimiter
deriving DecidableEq

namespace Context

def protects : Context → Bool
  | .bare | .delimiter => false
  | .braced doubled _ => doubled
  | .quoted | .arithmetic _ | .document | .quotedDelimiter => true

def expands : Context → Bool
  | .delimiter | .quotedDelimiter => false
  | _ => true

def escapes (context : Context) (char : Char) : Bool :=
  char = '$' || char = '`' || char = '\\' || (char = '"' && context ≠ .document) ||
    (char = '\x7d' && (context = .braced true false || context = .braced true true))

def hasSingleQuotes : Context → Bool
  | .bare | .delimiter => true
  | .braced doubled _ => !doubled
  | _ => false

def insideQuotes : Context → Option Context
  | .bare | .braced _ _ => some .quoted
  | .delimiter => some .quotedDelimiter
  | _ => none

/-- The context inside the braces of a parameter expansion; a pattern is not protected by
the quotes around the expansion. -/
def insideBraces (context : Context) (isPattern : Bool) : Context :=
  let inDocument :=
    match context with
    | .document => true
    | .braced _ inDocument => inDocument
    | _ => false
  .braced (context.protects && !isPattern) inDocument

def lacking : Context → Option Problem
  | .bare | .document | .delimiter => none
  | .quoted | .quotedDelimiter => some .unterminatedQuote
  | .braced doubled inDocument =>
      some (if doubled && !inDocument then .unterminatedQuote else .missingBrace)
  | .arithmetic _ => some .missingParentheses

end Context

structure Rules where
  list : Bool → Parser Script
  command : Parser Script
  token : Parser Token
  parts : Context → Parser (List Part)

def Part.onto (part : Part) (others : List Part) : List Part :=
  match part, others with
  | .literal text quoted, .literal more sameQuoted :: rest =>
      if quoted = sameQuoted then .literal (text ++ more) quoted :: rest else part :: others
  | _, _ => part :: others

def isSpecialParameter (char : Char) : Bool :=
  ['@', '*', '#', '?', '-', '$', '!'].contains char

namespace Parser

/-- Reads a text of its own with another reader; documents are numbered through. -/
def within {α : Type} (text : Raw) (line : Nat) (parser : Parser α) : Parser α := do
  let source ← get
  match parser.run { source with rest := text, line, pushed := none, announced := [] } with
  | .ok (value, after) => do
      set { source with documents := after.documents }
      return value
  | .error fault => throw fault

variable (rules : Rules)

def parameterForm : Parser (Form × Bool) := do
  let orEmpty ← accept ':'
  match ← next with
  | some '\x7d' => return if orEmpty then (.value, false) else (.value, true)
  | some '-' => return (.otherwise orEmpty, false)
  | some '=' => return (.assign orEmpty, false)
  | some '?' => return (.insist orEmpty, false)
  | some '+' => return (.instead orEmpty, false)
  | some '%' =>
      if orEmpty then return (.unknown, false)
      else return (.trim (if ← accept '%' then .longestEnd else .shortestEnd), false)
  | some '#' =>
      if orEmpty then return (.unknown, false)
      else return (.trim (if ← accept '#' then .longestStart else .shortestStart), false)
  | _ => return (.unknown, false)

def bracedName : Parser Raw := do
  match ← peek with
  | none => return []
  | some char =>
      if isNameStart char then takeWhile isNameChar
      else if char.isDigit then takeWhile Char.isDigit
      else if isSpecialParameter char then do
        skip 1
        return [char]
      else
        return []

/-- Whether the number sign at the front asks for a length, and of which kind: of a named
parameter, or of a special one that the closing brace follows. -/
def asksForLength : Parser Bool := do
  let source ← get
  if ← accept '#' then
    match ← next with
    | none => do
        set source
        return false
    | some char =>
        let isNamed := isNameChar char
        let closes := (← peek) = some '\x7d' && char ≠ '\x7d'
        set source
        return isNamed || closes
  else
    return false

def braces (context : Context) : Parser Part := do
  let isLength ← asksForLength
  if isLength then skip 1
  let name ← bracedName
  let quoted := context.protects
  let (form, isClosed) ←
    if name.isEmpty then
      pure (Form.unknown, false)
    else if isLength then do
      pure (if (← peek) = some '\x7d' then Form.length else Form.unknown, false)
    else
      parameterForm
  if name.isEmpty && (← peek) ≠ some '\x7d' then skip 1
  if isClosed then
    return .parameter name form [] quoted
  else do
    let isPattern :=
      match form with
      | .trim _ => true
      | _ => false
    let argument ← rules.parts (context.insideBraces isPattern)
    skip 1
    return .parameter name form argument quoted

def substitution (quoted : Bool) : Parser Part := do
  let announced := (← get).announced
  modify fun source => { source with announced := [] }
  let body ← rules.list true
  let token ← rules.token
  unless token.isSign ")" do unexpected token (some ")")
  modify fun source => { source with announced }
  return .substitution body quoted

def backquotedFrom (inQuotes : Bool) : Nat → Raw → Parser Raw
  | 0, taken => return taken.reverse
  | room + 1, taken => do
      match ← next with
      | none => fail .unterminatedBackquote
      | some '`' => return taken.reverse
      | some '\\' => do
          match (← get).rest.head? with
          | none => fail .unterminatedBackquote
          | some char => do
              skip 1
              if char = '`' || char = '\\' || char = '$' || (char = '"' && inQuotes) then
                backquotedFrom inQuotes room (char :: taken)
              else
                backquotedFrom inQuotes room (char :: '\\' :: taken)
      | some char => backquotedFrom inQuotes room (char :: taken)

/-- A command substitution in backquotes, the first of which has been read.  Its lines are
counted from one. -/
def oldSubstitution (quoted : Bool) : Parser Part := do
  let text ← backquotedFrom quoted textBound []
  return .substitution (← within text 1 (rules.list true)) quoted

def dollar (context : Context) : Parser Part := do
  let quoted := context.protects
  match ← peek with
  | some '\x7b' => do
      skip 1
      braces rules context
  | some '(' => do
      skip 1
      if ← accept '(' then do
        let expression ← rules.parts (.arithmetic 0)
        skip 1
        let _ ← accept ')'
        return .arithmetic expression quoted
      else
        substitution rules quoted
  | some char =>
      if isNameStart char then
        return .parameter (← takeWhile isNameChar) .value [] quoted
      else if char.isDigit || isSpecialParameter char then do
        skip 1
        return .parameter [char] .value [] quoted
      else
        return .literal ['$'] quoted
  | none => return .literal ['$'] quoted

def singleQuoted : Parser Part := do
  let rest := (← get).rest
  let text := rest.takeWhile (· ≠ '\'')
  skip text.length
  if (← get).rest.isEmpty then fail .unterminatedQuote
  skip 1
  return .literal text true

def escaped (context : Context) : Parser Part := do
  match (← get).rest.head? with
  | none => return .literal ['\\'] true
  | some char => do
      skip 1
      if !context.protects || context.escapes char then return .literal [char] true
      else return .literal ['\\', char] true

def endsAt (context : Context) (char : Char) : Parser Bool := do
  match context with
  | .bare | .delimiter => return isMeta char
  | .quoted | .quotedDelimiter => return char = '"'
  | .braced _ _ => return char = '\x7d'
  | .document => return false
  | .arithmetic depth =>
      if depth = 0 && char = ')' then do
        let source ← get
        skip 1
        let closes := (← peek) = some ')'
        set source
        return closes
      else
        return false

def contextAfter (context : Context) (char : Char) : Context :=
  match context with
  | .arithmetic depth =>
      if char = '(' then .arithmetic (depth + 1)
      else if char = ')' then .arithmetic (depth - 1)
      else context
  | _ => context

def partsHere (context : Context) (char : Char) : Parser (List Part × Context) := do
  skip 1
  if char = '\\' then
    return ([← escaped context], context)
  else if char = '$' && context.expands then
    return ([← dollar rules context], context)
  else if char = '`' && context.expands then
    return ([← oldSubstitution rules context.protects], context)
  else if char = '\'' && context.hasSingleQuotes then
    return ([← singleQuoted], context)
  else
    match if char = '"' then context.insideQuotes else none with
    | some inside => do
        let parts ← rules.parts inside
        skip 1
        return (if parts.isEmpty then [.literal [] true] else parts, context)
    | none =>
        return ([.literal [char] context.protects], contextAfter context char)

def partsFrom : Nat → Context → List Part → Parser (List Part)
  | 0, _, found => return found
  | room + 1, context, found => do
      match ← peek with
      | none =>
          match context.lacking with
          | some problem => fail problem
          | none => return found
      | some char =>
          if ← endsAt context char then
            return found
          else do
            let (parts, after) ← partsHere rules context char
            partsFrom room after (parts.reverse ++ found)

def parts (context : Context) : Parser (List Part) := do
  let found ← partsFrom rules textBound context []
  return found.foldl (fun joined part => part.onto joined) []

end Parser

def literalText : List Part → Raw
  | [] => []
  | .literal text _ :: rest => text ++ literalText rest
  | _ :: rest => literalText rest

def plainText? : Word → Option Raw
  | [.literal text false] => some text
  | _ => none

end FixtureRunner.Shell
