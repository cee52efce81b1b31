/-
The text of a script while it is read, and the tokens that it is cut into.
-/

import FixtureRunner.Shell.Syntax

namespace FixtureRunner.Shell

inductive Arrow where
  | file (opening : Opening)
  | duplicate
  | document (stripTabs : Bool)
deriving DecidableEq

inductive Token where
  | endOfText
  | newline
  | sign (text : String)
  | redirection (descriptor : Nat) (arrow : Arrow)
  | word (parts : Word) (plain : Option Raw) (quoted : Bool)
  | keyword (text : String)

structure Announced where
  number : Nat
  delimiter : Raw
  stripTabs : Bool
  isLiteral : Bool

structure Source where
  rest : Raw
  isFile : Bool := false
  line : Nat := 1
  pushed : Option Token := none
  announced : List Announced := []
  documents : Array Word := #[]
  aliases : List (Raw × Raw) := []
  expanding : List (Raw × Nat) := []

inductive Problem where
  | unexpected (found : Raw) (expected : Option Raw)
  | unterminatedQuote
  | unterminatedBackquote
  | missingBrace
  | missingParentheses
  | badLoopVariable
  | badFunctionName

def Problem.message (problem : Problem) : Raw :=
  "Syntax error: " ++
    match problem with
    | .unexpected found expected =>
        found ++ " unexpected" ++
          (match expected with
            | none => []
            | some text => " (expecting " ++ text ++ [')'])
    | .unterminatedQuote => "Unterminated quoted string"
    | .unterminatedBackquote => "EOF in backquote substitution"
    | .missingBrace => "Missing '\x7d'"
    | .missingParentheses => "Missing '))'"
    | .badLoopVariable => "Bad for loop variable"
    | .badFunctionName => "Bad function name"

structure SyntaxFault where
  problem : Problem
  line : Nat

abbrev Parser := StateT Source (Except SyntaxFault)

def isNameStart (char : Char) : Bool :=
  char.isAlpha || char = '_'

def isNameChar (char : Char) : Bool :=
  char.isAlphanum || char = '_'

def isName : Raw → Bool
  | [] => false
  | first :: rest => isNameStart first && rest.all isNameChar

def isMeta (char : Char) : Bool :=
  [' ', '\t', '\n', ';', '&', '|', '<', '>', '(', ')'].contains char

def closingWords : List String :=
  ["do", "done", "elif", "else", "esac", "fi", "then", "\x7d"]

def reservedWords : List String :=
  closingWords ++ ["!", "case", "for", "if", "in", "until", "while", "\x7b"]

def Token.shown : Token → Raw
  | .endOfText => "end of file"
  | .newline => "newline"
  | .sign text => '"' :: text.toList ++ ['"']
  | .redirection _ _ => "redirection"
  | .word _ _ _ => "word"
  | .keyword text => '"' :: text.toList ++ ['"']

def Token.isSign (text : String) : Token → Bool
  | .sign found => found = text
  | _ => false

def Token.isKeyword (text : String) : Token → Bool
  | .keyword found => found = text
  | _ => false

def textBound : Nat := Nat.pow 2 40

namespace Parser

variable {α : Type}

def fail (problem : Problem) : Parser α := do
  throw { problem, line := (← get).line }

def unexpected (found : Token) (expected : Option String) : Parser α :=
  fail (.unexpected found.shown (expected.map fun text =>
    if text = "word" then text.toList else '"' :: text.toList ++ ['"']))

def skip (count : Nat) : Parser Unit :=
  modify fun source =>
    { source with
      rest := source.rest.drop count
      line := source.line + (source.rest.take count).count '\n' }

def joinLinesFrom : Nat → Parser Unit
  | 0 => return ()
  | room + 1 => do
      match (← get).rest with
      | '\\' :: '\n' :: _ => do
          skip 2
          joinLinesFrom room
      | _ => return ()

def peek : Parser (Option Char) := do
  joinLinesFrom textBound
  return (← get).rest.head?

def next : Parser (Option Char) := do
  let char ← peek
  skip 1
  return char

def accept (char : Char) : Parser Bool := do
  if (← peek) = some char then
    skip 1
    return true
  else
    return false

def takeWhileFrom (test : Char → Bool) : Nat → Raw → Parser Raw
  | 0, taken => return taken.reverse
  | room + 1, taken => do
      match ← peek with
      | some char =>
          if test char then do
            skip 1
            takeWhileFrom test room (char :: taken)
          else
            return taken.reverse
      | none => return taken.reverse

def takeWhile (test : Char → Bool) : Parser Raw :=
  takeWhileFrom test textBound []

end Parser
end FixtureRunner.Shell
