/-
How tools complain: the name under which they were started, what they were at, and the
names of files between quotes in which a shell would read them back.
-/

import FixtureRunner.Shell.Machine

namespace FixtureRunner.Tool

open Shell (Eval)

abbrev Program := List Raw → Eval Nat

def isPlainChar (char : Char) : Bool :=
  char.isAlphanum || ['%', '+', ',', '-', '.', '/', ':', '@', '_', ']'].contains char

/-- Whether a shell takes a name literally; some characters matter only at its start or
alone. -/
def isPlainName : Raw → Bool
  | [] => false
  | [only] => isPlainChar only
  | first :: rest =>
      let isBrace (char : Char) : Bool := char = '\x7b' || char = '\x7d'
      (isPlainChar first || isBrace first) &&
        rest.all fun char => isPlainChar char || isBrace char || char = '#' || char = '~'

def isShown (char : Char) : Bool :=
  ' ' ≤ char && char ≤ '~'

def octal (char : Char) : Raw :=
  let code := char.toNat
  ['\\', Nat.digitChar (code / 64 % 8), Nat.digitChar (code / 8 % 8), Nat.digitChar (code % 8)]

def escapeLetter? (char : Char) : Option Char :=
  match char with
  | '\x07' => some 'a'
  | '\x08' => some 'b'
  | '\t' => some 't'
  | '\n' => some 'n'
  | '\x0B' => some 'v'
  | '\x0C' => some 'f'
  | '\r' => some 'r'
  | _ => none

def escapedChar (char : Char) : Raw :=
  match escapeLetter? char with
  | some letter => ['\\', letter]
  | none => octal char

/-- The inside of quotes; `inEscape` tells whether a stretch of escapes is open. -/
def quotedFrom : Bool → Raw → Raw
  | _, [] => []
  | inEscape, char :: rest =>
      if isShown char then
        (if inEscape then ['\'', '\''] else []) ++
          (if char = '\'' then ['\'', '\\', '\'', '\''] else [char]) ++ quotedFrom false rest
      else
        (if inEscape then [] else ['\'', '$', '\'']) ++ escapedChar char ++ quotedFrom true rest

def quoted (name : Raw) : Raw :=
  let isSimple (char : Char) : Bool := isPlainChar char || char = ' ' || char = '\''
  if name.contains '\'' && name.all isSimple then
    '"' :: name ++ ['"']
  else
    '\'' :: quotedFrom false name ++ ['\'']

def quotedIfNeeded (name : Raw) : Raw :=
  if isPlainName name then name else quoted name

def complain (message : Raw) : Eval Unit := do
  Eval.say 2 ((← Eval.process).name ++ ": " ++ message ++ ['\n'])

def complainOf (message : Raw) (error : SystemError) : Eval Unit :=
  complain (message ++ ": " ++ error.reason.toList)

def fail (message : Raw) (status : Nat := 1) : Eval Nat := do
  complain message
  return status

def failOf (message : Raw) (error : SystemError) (status : Nat := 1) : Eval Nat := do
  complainOf message error
  return status

def hint : Eval Unit := do
  Eval.say 2
    ("Try '" ++ (← Eval.process).name ++ " --help' for more information.\n")

def misuse (message : Raw) (status : Nat := 1) : Eval Nat := do
  complain message
  hint
  return status

def missingOperand : Eval Nat :=
  misuse "missing operand"

def extraOperand (operand : Raw) : Eval Nat :=
  misuse ("extra operand " ++ quoted operand)

def output (text : Raw) (status : Nat := 0) : Eval Nat := do
  match ← Eval.write 1 (Raw.toBytes text) with
  | none => return status
  | some error => failOf "write error" error

/-! ### Files -/

def contentOf (name : Raw) : Eval (Except SystemError Raw) := do
  if name = ['-'] then Eval.readAll 0 else Eval.readFile name

/-- What all files hold, unless one of them cannot be read. -/
def contentsOf (lead : SystemError → Raw → Raw) : List Raw → Eval (Option (List Raw))
  | [] => return some []
  | name :: rest => do
      match ← contentOf name with
      | .ok content => return (← contentsOf lead rest).map (content :: ·)
      | .error error => do
          complainOf (lead error name) error
          return none

def onEach (operands : List Raw) (action : Raw → Eval Nat) : Eval Nat :=
  operands.foldlM (fun worst operand => do return max worst (← action operand)) 0

def baseName (name : Raw) : Raw :=
  let trimmed := (name.reverse.dropWhile (· = '/')).reverse
  if trimmed.isEmpty then
    if name.isEmpty then [] else ['/']
  else
    (trimmed.reverse.takeWhile (· ≠ '/')).reverse

def folderName (name : Raw) : Raw :=
  let trimmed := (name.reverse.dropWhile (· = '/'))
  let folder := ((trimmed.dropWhile (· ≠ '/')).dropWhile (· = '/')).reverse
  if folder.isEmpty then
    if name.head? = some '/' then ['/'] else ['.']
  else
    folder

def joinPath (folder name : Raw) : Raw :=
  if folder.getLast? = some '/' then folder ++ name else folder ++ '/' :: name

/-! ### Lines -/

/-- Pieces of a text that end with a mark; the last one first, and the last may lack it. -/
def piecesFrom (mark : Char) : Raw → Raw → List Raw → List Raw
  | [], current, found => if current.isEmpty then found else current.reverse :: found
  | char :: rest, current, found =>
      if char = mark then piecesFrom mark rest [] ((char :: current).reverse :: found)
      else piecesFrom mark rest (char :: current) found

def piecesOf (mark : Char) (text : Raw) : List Raw :=
  (piecesFrom mark text [] []).reverse

def bodyOf (mark : Char) (piece : Raw) : Raw :=
  if piece.getLast? = some mark then piece.dropLast else piece

def linesOf (mark : Char) (text : Raw) : List Raw :=
  (piecesOf mark text).map (bodyOf mark)

def textLines (text : Raw) : List Raw :=
  linesOf '\n' text

def unlines (lines : List Raw) : Raw :=
  lines.flatMap (· ++ ['\n'])

def column (width : Nat) (number : Nat) : Raw :=
  let digits := Raw.ofNat number
  List.replicate (width - digits.length) ' ' ++ digits

/-- The contents of the operands or of the standard input, one after another; `refusal`
are the words for a file that cannot be read. -/
def allContents (refusal : Raw → Raw) (operands : List Raw) (status : Nat := 1) :
    Eval (List (Raw × Raw) × Nat) := do
  let names := if operands.isEmpty then [['-']] else operands
  names.foldlM (fun (found, worst) name => do
    match ← contentOf name with
    | .ok content => return (found ++ [(name, content)], worst)
    | .error error => do
        complainOf (refusal name) error
        return (found, status)) ([], 0)

end FixtureRunner.Tool
