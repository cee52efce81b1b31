/-
The tool that walks through folders and does something with the entries that pass its
tests.
-/

import FixtureRunner.Shell.Launcher

namespace FixtureRunner.Shell

open Tool (Program)

namespace FileWalk

/-! ### Expressions -/

inductive Bound where
  | less
  | equal
  | greater

def Bound.holds (bound : Bound) (value wanted : Nat) : Bool :=
  match bound with
  | .less => value < wanted
  | .equal => value = wanted
  | .greater => wanted < value

inductive Test where
  | named (pattern : Raw) (ignoreCase : Bool)
  | placed (pattern : Raw) (ignoreCase : Bool)
  | leading (pattern : Raw)
  | spelled (compiled : Search.Compiled) (ignoreCase : Bool)
  | kind (letters : List Char)
  | empty
  | size (bound : Bound) (wanted unit : Nat)
  | executable
  | same (name : Raw)
  | constant (value : Bool)
  | prune
  | quit
  | print (ending : Raw)
  | format (text : Raw)
  | delete
  | run (command : List Raw) (inFolder : Bool)
  | collect (number : Nat)

inductive Expression where
  | test (test : Test)
  | not (inner : Expression)
  | and (first second : Expression)
  | or (first second : Expression)
  | both (first second : Expression)

structure Request where
  starts : List Raw := []
  leastDepth : Nat := 0
  mostDepth : Option Nat := none
  followsLinks : Bool := false
  contentsFirst : Bool := false
  acts : Bool := false
  collected : Array (List Raw) := #[]

structure Reading where
  words : List Raw
  request : Request

abbrev Reader := StateT Reading (Except Raw)

def next? : Reader (Option Raw) :=
  return (← get).words.head?

def take : Reader Unit :=
  modify fun reading => { reading with words := reading.words.drop 1 }

def note (change : Request → Request) : Reader Unit :=
  modify fun reading => { reading with request := change reading.request }

def argument (name : Raw) : Reader Raw := do
  match ← next? with
  | some word => do
      take
      return word
  | none => throw ("missing argument to \x60" ++ name ++ ['\''])

def levels (name : Raw) : Reader Nat := do
  let word ← argument name
  match Raw.nat? word with
  | some number => return number
  | none =>
      throw ("Expected a positive decimal integer argument to " ++ name ++
        ", but got " ++ Tool.quoted word)

def kinds (word : Raw) : Reader (List Char) := do
  let parts := Text.fields ',' word
  match parts.find? fun part => part.length ≠ 1 || !"bcdpflsD".toList.contains (part.headD ' ') with
  | none => return parts.flatten
  | some bad =>
      if 1 < bad.length && "bcdpflsD".toList.contains (bad.headD ' ') then
        throw "Must separate multiple arguments to -type using: ','".toList
      else
        throw ("Unknown argument to -type: " ++ bad.take 1)

def sizeOf (word : Raw) : Reader Test := do
  let (bound, digits) :=
    match word with
    | '+' :: rest => (Bound.greater, rest)
    | '-' :: rest => (Bound.less, rest)
    | rest => (Bound.equal, rest)
  let number := digits.takeWhile Char.isDigit
  let unit :=
    match digits.drop number.length with
    | [] | ['b'] => some 512
    | ['c'] => some 1
    | ['w'] => some 2
    | ['k'] => some 1024
    | ['M'] => some (1024 * 1024)
    | ['G'] => some (1024 * 1024 * 1024)
    | _ => none
  match Raw.nat? number, unit with
  | some wanted, some unit => return .size bound wanted unit
  | _, _ => throw ("Invalid argument \x60" ++ word ++ "' to -size")

/-- The words of a command up to its end, and whether it takes all entries at once. -/
def commandWords : List Raw → List Raw → Option (List Raw × Bool × List Raw)
  | [], _ => none
  | [';'] :: rest, found => some (found.reverse, false, rest)
  | ['+'] :: rest, found =>
      if found.head? = some "\x7b\x7d" then some ((found.drop 1).reverse, true, rest)
      else commandWords rest (['+'] :: found)
  | word :: rest, found => commandWords rest (word :: found)

def command (name : Raw) (inFolder : Bool) : Reader Test := do
  match commandWords (← get).words [] with
  | none => throw ("missing argument to \x60" ++ name ++ ['\''])
  | some (words, isWhole, rest) => do
      modify fun reading => { reading with words := rest }
      if words.isEmpty then throw ("invalid argument \x60;' to \x60" ++ name ++ ['\''])
      note fun request => { request with acts := true }
      if isWhole then do
        let number := (← get).request.collected.size
        note fun request => { request with collected := request.collected.push words }
        return .collect number
      else
        return .run words inFolder

def spelling (ignoreCase : Bool) (text : Raw) : Reader Test := do
  match Search.read false text with
  | .ok compiled => return .spelled compiled ignoreCase
  | .error fault => throw ("failed to compile regular expression '" ++ text ++ "': " ++ fault.message)

def test (word : Raw) : Reader Test := do
  let acting (found : Test) : Reader Test := do
    note fun request => { request with acts := true }
    return found
  match String.ofList word with
  | "-name" => return .named (← argument word) false
  | "-iname" => return .named (← argument word) true
  | "-path" | "-wholename" => return .placed (← argument word) false
  | "-ipath" | "-iwholename" => return .placed (← argument word) true
  | "-lname" => return .leading (← argument word)
  | "-regex" => do spelling false (← argument word)
  | "-iregex" => do spelling true (← argument word)
  | "-type" | "-xtype" => return .kind (← kinds (← argument word))
  | "-empty" => return .empty
  | "-size" => do sizeOf (← argument word)
  | "-samefile" => return .same (← argument word)
  | "-executable" => return .executable
  | "-readable" | "-writable" | "-true" | "-noleaf" | "-mount" | "-xdev" | "-daystart" => return .constant true
  | "-false" => return .constant false
  | "-newer" | "-mtime" | "-mmin" | "-atime" | "-amin" | "-ctime" | "-cmin" => do
      let _ ← argument word
      return .constant false
  | "-perm" | "-user" | "-group" | "-links" | "-regextype" => do
      let _ ← argument word
      return .constant true
  | "-prune" => return .prune
  | "-quit" => return .quit
  | "-print" => acting (.print ['\n'])
  | "-print0" => acting (.print ['\x00'])
  | "-printf" => do acting (.format (← argument word))
  | "-delete" => do
      note fun request => { request with contentsFirst := true }
      acting .delete
  | "-exec" => command word false
  | "-execdir" => command word true
  | "-maxdepth" => do
      let number ← levels word
      note fun request => { request with mostDepth := some number }
      return .constant true
  | "-mindepth" => do
      let number ← levels word
      note fun request => { request with leastDepth := number }
      return .constant true
  | "-depth" | "-d" => do
      note fun request => { request with contentsFirst := true }
      return .constant true
  | "-follow" => do
      note fun request => { request with followsLinks := true }
      return .constant true
  | _ =>
      if word.head? = some '-' then throw ("unknown predicate \x60" ++ word ++ ['\''])
      else throw ("paths must precede expression: \x60" ++ word ++ ['\''])

mutual

def expression : Nat → Reader Expression
  | 0 => throw "expression too deep".toList
  | room + 1 => do
      let first ← conjunction room
      alternatives room first

def alternatives : Nat → Expression → Reader Expression
  | 0, left => return left
  | room + 1, left => do
      match (← next?).map String.ofList with
      | some "-o" | some "-or" => do
          take
          alternatives room (.or left (← conjunction room))
      | some "," => do
          take
          return .both left (← expression room)
      | _ => return left

def conjunction : Nat → Reader Expression
  | 0 => throw "expression too deep".toList
  | room + 1 => do
      let first ← negation room
      conjuncts room first

def conjuncts : Nat → Expression → Reader Expression
  | 0, left => return left
  | room + 1, left => do
      match (← next?).map String.ofList with
      | none | some "-o" | some "-or" | some "," | some ")" => return left
      | some "-a" | some "-and" => do
          take
          conjuncts room (.and left (← negation room))
      | some _ => do conjuncts room (.and left (← negation room))

def negation : Nat → Reader Expression
  | 0 => throw "expression too deep".toList
  | room + 1 => do
      let word ← argument "expression"
      match String.ofList word with
      | "!" | "-not" => return .not (← negation room)
      | "(" => do
          let inner ← expression room
          match ← next? with
          | some [')'] => do
              take
              return inner
          | _ =>
              throw ("invalid expression; I was expecting to find a ')' somewhere but did not see " ++
                "one.").toList
      | _ => return .test (← test word)

end

def startsExpression (word : Raw) : Bool :=
  match word with
  | '-' :: _ :: _ => true
  | ['('] | ['!'] => true
  | _ => false

def leadingOptions : List Raw → Bool → Bool × List Raw
  | word :: rest, follows =>
      match String.ofList word with
      | "-L" => leadingOptions rest true
      | "-P" => leadingOptions rest false
      | "-H" => leadingOptions rest follows
      | _ => (follows, word :: rest)
  | [], follows => (follows, [])

def parse (words : List Raw) : Except Raw (Request × Expression) := do
  let (followsLinks, others) := leadingOptions words false
  let starts := others.takeWhile fun word => !startsExpression word
  let rest := others.drop starts.length
  let request : Request := { starts := if starts.isEmpty then [['.']] else starts, followsLinks }
  let show_ : Expression := .test (.print ['\n'])
  if rest.isEmpty then
    return (request, show_)
  else
    let (found, reading) ← (expression (8 * rest.length + 8)).run { words := rest, request }
    match reading.words with
    | [')'] :: _ => throw "invalid expression; you have too many ')'".toList
    | _ => return (reading.request, if reading.request.acts then found else .and found show_)

/-! ### Walking -/

structure Visit where
  path : Raw
  start : Raw
  depth : Nat
  location : Location
  entry : Entry

structure Walk where
  status : Nat := 0
  isOver : Bool := false
  isPruned : Bool := false
  collected : List (Nat × Raw) := []

abbrev Walker := StateT Walk Eval

def Visit.kind (visit : Visit) : Char :=
  match visit.entry with
  | .folder => 'd'
  | .link _ => 'l'
  | .file _ _ => if Eval.isDevice visit.location then 'c' else 'f'

def Visit.size (visit : Visit) : Nat :=
  match visit.entry with
  | .file content _ => content.length
  | .link target => target.utf8ByteSize
  | .folder => 4096

def nameMatches (pattern text : Raw) (ignoreCase : Bool) : Bool :=
  let folded (raw : Raw) : Raw := if ignoreCase then raw.map Char.toLower else raw
  let rec negations : Raw → Raw
    | '[' :: '^' :: rest => '[' :: '!' :: negations rest
    | char :: rest => char :: negations rest
    | [] => []
  textMatches (negations (folded pattern)) (folded text)

def formatted (visit : Visit) : Nat → Raw → Raw
  | 0, _ => []
  | _ + 1, [] => []
  | room + 1, '%' :: letter :: rest =>
      let shown : Raw :=
        match letter with
        | '%' => ['%']
        | 'p' => visit.path
        | 'f' => Tool.baseName visit.path
        | 'h' => if visit.path.contains '/' then Tool.folderName visit.path else ['.']
        | 'P' => (visit.path.drop visit.start.length).dropWhile (· = '/')
        | 'H' => visit.start
        | 'd' => Raw.ofNat visit.depth
        | 's' => Raw.ofNat visit.size
        | 'y' | 'Y' => [visit.kind]
        | 'l' =>
            match visit.entry with
            | .link target => Raw.ofString target
            | _ => []
        | other => ['%', other]
      shown ++ formatted visit room rest
  | room + 1, '\\' :: letter :: rest =>
      let shown : Raw :=
        match letter with
        | 'n' => ['\n']
        | 't' => ['\t']
        | '0' => ['\x00']
        | 'r' => ['\r']
        | '\\' => ['\\']
        | other => ['\\', other]
      shown ++ formatted visit room rest
  | room + 1, char :: rest => char :: formatted visit room rest

def filled (name : Raw) (words : List Raw) : List Raw :=
  let rec go : Raw → Raw
    | '\x7b' :: '\x7d' :: rest => name ++ go rest
    | char :: rest => char :: go rest
    | [] => []
  words.map go

def runCommand (run : Runner) (words : List Raw) (folder : Option Location) : Eval (Option Nat) := do
  match words with
  | [] => return some 0
  | name :: arguments => do
      match ← startableProgram name with
      | .error error => do
          Tool.complainOf (Tool.quoted name) error
          return none
      | .ok program => do
          let departure ← inProcess do
            match folder with
            | some location => do Eval.setDisk { (← Eval.disk) with here := location }
            | none => pure ()
            run (.program program name arguments)
          return some departure.status

def fail : Walker Unit :=
  modify fun walk => { walk with status := 1 }

def deleteEntry (visit : Visit) : Walker Bool := do
  if visit.path = ['.'] then
    return true
  else do
    let disk ← Eval.disk
    let isFilled := visit.entry = .folder && !(disk.names visit.location).isEmpty
    if isFilled then do
      Tool.complainOf ("cannot delete " ++ Tool.quoted visit.path) .notEmpty
      fail
      return false
    else
      match disk.remove (Eval.pathOf visit.path) with
      | .ok removed => do
          Eval.setDisk removed
          return true
      | .error error => do
          Tool.complainOf ("cannot delete " ++ Tool.quoted visit.path) error
          fail
          return false

def perform (run : Runner) (visit : Visit) : Test → Walker Bool
  | .named pattern ignoreCase => return nameMatches pattern (Tool.baseName visit.path) ignoreCase
  | .placed pattern ignoreCase => return nameMatches pattern visit.path ignoreCase
  | .leading pattern =>
      match visit.entry with
      | .link target => return nameMatches pattern (Raw.ofString target) false
      | _ => return false
  | .spelled compiled ignoreCase => do
      let field : Search.Field := { text := visit.path.toArray, ignoreCase }
      let found := Search.find? field compiled false 0
      return found.any fun match_ => match_.start = 0 && match_.stop = visit.path.length
  | .kind letters => return letters.contains visit.kind
  | .empty => do
      match visit.entry with
      | .file content _ => return content.isEmpty
      | .folder => return ((← Eval.disk).names visit.location).isEmpty
      | .link _ => return false
  | .size bound wanted unit => return bound.holds ((visit.size + unit - 1) / unit) wanted
  | .executable =>
      match visit.entry with
      | .file _ executable => return executable
      | _ => return true
  | .same name => do
      match (← Eval.disk).find (Eval.pathOf name) with
      | .ok (location, _) => return location = visit.location
      | .error _ => return false
  | .constant value => return value
  | .prune => do
      modify fun walk => { walk with isPruned := true }
      return true
  | .quit => do
      modify fun walk => { walk with isOver := true }
      return true
  | .print ending => do
      Eval.say 1 (visit.path ++ ending)
      return true
  | .format text => do
      Eval.say 1 (formatted visit (text.length + 1) text)
      return true
  | .delete => deleteEntry visit
  | .run words inFolder => do
      let name := if inFolder then "./" ++ Tool.baseName visit.path else visit.path
      let folder := if inFolder then some visit.location.dropLast else none
      return (← runCommand run (filled name words) folder) = some 0
  | .collect number => do
      modify fun walk => { walk with collected := (number, visit.path) :: walk.collected }
      return true

def evaluate (run : Runner) (visit : Visit) : Expression → Walker Bool
  | .test test => do if (← get).isOver then return false else perform run visit test
  | .not inner => return !(← evaluate run visit inner)
  | .and first second => do
      if ← evaluate run visit first then evaluate run visit second else return false
  | .or first second => do
      if ← evaluate run visit first then return true else evaluate run visit second
  | .both first second => do
      let _ ← evaluate run visit first
      evaluate run visit second

def look (request : Request) (path : Raw) : Eval (Except SystemError (Location × Entry)) := do
  let disk ← Eval.disk
  let plain := Tool.entryNamed disk path
  return if request.followsLinks then
    match disk.find (Eval.pathOf path) with
    | .ok found => .ok found
    | .error _ => plain
  else plain

def walk (run : Runner) (request : Request) (expression : Expression) (start : Raw) :
    Nat → Nat → Raw → Walker Unit
  | 0, _, _ => return ()
  | room + 1, depth, path => do
      if (← get).isOver then
        return ()
      else
        match ← look request path with
        | .error error => do
            Tool.complainOf (Tool.quoted path) error
            fail
        | .ok (location, entry) => do
            let visit : Visit := { path, start, depth, location, entry }
            let meets : Walker Unit := do
              if request.leastDepth ≤ depth then
                let _ ← evaluate run visit expression
            modify fun walk => { walk with isPruned := false }
            unless request.contentsFirst do meets
            let isPruned := (← get).isPruned && !request.contentsFirst
            if entry = .folder && !isPruned && request.mostDepth.all (depth < ·) then
              let names := Tool.sortedNames (← Eval.disk) location
              names.forM fun name => walk run request expression start room (depth + 1) (Tool.joinPath path name)
            if request.contentsFirst then meets

def runCollected (run : Runner) (request : Request) (collected : List (Nat × Raw)) : Eval Nat := do
  request.collected.toList.zipIdx.foldlM (fun status (words, number) => do
    let names := (collected.reverse.filter (·.1 = number)).map (·.2)
    if names.isEmpty then
      return status
    else
      return if (← runCommand run (words ++ names) none) = some 0 then status else 1) 0

end FileWalk

def walkTool (run : Runner) : Program := fun words => do
  match FileWalk.parse words with
  | .error message => do
      Tool.complain message
      return 1
  | .ok (request, expression) => do
      let depth := (← Eval.disk).depth + 2
      let (_, walked) ← (request.starts.forM fun start =>
        FileWalk.walk run request expression start depth 0 start).run {}
      let last ← FileWalk.runCollected run request walked.collected
      return max walked.status last

end FixtureRunner.Shell
