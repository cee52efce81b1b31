/-
Searching files for lines that match patterns.
-/

import FixtureRunner.Search.Match
import FixtureRunner.Shell.Glob
import FixtureRunner.Tool.Contents

namespace FixtureRunner.Tool

open Shell (Eval Stream)
open Search (Compiled Field Found)

/-! ### Patterns -/

inductive Extension where
  | anywhere
  | word
  | line
deriving DecidableEq

structure Query where
  patterns : List Compiled
  ignoresCase : Bool := false
  extension : Extension := .anywhere

def isWordStretch (field : Field) (start stop : Nat) : Bool :=
  !field.isWordBefore start && !field.isWordAt stop

def endsAt (field : Field) (pattern : Compiled) (start : Nat) : List Nat :=
  if Search.refers Search.nesting pattern.body then
    (List.range (field.text.size + 1)).filter fun goal =>
      start ≤ goal &&
        (Search.follow field goal Search.stepBound [.one pattern.body] start []).isSome
  else
    Search.endsFrom field Search.nesting pattern.body [start]

def Query.endAt? (query : Query) (field : Field) (start : Nat) : Option Nat :=
  let fits (stop : Nat) : Bool :=
    match query.extension with
    | .anywhere => true
    | .word => isWordStretch field start stop
    | .line => start = 0 && stop = field.text.size
  query.patterns.foldl (fun best pattern =>
    match (endsAt field pattern start).filter fits |>.getLast? with
    | none => best
    | some stop => some (best.elim stop (max stop))) none

def Query.findFrom (query : Query) (field : Field) : Nat → Nat → Option (Nat × Nat)
  | 0, _ => none
  | room + 1, start =>
      if field.text.size < start || (query.extension = .line && 0 < start) then
        none
      else
        match query.endAt? field start with
        | some stop => some (start, stop)
        | none => query.findFrom field room (start + 1)

def Query.fieldOf (query : Query) (line : Raw) : Field :=
  { text := line.toArray, ignoreCase := query.ignoresCase }

def Query.takes (query : Query) (line : Raw) : Bool :=
  let field := query.fieldOf line
  (query.findFrom field (field.text.size + 2) 0).isSome

def Query.matchesFrom (query : Query) (field : Field) : Nat → Nat → List (Nat × Nat)
  | 0, _ => []
  | room + 1, start =>
      match query.findFrom field (field.text.size + 2) start with
      | none => []
      | some (first, stop) =>
          if stop = first then query.matchesFrom field room (first + 1)
          else (first, stop) :: query.matchesFrom field room stop

/-! ### Reports -/

structure SearchReport where
  inverts : Bool
  counts : Bool
  listsMatching : Bool
  listsOthers : Bool
  onlyParts : Bool
  isQuiet : Bool
  showsNames : Bool
  showsNumbers : Bool
  showsOffsets : Bool
  alignsTabs : Bool
  before : Nat
  after : Nat
  divider : Option Raw
  limit : Option Nat
  mark : Char
  nameMark : Option Char
  showsBinary : Bool

def SearchReport.lead (report : SearchReport) (name : Raw) (sign : Char) (number offset : Nat) : Raw :=
  (if report.showsNames then
    name ++ [report.nameMark.getD sign] else []) ++
    (if report.showsNumbers then Raw.ofNat number ++ [sign] else []) ++
    (if report.showsOffsets then Raw.ofNat offset ++ [sign] else []) ++
    (if report.alignsTabs && (report.showsNames || report.showsNumbers || report.showsOffsets)
      then ['\t'] else [])

structure NumberedLine where
  text : Raw
  number : Nat
  offset : Nat

def numberedLines (lines : List Raw) : List NumberedLine :=
  ((lines.foldl (fun (found, number, offset) line =>
    (({ text := line, number, offset } : NumberedLine) :: found, number + 1, offset + line.length + 1))
    (([] : List NumberedLine), 1, 0)).1).reverse

structure SearchProgress where
  selected : Nat := 0
  held : List NumberedLine := []
  pending : Nat := 0
  shown : Option Nat := none
  written : List Raw := []

def SearchReport.contextLine (report : SearchReport) (name : Raw) (progress : SearchProgress)
    (line : NumberedLine) : SearchProgress :=
  let text : List Raw :=
    if report.onlyParts then []
    else [report.lead name '-' line.number line.offset ++ line.text ++ [report.mark]]
  { progress with shown := some line.number, written := text ++ progress.written }

def SearchReport.selectedLine (report : SearchReport) (query : Query) (name : Raw)
    (progress : SearchProgress) (hasShown : Bool) (line : NumberedLine) : SearchProgress :=
  let context := (progress.held.take report.before).reverse
  let first := (context.head?.map (·.number)).getD line.number
  let isApart : Bool := (match progress.shown with
    | some number => number + 1 < first
    | none => hasShown)
  let divided : SearchProgress :=
    match report.divider with
    | some divider =>
        if isApart then { progress with written := (divider ++ ['\n']) :: progress.written } else progress
    | none => progress
  let led := context.foldl (report.contextLine name) { divided with held := [] }
  let texts : List Raw :=
    if report.onlyParts then
      if report.inverts then []
      else
        let field := query.fieldOf line.text
        (query.matchesFrom field (field.text.size + 2) 0).map fun (start, stop) =>
          report.lead name ':' line.number (line.offset + start) ++
            (line.text.drop start).take (stop - start) ++ [report.mark]
    else
      [report.lead name ':' line.number line.offset ++ line.text ++ [report.mark]]
  { led with
    selected := led.selected + 1
    pending := report.after
    shown := some line.number
    written := texts.reverse ++ led.written }

def SearchReport.isSilent (report : SearchReport) : Bool :=
  report.counts || report.listsMatching || report.listsOthers || report.isQuiet

def SearchReport.search (report : SearchReport) (query : Query) (name : Raw) (hasShown : Bool) :
    List NumberedLine → SearchProgress → SearchProgress
  | [], progress => progress
  | line :: rest, progress =>
      if report.limit.any (· ≤ progress.selected) then
        if progress.pending = 0 || report.isSilent then
          progress
        else if query.takes line.text != report.inverts then
          progress
        else
          report.search query name hasShown rest
            { report.contextLine name progress line with pending := progress.pending - 1 }
      else if query.takes line.text != report.inverts then
        if report.isSilent then
          let counted := { progress with selected := progress.selected + 1 }
          if report.counts then report.search query name hasShown rest counted else counted
        else
          report.search query name hasShown rest
            (report.selectedLine query name progress hasShown line)
      else if 0 < progress.pending && !report.isSilent then
        report.search query name hasShown rest
          { report.contextLine name progress line with pending := progress.pending - 1 }
      else
        report.search query name hasShown rest
          { progress with held := (line :: progress.held).take report.before }

def textBlock : Nat := 32768

def SearchReport.content (report : SearchReport) (query : Query) (name : Raw) (hasShown : Bool)
    (content : Raw) : Eval (Bool × Bool) := do
  let lines := numberedLines (linesOf report.mark content)
  let isBinary := !report.showsBinary && report.mark ≠ '\x00' && (content.take textBlock).contains '\x00'
  let known := if isBinary && !report.isSilent then { report with isQuiet := true } else report
  let progress := known.search query name hasShown lines {}
  let isSelected := 0 < progress.selected
  let nameEnd : Raw := [report.nameMark.getD '\n']
  if report.isQuiet then
    return (isSelected, false)
  else if report.listsMatching || report.listsOthers then
    if isSelected = report.listsMatching then Eval.say 1 (name ++ nameEnd)
    return (isSelected, false)
  else if report.counts then
    Eval.say 1 ((if report.showsNames then name ++ [report.nameMark.getD ':'] else []) ++
      Raw.ofNat progress.selected ++ ['\n'])
    return (isSelected, false)
  else if isBinary then
    if isSelected then complain (name ++ ": binary file matches")
    return (isSelected, false)
  else
    Eval.say 1 progress.written.reverse.flatten
    return (isSelected, hasShown || !progress.written.isEmpty)

/-! ### Operands -/

structure TreeFilter where
  included : List Raw
  excluded : List Raw
  excludedFolders : List Raw

def TreeFilter.takesFile (filter : TreeFilter) (name : Raw) : Bool :=
  let fits (patterns : List Raw) : Bool :=
    patterns.any fun pattern => Shell.textMatches pattern (baseName name) ||
      Shell.textMatches pattern name
  (filter.included.isEmpty || fits filter.included) && !fits filter.excluded

def TreeFilter.takesFolder (filter : TreeFilter) (name : Raw) : Bool :=
  !(filter.excludedFolders.any fun pattern => Shell.textMatches pattern (baseName name))

def filesBelow (filter : TreeFilter) (disk : Disk) : Nat → Raw → Location → List Raw
  | 0, _, _ => []
  | room + 1, name, location =>
      (disk.names location).flatMap fun entry =>
        let path := if name.isEmpty then Raw.ofString entry else joinPath name (Raw.ofString entry)
        match disk.entryAt? (location ++ [entry]) with
        | some .folder =>
            if filter.takesFolder path then filesBelow filter disk room path (location ++ [entry]) else []
        | some (.file _ _) => if filter.takesFile path then [path] else []
        | _ => []

def expandOperand (filter : TreeFilter) (name : Raw) : Eval (List Raw) := do
  let disk ← Eval.disk
  match disk.find (Eval.pathOf (if name.isEmpty then ['.'] else name)) with
  | .ok (location, .folder) =>
      return filesBelow filter disk disk.depth name location
  | _ => return [name]

/-! ### The tool -/

def searchRules : List OptionRule :=
  [option 'E' "extended-regexp", option 'F' "fixed-strings", option 'G' "basic-regexp",
    option 'P' "perl-regexp", option 'e' "regexp" .always, option 'f' "file" .always,
    option 'i' "ignore-case", wordOption "no-ignore-case", option 'y' "ignore-case", option 'w' "word-regexp",
    option 'x' "line-regexp", option 'z' "null-data", option 's' "no-messages",
    option 'v' "invert-match", option 'm' "max-count" .always, option 'b' "byte-offset",
    option 'n' "line-number", wordOption "line-buffered", option 'H' "with-filename",
    option 'h' "no-filename", wordOption "label" .always, option 'o' "only-matching",
    option 'q' "quiet", option 'q' "silent", wordOption "binary-files" .always, option 'a' "text",
    option 'd' "directories" .always, option 'D' "devices" .always, option 'r' "recursive",
    option 'R' "dereference-recursive", wordOption "include" .always, wordOption "exclude" .always,
    wordOption "exclude-dir" .always, option 'L' "files-without-match",
    option 'l' "files-with-matches", option 'c' "count", option 'T' "initial-tab", option 'Z' "null",
    option 'B' "before-context" .always, option 'A' "after-context" .always,
    option 'C' "context" .always, wordOption "group-separator" .always,
    wordOption "no-group-separator", wordOption "color" .attached, wordOption "colour" .attached,
    option 'U' "binary"] ++ flags "I"

def searchHint : Eval Unit := do
  let name := baseName (← Eval.process).name
  Eval.say 2 ("Usage: " ++ name ++ " [OPTION]... PATTERNS [FILE]...\nTry '" ++ name ++
    " --help' for more information.\n")

def contextDigits (words : List Raw) : List Raw :=
  let (before, after) := words.span (· ≠ ['-', '-'])
  before.flatMap (fun word =>
    match word with
    | '-' :: first :: rest =>
        let digits := (first :: rest).takeWhile Char.isDigit
        if digits.isEmpty then [word]
        else
          let others := (first :: rest).drop digits.length
          ('-' :: 'C' :: digits) :: (if others.isEmpty then [] else ['-' :: others])
    | _ => [word]) ++ after

def patternLines (text : Raw) : List Raw :=
  Text.fields '\n' text

def compilePatterns (found : Arguments) (texts : List Raw) : Except Search.Fault (List Compiled) :=
  let kind := (found.last? ["E", "F", "G", "P"]).getD "G"
  texts.mapM fun text =>
    if kind = "F" then .ok (Search.literal text) else Search.read (kind ≠ "G") text

def searchPatterns (found : Arguments) : Eval (Option (Option (List Raw) × List Raw)) := do
  let given := found.options.filter fun held => held.1 = "e" || held.1 = "f"
  if given.isEmpty then
    match found.operands with
    | [] => return some (none, [])
    | pattern :: operands => return some (some (patternLines pattern), operands)
  else
    let rec collect : List (String × Option Raw) → List Raw → Eval (Option (List Raw))
      | [], texts => return some texts
      | (key, value) :: rest, texts => do
          let text := value.getD []
          if key = "e" then
            collect rest (texts ++ patternLines text)
          else
            match ← contentOf text with
            | .error error => do
                complainOf text error
                return none
            | .ok content => collect rest (texts ++ textLines content)
    match ← collect given [] with
    | none => return none
    | some texts => return some (some texts, found.operands)

def searchEach (report : SearchReport) (query : Query) (label : Raw) (isMute skipsFolders skipsBinary : Bool) :
    List Raw → Bool → Bool → Bool → Eval Nat
  | [], isSelected, hasFailed, _ => return if hasFailed then 2 else if isSelected then 0 else 1
  | name :: rest, isSelected, hasFailed, hasShown => do
      let shownName := if name = ['-'] then label else name
      match ← contentOf name with
      | .error error => do
          if error = .isFolder && skipsFolders then
            searchEach report query label isMute skipsFolders skipsBinary rest isSelected hasFailed hasShown
          else do
            unless isMute do complainOf shownName error
            searchEach report query label isMute skipsFolders skipsBinary rest isSelected true hasShown
      | .ok content => do
          if skipsBinary && content.contains '\x00' then
            searchEach report query label isMute skipsFolders skipsBinary rest isSelected hasFailed hasShown
          else do
            let (selected, shown) ← report.content query shownName hasShown content
            if report.isQuiet && selected then return 0
            else
              searchEach report query label isMute skipsFolders skipsBinary rest (isSelected || selected)
                hasFailed shown

def searchTool : Program := fun words =>
  withArguments { rules := searchRules, status := 2, hint := searchHint } (contextDigits words)
    fun found => do
  let context (key : String) : Except Raw (Option Nat) :=
    match found.value? key with
    | none => .ok none
    | some text =>
        match plainCount? text with
        | .ok number => .ok (some number)
        | .error _ => .error (text ++ ": invalid context length argument")
  let limit : Except Raw (Option Nat) :=
    match found.value? "m" with
    | none => .ok none
    | some text =>
        match text with
        | '-' :: digits =>
            if (Raw.nat? digits).isSome then .ok none else .error "invalid max count"
        | _ =>
            match plainCount? text with
            | .ok number => .ok (some number)
            | .error _ => .error "invalid max count"
  let numbers : Except Raw (Option Nat × Option Nat × Option Nat × Option Nat) := do
    return (← context "B", ← context "A", ← context "C", ← limit)
  match numbers with
  | .error message => fail message 2
  | .ok (before, after, around, limit) => do
      match ← searchPatterns found with
      | none => return 2
      | some (none, _) => do
          searchHint
          return 2
      | some (some texts, operands) => do
          match compilePatterns found texts with
          | .error fault => fail fault.message 2
          | .ok patterns => do
              patterns.forM fun pattern =>
                pattern.warnings.forM fun warning =>
                  complain ("warning: " ++ warning.toList)
              let isRecursive := found.has "r" || found.has "R" ||
                found.value? "d" = some "recurse"
              let filter : TreeFilter :=
                { included := found.values "include"
                  excluded := found.values "exclude"
                  excludedFolders := found.values "exclude-dir" }
              let named := if operands.isEmpty then (if isRecursive then [[]] else [['-']]) else operands
              let kept := named.filter fun name => name = ['-'] || filter.takesFile name || isRecursive
              let names ←
                if isRecursive then do pure (← kept.mapM (expandOperand filter)).flatten else pure kept
              let hasContext := before.isSome || after.isSome || around.isSome
              let report : SearchReport :=
                { inverts := found.has "v"
                  counts := found.has "c"
                  listsMatching := found.last? ["l", "L"] = some "l"
                  listsOthers := found.last? ["l", "L"] = some "L"
                  onlyParts := found.has "o"
                  isQuiet := found.has "q"
                  showsNames :=
                    match found.last? ["h", "H"] with
                    | some "h" => false
                    | some _ => true
                    | none => 1 < operands.length || isRecursive
                  showsNumbers := found.has "n"
                  showsOffsets := found.has "b"
                  alignsTabs := found.has "T"
                  before := (before.or around).getD 0
                  after := (after.or around).getD 0
                  divider :=
                    if !hasContext || found.last? ["group-separator", "no-group-separator"] =
                        some "no-group-separator" then none
                    else some ((found.value? "group-separator").getD ['-', '-'])
                  limit
                  mark := found.mark
                  nameMark := if found.has "Z" then some '\x00' else none
                  showsBinary := found.has "a" || found.value? "binary-files" = some "text" }
              let query : Query :=
                { patterns
                  ignoresCase := found.last? ["i", "y", "no-ignore-case"] ∈ [some "i", some "y"]
                  extension := if found.has "x" then .line else if found.has "w" then .word else .anywhere }
              if limit = some 0 && !found.has "L" then
                return 1
              else
                searchEach report query ((found.value? "label").getD "(standard input)")
                  (found.has "s") (found.value? "d" = some "skip")
                  (found.has "I" || found.value? "binary-files" = some "without-match")
                  names false false false

def searchToolAs (letter : Char) : Program := fun words =>
  searchTool (['-', letter] :: words)

end FixtureRunner.Tool
