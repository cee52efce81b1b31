/-
The tool that compares files line by line and folders file by file.
-/

import FixtureRunner.Diff.Report
import FixtureRunner.Shell.Glob
import FixtureRunner.Tool.Octets

namespace FixtureRunner.Tool

open Shell (Eval)
open Diff (Style)

/-! ### Requests -/

inductive StyleName where
  | normal
  | unified
  | contextual
  | editor
  | forward
  | counted
  | sideBySide
  | merged
deriving DecidableEq

structure GivenFormats where
  oldGroup : Option Raw := none
  newGroup : Option Raw := none
  changedGroup : Option Raw := none
  unchangedGroup : Option Raw := none
  oldLine : Option Raw := none
  newLine : Option Raw := none
  unchangedLine : Option Raw := none

def GivenFormats.complete (given : GivenFormats) : Diff.Formats :=
  let plain := "%l\n"
  let oldGroup := given.oldGroup.getD (given.changedGroup.getD "%<")
  let newGroup := given.newGroup.getD (given.changedGroup.getD "%>")
  { oldGroup
    newGroup
    changedGroup := given.changedGroup.getD (oldGroup ++ newGroup)
    unchangedGroup := given.unchangedGroup.getD "%="
    oldLine := given.oldLine.getD plain
    newLine := given.newLine.getD plain
    unchangedLine := given.unchangedLine.getD plain }

structure DiffRequest where
  options : Diff.Options := {}
  layout : Diff.Layout := {}
  columns : Diff.Columns := {}
  hasWidth : Bool := false
  style : Option StyleName := none
  context : Option Nat := none
  hasContext : Bool := false
  digits : Option Nat := none
  inDigits : Bool := false
  formats : GivenFormats := {}
  isBrief : Bool := false
  reportsSame : Bool := false
  treatsAsText : Bool := false
  missingAsEmpty : Bool := false
  firstMissingAsEmpty : Bool := false
  isRecursive : Bool := false
  keepsLinks : Bool := false
  stripsReturns : Bool := false
  showsHeadings : Bool := false
  labels : List Raw := []
  excluded : List Raw := []
  startsAt : Option Raw := none
  fromFile : Option Raw := none
  toFile : Option Raw := none
  horizon : Nat := 0
  switches : List Raw := []

structure DiffFault where
  message : Raw
  hasHint : Bool := true

abbrev Requested := Except DiffFault DiffRequest

namespace DiffRequest

def styled (request : DiffRequest) (style : StyleName) : Requested :=
  if request.style.all (· = style) then .ok { request with style := some style }
  else .error { message := "conflicting output style options" }

def spaced (request : DiffRequest) (change : Diff.Spacing → Diff.Spacing) : DiffRequest :=
  { request with options := { request.options with spacing := change request.options.spacing } }

def withContext (request : DiffRequest) (count : Nat) : DiffRequest :=
  { request with context := some (max count (request.context.getD 0)) }

def contextStyled (request : DiffRequest) (style : StyleName) (value : Option Raw) : Requested :=
  match value with
  | none => (request.withContext 3).styled style
  | some text =>
      match plainCount? text with
      | .ok count => ({ request.withContext count with hasContext := true }).styled style
      | .error _ =>
          .error { message := "invalid context length " ++ '\'' :: text ++ ['\''] }

def expression (text : Raw) : Except DiffFault Search.Compiled :=
  match Search.read false text with
  | .ok compiled => .ok compiled
  | .error fault =>
      .error { message := text ++ ": " ++ fault.message, hasHint := false }

def positive (name : String) (text : Raw) : Except DiffFault Nat :=
  match plainCount? text with
  | .ok (count + 1) => .ok (count + 1)
  | _ => .error { message := ("invalid " ++ name ++ " '").toList ++ text ++ ['\''] }

def withFormats (request : DiffRequest) (change : GivenFormats → GivenFormats) : Requested :=
  ({ request with formats := change request.formats }).styled .merged

def withDigit (request : DiffRequest) (digit : Nat) : DiffRequest :=
  { request with
    digits := some (if request.inDigits then request.digits.getD 0 * 10 + digit else digit)
    inDigits := true }

def taking (request : DiffRequest) (key : String) (value : Option Raw) : Requested :=
  let text := value.getD []
  match key with
  | "a" => .ok { request with treatsAsText := true }
  | "b" => .ok (request.spaced Diff.Spacing.withoutAmount)
  | "B" => .ok { request with options := { request.options with ignoreBlankLines := true } }
  | "c" => request.contextStyled .contextual none
  | "C" | "context" => request.contextStyled .contextual value
  | "d" => .ok { request with options := { request.options with isMinimal := true } }
  | "D" => do
      let named ← request.styled .merged
      let formats := Diff.Formats.conditional text
      return { named with
        formats :=
          { named.formats with
            oldGroup := some formats.oldGroup
            newGroup := some formats.newGroup
            changedGroup := some formats.changedGroup
            unchangedGroup := some formats.unchangedGroup } }
  | "e" => request.styled .editor
  | "E" => .ok (request.spaced Diff.Spacing.withColumns)
  | "f" => request.styled .forward
  | "F" => do
      let compiled ← expression text
      return { request with
        layout := { request.layout with headings := request.layout.headings ++ [compiled] } }
  | "i" => .ok { request with options := { request.options with ignoreCase := true } }
  | "I" => do
      let compiled ← expression text
      return { request with
        options :=
          { request.options with
            ignoredPatterns := request.options.ignoredPatterns ++ [compiled] } }
  | "L" =>
      if request.labels.length < 2 then .ok { request with labels := request.labels ++ [text] }
      else .error { message := "too many file label options", hasHint := false }
  | "n" => request.styled .counted
  | "N" => .ok { request with missingAsEmpty := true }
  | "p" => do
      let compiled ← expression "^[[:alpha:]$_]"
      return { request with
        showsHeadings := true
        layout := { request.layout with headings := request.layout.headings ++ [compiled] } }
  | "P" => .ok { request with firstMissingAsEmpty := true }
  | "q" => .ok { request with isBrief := true }
  | "r" => .ok { request with isRecursive := true }
  | "s" => .ok { request with reportsSame := true }
  | "S" => .ok { request with startsAt := some text }
  | "t" => .ok { request with layout := { request.layout with expandsTabs := true } }
  | "T" => .ok { request with layout := { request.layout with initialTab := true } }
  | "u" => request.contextStyled .unified none
  | "U" | "unified" => request.contextStyled .unified value
  | "w" => .ok (request.spaced fun _ => .ignoreAll)
  | "W" => do
      let width ← positive "width" text
      if request.hasWidth && request.columns.width ≠ width then
        throw { message := "conflicting width options", hasHint := false }
      return { request with hasWidth := true, columns := { request.columns with width } }
  | "x" => .ok { request with excluded := request.excluded ++ [text] }
  | "y" => request.styled .sideBySide
  | "Z" => .ok (request.spaced Diff.Spacing.withoutTrailing)
  | "normal" => request.styled .normal
  | "left-column" => .ok { request with columns := { request.columns with onlyLeft := true } }
  | "suppress-common-lines" =>
      .ok { request with columns := { request.columns with onlyChanged := true } }
  | "suppress-blank-empty" =>
      .ok { request with layout := { request.layout with suppressesBlanks := true } }
  | "strip-trailing-cr" => .ok { request with stripsReturns := true }
  | "no-dereference" => .ok { request with keepsLinks := true }
  | "tabsize" => do
      let tabSize ← positive "tabsize" text
      return { request with
        layout := { request.layout with tabSize }
        options := { request.options with tabSize } }
  | "horizon-lines" =>
      match plainCount? text with
      | .ok count => .ok { request with horizon := max request.horizon count }
      | .error _ => .error { message := "invalid horizon length '" ++ text ++ ['\''] }
  | "from-file" => .ok { request with fromFile := some text }
  | "to-file" => .ok { request with toFile := some text }
  | "old-group-format" => request.withFormats fun given => { given with oldGroup := some text }
  | "new-group-format" => request.withFormats fun given => { given with newGroup := some text }
  | "changed-group-format" => request.withFormats fun given => { given with changedGroup := some text }
  | "unchanged-group-format" =>
      request.withFormats fun given => { given with unchangedGroup := some text }
  | "old-line-format" => request.withFormats fun given => { given with oldLine := some text }
  | "new-line-format" => request.withFormats fun given => { given with newLine := some text }
  | "unchanged-line-format" =>
      request.withFormats fun given => { given with unchangedLine := some text }
  | "line-format" =>
      request.withFormats fun given =>
        { given with oldLine := some text, newLine := some text, unchangedLine := some text }
  | _ =>
      match key.toList with
      | [char] => if char.isDigit then .ok (request.withDigit (char.toNat - '0'.toNat)) else .ok request
      | _ => .ok request

def ofOptions (options : List (String × Option Raw)) (switches : List Raw) : Requested :=
  options.foldlM (fun request (key, value) => do
    let changed ← request.taking key value
    let isDigit := key.toList.all Char.isDigit
    return { changed with inDigits := isDigit }) { switches }

def writing (request : DiffRequest) : Style :=
  let named := request.style.getD (if request.showsHeadings then .contextual else .normal)
  let usual := request.context.getD (if request.showsHeadings then 3 else 0)
  let around :=
    match request.digits with
    | some digits => if usual < digits || !request.hasContext then digits else usual
    | none => usual
  match named with
  | .normal => .normal
  | .unified => .unified around
  | .contextual => .contextual around
  | .editor => .editor
  | .forward => .forward
  | .counted => .counted
  | .sideBySide => .sideBySide request.columns
  | .merged => .merged request.formats.complete

end DiffRequest

def diffRules : List OptionRule :=
  (flags "0123456789hH") ++
    [option 'a' "text", option 'b' "ignore-space-change", option 'B' "ignore-blank-lines",
      wordOption "binary", option 'q' "brief", wordOption "changed-group-format" .always,
      wordOption "color" .attached, wordOption "context" .attached,
      option 'e' "ed", option 'x' "exclude" .always, option 'X' "exclude-from" .always,
      option 't' "expand-tabs", option 'f' "forward-ed", wordOption "from-file" .always,
      wordOption "help", wordOption "horizon-lines" .always, option 'D' "ifdef" .always,
      option 'w' "ignore-all-space", option 'i' "ignore-case", wordOption "ignore-file-name-case",
      option 'I' "ignore-matching-lines" .always, option 'E' "ignore-tab-expansion",
      option 'Z' "ignore-trailing-space", wordOption "inhibit-hunk-merge", option 'T' "initial-tab",
      option 'L' "label" .always, wordOption "left-column", wordOption "line-format" .always,
      option 'd' "minimal", option 'N' "new-file", wordOption "new-group-format" .always,
      wordOption "new-line-format" .always, wordOption "no-dereference",
      wordOption "no-ignore-file-name-case", wordOption "normal",
      wordOption "old-group-format" .always, wordOption "old-line-format" .always,
      option 'l' "paginate", wordOption "palette" .always, option 'n' "rcs", option 'r' "recursive",
      option 's' "report-identical-files", option 'p' "show-c-function",
      option 'F' "show-function-line" .always, option 'y' "side-by-side",
      wordOption "speed-large-files", option 'S' "starting-file" .always,
      wordOption "strip-trailing-cr", wordOption "suppress-blank-empty",
      wordOption "suppress-common-lines", wordOption "tabsize" .always, wordOption "to-file" .always,
      wordOption "unchanged-group-format" .always, wordOption "unchanged-line-format" .always,
      option 'P' "unidirectional-new-file", wordOption "unified" .attached, option 'v' "version",
      option 'W' "width" .always] ++ flags "cu" ++ valued "CU"

def switchWords (usage : Usage) : Nat → List Raw → List Raw
  | 0, _ => []
  | _ + 1, [] => []
  | _ + 1, ['-', '-'] :: _ => [['-', '-']]
  | room + 1, word :: rest =>
      match word with
      | '-' :: '-' :: body =>
          let name := body.takeWhile (· ≠ '=')
          let takesNext : Bool :=
            match ruleFor usage body name with
            | .ok rule => rule.valued = .always && !body.contains '='
            | .error _ => false
          if takesNext then word :: rest.take 1 ++ switchWords usage room (rest.drop 1)
          else word :: switchWords usage room rest
      | '-' :: first :: more =>
          let takesNext : Bool :=
            match letters usage (first :: more) [] with
            | .ok (_, some _) => true
            | _ => false
          if takesNext then word :: rest.take 1 ++ switchWords usage room (rest.drop 1)
          else word :: switchWords usage room rest
      | _ => switchWords usage room rest

/-! ### Files -/

def headerName (name : Raw) : Raw :=
  let escapeOf (char : Char) : Raw :=
    if char = '"' || char = '\\' then ['\\', char]
    else
      match escapeLetter? char with
      | some letter => ['\\', letter]
      | none => if char < ' ' || 0x80 ≤ char.toNat then octal char else [char]
  let body := name.flatMap escapeOf
  if body = name && !name.contains ' ' then name else '"' :: body ++ ['"']

def headerTime : Style → Raw
  | .contextual _ => "\tThu Jan  1 00:00:00 1970"
  | _ => "\t1970-01-01 00:00:00.000000000 +0000"

inductive Subject where
  /-- Nothing, which counts as empty. -/
  | absent
  | content (location : Option Location) (isRegular : Bool) (content : Bytes)
  | folder (location : Location)
  | link (target : String)
  | refused (error : SystemError)

def Subject.isFolder : Subject → Bool
  | .folder _ => true
  | _ => false

def Subject.isFound : Subject → Bool
  | .content _ _ _ | .folder _ | .link _ => true
  | _ => false

def Subject.location? : Subject → Option Location
  | .content location _ _ => location
  | .folder location => some location
  | _ => none

def Subject.kind : Subject → String
  | .folder _ => "directory"
  | .link _ => "symbolic link"
  | .content _ isRegular bytes =>
      if !isRegular then "character special file"
      else if bytes.isEmpty then "regular empty file"
      else "regular file"
  | _ => "weird file"

def lookAt (request : DiffRequest) (name : Raw) : Eval Subject := do
  if name = ['-'] then
    match ← Eval.readAll 0 with
    | .ok text => return .content none true (Raw.toBytes text)
    | .error error => return .refused error
  else
    let disk ← Eval.disk
    let held? : Option Entry :=
      if request.keepsLinks then
        match disk.route .edit (Eval.pathOf name) with
        | .ok (.name folder last _) => disk.entryAt? (folder ++ [last])
        | _ => none
      else
        none
    match held? with
    | some (.link target) => return .link target
    | _ =>
        match disk.find (Eval.pathOf name) with
        | .ok (location, .file content _) =>
            if Eval.isDevice location then
              match ← Eval.readFile name with
              | .ok text => return .content (some location) false (Raw.toBytes text)
              | .error error => return .refused error
            else
              return .content (some location) true content
        | .ok (location, _) => return .folder location
        | .error error => return .refused error

/-! ### Comparing -/

def binaryBlock : Nat := 4096

def withoutReturns (lines : List Diff.Line) : List Diff.Line :=
  lines.map fun line =>
    if line.complete && line.content.getLast? = some 0x0D then
      { line with content := line.content.dropLast }
    else
      line

def comparisonLead (request : DiffRequest) (left right : Raw) : Eval Raw := do
  let name := (← Eval.process).name
  return baseName name ++ (request.switches.flatMap fun word => ' ' :: quotedIfNeeded word) ++
    ' ' :: headerName left ++ ' ' :: headerName right ++ ['\n']

def compareContents (request : DiffRequest) (isInside : Bool) (left right : Raw)
    (leftContent rightContent : Bytes) : Eval Nat := do
  let leftName := request.labels.getD 0 left
  let rightName := request.labels.getD 1 right
  let named (lead verb : String) : Raw :=
    lead.toList ++ ' ' :: leftName ++ " and " ++ rightName ++ ' ' :: verb.toList ++ ['\n']
  let same : Eval Nat := do
    if request.reportsSame then Eval.say 1 (named "Files" "are identical")
    return 0
  let style := request.writing
  let isBinary :=
    !request.treatsAsText &&
      ((leftContent.take binaryBlock).contains 0 || (rightContent.take binaryBlock).contains 0)
  let header (index : Nat) (name : Raw) : Bytes :=
    Raw.toBytes (request.labels.getD index (headerName name ++ headerTime style))
  let linesOf (content : Bytes) : Array Diff.Line :=
    let lines := Diff.lines content
    let stripped := if request.stripsReturns then withoutReturns lines else lines
    let completed :=
      if style.completesLines then stripped.map fun line => { line with complete := true } else stripped
    completed.toArray
  if isBinary then
    if leftContent = rightContent then
      same
    else do
      Eval.say 1 (if request.isBrief then named "Files" "differ" else named "Binary files" "differ")
      return 1
  else if leftContent = rightContent && (style.hidesUnchanged || request.isBrief) then
    same
  else do
    let leftSide : Diff.Side := { header := header 0 left, lines := linesOf leftContent }
    let rightSide : Diff.Side := { header := header 1 right, lines := linesOf rightContent }
    let judged := Diff.judgedChanges request.options (max style.context request.horizon) leftSide.lines
      rightSide.lines
    let isDifferent := Diff.differs judged
    if request.isBrief then
      if isDifferent then
        Eval.say 1 (named "Files" "differ")
        return 1
      else
        same
    else
      if isDifferent || !style.hidesUnchanged then
        let lead ← if isInside then comparisonLead request leftName rightName else pure []
        Eval.say 1 (lead ++ Raw.ofBytes (Diff.report request.layout style leftSide rightSide judged))
      let isOpen (content : Bytes) : Bool := content.getLast?.any (· ≠ 0x0A)
      if style.completesLines && (isOpen leftContent || isOpen rightContent) then
        if isOpen leftContent then complain (leftName ++ ": No newline at end of file\n")
        if isOpen rightContent then complain (rightName ++ ": No newline at end of file\n")
        return 2
      else if isDifferent then
        return 1
      else
        same

def reportKinds (request : DiffRequest) (left right : Raw) (leftKind rightKind : String) : Eval Nat := do
  Eval.say 1 ("File " ++ request.labels.getD 0 left ++ " is a " ++ leftKind.toList ++
    " while file " ++ request.labels.getD 1 right ++ " is a " ++ rightKind.toList ++ ['\n'])
  return 1

def joinedNames (left right : List Raw) : List (Raw × Bool × Bool) :=
  let all := (left ++ right).eraseDups.mergeSort fun first second => !(second < first)
  all.map fun name => (name, left.contains name, right.contains name)

def namesIn (request : DiffRequest) (isTop : Bool) (subject : Subject) : Eval (List Raw) := do
  match subject with
  | .folder location =>
      let names := ((← Eval.disk).names location).map Raw.ofString
      return names.filter fun name =>
        !(request.excluded.any fun pattern => Shell.textMatches pattern name) &&
          (!isTop || request.startsAt.all fun start => !(name < start))
  | _ => return []

/-- Compares what two names lead to; `folders` are the folders they stand in, and `room` bounds
the depth. -/
def compareSubjects (request : DiffRequest) : Nat → Option (Raw × Raw) → Raw → Raw → Subject → Subject → Eval Nat
  | 0, _, _, _, _, _ => return 0
  | room + 1, folders, left, right, leftSubject, rightSubject => do
      let isInside := folders.isSome
      let isSame := leftSubject.location?.isSome && leftSubject.location? = rightSubject.location? ||
        (left = ['-'] && right = ['-'])
      let bothFolders := (leftSubject.isFolder || rightSubject.isFolder) &&
        (leftSubject.isFolder || leftSubject matches .absent) &&
        (rightSubject.isFolder || rightSubject matches .absent)
      let style := request.writing
      if isSame && (style.hidesUnchanged || request.isBrief || leftSubject.isFolder) then
        if request.reportsSame && !leftSubject.isFolder then
          Eval.say 1 ("Files " ++ request.labels.getD 0 left ++ " and " ++
            request.labels.getD 1 right ++ " are identical\n")
        return 0
      else if bothFolders then
        if style matches .merged _ then
          complain "-D option not supported with directories"
          throw (.exit 2)
        else if isInside && !request.isRecursive then
          Eval.say 1 ("Common subdirectories: " ++ left ++ " and " ++ right ++ ['\n'])
          return 0
        else
          let leftNames ← namesIn request (!isInside) leftSubject
          let rightNames ← namesIn request (!isInside) rightSubject
          (joinedNames leftNames rightNames).foldlM (fun worst (name, inLeft, inRight) => do
            let leftPath := joinPath left name
            let rightPath := joinPath right name
            if inLeft && inRight || request.missingAsEmpty || (inRight && request.firstMissingAsEmpty) then
              let found ← if inLeft then lookAt request leftPath else pure Subject.absent
              let other ← if inRight then lookAt request rightPath else pure Subject.absent
              match found, other with
              | .refused error, _ => failOf leftPath error 2
              | _, .refused error => failOf rightPath error 2
              | _, _ =>
                  let status ← compareSubjects request room (some (left, right)) leftPath rightPath found other
                  return max worst status
            else do
              Eval.say 1 ("Only in " ++ (if inLeft then left else right) ++ ": " ++ name ++ ['\n'])
              return max worst 1) 0
      else
        match leftSubject, rightSubject with
        | .link first, .link second =>
            if first = second then
              return 0
            else do
              Eval.say 1 ("Symbolic links " ++ left ++ " and " ++ right ++ " differ\n")
              return 1
        | .content _ leftRegular leftContent, .content _ rightRegular rightContent =>
            if isInside && !(leftRegular && rightRegular) then
              reportKinds request left right leftSubject.kind rightSubject.kind
            else
              compareContents request isInside left right leftContent rightContent
        | .content _ _ content, .absent => compareContents request isInside left right content []
        | .absent, .content _ _ content => compareContents request isInside left right [] content
        | _, _ => reportKinds request left right leftSubject.kind rightSubject.kind

/-- Compares two operands.  A file that is compared with a folder is compared with the file of
its name in there. -/
def compareOperands (request : DiffRequest) (left right : Raw) : Eval Nat := do
  let first ← lookAt request left
  let second ← if right = ['-'] && left = ['-'] then pure first else lookAt request right
  let isLost (subject : Subject) : Bool :=
    match subject with
    | .refused error => error = .missing || error = .badDescriptor
    | _ => false
  let leftSubject : Subject :=
    if (request.missingAsEmpty || request.firstMissingAsEmpty) && isLost first && second.isFound then .absent
    else first
  let rightSubject : Subject :=
    if request.missingAsEmpty && isLost second && first.isFound then .absent else second
  let complainAbout (name : Raw) (subject : Subject) : Eval Unit := do
    match subject with
    | .refused error => complainOf name error
    | _ => pure ()
  match leftSubject, rightSubject with
  | .refused _, _ => do
      complainAbout left leftSubject
      complainAbout right rightSubject
      return 2
  | _, .refused _ => do
      complainAbout right rightSubject
      return 2
  | _, _ => do
      let depth := (← Eval.disk).depth + 1
      let isMixed := leftSubject.isFolder != rightSubject.isFolder &&
        leftSubject.isFound && rightSubject.isFound
      if isMixed then
        if left = ['-'] || right = ['-'] then
          fail "cannot compare '-' to a directory" 2
        else
          let (leftPath, rightPath) :=
            if leftSubject.isFolder then (joinPath left (baseName right), right)
            else (left, joinPath right (baseName left))
          let (joinedLeft, joinedRight) ←
            if leftSubject.isFolder then do pure (← lookAt request leftPath, rightSubject)
            else do pure (leftSubject, ← lookAt request rightPath)
          match joinedLeft, joinedRight with
          | .refused error, _ => failOf leftPath error 2
          | _, .refused error => failOf rightPath error 2
          | _, _ => compareSubjects request depth none leftPath rightPath joinedLeft joinedRight
      else
        compareSubjects request depth none left right leftSubject rightSubject

/-! ### The tool -/

def differenceTool : Program := fun words => do
  let usage : Usage := { rules := diffRules, status := 2, hint := namedHint }
  withArguments usage words fun found => do
  match DiffRequest.ofOptions found.options (switchWords usage (words.length + 1) words) with
  | .error fault => do
      complain fault.message
      if fault.hasHint then namedHint
      return 2
  | .ok request => do
      match ← contentsOf (fun _ name => name) (found.values "X") with
      | none => return 2
      | some excluded => do
          let added := (excluded.flatMap textLines).filter (!·.isEmpty)
          let request := { request with excluded := request.excluded ++ added }
          let each (pairs : List (Raw × Raw)) : Eval Nat :=
            pairs.foldlM (fun worst (left, right) => do
              return max worst (← compareOperands request left right)) 0
          match request.fromFile, request.toFile, found.operands with
          | some _, some _, _ => fail "--from-file and --to-file both specified" 2
          | some file, none, operands => each (operands.map fun name => (file, name))
          | none, some file, operands => each (operands.map fun name => (name, file))
          | none, none, [left, right] => compareOperands request left right
          | none, none, [] => do
              let last := words.getLast?.getD (← Eval.process).name
              namedMisuse ("missing operand after '" ++ last ++ ['\''])
          | none, none, [only] => namedMisuse ("missing operand after '" ++ only ++ ['\''])
          | none, none, _ :: _ :: extra :: _ => namedMisuse ("extra operand '" ++ extra ++ ['\''])

end FixtureRunner.Tool
