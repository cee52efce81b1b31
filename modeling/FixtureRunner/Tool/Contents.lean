/-
Tools that pass texts on: whole, in part, backwards or only counted.
-/

import FixtureRunner.Tool.Arguments

namespace FixtureRunner.Tool

open Shell (Eval Channel Stream Opening)

/-! ### Channels -/

def inputOf (name : Raw) : Eval (Except SystemError Nat) := do
  if name = ['-'] then
    match ← Eval.channelOf 0 with
    | some number => return .ok number
    | none => return .error .badDescriptor
  else
    Eval.openFile .read name

def supplyOf (number : Nat) : Eval Bytes := do
  match ← Eval.channel number with
  | .stream stream => return stream.supply
  | .full => return [0]
  | _ => return []

def writeForever (supply : Bytes) : Eval Nat := do
  let rounds := Stream.supplyBound / (supply.length + 1) + 1
  let plenty := (List.replicate rounds supply).flatten
  match ← Eval.channelOf 1 with
  | none => failOf "standard output" .badDescriptor
  | some number => do
      match ← Eval.channel number with
      | .stream stream => do
          if stream.patience.isSome then
            Eval.setChannel number (.stream { stream with supply })
            return 1
          else
            let _ ← Eval.writeChannel number plenty
            throw .outlived
      | .full => failOf "standard output" .noSpace
      | _ => do
          let _ ← Eval.writeChannel number plenty
          throw .outlived

def repeatTool : Program := fun words => do
  let line := (if words.isEmpty then ['y'] else List.intercalate [' '] words) ++ ['\n']
  writeForever (Raw.toBytes line)

/-! ### Whole texts -/

structure Showing where
  numbers : Bool := false
  numbersFilled : Bool := false
  squeezes : Bool := false
  marksEnds : Bool := false
  marksTabs : Bool := false
  marksHidden : Bool := false

def Showing.isPlain (showing : Showing) : Bool :=
  !(showing.numbers || showing.numbersFilled || showing.squeezes || showing.marksEnds ||
    showing.marksTabs || showing.marksHidden)

def caret (code : Nat) : Raw :=
  if code = 127 then ['^', '?'] else ['^', Char.ofNat (code + 64)]

def Showing.char (showing : Showing) (char : Char) : Raw :=
  let code := char.toNat
  if char = '\t' then
    if showing.marksTabs then caret code else [char]
  else if char = '\n' || !showing.marksHidden then
    [char]
  else if 128 ≤ code then
    let low := code - 128
    'M' :: '-' :: (if low < 32 || low = 127 then caret low else [Char.ofNat low])
  else if code < 32 || code = 127 then
    caret code
  else
    [char]

structure Shown where
  number : Nat := 0
  isFresh : Bool := true
  isBlank : Bool := false

def Showing.line (showing : Showing) (shown : Shown) (piece : Raw) : Raw × Shown :=
  let isBlank := shown.isFresh && piece = ['\n']
  if isBlank && shown.isBlank && showing.squeezes then
    ([], shown)
  else
    let isNumbered := shown.isFresh &&
      (if showing.numbersFilled then !isBlank else showing.numbers)
    let number := if isNumbered then shown.number + 1 else shown.number
    let body := bodyOf '\n' piece
    let isEnded := body.length < piece.length
    let ending : Raw :=
      if isEnded then (if showing.marksEnds then ['$', '\n'] else ['\n']) else []
    let marked : Raw :=
      if isEnded && showing.marksEnds && !showing.marksHidden && body.getLast? = some '\r' then
        body.dropLast.flatMap showing.char ++ ['^', 'M']
      else
        body.flatMap showing.char
    ((if isNumbered then column 6 number ++ ['\t'] else []) ++ marked ++ ending,
      { number, isFresh := isEnded, isBlank })

def Showing.text (showing : Showing) (shown : Shown) (text : Raw) : Raw × Shown :=
  let (lines, after) := (piecesOf '\n' text).foldl (fun (found, shown) piece =>
    let (line, after) := showing.line shown piece
    (line :: found, after)) ([], shown)
  (lines.reverse.flatten, after)

def readsOwnOutput (number : Nat) : Eval Bool := do
  match ← Eval.channelOf 1 with
  | none => return false
  | some target => do
      match ← Eval.channel number, ← Eval.channel target with
      | .file source start _, .file location offset opening => do
          let size :=
            match (← Eval.disk).entryAt? location with
            | some (.file content _) => content.length
            | _ => 0
          return source = location && start < (if opening = .append then size else offset)
      | _, _ => return false

def passOn (showing : Showing) (name : Raw) (shown : Shown) : Eval (Nat × Shown) := do
  match ← inputOf name with
  | .error error => do
      complainOf (quotedIfNeeded name) error
      return (1, shown)
  | .ok number => do
      if ← readsOwnOutput number then
        complain (quotedIfNeeded name ++ ": input file is output file")
        return (1, shown)
      let supply ← supplyOf number
      match ← Eval.remainingFrom number (if showing.isPlain then 0 else Stream.supplyBound) with
      | .error error => do
          complainOf (quotedIfNeeded name) error
          return (1, shown)
      | .ok bytes => do
          Eval.consumeFrom number bytes.length
          if showing.isPlain then
            let status ← output (Raw.ofBytes bytes)
            if supply.isEmpty then return (status, shown)
            else return (← writeForever supply, shown)
          else
            let (text, after) := showing.text shown (Raw.ofBytes bytes)
            return (← output text, after)

def concatenateTool : Program := fun words =>
  withArguments
    { rules := [option 'A' "show-all", option 'b' "number-nonblank", option 'E' "show-ends",
        option 'n' "number", option 's' "squeeze-blank", option 'T' "show-tabs",
        option 'v' "show-nonprinting"] ++ flags "etu" } words fun found => do
  let has (keys : List String) : Bool := keys.any found.has
  let showing : Showing :=
    { numbers := found.has "n"
      numbersFilled := found.has "b"
      squeezes := found.has "s"
      marksEnds := has ["A", "e", "E"]
      marksTabs := has ["A", "t", "T"]
      marksHidden := has ["A", "e", "t", "v"] }
  let names := found.files
  let (status, _) ← names.foldlM (fun (worst, shown) name => do
    let (status, after) ← passOn showing name shown
    return (max worst status, after)) (0, ({} : Shown))
  return status

def duplicateTool : Program := fun words =>
  withArguments
    { rules := [option 'a' "append", option 'i' "ignore-interrupts", option 'p' "output-error" .attached] }
    words fun found => do
  let opening : Opening := if found.has "a" then .append else .write
  let (targets, opened) ← found.operands.foldlM (fun (targets, worst) name => do
    match ← Eval.openFile opening name with
    | .ok number => return (targets ++ [(name, number)], worst)
    | .error error => do
        complainOf (quotedIfNeeded name) error
        return (targets, 1)) (([] : List (Raw × Nat)), 0)
  match ← Eval.readAll 0 with
  | .error error => failOf "read error" error
  | .ok text => do
      let shown ← match ← Eval.write 1 (Raw.toBytes text) with
        | none => pure 0
        | some error => do
            complainOf "'standard output'" error
            pure 1
      let written ← targets.foldlM (fun worst (name, number) => do
        match ← Eval.writeChannel number (Raw.toBytes text) with
        | none => return worst
        | some error => do
            complainOf (quotedIfNeeded name) error
            return 1) 0
      return max opened (max shown written)

/-! ### Parts of texts -/

inductive Extent where
  | first (count : Nat)
  | allBut (count : Nat)
  | last (count : Nat)
  | startingAt (count : Nat)

inductive Measure where
  | lines (mark : Char)
  | bytes

def lengthOfLines (mark : Char) : Nat → Raw → Nat → Nat × Nat
  | 0, _, length => (length, 0)
  | missing, [], length => (length, missing)
  | missing + 1, char :: rest, length =>
      lengthOfLines mark (if char = mark then missing else missing + 1) rest (length + 1)

def Measure.part (measure : Measure) (extent : Extent) (text : Raw) : Raw :=
  let cut (size : Nat) : Raw :=
    match measure with
    | .bytes => text.take size
    | .lines mark => text.take (lengthOfLines mark size text 0).1
  let behind (size : Nat) : Raw :=
    match measure with
    | .bytes => text.drop size
    | .lines mark => text.drop (lengthOfLines mark size text 0).1
  let size :=
    match measure with
    | .bytes => text.length
    | .lines mark => (piecesOf mark text).length
  match extent with
  | .first count => cut count
  | .allBut count => cut (size - count)
  | .last count => behind (size - count)
  | .startingAt count => behind (count - 1)

def headerOf (name : Raw) (isFirst : Bool) : Raw :=
  (if isFirst then [] else ['\n']) ++ "==> " ++
    (if name = ['-'] then "standard input".toList else name) ++ " <==\n".toList

def blockSize : Nat := 8192

def consumePart (number used available : Nat) (isExact : Bool) : Eval Unit := do
  match ← Eval.channel number with
  | .file _ _ _ => Eval.consumeFrom number used
  | _ =>
      Eval.consumeFrom number
        (if isExact then used else min available ((used + blockSize - 1) / blockSize * blockSize))

def readLines (mark : Char) (count number : Nat) : List Nat → Eval (Except SystemError Raw)
  | [] => return .ok []
  | wanted :: more => do
      match ← Eval.remainingFrom number wanted with
      | .error error => return .error error
      | .ok bytes =>
          let text := Raw.ofBytes bytes
          if more.isEmpty || bytes.length < wanted || (lengthOfLines mark count text 0).2 = 0 then
            return .ok text
          else
            readLines mark count number more

def partOf (measure : Measure) (extent : Extent) (number : Nat) : Eval (Except SystemError Raw) := do
  match measure, extent with
  | _, .first 0 => return .ok []
  | .bytes, .first count => do
      match ← Eval.remainingFrom number (min count (Nat.pow 2 24)) with
      | .error error => return .error error
      | .ok bytes => do
          let text := Raw.ofBytes (bytes.take count)
          consumePart number text.length bytes.length true
          return .ok text
  | .lines mark, .first count => do
      match ← readLines mark count number [Stream.supplyBound, Nat.pow 2 21, Nat.pow 2 24] with
      | .error error => return .error error
      | .ok text => do
          let used := (lengthOfLines mark count text 0).1
          consumePart number used text.length false
          return .ok (text.take used)
  | _, _ => do
      return (← Eval.drain number).map (measure.part extent)

def showParts (measure : Measure) (extent : Extent) (hasHeaders : Bool) (names : List Raw) : Eval Nat := do
  let (status, _) ← names.foldlM (fun (worst, isFirst) name => do
    match ← inputOf name with
    | .error error => do
        complainOf ("cannot open " ++ quoted name ++ " for reading") error
        return (1, isFirst)
    | .ok number => do
        if hasHeaders then
          let _ ← output (headerOf name isFirst)
        match ← partOf measure extent number with
        | .error error => do
            complainOf ("error reading " ++ quoted name) error
            return (1, false)
        | .ok text => return (max worst (← output text), false)) (0, true)
  return status

def hasHeaders (found : Arguments) : Bool :=
  match found.last? ["q", "v"] with
  | some "q" => false
  | some _ => true
  | none => 1 < found.operands.length

/-- The old way to give a count: a dash, digits and letters in the first word. -/
def oldHeadArguments (words : List Raw) : Except Char (List Raw) :=
  match words with
  | ('-' :: first :: more) :: rest =>
      if first.isDigit then
        let digits := (first :: more).takeWhile Char.isDigit
        let letters := (first :: more).drop digits.length
        match letters.find? fun char => !"bcklmqvz".toList.contains char with
        | some bad => .error bad
        | none =>
            let suffix := (letters.filter "bkm".toList.contains).getLast?.toList
            let isBytes := letters.any "bckm".toList.contains && !letters.contains 'l'
            let extra := (letters.filter "qvz".toList.contains).map fun char => ['-', char]
            .ok (['-', if isBytes then 'c' else 'n'] :: (digits ++ suffix) :: extra ++ rest)
      else
        .ok words
  | _ => .ok words

def countWords (key : String) : Raw :=
  if key = "c" then "invalid number of bytes: " else "invalid number of lines: "

def partRules : List OptionRule :=
  [option 'c' "bytes" .always, option 'n' "lines" .always, option 'q' "quiet", option 'q' "silent",
    option 'v' "verbose", option 'z' "zero-terminated"]

def measureOf (found : Arguments) (key : String) : Measure :=
  if key = "c" then .bytes else .lines found.mark

/-- Shows the parts that a count tells, behind a sign that makes it one of another kind. -/
def showCounted (found : Arguments) (signed : Raw → Bool × Raw) (part : Bool → Nat → Extent)
    (next : Nat → Eval Nat := fun status => return status) : Eval Nat := do
  let key := (found.last? ["c", "n"]).getD "n"
  let (isOther, digits) := signed ((found.value? key).getD ['1', '0'])
  match count? digits with
  | .error fault => fail (countWords key ++ quoted digits ++ fault.suffix)
  | .ok count => do
      next (← showParts (measureOf found key) (part isOther count) (hasHeaders found) found.files)

def headTool : Program := fun words => do
  match oldHeadArguments words with
  | .error bad => misuse ("invalid trailing option -- " ++ [bad])
  | .ok words =>
      withArguments { rules := partRules } words fun found =>
      showCounted found
        (fun
          | '-' :: rest => (true, rest)
          | digits => (false, digits))
        fun isBut count => if isBut then .allBut count else .first count

/-- An option in the old way: a sign and a number, which is the value of an option. -/
def oldNumber (sign letter : Char) (word : Raw) : List Raw :=
  match word with
  | first :: second :: rest =>
      if first = sign && second.isDigit then [['-', letter], second :: rest] else [word]
  | _ => [word]

/-- The old way to give a count: a sign, digits and a letter in the first of two words. -/
def oldTailArguments (words : List Raw) : List Raw :=
  match words with
  | (sign :: body) :: rest =>
      let digits := body.takeWhile Char.isDigit
      let letters := body.drop digits.length
      let isOld := (sign = '+' || sign = '-' && !(digits.isEmpty)) && rest.length ≤ 1 &&
        ["", "b", "c", "l", "f", "bf", "cf", "lf"].contains (String.ofList letters)
      if isOld then
        let count := if digits.isEmpty then ['1', '0'] else digits
        let isBytes := letters.contains 'b' || letters.contains 'c'
        let suffix : Raw := if letters.contains 'b' then ['b'] else []
        ['-', if isBytes then 'c' else 'n'] :: (sign :: count ++ suffix) ::
          (if letters.contains 'f' then [['-', 'f']] else []) ++ rest
      else
        words
  | _ => words

def tailTool : Program := fun words =>
  withArguments
    { rules := partRules ++ [option 'f' "follow" .attached, option 's' "sleep-interval" .always] ++
        flags "F" ++ [wordOption "retry", wordOption "pid" .always] }
    (oldTailArguments words) fun found => do
  showCounted found
    (fun
      | '-' :: rest => (false, rest)
      | digits => (digits.head? = some '+', digits))
    (fun isFromStart count => if isFromStart then .startingAt count else .last count)
    fun status => do
      if (found.has "f" || found.has "F") && (status = 0 || 1 < found.files.length) then
        throw .outlived
      return status

/-! ### Counting -/

structure Amounts where
  lines : Nat := 0
  words : Nat := 0
  bytes : Nat := 0
  widest : Nat := 0

def amountsFrom : Raw → Amounts → Nat → Bool → Amounts
  | [], amounts, width, _ => { amounts with widest := max amounts.widest width }
  | char :: rest, amounts, width, inWord =>
      let counted := { amounts with bytes := amounts.bytes + 1 }
      if char = '\n' then
        amountsFrom rest
          { counted with lines := counted.lines + 1, widest := max counted.widest width } 0 false
      else if char = '\r' || char = '\x0C' then
        amountsFrom rest { counted with widest := max counted.widest width } 0 false
      else if char = '\t' then
        amountsFrom rest counted (width + 8 - width % 8) false
      else if char = ' ' then
        amountsFrom rest counted (width + 1) false
      else if char = '\x0B' then
        amountsFrom rest counted width false
      else
        amountsFrom rest
          (if inWord then counted else { counted with words := counted.words + 1 })
          (if isShown char then width + 1 else width) true

def amountsOf (text : Raw) : Amounts :=
  amountsFrom text {} 0 false

def Amounts.plus (left right : Amounts) : Amounts :=
  { lines := left.lines + right.lines
    words := left.words + right.words
    bytes := left.bytes + right.bytes
    widest := max left.widest right.widest }

def Amounts.chosen (amounts : Amounts) (keys : List String) : List Nat :=
  (if keys.contains "l" then [amounts.lines] else []) ++
    (if keys.contains "w" then [amounts.words] else []) ++
    (if keys.contains "m" then [amounts.bytes] else []) ++
    (if keys.contains "c" then [amounts.bytes] else []) ++
    (if keys.contains "L" then [amounts.widest] else [])

def sizeOf? (name : Raw) : Eval (Option Nat) := do
  let sizeAt (location : Shell.Channel) : Eval (Option Nat) := do
    match location with
    | .file location _ _ =>
        match (← Eval.disk).entryAt? location with
        | some (.file content _) => return some content.length
        | _ => return none
    | _ => return none
  if name = ['-'] then
    match ← Eval.channelOf 0 with
    | some number => sizeAt (← Eval.channel number)
    | none => return none
  else
    match (← Eval.disk).find (Eval.pathOf name) with
    | .ok (location, .file content _) =>
        return if Eval.isDevice location then none else some content.length
    | _ => return none

def exists? (name : Raw) : Eval Bool := do
  if name = ['-'] then return true
  else return ((← Eval.disk).find (Eval.pathOf name)).toOption.isSome

def countWidth (names : List Raw) (columns : Nat) : Eval Nat := do
  if names.length = 1 && columns = 1 then
    return 1
  else
    let present ← names.filterM exists?
    let sizes ← present.mapM sizeOf?
    let total := (sizes.map (·.getD 0)).foldl (· + ·) 0
    let least := if sizes.any Option.isNone then 7 else 1
    return max least (Raw.ofNat total).length

def countTool : Program := fun words =>
  withArguments
    { rules := [option 'c' "bytes", option 'm' "chars", option 'l' "lines", option 'L' "max-line-length",
        option 'w' "words", wordOption "total" .always] } words fun found => do
  let chosen := ["l", "w", "m", "c", "L"].filter found.has
  let keys := if chosen.isEmpty then ["l", "w", "c"] else chosen
  let names := found.files
  let total := (found.value? "total").getD "auto"
  let isOnly := total = "only"
  let width ← if isOnly then pure 1 else countWidth names keys.length
  let line (amounts : Amounts) (label : Raw) : Raw :=
    List.intercalate [' '] ((amounts.chosen keys).map (column width)) ++
      (if label.isEmpty then [] else ' ' :: label) ++ ['\n']
  let (sum, status) ← names.foldlM (fun (sum, worst) name => do
    if name.isEmpty then
      complain "invalid zero-length file name"
      return (sum, 1)
    else
      match ← inputOf name with
      | .error error => do
          complainOf (quotedIfNeeded name) error
          return (sum, 1)
      | .ok number => do
          let (amounts, status) ← match ← Eval.remainingFrom number Stream.supplyBound with
            | .error error => do
                complainOf (quotedIfNeeded name) error
                pure (({} : Amounts), 1)
            | .ok bytes => do
                Eval.consumeFrom number bytes.length
                unless (← supplyOf number).isEmpty do throw .outlived
                pure (amountsOf (Raw.ofBytes bytes), 0)
          let label : Raw := if found.operands.isEmpty then [] else quotedIfNeeded name
          let shown ← if isOnly then pure 0 else output (line amounts label)
          return (sum.plus amounts, max worst (max status shown))) (({} : Amounts), 0)
  let hasTotal : Bool :=
    match String.ofList total with
    | "auto" => 1 < names.length
    | "never" => false
    | _ => true
  if hasTotal then
    return max status (← output (line sum (if isOnly then [] else "total")))
  else
    return status

/-! ### Backwards -/

def cutBehind (separator : Raw) : Nat → Raw → Raw → List Raw → List Raw
  | 0, _, current, found => if current.isEmpty then found else current.reverse :: found
  | _ + 1, [], current, found => if current.isEmpty then found else current.reverse :: found
  | room + 1, char :: rest, current, found =>
      if separator.isPrefixOf (char :: rest) then
        cutBehind separator room ((char :: rest).drop (max 1 separator.length)) []
          ((separator.reverse ++ current).reverse :: found)
      else
        cutBehind separator room rest (char :: current) found

def backwardsTool : Program := fun words =>
  withArguments
    { rules := [option 'b' "before", option 'r' "regex", option 's' "separator" .always] }
    words fun found => do
  let separator := (found.value? "s").getD ['\n']
  let names := found.files
  onEach names fun name => do
    match ← contentOf name with
    | .error error => do
        if error = .isFolder then complainOf (quotedIfNeeded name ++ ": read error") error
        else complainOf ("failed to open " ++ quoted name ++ " for reading") error
        return 1
    | .ok text =>
        if found.has "b" then
          let pieces := cutBehind separator.reverse (text.length + 1) text.reverse [] []
          output (pieces.reverse.map List.reverse).flatten
        else
          output (cutBehind separator (text.length + 1) text [] []).flatten

def reversedTool : Program := fun words =>
  withArguments { } words fun found => do
  let names := found.files
  onEach names fun name => do
    match ← contentOf name with
    | .error error => failOf ("cannot open " ++ name) error
    | .ok text =>
        output ((piecesOf '\n' text).flatMap fun piece =>
          let body := bodyOf '\n' piece
          body.reverse ++ piece.drop body.length)

end FixtureRunner.Tool
