/-
Tools that look at single bytes: comparing, showing, copying in blocks, cutting into
files, and writing in a smaller alphabet.
-/

import FixtureRunner.Tool.Contents

namespace FixtureRunner.Tool

open Shell (Eval Stream Opening)

/-! ### Comparing -/

def octalColumn (char : Char) : Raw :=
  let digits := Nat.toDigits 8 char.toNat
  List.replicate (3 - digits.length) ' ' ++ digits

def visibleByte (char : Char) : Raw :=
  let showing : Showing := { marksHidden := true, marksTabs := true }
  if char = '\n' then caret 10 else showing.char char

structure Comparing where
  printsBytes : Bool
  isVerbose : Bool
  isSilent : Bool
  names : Raw × Raw
  width : Nat

/-- Compares from a position on.  `line` is the number of the current line, `differs` tells
whether a difference has been seen; the status is the answer. -/
def Comparing.from (comparing : Comparing) : Raw → Raw → Nat → Nat → Bool → Bool → Eval Nat
  | [], [], _, _, _, differs => return if differs then 1 else 0
  | [], _ :: _, position, line, isFresh, _ => ended comparing.names.1 position line isFresh
  | _ :: _, [], position, line, isFresh, _ => ended comparing.names.2 position line isFresh
  | left :: lefts, right :: rights, position, line, _, differs => do
      let next := if left = '\n' then line + 1 else line
      if left = right then
        comparing.from lefts rights (position + 1) next (left = '\n') differs
      else if comparing.isSilent then
        return 1
      else if comparing.isVerbose then
        Eval.say 1 (column comparing.width (position + 1) ++ ' ' :: octalColumn left ++
          (if comparing.printsBytes then
            let shown := visibleByte left
            ' ' :: shown ++ List.replicate (4 - shown.length) ' '
          else []) ++ ' ' :: octalColumn right ++
          (if comparing.printsBytes then ' ' :: visibleByte right else []) ++ ['\n'])
        comparing.from lefts rights (position + 1) next (left = '\n') true
      else
        let place := Raw.ofNat (position + 1) ++ ", line " ++ Raw.ofNat line
        let names := comparing.names.1 ++ ' ' :: comparing.names.2 ++ " differ: "
        if comparing.printsBytes then
          Eval.say 1 (names ++ "byte " ++ place ++ " is " ++ octalColumn left ++
            ' ' :: visibleByte left ++ ' ' :: octalColumn right ++ ' ' :: visibleByte right ++ ['\n'])
        else
          Eval.say 1 (names ++ "char " ++ place ++ ['\n'])
        return 1
where
  ended (name : Raw) (position line : Nat) (isFresh : Bool) : Eval Nat := do
    unless comparing.isSilent do
      let subject := "EOF on " ++ name
      if position = 0 then
        complain (subject ++ " which is empty")
      else
        let behind := subject ++ " after byte " ++ Raw.ofNat position
        if comparing.isVerbose then complain behind
        else if isFresh then complain (behind ++ ", line " ++ Raw.ofNat (line - 1))
        else complain (behind ++ ", in line " ++ Raw.ofNat line)
    return 1

def namedHint : Eval Unit := do
  let name := (← Eval.process).name
  Eval.say 2 (name ++ ": Try '" ++ name ++ " --help' for more information.\n")

def namedMisuse (message : Raw) : Eval Nat := do
  complain message
  namedHint
  return 2

def skips? (text : Raw) : Option (Nat × Nat) :=
  let first := text.takeWhile (· ≠ ':')
  match count? first with
  | .error _ => none
  | .ok count =>
      if first.length = text.length then some (count, count)
      else
        match count? (text.drop (first.length + 1)) with
        | .ok other => some (count, other)
        | .error _ => none

def compareTool : Program := fun words =>
  withArguments
    { rules := [option 'b' "print-bytes", option 'i' "ignore-initial" .always, option 'l' "verbose",
        option 'n' "bytes" .always, option 's' "quiet", option 's' "silent", option 'c' "print-chars"]
      status := 2, hint := namedHint } words fun found => do
  let isSilent := found.has "s"
  let skip := (found.value? "i").map skips?
  let limit := (found.value? "n").map fun text => (count? text).toOption
  let operandSkips := (found.operands.drop 2).take 2
  match found.operands, skip, limit with
  | _, some none, _ =>
      namedMisuse ("invalid --ignore-initial value " ++ quoted ((found.value? "i").getD []))
  | _, _, some none => namedMisuse ("invalid --bytes value " ++ quoted ((found.value? "n").getD []))
  | [], _, _ => do
      namedMisuse ("missing operand after " ++ quoted (words.getLast?.getD (← Eval.process).name))
  | first :: others, _, _ =>
      let second := others.headD ['-']
      match operandSkips.find? fun text => (count? text).toOption.isNone, found.operands.drop 4 with
      | some bad, _ => namedMisuse ("invalid --ignore-initial value " ++ quoted bad)
      | none, extra :: _ => namedMisuse ("extra operand " ++ quoted extra)
      | none, [] => do
          let skip := (skip.bind id).getD (0, 0)
          let operandSkip (index usual : Nat) : Nat :=
            ((operandSkips[index]?).bind fun text => (count? text).toOption).getD usual
          let read (name : Raw) (skipped : Nat) : Eval (Option Raw) := do
            match ← contentOf name with
            | .error error => do
                unless isSilent do complainOf name error
                return none
            | .ok content =>
                let behind := content.drop skipped
                return some ((limit.bind id).elim behind (behind.take ·))
          if first = ['-'] && second = ['-'] then
            return 0
          else
            let sizes ← [first, second].mapM sizeOf?
            match ← read first (max skip.1 (operandSkip 0 0)) with
            | none => return 2
            | some left => do
                match ← read second (max skip.2 (operandSkip 1 0)) with
                | none => return 2
                | some right => do
                    let known := sizes.filterMap id ++ ((limit.bind id).toList)
                    let least := (known.foldl (fun least size => some (least.elim size (min size)))
                      (none : Option Nat)).getD (Nat.pow 2 63 - 1)
                    let comparing : Comparing :=
                      { printsBytes := found.has "b" || found.has "c"
                        isVerbose := found.has "l"
                        isSilent
                        names := (first, second)
                        width := (Raw.ofNat least).length }
                    comparing.from left right 0 1 true false

/-! ### Showing -/

inductive UnitForm where
  | named
  | char
  | signed (size : Nat)
  | unsigned (size : Nat)
  | octal (size : Nat)
  | hex (size : Nat)

structure DumpColumn where
  form : UnitForm
  hasText : Bool := false

def UnitForm.size : UnitForm → Nat
  | .named | .char => 1
  | .signed size | .unsigned size | .octal size | .hex size => size

def UnitForm.width : UnitForm → Nat
  | .named | .char => 3
  | .signed size => if size = 1 then 4 else if size = 2 then 6 else if size = 4 then 11 else 20
  | .unsigned size => if size = 1 then 3 else if size = 2 then 5 else if size = 4 then 10 else 20
  | .octal size => (size * 8 + 2) / 3
  | .hex size => size * 2

def controlNames : List String :=
  ["nul", "soh", "stx", "etx", "eot", "enq", "ack", "bel", "bs", "ht", "nl", "vt", "ff", "cr", "so", "si",
    "dle", "dc1", "dc2", "dc3", "dc4", "nak", "syn", "etb", "can", "em", "sub", "esc", "fs", "gs", "rs",
    "us", "sp"]

def digitsIn (base width value : Nat) : Raw :=
  let digits := Nat.toDigits base value
  List.replicate (width - digits.length) '0' ++ digits

def littleEndian (bytes : Raw) : Nat :=
  bytes.reverse.foldl (fun value byte => value * 256 + byte.toNat) 0

def UnitForm.text (form : UnitForm) (bytes : Raw) : Raw :=
  let value := littleEndian bytes
  match form with
  | .named =>
      let low := value % 128
      if low = 127 then "del"
      else (controlNames[low]?.map String.toList).getD [Char.ofNat low]
  | .char =>
      let char := Char.ofNat value
      if value = 0 then ['\\', '0']
      else
        match escapeLetter? char with
        | some letter => ['\\', letter]
        | none => if isShown char then [char] else digitsIn 8 3 value
  | .signed size =>
      if Nat.pow 2 (size * 8 - 1) ≤ value then Raw.ofInt ((value : Int) - Int.pow 2 (size * 8)) else Raw.ofNat value
  | .unsigned _ => Raw.ofNat value
  | .octal size => digitsIn 8 ((size * 8 + 2) / 3) value
  | .hex size => digitsIn 16 (size * 2) value

def unitsFrom (size : Nat) : Nat → Raw → List Raw
  | 0, _ => []
  | _ + 1, [] => []
  | room + 1, bytes =>
      let unit := bytes.take size
      (unit ++ List.replicate (size - unit.length) '\x00') :: unitsFrom size room (bytes.drop size)

def unitSize? (text : Raw) (usual : Nat) : Option (Nat × Raw) :=
  match text with
  | 'C' :: rest => some (1, rest)
  | 'S' :: rest => some (2, rest)
  | 'I' :: rest => some (4, rest)
  | 'L' :: rest => some (8, rest)
  | _ =>
      let digits := text.takeWhile Char.isDigit
      match Raw.nat? digits with
      | none => some (usual, text)
      | some size => if [1, 2, 4, 8].contains size then some (size, text.drop digits.length) else none

def columnsFrom (whole : Raw) : Nat → Raw → List DumpColumn → Except Raw (List DumpColumn)
  | 0, _, found => .ok found.reverse
  | _ + 1, [], found => .ok found.reverse
  | room + 1, letter :: rest, found =>
      let sized (form : Nat → UnitForm) : Except Raw (UnitForm × Raw) :=
        match unitSize? rest 4 with
        | some (size, after) => .ok (form size, after)
        | none => .error ("invalid type string " ++ quoted whole ++
            ";\nthis system doesn't provide a " ++ rest.takeWhile Char.isDigit ++
            "-byte integral type")
      let form : Except Raw (UnitForm × Raw) :=
        match letter with
        | 'a' => .ok (.named, rest)
        | 'c' => .ok (.char, rest)
        | 'd' => sized .signed
        | 'u' => sized .unsigned
        | 'o' => sized .octal
        | 'x' => sized .hex
        | _ => .error ("invalid character '" ++ letter :: "' in type string " ++ quoted whole)
      match form with
      | .error message => .error message
      | .ok (form, 'z' :: after) =>
          columnsFrom whole room after ({ form, hasText := true } :: found)
      | .ok (form, after) => columnsFrom whole room after ({ form } :: found)

def columnOf? (key : String) : Option DumpColumn :=
  match key with
  | "a" => some { form := .named }
  | "b" => some { form := .octal 1 }
  | "c" => some { form := .char }
  | "d" => some { form := .unsigned 2 }
  | "i" => some { form := .signed 4 }
  | "l" => some { form := .signed 8 }
  | "o" => some { form := .octal 2 }
  | "s" => some { form := .signed 2 }
  | "x" | "h" => some { form := .hex 2 }
  | _ => none

structure Dump where
  columns : List DumpColumn
  rowSize : Nat
  address : Option (Nat × Nat)
  showsAll : Bool

def Dump.addressText (dump : Dump) (position : Nat) : Raw :=
  match dump.address with
  | none => []
  | some (base, width) => digitsIn base width position

def Dump.columnWidth (dump : Dump) (dumpColumn : DumpColumn) : Nat :=
  (dumpColumn.form.width + 1) * (dump.rowSize / dumpColumn.form.size)

def Dump.columnText (dump : Dump) (dumpColumn : DumpColumn) (row : Raw) : Raw :=
  let form := dumpColumn.form
  let count := dump.rowSize / form.size
  let widest := dump.columns.foldl (fun most other => max most (dump.columnWidth other)) 0
  let padding := widest - dump.columnWidth dumpColumn
  let units := unitsFrom form.size (row.length + 1) row
  let shown := units.zipIdx.flatMap fun (unit, index) =>
    let left := padding * (count - index) / count
    let next := padding * (count - index - 1) / count
    let text := form.text unit
    List.replicate (left - next + 1 + form.width - text.length) ' ' ++ text
  if dumpColumn.hasText then
    let missing := count - units.length
    let blanks := (form.width + 1) * missing + padding * missing / count
    shown ++ List.replicate blanks ' ' ++ "  >" ++
      row.map (fun char => if isShown char then char else '.') ++ ['<']
  else
    shown

def Dump.rowText (dump : Dump) (position : Nat) (row : Raw) : Raw :=
  dump.columns.zipIdx.flatMap fun (dumpColumn, index) =>
    (if index = 0 then dump.addressText position
      else List.replicate (dump.addressText position).length ' ') ++
      dump.columnText dumpColumn row ++ ['\n']

/-- The rows of a dump, the last one first; rows like the one before are shown as a star. -/
def Dump.rowsFrom (dump : Dump) : Nat → Raw → Nat → Option Raw → Bool → List Raw → List Raw
  | 0, _, _, _, _, found => found
  | room + 1, bytes, position, before, isStarred, found =>
      let row := bytes.take dump.rowSize
      if row.isEmpty then
        (if dump.address.isSome then dump.addressText position ++ ['\n'] else []) :: found
      else if !dump.showsAll && before = some row && row.length = dump.rowSize then
        dump.rowsFrom room (bytes.drop dump.rowSize) (position + row.length) before true
          (if isStarred then found else ['*', '\n'] :: found)
      else
        dump.rowsFrom room (bytes.drop dump.rowSize) (position + row.length) (some row) false
          (dump.rowText position row :: found)

def dumpTool : Program := fun words =>
  withArguments
    { rules := [option 'A' "address-radix" .always, option 'j' "skip-bytes" .always,
        option 'N' "read-bytes" .always, option 't' "format" .always,
        option 'v' "output-duplicates", option 'w' "width" .attached] ++ flags "abcdilosxh" }
    words fun found => do
  let columns : Except Raw (List DumpColumn) := do
    let lists ← found.options.mapM fun (key, value) =>
      if key = "t" then
        let text := value.getD []
        columnsFrom text (text.length + 1) text []
      else
        .ok (columnOf? key).toList
    return if lists.flatten.isEmpty then [{ form := .octal 2 }] else lists.flatten
  let address : Except Raw (Option (Nat × Nat)) :=
    match found.value? "A" with
    | none | some ['o'] => .ok (some (8, 7))
    | some ['d'] => .ok (some (10, 7))
    | some ['x'] => .ok (some (16, 6))
    | some ['n'] => .ok none
    | some text => .error ("invalid output address radix " ++ quoted text ++
        "; it must be one character from [doxn]")
  let number (key name : String) : Except Raw (Option Nat) :=
    match found.value? key with
    | none => .ok none
    | some text =>
        match count? text with
        | .ok value => .ok (some value)
        | .error _ => .error (("invalid " ++ name ++ " argument ").toList ++ quoted text)
  let settings : Except Raw (Dump × Nat × Option Nat) := do
    let columns ← columns
    let address ← address
    let skipped ← number "j" "-j"
    let limit ← number "N" "-N"
    let width ← number "w" "-w"
    let rowSize := if found.has "w" then width.getD 32 else 16
    return ({ columns, rowSize := max 1 rowSize, address, showsAll := found.has "v" },
      skipped.getD 0, limit)
  match settings with
  | .error message => fail message
  | .ok (dump, skipped, limit) => do
      let (contents, status) ← allContents quotedIfNeeded found.operands
      let all := contents.flatMap (·.2)
      if all.length < skipped then
        fail "cannot skip past end of combined input"
      else if contents.isEmpty then
        return status
      else
        let bytes := (limit.map ((all.drop skipped).take ·)).getD (all.drop skipped)
        output (dump.rowsFrom (bytes.length + 1) bytes skipped none false []).reverse.flatten status

/-! ### Copying in blocks -/

abbrev CopySettings := List (String × Raw)

def CopySettings.value? (settings : CopySettings) (name : String) : Option Raw :=
  ((settings.filter (·.1 = name)).getLast?).map (·.2)

def copySettingNames : List String :=
  ["if", "of", "bs", "ibs", "obs", "cbs", "count", "skip", "iseek", "seek", "oseek", "conv", "status",
    "iflag", "oflag"]

def copyConversions : List String :=
  ["ascii", "ebcdic", "ibm", "block", "unblock", "lcase", "ucase", "sparse", "swab", "sync", "excl",
    "nocreat", "notrunc", "noerror", "fdatasync", "fsync"]

def copyFlags : List String :=
  ["append", "direct", "directory", "dsync", "sync", "fullblock", "nonblock", "noatime", "nocache",
    "noctty", "nofollow", "count_bytes", "skip_bytes", "seek_bytes"]

def product? (text : Raw) : Option Nat :=
  (Text.fields 'x' text).foldl (fun product factor => do
    let soFar ← product
    match factor with
    | ['c'] => none
    | _ =>
        let bare := if factor.getLast? = some 'c' then factor.dropLast
          else if factor.getLast? = some 'w' then factor.dropLast else factor
        match count? bare with
        | .ok value => some (soFar * value * (if factor.getLast? = some 'w' then 2 else 1))
        | .error _ => none) (some 1)

def copyFault? (words : List Raw) : Option (Raw × Bool) :=
  words.findSome? fun word =>
    let name := String.ofList (word.takeWhile (· ≠ '='))
    let value := word.drop (name.length + 1)
    let listed (known : List String) (kind : String) : Option (Raw × Bool) :=
      ((Text.fields ',' value).find? fun item => !known.contains (String.ofList item)).map
        fun bad => (("invalid " ++ kind ++ ": ").toList ++ quoted bad, true)
    if !word.contains '=' || !copySettingNames.contains name then
      some ("unrecognized operand " ++ quoted word, true)
    else if name = "conv" then listed copyConversions "conversion"
    else if name = "iflag" then listed copyFlags "input flag"
    else if name = "oflag" then listed copyFlags "output flag"
    else if name = "status" then
      if ["none", "noxfer", "progress"].contains (String.ofList value) then none
      else some ("invalid status level: " ++ quoted value, true)
    else if name = "if" || name = "of" then none
    else
      match product? value with
      | none => some ("invalid number: " ++ quoted value, false)
      | some number =>
          if number = 0 && ["bs", "ibs", "obs", "cbs"].contains name then
            some ("invalid number: " ++ quoted value, false)
          else
            none

def swapped : Raw → Raw
  | first :: second :: rest => second :: first :: swapped rest
  | rest => rest

def filledBlocks (size : Nat) : Nat → Raw → Raw
  | 0, text => text
  | room + 1, text =>
      if text.isEmpty then []
      else
        let block := text.take size
        block ++ List.replicate (size - block.length) '\x00' ++ filledBlocks size room (text.drop size)

def records (size length : Nat) : Raw :=
  Raw.ofNat (length / size) ++ '+' :: Raw.ofNat (if length % size = 0 then 0 else 1)

def copyBlocks (settings : CopySettings) (conversions : List String) : Eval Nat := do
  let has (conversion : String) : Bool := conversions.contains conversion
  let number (name : String) : Option Nat := (settings.value? name).bind product?
  let inputSize := ((number "bs").or (number "ibs")).getD 512
  let outputSize := ((number "bs").or (number "obs")).getD 512
  let source := settings.value? "if"
  let flagged (name flag : String) : Bool :=
    (settings.value? name).any fun value => (Text.fields ',' value).contains flag.toList
  match ← (match source with
    | some name => Eval.openFile .read name
    | none => inputOf ['-']) with
  | .error error => failOf ("failed to open " ++ quoted (source.getD [])) error
  | .ok input => do
      let target := settings.value? "of"
      let seek := ((number "seek").or (number "oseek")).getD 0 *
        (if flagged "oflag" "seek_bytes" then 1 else outputSize)
      let keeps := has "notrunc" || 0 < seek
      let held ← match target with
        | none => pure (Except.ok none)
        | some name => do
            let present := ((← Eval.disk).find (Eval.pathOf name)).toOption.isSome
            if has "nocreat" && !present then
              pure (Except.error SystemError.missing)
            else if has "excl" && present then
              pure (Except.error SystemError.alreadyExists)
            else
              match ← Eval.openFile (if flagged "oflag" "append" then .append
                else if keeps then .readWrite else .write) name with
              | .error error => pure (Except.error error)
              | .ok number => do
                  match ← Eval.channel number with
                  | .file location _ opening => do
                      Eval.setChannel number (.file location seek opening)
                      if 0 < seek && !has "notrunc" then
                        match (← Eval.disk).entryAt? location with
                        | some (.file content executable) => do
                            let front := content.take seek
                            Eval.setDisk ((← Eval.disk).put location
                              (.file (front ++ List.replicate (seek - front.length) 0) executable))
                        | _ => pure ()
                  | _ => pure ()
                  pure (Except.ok (some number))
      match held with
      | .error error => failOf ("failed to open " ++ quoted (target.getD [])) error
      | .ok output? => do
          let skipped := ((number "skip").or (number "iseek")).getD 0 *
            (if flagged "iflag" "skip_bytes" then 1 else inputSize)
          let limit := (number "count").map fun count =>
            if flagged "iflag" "count_bytes" then count else count * inputSize
          let wanted := skipped + limit.getD Stream.supplyBound
          let (bytes, status) ← match ← Eval.remainingFrom input wanted with
            | .error error => do
                complainOf ("error reading " ++ quoted (source.getD "standard input")) error
                pure ([], 1)
            | .ok bytes => do
                let used := (limit.map (min (bytes.length - skipped) ·)).getD (bytes.length - skipped)
                Eval.consumeFrom input (skipped + used)
                if bytes.length < skipped then
                  complain (quotedIfNeeded (source.getD "standard input") ++
                    ": cannot skip to specified offset")
                pure ((bytes.drop skipped).take used, 0)
          let text := Raw.ofBytes bytes
          let filled :=
            if has "sync" then filledBlocks inputSize (text.length + 1) text else text
          let paired := if has "swab" then swapped filled else filled
          let cased :=
            if has "ucase" then paired.map Char.toUpper
            else if has "lcase" then paired.map Char.toLower
            else paired
          let refusal ← match output? with
            | some number => Eval.writeChannel number (Raw.toBytes cased)
            | none => Eval.write 1 (Raw.toBytes cased)
          match refusal with
          | some error => failOf ("error writing " ++ quoted (target.getD "standard output")) error
          | none => do
              let level := String.ofList ((settings.value? "status").getD [])
              if level ≠ "none" then
                Eval.say 2 (records inputSize text.length ++ " records in\n" ++
                  records outputSize cased.length ++ " records out\n")
                if level ≠ "noxfer" then
                  Eval.say 2 (Raw.ofNat cased.length ++ " bytes copied, 0 s, Infinity B/s\n")
              return status

def blockTool : Program := fun words => do
  match copyFault? words with
  | some (message, true) => misuse message
  | some (message, false) => fail message
  | none => do
      let settings : CopySettings := words.map fun word =>
        let name := word.takeWhile (· ≠ '=')
        (String.ofList name, word.drop (name.length + 1))
      let conversions := ((settings.filter (·.1 = "conv")).flatMap fun held =>
        Text.fields ',' held.2).map String.ofList
      if conversions.contains "lcase" && conversions.contains "ucase" then
        fail "cannot combine lcase and ucase"
      else if conversions.contains "excl" && conversions.contains "nocreat" then
        fail "cannot combine excl and nocreat"
      else
        copyBlocks settings conversions

/-! ### Cutting into files -/

def partsFrom (measure : Measure) (size : Nat) : Nat → Raw → List Raw → List Raw
  | 0, _, found => found.reverse
  | room + 1, text, found =>
      if text.isEmpty then
        found.reverse
      else
        let part := measure.part (.first size) text
        partsFrom measure size room (text.drop (max 1 part.length)) (part :: found)

def partSuffix (isNumeric : Bool) (width index : Nat) : Raw :=
  let base := if isNumeric then 10 else 26
  let first := if isNumeric then '0' else 'a'
  (List.range width).reverse.map fun place =>
    Char.ofNat (first.toNat + index / Nat.pow base place % base)

def splitTool : Program := fun words =>
  withArguments
    { rules := [option 'l' "lines" .always, option 'b' "bytes" .always, option 'a' "suffix-length" .always,
        wordOption "additional-suffix" .always, wordOption "verbose"] ++ flags "d" ++
        [wordOption "numeric-suffixes"] } words fun found => do
  match found.operands with
  | _ :: _ :: extra :: _ => extraOperand extra
  | operands => do
      let isBytes := found.has "b"
      let text := ((found.value? (if isBytes then "b" else "l")).getD "1000")
      match count? text with
      | .error _ | .ok 0 =>
          fail ((if isBytes then "invalid number of bytes: " else "invalid number of lines: ").toList ++
            quoted text)
      | .ok size => do
          let name := operands.headD ['-']
          match ← contentOf name with
          | .error error => failOf ("cannot open " ++ quoted name ++ " for reading") error
          | .ok content => do
              let lead := operands.getD 1 ['x']
              let width := ((found.value? "a").bind Raw.nat?).getD 2
              let ending := (found.value? "additional-suffix").getD []
              let isNumeric := found.has "d" || found.has "numeric-suffixes"
              let measure : Measure := if isBytes then .bytes else .lines '\n'
              let parts := partsFrom measure size (content.length + 1) content []
              parts.zipIdx.foldlM (fun worst (part, index) => do
                let target := lead ++ partSuffix isNumeric width index ++ ending
                match ← Eval.writeFile target part with
                | none => return worst
                | some error => do
                    complainOf (quotedIfNeeded target) error
                    return 1) 0

/-! ### A smaller alphabet -/

def sixtyFour : Array Char :=
  ("ABCDEFGHIJKLMNOPQRSTUVWXYZabcdefghijklmnopqrstuvwxyz0123456789+/".toList).toArray

def encodedFrom : Nat → Raw → Raw → Raw
  | 0, _, found => found.reverse
  | _ + 1, [], found => found.reverse
  | room + 1, bytes, found =>
      let taken := bytes.take 3
      let value := (taken ++ List.replicate (3 - taken.length) '\x00').foldl
        (fun value byte => value * 256 + byte.toNat) 0
      let digit (place : Nat) : Char :=
        if taken.length < place then '=' else sixtyFour.getD (value / Nat.pow 64 (3 - place) % 64) '='
      encodedFrom room (bytes.drop 3) (digit 3 :: digit 2 :: digit 1 :: digit 0 :: found)

def decodedFrom : Nat → Raw → Raw → Raw × Bool
  | 0, _, found => (found, true)
  | _ + 1, [], found => (found, true)
  | room + 1, text, found =>
      let group := text.take 4
      let values := group.map fun char => sixtyFour.findIdx? (· = char)
      let paddingLength := (group.reverse.takeWhile (· = '=')).length
      let known := (values.take (4 - paddingLength)).filterMap id
      if group.length < 4 || 2 < paddingLength || known.length + paddingLength ≠ 4 then
        let whole := known.foldl (fun value digit => value * 64 + digit) 0
        let partly : Raw :=
          if known.length = 2 then [Char.ofNat (whole / 16 % 256)]
          else if known.length = 3 then
            [Char.ofNat (whole / 4 % 256), Char.ofNat (whole / 1024 % 256)]
          else []
        (partly ++ found, false)
      else
        let value := (known ++ List.replicate paddingLength 0).foldl (fun value digit => value * 64 + digit) 0
        let bytes := [Char.ofNat (value % 256), Char.ofNat (value / 256 % 256), Char.ofNat (value / 65536)]
        decodedFrom room (text.drop 4) (bytes.drop paddingLength ++ found)

def wrapped (width : Nat) : Nat → Raw → Raw
  | 0, text => text
  | room + 1, text =>
      if text.isEmpty then []
      else if width = 0 then text
      else text.take width ++ '\n' :: wrapped width room (text.drop width)

def alphabetTool : Program := fun words =>
  withArguments
    { rules := [option 'd' "decode", option 'i' "ignore-garbage", option 'w' "wrap" .always] }
    words fun found => do
  match found.operands with
  | _ :: extra :: _ => extraOperand extra
  | operands => do
      let written := (found.value? "w").getD ['7', '6']
      match count? written with
      | .error _ => fail ("invalid wrap size: " ++ quoted written)
      | .ok width => do
          let name := operands.headD ['-']
          match ← contentOf name with
          | .error error =>
              failOf (if error = .isFolder then "read error" else quotedIfNeeded name) error
          | .ok content =>
              if found.has "d" then
                let bare := content.filter fun char =>
                  char ≠ '\n' && (!found.has "i" || char = '=' || sixtyFour.contains char)
                let (bytes, isValid) := decodedFrom (bare.length + 1) bare []
                let status ← output bytes.reverse
                if isValid then return status
                else
                  fail "invalid input"
              else
                output (wrapped width (content.length * 2 + 4) (encodedFrom (content.length + 1) content []))

end FixtureRunner.Tool
