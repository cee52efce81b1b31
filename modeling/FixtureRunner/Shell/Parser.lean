/-
Reading commands.
-/

import FixtureRunner.Shell.WordParser

namespace FixtureRunner.Shell

structure Expectation where
  newlines : Bool := false
  keywords : Bool := false
  aliases : Bool := false

def Expectation.command : Expectation :=
  { keywords := true, aliases := true }

def Expectation.commandBelow : Expectation :=
  { newlines := true, keywords := true, aliases := true }

def joinsNext (line : Raw) : Bool :=
  (line.reverse.takeWhile (· = '\\')).length % 2 = 1

/-- The lines of a document up to its delimiter, the last one first, and what follows;
`isJoined` behind a line that goes on. -/
def documentLines (document : Announced) : Nat → Bool → Raw → List Raw → List Raw × Raw
  | 0, _, rest, found => (found, rest)
  | room + 1, isJoined, rest, found =>
      if rest.isEmpty then
        (found, [])
      else
        let line := rest.takeWhile (· ≠ '\n')
        let after := rest.drop line.length
        let kept := if document.stripTabs && !isJoined then line.dropWhile (· = '\t') else line
        if kept = document.delimiter && !isJoined then
          (found, after.drop 1)
        else
          let ended := if after.isEmpty then kept else kept ++ ['\n']
          documentLines document room (!document.isLiteral && joinsNext line) (after.drop 1)
            (ended :: found)

def specialBuiltins : List String :=
  [":", ".", "break", "continue", "eval", "exec", "exit", "export", "local", "readonly", "return",
    "set", "shift", "times", "trap", "unset"]

namespace Parser

variable (rules : Rules)

/-! ### Tokens -/

def skipBlanksFrom : Nat → Parser Unit
  | 0 => return ()
  | room + 1 => do
      match ← peek with
      | some ' ' | some '\t' => do
          skip 1
          skipBlanksFrom room
      | some '#' =>
          let comment := (← get).rest.takeWhile (· ≠ '\n')
          skip comment.length
      | _ => return ()

def arrow : Parser Arrow := do
  if ← accept '>' then
    if ← accept '>' then return .file .append
    else if ← accept '|' then return .file .overwrite
    else if ← accept '&' then return .duplicate
    else return .file .write
  else do
    skip 1
    if ← accept '<' then return .document (← accept '-')
    else if ← accept '&' then return .duplicate
    else if ← accept '>' then return .file .readWrite
    else return .file .read

def redirection (number : Option Nat) : Parser Token := do
  let standard := if (← peek) = some '<' then 0 else 1
  return .redirection (number.getD standard) (← arrow)

/-- A word, or a redirection if an arrow follows nothing or a single digit. -/
def wordToken (context : Context) : Parser Token := do
  let parts ← rules.parts context
  let plain := plainText? parts
  let isArrow := (← peek) = some '<' || (← peek) = some '>'
  match isArrow, parts, plain with
  | true, [], _ => redirection none
  | true, _, some [digit] =>
      if digit.isDigit then redirection (some (digit.toNat - '0'.toNat))
      else return .word parts plain false
  | _, _, _ => return .word parts plain (parts.any Part.isQuoted)

def rawToken (context : Context) : Parser Token := do
  let source ← get
  match source.pushed with
  | some token => do
      set { source with pushed := none }
      return token
  | none => do
      skipBlanksFrom textBound
      match ← peek with
      | none => return .endOfText
      | some '\n' => do
          skip 1
          return .newline
      | some '&' => do
          skip 1
          return .sign (if ← accept '&' then "&&" else "&")
      | some '|' => do
          skip 1
          return .sign (if ← accept '|' then "||" else "|")
      | some ';' => do
          skip 1
          return .sign (if ← accept ';' then ";;" else ";")
      | some '(' => do
          skip 1
          return .sign "("
      | some ')' => do
          skip 1
          return .sign ")"
      | some _ => wordToken rules context

def readDocuments : Parser Unit := do
  let announced := (← get).announced
  modify fun source => { source with announced := [] }
  announced.forM fun document => do
    let source ← get
    let (found, after) := documentLines document textBound false source.rest []
    let body := found.reverse.flatten
    let lines := (source.rest.take (source.rest.length - after.length)).count '\n'
    set { source with rest := after, line := source.line + lines }
    let parts ←
      if document.isLiteral then pure [.literal body true]
      else within body source.line (rules.parts .document)
    modify fun held => { held with documents := held.documents.setIfInBounds document.number parts }

def Source.current (source : Source) : List (Raw × Nat) :=
  source.expanding.filter fun held => held.2 < source.rest.length

/-- The next token; reserved words and aliases count where they are expected, and newlines
do not. -/
def tokenFrom (expects : Expectation) : Nat → Parser Token
  | 0 => return .endOfText
  | room + 1 => do
      let before ← get
      let token ← rawToken rules .bare
      match token with
      | .newline =>
          if expects.newlines then do
            readDocuments rules
            tokenFrom expects room
          else
            return token
      | .word _ (some text) false =>
          if expects.keywords && reservedWords.any (·.toList = text) then
            return .keyword (String.ofList text)
          else do
            let source ← get
            let current := Source.current source
            let behindAlias := (Source.current before).length > current.length &&
              before.expanding.any fun held =>
                (source.aliases.lookup held.1).any fun value =>
                  value.getLast? = some ' ' || value.getLast? = some '\t'
            match source.aliases.lookup text with
            | none => return token
            | some value =>
                if (expects.aliases || behindAlias) && !current.any (·.1 = text) then do
                  set { source with
                    rest := value ++ source.rest
                    expanding := (text, source.rest.length) :: current }
                  tokenFrom expects room
                else
                  return token
      | _ => return token

def token (expects : Expectation) : Parser Token :=
  tokenFrom rules expects textBound

def push (token : Token) : Parser Unit :=
  modify fun source => { source with pushed := some token }

def expectKeyword (text : String) : Parser Unit := do
  let found ← token rules {}
  unless found.isKeyword text do unexpected found (some text)

/-! ### Simple commands -/

def redirectionTo (descriptor : Nat) (arrow : Arrow) : Parser Redirection := do
  let context : Context :=
    match arrow with
    | .document _ => .delimiter
    | _ => .bare
  match ← rawToken rules context with
  | .word parts _ quoted =>
      match arrow with
      | .file opening => return .file descriptor opening parts
      | .duplicate => return .duplicate descriptor parts
      | .document stripTabs => do
          let source ← get
          let number := source.documents.size
          let announced : Announced :=
            { number, delimiter := literalText parts, stripTabs, isLiteral := quoted }
          set { source with
            announced := source.announced ++ [announced]
            documents := source.documents.push [] }
          return .document descriptor number
  | other => unexpected other none

def assignment? : Word → Option (Raw × Word)
  | .literal text false :: rest =>
      let name := text.takeWhile (· ≠ '=')
      if isName name && name.length < text.length then
        let value := text.drop (name.length + 1)
        some (name, if value.isEmpty then rest else .literal value false :: rest)
      else
        none
  | _ => none

structure SimpleParts where
  assignments : List (Raw × Word) := []
  words : List Word := []
  redirections : List Redirection := []

def simpleFrom (line : Nat) : Nat → SimpleParts → Parser Script
  | 0, _ => return .nothing
  | room + 1, soFar => do
      match ← token rules { aliases := soFar.words.isEmpty } with
      | .word parts _ _ =>
          match if soFar.words.isEmpty then assignment? parts else none with
          | some assignment =>
              simpleFrom line room
                { soFar with assignments := assignment :: soFar.assignments }
          | none => simpleFrom line room { soFar with words := parts :: soFar.words }
      | .redirection descriptor arrow => do
          let found ← redirectionTo rules descriptor arrow
          simpleFrom line room { soFar with redirections := found :: soFar.redirections }
      | found =>
          match soFar with
          | { assignments := [], words := [name], redirections := [] } =>
              if found.isSign "(" then definition name
              else finish soFar found
          | _ => finish soFar found
where
  finish (soFar : SimpleParts) (found : Token) : Parser Script := do
    push found
    return .simple line soFar.assignments.reverse soFar.words.reverse soFar.redirections.reverse
  definition (name : Word) : Parser Script := do
    let closing ← token rules {}
    unless closing.isSign ")" do unexpected closing (some ")")
    match plainText? name with
    | none => fail .badFunctionName
    | some text =>
        if !isName text || specialBuiltins.any (·.toList = text) then
          fail .badFunctionName
        else do
          let line := (← get).line
          push (← token rules .commandBelow)
          return .function line text (← rules.command)

/-! ### Compound commands -/

def block : Parser Script :=
  rules.list false

def branches : Nat → Parser Script
  | 0 => return .nothing
  | room + 1 => do
      let condition ← block rules
      expectKeyword rules "then"
      let consequence ← block rules
      let found ← token rules {}
      if found.isKeyword "elif" then
        return .branch condition consequence (some (← branches room))
      else if found.isKeyword "else" then do
        let alternative ← block rules
        expectKeyword rules "fi"
        return .branch condition consequence (some alternative)
      else if found.isKeyword "fi" then
        return .branch condition consequence none
      else
        unexpected found (some "fi")

def loop (wanted : Bool) : Parser Script := do
  let condition ← block rules
  expectKeyword rules "do"
  let body ← block rules
  expectKeyword rules "done"
  return .loop wanted condition body

def loopWords : Nat → List Word → Parser (List Word)
  | 0, found => return found.reverse
  | room + 1, found => do
      match ← token rules {} with
      | .word parts _ _ => loopWords room (parts :: found)
      | .newline => do
          push .newline
          return found.reverse
      | other =>
          if other.isSign ";" then return found.reverse else unexpected other none

/-- A loop through words, which are the arguments of the script if none are given. -/
def each (line : Nat) : Parser Script := do
  match ← token rules {} with
  | .word _ (some name) false => do
      if !isName name then fail .badLoopVariable
      let found ← token rules .commandBelow
      let words ←
        if found.isKeyword "in" then
          loopWords rules textBound []
        else do
          unless found.isSign ";" do push found
          pure [[.parameter ['@'] .value [] true]]
      let start ← token rules .commandBelow
      unless start.isKeyword "do" do unexpected start (some "do")
      let body ← block rules
      expectKeyword rules "done"
      return .each line name words body
  | _ => fail .badLoopVariable

def patternOf : Token → Word
  | .word parts _ _ => parts
  | .keyword text => [.literal text.toList false]
  | _ => []

def patterns : Nat → List Word → Parser (List Word)
  | 0, found => return found.reverse
  | room + 1, found => do
      let after ← token rules {}
      if after.isSign "|" then
        patterns room (patternOf (← token rules {}) :: found)
      else if after.isSign ")" then
        return found.reverse
      else
        unexpected after (some ")")

def selection : Nat → List (List Word × Script) → Parser (List (List Word × Script))
  | 0, found => return found.reverse
  | room + 1, found => do
      let first ← token rules { newlines := true, keywords := true }
      if first.isKeyword "esac" then
        return found.reverse
      else do
        let first ← if first.isSign "(" then token rules {} else pure first
        let choices ← patterns rules textBound [patternOf first]
        let body ← rules.list true
        let ending ← token rules { newlines := true, keywords := true }
        if ending.isKeyword "esac" then
          return ((choices, body) :: found).reverse
        else if ending.isSign ";;" then
          selection room ((choices, body) :: found)
        else
          unexpected ending (some ";;")

def select (line : Nat) : Parser Script := do
  match ← token rules {} with
  | .word parts _ _ => do
      let found ← token rules .commandBelow
      unless found.isKeyword "in" do unexpected found (some "in")
      return .select line parts (← selection rules textBound [])
  | other => unexpected other (some "word")

def trailing : Nat → List Redirection → Parser (List Redirection)
  | 0, found => return found.reverse
  | room + 1, found => do
      match ← token rules .command with
      | .redirection descriptor arrow => do
          let redirection ← redirectionTo rules descriptor arrow
          trailing room (redirection :: found)
      | other => do
          push other
          return found.reverse

def command (expects : Expectation) : Parser Script := do
  let first ← token rules expects
  let line := (← get).line
  let compound (body : Script) : Parser Script := do
    let redirections ← trailing rules textBound []
    return if redirections.isEmpty then body else .redirected line body redirections
  match first with
  | .word _ _ _ | .redirection _ _ => do
      push first
      simpleFrom rules line textBound {}
  | .keyword "if" => do compound (← branches rules textBound)
  | .keyword "while" => do compound (← loop rules true)
  | .keyword "until" => do compound (← loop rules false)
  | .keyword "for" => do compound (← each rules line)
  | .keyword "case" => do compound (← select rules line)
  | .keyword "\x7b" => do
      let body ← block rules
      expectKeyword rules "\x7d"
      compound body
  | .sign "(" => do
      let body ← block rules
      let closing ← token rules {}
      unless closing.isSign ")" do unexpected closing (some ")")
      return .subshell line body (← trailing rules textBound [])
  | other => unexpected other none

/-! ### Lists -/

def pipedFrom : Nat → List Script → Parser (List Script)
  | 0, found => return found.reverse
  | room + 1, found => do
      let sign ← token rules {}
      if sign.isSign "|" then
        pipedFrom room ((← command rules .commandBelow) :: found)
      else do
        push sign
        return found.reverse

def pipeline (expects : Expectation) : Parser Script := do
  let first ← token rules expects
  let isNegated := first.isKeyword "!"
  unless isNegated do push first
  let head ← command rules (if isNegated then .command else {})
  let commands ← pipedFrom rules textBound [head]
  let whole : Script :=
    match commands with
    | [only] => only
    | _ => .pipeline commands
  return if isNegated then .negation whole else whole

def chainFrom : Nat → Script → Parser Script
  | 0, left => return left
  | room + 1, left => do
      let sign ← token rules {}
      if sign.isSign "&&" then
        chainFrom room (.conjunction left (← pipeline rules .commandBelow))
      else if sign.isSign "||" then
        chainFrom room (.disjunction left (← pipeline rules .commandBelow))
      else do
        push sign
        return left

def chain : Parser Script := do
  chainFrom rules textBound (← pipeline rules {})

def sequenceOf (commands : List Script) : Script :=
  match commands with
  | [] => .nothing
  | [only] => only
  | _ => .sequence commands

def ended (line : Nat) : Parser (Script × Token) := do
  let found ← chain rules
  let sign ← token rules {}
  return (if sign.isSign "&" then .background line found else found, sign)

def closes : Token → Bool
  | .endOfText => true
  | .sign text => text = ")" || text = ";;"
  | .keyword text => closingWords.contains text
  | _ => false

/-- Commands inside another one; `mayClose` once there may be no more. -/
def listFrom : Nat → Bool → List Script → Parser Script
  | 0, _, found => return sequenceOf found.reverse
  | room + 1, mayClose, found => do
      let first ← token rules .commandBelow
      match first with
      | .endOfText => do
          readDocuments rules
          push first
          return sequenceOf found.reverse
      | _ => do
          push first
          if mayClose && closes first then
            return sequenceOf found.reverse
          else do
            let (command, sign) ← ended rules (← get).line
            let others := command :: found
            match sign with
            | .newline => do
                push sign
                listFrom room true others
            | .endOfText => do
                readDocuments rules
                push sign
                return sequenceOf others.reverse
            | _ =>
                if sign.isSign "&" || sign.isSign ";" then
                  listFrom room true others
                else do
                  push sign
                  return sequenceOf others.reverse

def lineFrom : Nat → List Script → Parser (Option Script)
  | 0, found => return some (sequenceOf found.reverse)
  | room + 1, found => do
      let first ← token rules .command
      match first with
      | .newline => do
          readDocuments rules
          return some (sequenceOf found.reverse)
      | .endOfText => do
          readDocuments rules
          return if found.isEmpty then none else some (sequenceOf found.reverse)
      | _ => do
          push first
          let (command, sign) ← ended rules (← get).line
          let others := command :: found
          match sign with
          | .newline => do
              readDocuments rules
              return some (sequenceOf others.reverse)
          | .endOfText => do
              readDocuments rules
              return some (sequenceOf others.reverse)
          | _ =>
              if sign.isSign "&" || sign.isSign ";" then lineFrom room others
              else unexpected sign none

end Parser

def rulesOfDepth : Nat → Rules
  | 0 =>
      { list := fun _ => Parser.fail .missingBrace
        command := Parser.fail .missingBrace
        token := return .endOfText
        parts := fun _ => return [] }
  | depth + 1 =>
      { list := fun mayBeEmpty =>
          Parser.listFrom (rulesOfDepth depth) textBound mayBeEmpty []
        command := fun source => Parser.command (rulesOfDepth depth) {} source
        token := fun source => Parser.token (rulesOfDepth depth) {} source
        parts := fun context source => Parser.parts (rulesOfDepth depth) context source }

/-- The next line of a script with the commands on it, and the text behind it; nothing at
the end of the text. -/
def Source.next? (source : Source) : Except SyntaxFault (Option (Script × Source)) := do
  let start := { source with pushed := none, announced := [], documents := #[] }
  let (script?, after) ← (Parser.lineFrom (rulesOfDepth textBound) textBound []).run start
  return script?.map fun script =>
    (if after.documents.isEmpty then script else .documented after.documents script,
      { after with pushed := none, announced := [], documents := #[] })

end FixtureRunner.Shell
