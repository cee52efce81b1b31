/-
Patterns of the shell: `*`, `?` and bracket expressions; quoted characters stand for
themselves.
-/

import FixtureRunner.Disk.Access
import FixtureRunner.Text.Bracketed

namespace FixtureRunner.Shell

open Bracketed (Member)

structure Glyph where
  char : Char
  quoted : Bool
deriving DecidableEq

inductive Glob where
  | char (char : Char)
  | any
  | star
  | set (negated : Bool) (members : List Member)

def classAt? (glyphs : List Glyph) : Option (String × List Glyph) :=
  let chars := glyphs.map (·.char)
  (Bracketed.classNames.find? fun name => (":" ++ name ++ ":]").toList.isPrefixOf chars).map fun name =>
    (name, glyphs.drop (name.length + 3))

def protected? : List Glyph → Option (Char × List Glyph)
  | [] => none
  | glyph :: rest =>
      match rest with
      | next :: others =>
          if glyph.char = '\\' && !glyph.quoted then some (next.char, others)
          else some (glyph.char, rest)
      | [] => some (glyph.char, rest)

def membersFrom : Nat → Bool → List Glyph → Option (List Member × List Glyph)
  | 0, _, _ => none
  | _ + 1, _, [] => none
  | room + 1, isFirst, glyph :: rest =>
      if glyph.char = ']' && !glyph.quoted && !isFirst then
        some ([], rest)
      else
        match if glyph.char = '[' && !glyph.quoted then classAt? rest else none with
        | some (name, after) =>
            (membersFrom room false after).map fun (others, left) => (.named name :: others, left)
        | none =>
            match protected? (glyph :: rest) with
            | none => none
            | some (first, after) =>
                match after with
                | dash :: last :: others =>
                    if dash.char = '-' && !dash.quoted && (last.char ≠ ']' || last.quoted) then
                      let (final, beyond) := (protected? (last :: others)).getD (last.char, others)
                      (membersFrom room false beyond).map fun (more, left) =>
                        (.span first final :: more, left)
                    else
                      (membersFrom room false after).map fun (more, left) =>
                        (.span first first :: more, left)
                | _ =>
                    (membersFrom room false after).map fun (more, left) =>
                      (.span first first :: more, left)

def globFrom : Nat → List Glyph → List Glob
  | 0, _ => []
  | _ + 1, [] => []
  | room + 1, glyph :: rest =>
      if glyph.quoted then .char glyph.char :: globFrom room rest
      else if glyph.char = '*' then .star :: globFrom room rest
      else if glyph.char = '?' then .any :: globFrom room rest
      else if glyph.char = '\\' then
        match rest with
        | next :: others => .char next.char :: globFrom room others
        | [] => [.char '\\']
      else if glyph.char = '[' then
        let (negated, body) :=
          match rest with
          | mark :: others =>
              if mark.char = '!' && !mark.quoted then (true, others) else (false, rest)
          | [] => (false, rest)
        match membersFrom (rest.length + 1) true body with
        | some (members, after) => .set negated members :: globFrom room after
        | none => .char '[' :: globFrom room rest
      else .char glyph.char :: globFrom room rest

def globOf (glyphs : List Glyph) : List Glob :=
  globFrom (glyphs.length + 1) glyphs

def tails : Raw → List Raw
  | [] => [[]]
  | char :: rest => (char :: rest) :: tails rest

def globMatches : List Glob → Raw → Bool
  | [], text => text.isEmpty
  | .star :: rest, text => (tails text).any (globMatches rest)
  | .any :: rest, text =>
      match text with
      | [] => false
      | _ :: others => globMatches rest others
  | .char wanted :: rest, text =>
      match text with
      | [] => false
      | char :: others => char = wanted && globMatches rest others
  | .set negated members :: rest, text =>
      match text with
      | [] => false
      | char :: others => (members.any (·.admits char) != negated) && globMatches rest others

def textMatches (pattern text : Raw) : Bool :=
  globMatches (globOf (pattern.map fun char => { char, quoted := false })) text

def isMagic (glyphs : List Glyph) : Bool :=
  (globOf glyphs).any fun element =>
    match element with
    | .char _ => false
    | _ => true

def literalChars (pattern : List Glob) : Raw :=
  pattern.filterMap fun element =>
    match element with
    | .char char => some char
    | _ => none

/-- The names in a folder that match, in order; names that start with a dot have to be
asked for. -/
def matchingNames (disk : Disk) (folder : Raw) (glyphs : List Glyph) : List Raw :=
  let path : Raw := if folder.isEmpty then ['.'] else folder
  match disk.find ⟨Raw.toString path⟩ with
  | .ok (location, .folder) =>
      let pattern := globOf glyphs
      let asksForDot := (glyphs.head?.map (·.char)) = some '.'
      let names := (disk.names location).map Raw.ofString ++ (if asksForDot then [['.'], ['.', '.']] else [])
      (names.filter fun name =>
        globMatches pattern name && (asksForDot || name.head? ≠ some '.')).mergeSort
          fun left right => !(right < left)
  | _ => []

def pathComponents : List Glyph → List (List Glyph)
  | [] => [[]]
  | glyph :: rest =>
      match pathComponents rest with
      | [] => [[glyph]]
      | component :: others =>
          if glyph.char = '/' then [] :: component :: others
          else (glyph :: component) :: others

def pathsFrom (disk : Disk) : List (List Glyph) → List Raw → List Raw
  | [], found => found
  | [last], found => found.flatMap fun folder => step disk last folder
  | component :: rest, found =>
      pathsFrom disk rest
        ((found.flatMap fun folder => step disk component folder).map (· ++ ['/']))
where
  step (disk : Disk) (component : List Glyph) (folder : Raw) : List Raw :=
    if isMagic component then
      (matchingNames disk folder component).map (folder ++ ·)
    else
      [folder ++ literalChars (globOf component)]

/-- Whether a path names an entry, which may be a link to nothing; only a folder can be
followed by a separator. -/
def isPresent (disk : Disk) (path : Raw) : Bool :=
  match disk.route .edit ⟨Raw.toString path⟩ with
  | .ok (.folder _) => true
  | .ok (.name folder name closed) =>
      if closed then disk.isFolder ⟨Raw.toString path⟩
      else (disk.entryAt? (folder ++ [name])).isSome
  | .error _ => false

/-- The paths that a word stands for: itself, unless it is a pattern with matches. -/
def expandPathnames (disk : Disk) (glyphs : List Glyph) : List Raw :=
  let plain := glyphs.map (·.char)
  if isMagic glyphs then
    let found := (pathsFrom disk (pathComponents glyphs) [[]]).filter (isPresent disk)
    if found.isEmpty then [plain] else found
  else
    [plain]

/-! ### Cutting off matches -/

def heads (text : Raw) : List Raw :=
  (List.range (text.length + 1)).map text.take

def cutStart (longest : Bool) (pattern : List Glob) (text : Raw) : Raw :=
  let candidates := if longest then (heads text).reverse else heads text
  match candidates.find? (globMatches pattern) with
  | some found => text.drop found.length
  | none => text

def cutEnd (longest : Bool) (pattern : List Glob) (text : Raw) : Raw :=
  let candidates := if longest then tails text else (tails text).reverse
  match candidates.find? (globMatches pattern) with
  | some found => text.take (text.length - found.length)
  | none => text

end FixtureRunner.Shell
