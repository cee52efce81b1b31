/-
Whole comparisons of two files as text.
-/

import FixtureRunner.Diff.Columns
import FixtureRunner.Diff.Merged

namespace FixtureRunner.Diff

inductive Style where
  | normal
  | unified (around : Nat)
  | contextual (around : Nat)
  | editor
  | forward
  | counted
  | sideBySide (columns : Columns)
  | merged (formats : Formats)

def Style.context : Style → Nat
  | .unified around => around
  | .contextual around => around
  | _ => 0

/-- Commands for an editor cannot tell that a newline is missing. -/
def Style.completesLines : Style → Bool
  | .editor | .forward => true
  | _ => false

def Style.hidesUnchanged : Style → Bool
  | .sideBySide columns => columns.onlyChanged
  | .merged formats => formats.hidesUnchanged
  | _ => true

structure Side where
  header : Bytes
  lines : Array Line

def judgedChanges (options : Options) (context : Nat) (left right : Array Line) : List Judged :=
  judge options left right (changes options context left.toList right.toList)

def differs (judged : List Judged) : Bool :=
  judged.any (!·.ignored)

def report (layout : Layout) (style : Style) (left right : Side) (judged : List Judged) : Bytes :=
  let counted := (judged.filter (!·.ignored)).map (·.change)
  match style with
  | .normal => counted.flatMap (normalHunk layout left.lines right.lines)
  | .editor => counted.reverse.flatMap (editorHunk layout right.lines)
  | .forward => counted.flatMap (forwardHunk layout right.lines)
  | .counted => counted.flatMap (countedHunk layout right.lines)
  | .sideBySide columns => rowsFrom layout columns left.lines right.lines 0 0 counted
  | .merged formats => groupsFrom layout formats left.lines right.lines 0 0 counted
  | .unified around =>
      spell "--- " ++ left.header ++ spell "\n+++ " ++ right.header ++ newline ++
        contextHunks layout around left.lines right.lines
          (unifiedHunk layout left.lines right.lines) judged
  | .contextual around =>
      spell "*** " ++ left.header ++ spell "\n--- " ++ right.header ++ newline ++
        contextHunks layout around left.lines right.lines
          (contextHunk layout left.lines right.lines) judged

end FixtureRunner.Diff
