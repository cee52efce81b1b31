/-
Normalizing generated text: volatile lines are dropped, white space at the end is
cut, and the text ends in one newline.
-/

import FixtureRunner.Pattern.Meaning

namespace FixtureRunner

/-- Normalizes with any test for volatile lines; the test sees a line without its newline. -/
def normalizeWith (isVolatile : Text → Bool) (text : Text) : Text :=
  let kept := (Text.pieces text).filter fun piece => !isVolatile (Text.body piece)
  Text.trimEnd kept.flatten ++ ['\n']

structure Normalizer where
  patterns : List Pattern.Expression

structure BadPattern where
  pattern : String
  fault : Pattern.Fault
deriving DecidableEq

def BadPattern.message (bad : BadPattern) : String :=
  bad.fault.message bad.pattern.toList

namespace Normalizer

def isVolatile (normalizer : Normalizer) (line : Text) : Bool :=
  normalizer.patterns.any (·.matchesIn line)

def normalize (normalizer : Normalizer) (text : Text) : Text :=
  normalizeWith normalizer.isVolatile text

/-- Reads patterns in order; the first bad one is reported. -/
def ofPatterns (patterns : List String) (compile : Pattern.Compiler := Pattern.compile) :
    Except BadPattern Normalizer := do
  let expressions ← patterns.mapM fun pattern =>
    (compile pattern).mapError fun fault => { pattern, fault }
  return { patterns := expressions }

/-- The lines a compiler stamps with the identity of a run. -/
def standardPatterns : List String :=
  ["^; ModuleID = .*$", "^source_filename = .*$"]

def standard : Normalizer :=
  { patterns := standardPatterns.filterMap fun pattern => (Pattern.compile pattern).toOption }

end Normalizer
end FixtureRunner
