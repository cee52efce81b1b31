/-
The two sections of a fixture.

A fixture holds a source and an expectation with a delimiter between them.  Text is
cut at every occurrence of the delimiter from left to right, occurrences that
overlap an earlier one not counting.
-/

import FixtureRunner.Text.Bytes

namespace FixtureRunner.Fixture

/-- Cuts at each occurrence of `delimiter`; `skip` elements still belong to the
occurrence found last. -/
def cutFrom {α : Type} [DecidableEq α] (delimiter : List α) : Nat → List α → List (List α)
  | _, [] => [[]]
  | skip + 1, _ :: rest => cutFrom delimiter skip rest
  | 0, first :: rest =>
      if delimiter.isPrefixOf (first :: rest) then
        [] :: cutFrom delimiter (delimiter.length - 1) rest
      else
        match cutFrom delimiter 0 rest with
        | [] => [[first]]
        | piece :: others => (first :: piece) :: others

def cut {α : Type} [DecidableEq α] (delimiter text : List α) : List (List α) :=
  cutFrom delimiter 0 text

def delimiter : Text := "========".toList

def sections (text : Text) : List Text :=
  cut delimiter text

def assemble (source expectation : Text) : Text :=
  source ++ delimiter ++ ['\n', '\n'] ++ expectation

end FixtureRunner.Fixture
