/-
Cutting text: into lines that keep their newline, and into fields between
separators.
-/

import FixtureRunner.Text.Bytes

namespace FixtureRunner.Text

/-- The lines of a text, each with the newline that ends it; a last line may
have none.  Their concatenation is the text. -/
def pieces : Text → List Text
  | [] => []
  | char :: rest =>
      if char = '\n' then
        [char] :: pieces rest
      else
        match pieces rest with
        | [] => [[char]]
        | piece :: others => (char :: piece) :: others

def body (piece : Text) : Text :=
  if piece.getLast? = some '\n' then piece.dropLast else piece

def fields (separator : Char) : Text → List Text
  | [] => [[]]
  | char :: rest =>
      if char = separator then
        [] :: fields separator rest
      else
        match fields separator rest with
        | [] => [[char]]
        | field :: others => (char :: field) :: others

def includes (needle : Text) : Text → Bool
  | [] => needle.isEmpty
  | char :: rest => needle.isPrefixOf (char :: rest) || includes needle rest

end FixtureRunner.Text
