/-
The lines of a batch on the console, aligned to the longest name.
-/

import FixtureRunner.Batch.Outcome
import FixtureRunner.Text.Bytes

namespace FixtureRunner.StatusLine

def width (names : List String) : Nat :=
  names.foldl (fun most name => max most name.toList.length) 0

def padded (width : Nat) (name : Text) : Text :=
  name ++ List.replicate (width - name.length) ' '

def line (width : Nat) (name : String) (outcome : Outcome) : String :=
  String.ofList (padded width name.toList ++ " = ".toList ++ outcome.label.toList)

end FixtureRunner.StatusLine
