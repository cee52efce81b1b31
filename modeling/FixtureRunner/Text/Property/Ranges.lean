/-
Ranges of code points, written as the lengths of the stretches outside and inside a
property in turn.
-/

namespace FixtureRunner.Text.Property

def rangesFrom (start : Nat) : List Nat → List (Nat × Nat)
  | outside :: inside :: rest =>
      (start + outside, start + outside + inside - 1) ::
        rangesFrom (start + outside + inside) rest
  | _ => []

/-- The first and the last code point of every stretch inside. -/
def rangesOf (stretches : List Nat) : List (Nat × Nat) :=
  rangesFrom 0 stretches

end FixtureRunner.Text.Property
