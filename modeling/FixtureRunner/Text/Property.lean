/-
Membership of a character in a property given by ranges of code points.
-/

import FixtureRunner.Text.Blank
import FixtureRunner.Text.Property.Case
import FixtureRunner.Text.Property.Hidden
import FixtureRunner.Text.Property.Letter
import FixtureRunner.Text.Property.Recent
import FixtureRunner.Text.Property.Word

namespace FixtureRunner.Text.Property

def within (ranges : List (Nat × Nat)) (char : Char) : Bool :=
  ranges.any fun range => range.1 ≤ char.toNat && char.toNat ≤ range.2

def isLetter (char : Char) : Bool :=
  within letterRanges char

def isAlphabetic (char : Char) : Bool :=
  isLetter char || within alphabeticRanges char

def isDigit (char : Char) : Bool :=
  within digitRanges char

def isNumeric (char : Char) : Bool :=
  isDigit char || within numericRanges char

def isGreek (extended : Bool) (char : Char) : Bool :=
  within greekRanges char || (extended && within greekExtensionRanges char)

/-- Tags join the character before them, but are no marks. -/
def isTag (char : Char) : Bool :=
  0xE0020 ≤ char.toNat && char.toNat ≤ 0xE007F

/-- Letters, marks, digits, connecting punctuation and join controls. -/
def isWord (char : Char) : Bool :=
  isAlphabetic char || isDigit char || within connectingRanges char ||
    (within graphemeExtendRanges char && !isTag char)

/-- Whether a character is so new that patterns do not know its properties. -/
def isRecent (char : Char) : Bool :=
  within recentRanges char

/-- The characters that a case-insensitive comparison does not tell apart from `char`. -/
def variants (char : Char) : List Char :=
  (caseVariants char.toNat).map Char.ofNat

end FixtureRunner.Text.Property
