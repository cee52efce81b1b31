/-
Quoted text for messages: between double quotes, with backslash escapes for quotes,
backslashes and the common controls, and by number for what would not show.
-/

import FixtureRunner.Text.Property

namespace FixtureRunner.Text

/-- Letters that show nothing: they fill the place of a missing part of a syllable. -/
def fillers : Text := ['\u115F', '\u1160', '\u3164', '\uFFA0']

def isHidden (char : Char) : Bool :=
  Property.within Property.graphemeExtendRanges char ||
    Property.within Property.unprintableRanges char || fillers.contains char

def quoteChar (char : Char) : Text :=
  if char = '\x00' then ['\\', '0']
  else if char = '\t' then ['\\', 't']
  else if char = '\n' then ['\\', 'n']
  else if char = '\r' then ['\\', 'r']
  else if char = '"' ∨ char = '\\' then ['\\', char]
  else if isHidden char then ['\\', 'u', '\x7b'] ++ Nat.toDigits 16 char.toNat ++ ['\x7d']
  else [char]

def quoted (text : Text) : Text :=
  '"' :: text.flatMap quoteChar ++ ['"']

end FixtureRunner.Text
