/-
Where a batch writes its lines.  A console can close after a number of lines, and then
refuses every further piece.
-/

import FixtureRunner.Disk.SystemError
import FixtureRunner.Text.Bytes

namespace FixtureRunner

structure Console where
  written : Text := []
  /-- After this many newlines every write is refused. -/
  lineLimit : Option Nat := none
deriving DecidableEq

namespace Console

def isClosed (console : Console) : Bool :=
  match console.lineLimit with
  | none => false
  | some limit => limit ≤ console.written.count '\n'

def append (console : Console) (text : Text) : Console :=
  { console with written := console.written ++ text }

def write (console : Console) (piece : Text) : Except SystemError Console :=
  if console.isClosed then .error .writerClosed
  else .ok (console.append piece)

/-- Writes a line and then its newline; the console as it is left, and whether it refused. -/
def writeLine (console : Console) (line : Text) : Option SystemError × Console :=
  match console.write line with
  | .error error => (some error, console)
  | .ok afterLine =>
      match afterLine.write ['\n'] with
      | .error error => (some error, afterLine)
      | .ok complete => (none, complete)

end Console
end FixtureRunner
