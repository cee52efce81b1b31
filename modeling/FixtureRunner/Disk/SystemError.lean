/-
The ways in which the system refuses a request.
-/

namespace FixtureRunner

inductive SystemError where
  | missing
  | badFormat
  | denied
  | alreadyExists
  | notFolder
  | isFolder
  | nameTooLong
  | notEmpty
  | tooManyLinks
  | badDescriptor
  | noDevice
  | invalid
  | busy
  | noSpace
  /-- A path with a NUL character cannot be passed to the system. -/
  | nulInPath
  /-- Nor can a command line. -/
  | nulInCommand
  | writerClosed
deriving DecidableEq

namespace SystemError

def reason : SystemError → String
  | .missing => "No such file or directory"
  | .badFormat => "Exec format error"
  | .denied => "Permission denied"
  | .alreadyExists => "File exists"
  | .notFolder => "Not a directory"
  | .isFolder => "Is a directory"
  | .nameTooLong => "File name too long"
  | .notEmpty => "Directory not empty"
  | .tooManyLinks => "Too many levels of symbolic links"
  | .badDescriptor => "Bad file descriptor"
  | .noDevice => "No such device or address"
  | .invalid => "Invalid argument"
  | .busy => "Device or resource busy"
  | .noSpace => "No space left on device"
  | .nulInPath => "file name contained an unexpected NUL byte"
  | .nulInCommand => "nul byte found in provided data"
  | .writerClosed => "writer closed"

def number? : SystemError → Option Nat
  | .missing => some 2
  | .badFormat => some 8
  | .denied => some 13
  | .alreadyExists => some 17
  | .notFolder => some 20
  | .isFolder => some 21
  | .nameTooLong => some 36
  | .notEmpty => some 39
  | .tooManyLinks => some 40
  | .badDescriptor => some 9
  | .noDevice => some 6
  | .invalid => some 22
  | .busy => some 16
  | .noSpace => some 28
  | .nulInPath => none
  | .nulInCommand => none
  | .writerClosed => none

def message (error : SystemError) : String :=
  match error.number? with
  | some number => error.reason ++ " (os error " ++ toString number ++ ")"
  | none => error.reason

end SystemError
end FixtureRunner
