/-
Shell scripts as data.
-/

import FixtureRunner.Text.Raw

namespace FixtureRunner.Shell

inductive Trim where
  | shortestStart
  | longestStart
  | shortestEnd
  | longestEnd
deriving DecidableEq

/-- What a parameter expansion does with the value; `orEmpty` counts an empty value as
unset. -/
inductive Form where
  | value
  | length
  | otherwise (orEmpty : Bool)
  | assign (orEmpty : Bool)
  | insist (orEmpty : Bool)
  | instead (orEmpty : Bool)
  | trim (kind : Trim)
  | unknown
deriving DecidableEq

inductive Opening where
  | read
  | write
  /-- Writes over a file even if that has been forbidden. -/
  | overwrite
  | append
  | readWrite
deriving DecidableEq

mutual
inductive Part where
  | literal (text : Raw) (quoted : Bool)
  | parameter (name : Raw) (form : Form) (argument : List Part) (quoted : Bool)
  | substitution (body : Script) (quoted : Bool)
  | arithmetic (expression : List Part) (quoted : Bool)

inductive Redirection where
  | file (descriptor : Nat) (opening : Opening) (target : List Part)
  | duplicate (descriptor : Nat) (target : List Part)
  | document (descriptor : Nat) (number : Nat)

inductive Script where
  | nothing
  | simple (line : Nat) (assignments : List (Raw × List Part)) (words : List (List Part))
      (redirections : List Redirection)
  | pipeline (commands : List Script)
  | negation (command : Script)
  | conjunction (first second : Script)
  | disjunction (first second : Script)
  | sequence (commands : List Script)
  | background (line : Nat) (command : Script)
  | subshell (line : Nat) (body : Script) (redirections : List Redirection)
  | branch (condition consequence : Script) (alternative : Option Script)
  | loop (wanted : Bool) (condition body : Script)
  | each (line : Nat) (name : Raw) (words : List (List Part)) (body : Script)
  | select (line : Nat) (word : List Part) (branches : List (List (List Part) × Script))
  | function (line : Nat) (name : Raw) (body : Script)
  | redirected (line : Nat) (body : Script) (redirections : List Redirection)
  | documented (documents : Array (List Part)) (body : Script)
end

abbrev Word := List Part

def Part.isQuoted : Part → Bool
  | .literal _ quoted => quoted
  | .parameter _ _ _ quoted => quoted
  | .substitution _ quoted => quoted
  | .arithmetic _ quoted => quoted

end FixtureRunner.Shell
