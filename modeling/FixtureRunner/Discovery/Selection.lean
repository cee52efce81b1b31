/-
Choosing fixtures by fragments of their names.
-/

import FixtureRunner.Path.Basic

namespace FixtureRunner.Discovery

/-- The name shown for a fixture: its components after those of the root, joined with
slashes, or the whole path if it does not lie under the root. -/
def relativeName (root path : Path) : String :=
  match root.after? path with
  | none => path.text
  | some components => String.intercalate "/" (components.map Component.text)

/-- Drops an extension from a fragment: what follows its last dot, unless the dot comes
first or a separator follows it. -/
def bareFragment (fragment : Text) : Text :=
  match fragment.reverse.span (· ≠ '.') with
  | (_, []) => fragment
  | (_, [_]) => fragment
  | (extension, _ :: stem) =>
      if extension.contains '/' || extension.contains '\\' then fragment else stem.reverse

def claims (root : Path) (fragment : String) (path : Path) : Bool :=
  Text.includes (bareFragment fragment.toList) (relativeName root path).toList

def sorted (paths : List Path) : List Path :=
  paths.mergeSort Path.le

structure Claim where
  fragment : String
  paths : List Path

/-- Each fragment in turn claims what it selects of the paths that are left. -/
def claimEach (root : Path) : List Path → List String → List Claim
  | _, [] => []
  | pool, fragment :: rest =>
      let (claimed, left) := pool.partition (claims root fragment)
      ⟨fragment, claimed⟩ :: claimEach root left rest

/-- The chosen candidates in path order; without fragments all, as they come. -/
def select (root : Path) (candidates : List Path) (fragments : List String) : List Path :=
  if fragments.isEmpty then candidates
  else sorted ((claimEach root candidates fragments).flatMap (·.paths))

end FixtureRunner.Discovery
