/-
What stands in the brackets of a bracket expression: stretches of characters and named
classes.
-/

import FixtureRunner.Text.Raw

namespace FixtureRunner.Bracketed

inductive Member where
  | span (first last : Char)
  | named (name : String)

def classNames : List String :=
  ["alpha", "upper", "lower", "digit", "xdigit", "space", "punct", "alnum", "print", "graph", "cntrl",
    "blank"]

def inClass (name : String) (char : Char) : Bool :=
  match name with
  | "alpha" => char.isAlpha
  | "digit" => char.isDigit
  | "alnum" => char.isAlphanum
  | "upper" => char.isUpper
  | "lower" => char.isLower
  | "space" => Raw.isSpace char
  | "blank" => char = ' ' || char = '\t'
  | "punct" => '!' ≤ char && char ≤ '~' && !char.isAlphanum
  | "xdigit" => (Raw.hexDigit? char).isSome
  | "print" => ' ' ≤ char && char ≤ '~'
  | "graph" => '!' ≤ char && char ≤ '~'
  | "cntrl" => char < ' ' || char = '\x7F'
  | _ => false

def Member.admits (char : Char) : Member → Bool
  | .span first last => first ≤ char && char ≤ last
  | .named name => inClass name char

end FixtureRunner.Bracketed
