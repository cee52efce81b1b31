/-
Paths as text.

A path keeps the text it was given.  Its meaning is its list of components: an
optional root, an optional leading `.`, `..` steps and names; repeated
separators and inner or final `.` segments name nothing.  Every operation below
works on the segments between separators, and keeps the text to the left of the
component that it changes.
-/

import FixtureRunner.Text.Lines

namespace FixtureRunner

structure Path where
  text : String
deriving DecidableEq, Inhabited

/-- Ordered as the constructors are listed, names by their characters. -/
inductive Component where
  | root
  | here
  | up
  | name (text : String)
deriving DecidableEq, Ord

def Component.text : Component → String
  | .root => "/"
  | .here => "."
  | .up => ".."
  | .name text => text

namespace Path

def segments (path : Path) : List Text :=
  Text.fields '/' path.text.toList

def ofSegments (segments : List Text) : Path :=
  ⟨String.ofList (List.intercalate ['/'] segments)⟩

def component? (segment : Text) : Option Component :=
  if segment = [] ∨ segment = ['.'] then none
  else if segment = ['.', '.'] then some .up
  else some (.name (String.ofList segment))

def components (path : Path) : List Component :=
  match path.segments with
  | [] :: next :: rest => .root :: (next :: rest).filterMap component?
  | ['.'] :: rest => .here :: rest.filterMap component?
  | segments => segments.filterMap component?

def isAbsolute (path : Path) : Bool :=
  path.text.toList.head? = some '/'

/-- Equality of paths is equality of components. -/
def same (left right : Path) : Bool :=
  left.components = right.components

/-- Component-wise order. -/
def le (left right : Path) : Bool :=
  (compare left.components right.components).isLE

/-! ### The last component -/

/-- Drops the segments at the end that name nothing. -/
def namedRest : List Text → List Text
  | [] => []
  | segment :: rest =>
      match namedRest rest with
      | [] => if (component? segment).isSome then [segment] else []
      | kept => segment :: kept

/-- The segments up to the last one that names something; a first `.` does. -/
def named : List Text → List Text
  | [] => []
  | first :: rest =>
      match namedRest rest with
      | [] => if first = [] then [] else [first]
      | kept => first :: kept

/-- The path without its last component, which a bare root and the empty path lack. -/
def parent? (path : Path) : Option Path :=
  match named path.segments with
  | [] => none
  | kept =>
      match named kept.dropLast with
      | [] => some ⟨if path.isAbsolute then "/" else ""⟩
      | above => some (ofSegments above)

/-- The last component if it is a name. -/
def fileName? (path : Path) : Option Text :=
  match (named path.segments).getLast? with
  | none => none
  | some segment =>
      if segment = ['.'] ∨ segment = ['.', '.'] then none else some segment

/-- Cuts a name at its last dot; a dot at the start cuts nothing. -/
def cutName (name : Text) : Text × Option Text :=
  match name.reverse.span (· ≠ '.') with
  | (_, []) => (name, none)
  | (_, [_]) => (name, none)
  | (extension, _ :: stem) => (stem.reverse, some extension.reverse)

def stem? (path : Path) : Option Text :=
  path.fileName?.map fun name => (cutName name).1

def extension? (path : Path) : Option Text :=
  path.fileName?.bind fun name => (cutName name).2

/-- Replaces what follows the stem by a dot and `extension`; a path that ends in
no name stays as it is. -/
def setExtension (path : Path) (extension : String) : Path :=
  match path.stem? with
  | none => path
  | some stem =>
      ofSegments ((named path.segments).dropLast ++ [stem ++ '.' :: extension.toList])

/-- The text without as many characters at its end as the extension has. -/
def dropExtension (path : Path) : Path :=
  match path.extension? with
  | none => path
  | some old => ⟨String.ofList (path.text.toList.take (path.text.toList.length - old.length))⟩

/-- The path with another extension.  The old one is cut off first, so `..x`, whose stem
is a dot, becomes `..` and takes no extension. -/
def withExtension (path : Path) (extension : String) : Path :=
  path.dropExtension.setExtension extension

/-! ### Joining and relating -/

/-- `child` seen from `path`; an absolute child stands for itself. -/
def join (path child : Path) : Path :=
  if child.isAbsolute ∨ path.text = "" then child
  else if path.text.toList.getLast? = some '/' then ⟨path.text ++ child.text⟩
  else ⟨path.text ++ "/" ++ child.text⟩

def after? (root path : Path) : Option (List Component) :=
  root.components.isPrefixOf? path.components

end Path
end FixtureRunner
