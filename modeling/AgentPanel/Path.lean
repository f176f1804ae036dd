import AgentPanel.Text.Basic

/-!
# Paths

The path of a settings file: from the root or relative, and the names on it. Empty names and dots
are left out when a path is read, so its text is the shortest one with the same meaning.
-/

namespace AgentPanel

/-- A path. `root` is empty for a relative path. -/
structure Path where
  root : Text
  names : List Text
  deriving DecidableEq, Repr

namespace Path

/-- The beginning of a path that counts from the root: a slash, or exactly two of them. -/
def rootOf (t : Text) : Text :=
  if Text.startsWith t "///" then "/"
  else if Text.startsWith t "//" then "//"
  else if Text.startsWith t "/" then "/"
  else []

/-- The path that a text writes. -/
def ofText (t : Text) : Path where
  root := rootOf t
  names := (Text.splitAll '/' t).filter fun name => name ≠ [] ∧ name ≠ Text.ofString "."

/-- The text of a path; a dot for the relative path without names. -/
def toText (p : Path) : Text :=
  if p.root.isEmpty ∧ p.names.isEmpty then "." else p.root ++ Text.join "/" p.names

/-- The path with one more name. -/
def child (p : Path) (name : Text) : Path := { p with names := p.names ++ [name] }

/-- The names without the double dots, each of which takes back the name before it; `done` stands
last first. -/
def climb : (done : List Text) → List Text → List Text
  | done, [] => done.reverse
  | done, name :: rest => if name = ".." then climb done.tail rest else climb (name :: done) rest

/-- The path from the root, without double dots, that a path means in the given directory. -/
def resolve (directory p : Path) : Path :=
  if p.root.isEmpty then ⟨directory.root, climb [] (directory.names ++ p.names)⟩
  else ⟨"/", climb [] p.names⟩

end Path

end AgentPanel
