import ModalLexer.Text.Basic

/-! # Paths

A path is a text cut at its slashes. Its components are normalised: a slash at the front stands for
the root, and empty parts and single dots count only at the front of a relative path.
-/

namespace ModalLexer.Path

def root : Text := ['/']

/-- Whether a part behind the first one is a component. -/
def isComponent (part : Text) : Bool := part ≠ [] && part ≠ ['.']

def components (path : Text) : List Text :=
  match path.fields '/' with
  | [] | [[]] => []
  | [] :: others => root :: others.filter isComponent
  | first :: others => first :: others.filter isComponent

/-- The last component, if it is a name. -/
def baseName? (path : Text) : Option Text :=
  match (components path).getLast? with
  | some last => if last = root ∨ last = ['.'] ∨ last = ['.', '.'] then none else some last
  | none => none

/-- Whether the path can only be that of a directory. -/
def endsInSlash (path : Text) : Bool := path.getLast? = some '/'

end ModalLexer.Path
