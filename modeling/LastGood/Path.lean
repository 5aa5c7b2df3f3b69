import LastGood.Text.Split

/-!
# Paths

A path is a text in which slashes separate names. Repeated slashes and single dots
mean nothing, except that a single dot at the start of a relative path is kept; two
dots lead upwards and are never resolved here, because what they lead to depends on
the disk. Two paths are the same when their components are, so a slash at the end
does not tell paths apart.
-/

namespace LastGood

/-- A path, as it was written. -/
structure Path where
  /-- The text. -/
  text : String
  deriving DecidableEq, Repr, Inhabited

namespace Path

/-- One step of a path. -/
inductive Component where
  /-- The root directory. -/
  | root
  /-- The directory itself, at the start of a relative path. -/
  | here
  /-- The directory above. -/
  | up
  /-- An entry of the directory. -/
  | name (text : String)
  deriving DecidableEq, Repr

/-- A component as it is written. -/
def Component.text : Component → String
  | .root => "/"
  | .here => "."
  | .up => ".."
  | .name text => text

/-- Whether the path starts at the root. -/
def isAbsolute (path : Path) : Bool := path.text.toList.head? == some '/'

/-- Whether a slash ends the path. -/
def endsInSlash (path : Path) : Bool := path.text.toList.getLast? == some '/'

/-- The component that a piece stands for, if it stands for one. -/
def componentOf? (piece : List Char) : Option Component :=
  if piece.isEmpty || piece == ['.'] then none
  else if piece == ['.', '.'] then some .up
  else some (.name (String.ofList piece))

/-- The components of a path, from left to right. -/
def components (path : Path) : List Component :=
  let all := Text.pieces '/' path.text.toList
  let lead : List Component :=
    if path.isAbsolute then [.root] else if all.head? == some ['.'] then [.here] else []
  lead ++ all.filterMap componentOf?

/-- Whether two paths have the same components. -/
def sameAs (a b : Path) : Bool := a.components == b.components

/-- A path written from components, with one slash between two of them. -/
def ofComponents : List Component → Path
  | [] => ⟨""⟩
  | .root :: rest => ⟨"/" ++ String.intercalate "/" (rest.map Component.text)⟩
  | components => ⟨String.intercalate "/" (components.map Component.text)⟩

/-- A path continued by another one; an absolute one stands alone. -/
def join (base next : Path) : Path :=
  if next.isAbsolute then next
  else if base.text == "" then next
  else if base.endsInSlash then ⟨base.text ++ next.text⟩
  else ⟨base.text ++ "/" ++ next.text⟩

/-- The path with `suffix` written behind it. -/
def extended (path : Path) (suffix : String) : Path := ⟨path.text ++ suffix⟩

/-- Whether exactly two slashes start the path. Such a root is one of its own. -/
def hasDoubleRoot (path : Path) : Bool :=
  match path.text.toList with
  | '/' :: '/' :: rest => rest.head? != some '/'
  | _ => false

/-- The path as seen from the root when `directory` is the current directory. Single
    dots and repeated slashes are dropped, a slash at the end and exactly two slashes
    at the start are kept, and the empty path stays empty. -/
def absolute (directory path : Path) : Path :=
  if path.text == "" then path
  else
    let steps := path.components.filter fun component => component != .here && component != .root
    let base := if path.isAbsolute then [] else directory.components.drop 1
    let rooted := ofComponents (.root :: base ++ steps)
    let plain := if path.hasDoubleRoot then ⟨"/" ++ rooted.text⟩ else rooted
    if path.endsInSlash && !plain.endsInSlash then plain.extended "/" else plain

/-- The last component, if it is a name. -/
def fileName? (path : Path) : Option String :=
  match path.components.getLast? with
  | some (.name text) => some text
  | _ => none

/-- The path without its last component; `none` for the root and the empty path. -/
def parent? (path : Path) : Option Path :=
  match path.components with
  | [] => none
  | [.root] => none
  | components => some (ofComponents components.dropLast)

/-- What follows the common start of two lists, on either side. -/
def afterCommon {α : Type} [DecidableEq α] : List α → List α → List α × List α
  | a :: as, b :: bs => if a = b then afterCommon as bs else (a :: as, b :: bs)
  | as, bs => (as, bs)

/-- The way from an absolute directory to an absolute path: one step upwards for every
    component of the directory that the path does not share, then down. -/
def relativeTo (path directory : Path) : Path :=
  let (down, ups) := afterCommon path.components directory.components
  ofComponents (ups.map (fun _ => Component.up) ++ down)

/-- A path is the same as itself. -/
@[simp] theorem sameAs_refl (path : Path) : path.sameAs path = true := by
  simp [sameAs]

end Path

end LastGood
