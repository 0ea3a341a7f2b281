/-
# Paths

A path is a text of pieces between slashes. Repeated slashes and pieces `.` say nothing, except
that a relative path may begin with `.`, and `..` is not resolved, because what it means depends
on links. So a path reads as a list of components; paths are compared and shown by them, while
joining and cutting leave the text as it is written.
-/

import PackageListing.Text.Split

namespace PackageListing

/-- A step of a path. -/
inductive Component where
  /-- The root of the tree, at the start of an absolute path. -/
  | root
  /-- The directory `.` at the start of a relative path. -/
  | current
  /-- The directory `..`. -/
  | parent
  /-- A member of a directory. -/
  | member (name : String)
  deriving DecidableEq

/-- The text of a component in a path. -/
def Component.text? : Component → Option String
  | .root | .current => none
  | .parent => some ".."
  | .member name => some name

namespace Path

/-- The component that a piece between slashes stands for. -/
def component? (piece : List Char) : Option Component :=
  if piece = [] ∨ piece = ['.'] then none
  else if piece = ['.', '.'] then some .parent
  else some (.member (String.ofList piece))

/-- What a path begins with before its pieces: the root, the current directory, or nothing. -/
def start (s : List Char) : List Char :=
  match s with
  | '/' :: _ => ['/']
  | ['.'] | '.' :: '/' :: _ => ['.']
  | _ => []

/-- The components of a path. -/
def components (path : String) : List Component :=
  let s := path.toList
  let body := ((s.drop (start s).length).splitOn '/').filterMap component?
  match start s with
  | '/' :: _ => .root :: body
  | '.' :: _ => .current :: body
  | _ => body

/-- A path that begins at the root. -/
def isAbsolute (path : String) : Bool :=
  path.toList.head? == some '/'

/-- A path taken from a base. An absolute path stays as it is; else a slash comes between the
two, unless the base ends in one or is empty. -/
def join (base path : String) : String :=
  if isAbsolute path then path
  else
    match base.toList.getLast? with
    | none | some '/' => base ++ path
    | some _ => base ++ "/" ++ path

/-- A piece that names no component. -/
def isSilent (piece : List Char) : Bool :=
  (component? piece).isNone

/-- The directory that holds what the path names: the text before its last component, without
what is silent at its end. The root has no parent, nor has the empty path. -/
def parent? (path : String) : Option String :=
  let s := path.toList
  let pieces := ((s.drop (start s).length).splitOn '/').reverse.dropWhile isSilent
  match pieces with
  | [] => if start s = ['.'] then some "" else none
  | _ :: before =>
    some (String.ofList (start s ++ ['/'].intercalate (before.dropWhile isSilent).reverse))

/-- A path and its parents, at most `steps` of them, each after what it holds. -/
def ancestorsFrom (path : String) : (steps : Nat) → List String
  | 0 => [path]
  | steps + 1 =>
    match parent? path with
    | some parent => path :: ancestorsFrom parent steps
    | none => [path]

/-- A path and all its parents, each after what it holds. A path has no more parents than
characters. -/
def ancestors (path : String) : List String :=
  ancestorsFrom path path.length

/-- The name at the end of a path, if its last component is a name. -/
def fileName? (path : String) : Option String :=
  match (components path).getLast? with
  | some (.member name) => some name
  | _ => none

/-- The text after the last full stop of a name, where text stands before it. -/
def extension? (path : String) : Option String :=
  match fileName? path with
  | none => none
  | some name =>
    let ending := name.toList.reverse.takeWhile (· != '.')
    if ending.length + 1 < name.length then some (String.ofList ending.reverse) else none

/-- The plain spelling of a path with these components: no repeated slash and no `.`, except for
the path of the current directory. -/
def spell (components : List Component) : String :=
  let pieces := "/".intercalate (components.filterMap Component.text?)
  if components.contains .root then "/" ++ pieces
  else if pieces.isEmpty then "."
  else pieces

/-- The plain spelling of a path. -/
def normalize (path : String) : String :=
  spell (components path)

/-- The components after `start`, where a list begins with it. -/
def componentsAfter? : (start path : List Component) → Option (List Component)
  | [], path => some path
  | _ :: _, [] => none
  | a :: start, c :: path => if a = c then componentsAfter? start path else none

/-- The plain spelling of a path below `root` as seen from there. A path elsewhere is only spelt
plainly. -/
def relativeTo (root path : String) : String :=
  match componentsAfter? (components root) (components path) with
  | some rest => spell rest
  | none => normalize path

theorem isAbsolute_join (base path : String) (h : isAbsolute base = true) :
    isAbsolute (join base path) = true := by
  unfold join
  split
  · assumption
  · simp only [isAbsolute, beq_iff_eq] at h
    split <;> simp [isAbsolute, List.head?_append, h]

theorem componentsAfter?_eq_some {start path rest : List Component} :
    componentsAfter? start path = some rest ↔ path = start ++ rest := by
  induction start generalizing path with
  | nil => simp [componentsAfter?, eq_comm]
  | cons a start ih =>
    cases path with
    | nil => simp [componentsAfter?]
    | cons c path =>
      by_cases h : a = c
      · simp [componentsAfter?, h, ih]
      · simp [componentsAfter?, h, eq_comm]

end Path
end PackageListing
