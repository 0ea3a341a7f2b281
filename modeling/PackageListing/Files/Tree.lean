/-
# File trees

A file tree holds regular files, programs, links and directories under names. A place in it is
the list of names that lead there from the root, through directories only; links are texts here,
and what follows them is a matter of path lookup.
-/

namespace PackageListing

/-- A file tree. -/
inductive FileTree where
  /-- A regular file. -/
  | file (contents : List UInt8)
  /-- A program; what its file holds does not matter. -/
  | program (name : String)
  /-- A link to the path that it holds. -/
  | link (target : String)
  /-- A directory. -/
  | directory (entries : List (String × FileTree))
  deriving Inhabited

namespace FileTree

/-- A place in a file tree, as the names that lead to it from the root. -/
abbrev Place := List String

/-- The absolute path of a place. -/
def Place.path (place : Place) : String :=
  "/" ++ "/".intercalate place

/-- The directory without entries. -/
def empty : FileTree := .directory []

/-- What is at a place. -/
def at? : FileTree → Place → Option FileTree
  | t, [] => some t
  | .directory entries, name :: place => (entries.lookup name).bind fun t => t.at? place
  | _, _ :: _ => none

/-- The entries with one more, which replaces the entry of its name. -/
def putEntry (name : String) (t : FileTree) : List (String × FileTree) → List (String × FileTree)
  | [] => [(name, t)]
  | e :: entries => if e.1 = name then (name, t) :: entries else e :: putEntry name t entries

/-- The tree with `new` at a place. Directories on the way are made where they are missing;
where something else is in the way nothing changes. -/
def put (new : FileTree) : FileTree → Place → FileTree
  | _, [] => new
  | .directory entries, name :: place =>
    .directory (putEntry name (put new ((entries.lookup name).getD empty) place) entries)
  | t, _ :: _ => t

/-- The tree without what is at a place. -/
def erase : FileTree → Place → FileTree
  | .directory entries, [name] => .directory (entries.filter fun e => e.1 != name)
  | .directory entries, name :: place =>
    match entries.lookup name with
    | some t => .directory (putEntry name (t.erase place) entries)
    | none => .directory entries
  | t, _ => t

/-- Whether this is a directory. -/
def isDirectory : FileTree → Bool
  | .directory _ => true
  | _ => false

/-- Whether this is a file that is no directory and no link. -/
def isRegular : FileTree → Bool
  | .file _ | .program _ => true
  | _ => false

/-- What reading a regular file gives. -/
def contents? : FileTree → Option (List UInt8)
  | .file contents => some contents
  | .program _ => some []
  | _ => none

mutual

/-- What a walk comes to at or below the given path, each with its path: a directory before its
entries, and these in increasing order of their names. Entries with the name `skip` are left out
with all that is below them, and links are not followed. -/
def visits (skip : String) (path : String) : FileTree → List (String × FileTree)
  | .file contents => [(path, .file contents)]
  | .program name => [(path, .program name)]
  | .link target => [(path, .link target)]
  | .directory entries =>
    (path, .directory entries) ::
      ((visitsIn skip path entries).mergeSort fun a b => decide (a.1 ≤ b.1)).flatMap Prod.snd

/-- What a walk comes to at or below each entry of a directory, by the name of the entry. -/
def visitsIn (skip : String) (path : String) :
    List (String × FileTree) → List (String × List (String × FileTree))
  | [] => []
  | (name, t) :: entries =>
    let others := visitsIn skip path entries
    if name = skip then others
    else
      let separator := if path.toList.getLast? = some '/' then "" else "/"
      (name, visits skip (path ++ separator ++ name) t) :: others

end

/-- The paths of the regular files that a walk comes to. -/
def walk (skip path : String) (t : FileTree) : List String :=
  ((visits skip path t).filter fun v => v.2.isRegular).map Prod.fst

theorem lookup_putEntry (name : String) (t : FileTree) (entries : List (String × FileTree)) :
    (putEntry name t entries).lookup name = some t := by
  induction entries with
  | nil => simp [putEntry]
  | cons e entries ih =>
    obtain ⟨key, value⟩ := e
    simp only [putEntry]
    split
    · simp
    · next h =>
      have : (name == key) = false := by simpa using Ne.symm h
      simp [List.lookup_cons, this, ih]

end FileTree
end PackageListing
