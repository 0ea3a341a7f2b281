/-
# Files under paths

A process sees a file tree from a working directory. A path is looked up piece by piece: an
absolute one from the root, any other from the working directory, and a link on the way by what
it holds, from where it lies. Every piece before the last must be a directory. What goes wrong is
an `IoError`.
-/

import PackageListing.Files.Tree
import PackageListing.Path
import PackageListing.Result
import PackageListing.Text.Utf8

namespace PackageListing

/-- Why an operation on files fails. -/
inductive IoError where
  | notFound
  | notADirectory
  | isADirectory
  | alreadyExists
  | permissionDenied
  | tooManyLinks
  | nameTooLong
  | zeroByte
  | notText
  deriving DecidableEq

namespace IoError

/-- What went wrong, in words. -/
def message : IoError → String
  | notFound => "No such file or directory (os error 2)"
  | notADirectory => "Not a directory (os error 20)"
  | isADirectory => "Is a directory (os error 21)"
  | alreadyExists => "File exists (os error 17)"
  | permissionDenied => "Permission denied (os error 13)"
  | tooManyLinks => "Too many levels of symbolic links (os error 40)"
  | nameTooLong => "File name too long (os error 36)"
  | zeroByte => "file name contained an unexpected NUL byte"
  | notText => "stream did not contain valid UTF-8"

end IoError

/-- A file tree and the place in it where relative paths begin. -/
structure FileSystem where
  /-- The tree. -/
  tree : FileTree
  /-- The working directory. -/
  workingPlace : FileTree.Place
  deriving Inhabited

namespace FileSystem

/-- How many links one lookup may follow. -/
def linkLimit : Nat := 40

/-- The most bytes that a name may have. -/
def nameLimit : Nat := 255

/-- The most bytes that a path may have. -/
def pathLimit : Nat := 4095

/-- The pieces between the slashes of a path. -/
def pieces (path : String) : List String :=
  (path.toList.splitOn '/').map String.ofList

/-- The path of the working directory. -/
def workingDirectory (fs : FileSystem) : String :=
  FileTree.Place.path fs.workingPlace

/-- The path as seen from the root. -/
def absolute (fs : FileSystem) (path : String) : String :=
  if Path.isAbsolute path then path else Path.join fs.workingDirectory path

/-- Where the lookup of a path begins, if relative paths begin at `base`. -/
def startOf (base : FileTree.Place) (path : String) : FileTree.Place :=
  if Path.isAbsolute path then [] else base

/-- Follows pieces from a place, through at most `links` links, and says how many more links the
lookup may follow from there. -/
def follow (fs : FileSystem) (links : Nat) (place : FileTree.Place) :
    List String → Except IoError (FileTree.Place × Nat)
  | [] => .ok (place, links)
  | piece :: rest =>
    match fs.tree.at? place with
    | some (.directory entries) =>
      if piece = "" ∨ piece = "." then follow fs links place rest
      else if piece = ".." then follow fs links place.dropLast rest
      else if nameLimit < piece.utf8ByteSize then .error .nameTooLong
      else
        match entries.lookup piece with
        | none => .error .notFound
        | some (.link target) =>
          match links with
          | 0 => .error .tooManyLinks
          | links + 1 => follow fs links (startOf place target) (pieces target ++ rest)
        | some _ => follow fs links (place ++ [piece]) rest
    | some _ => .error .notADirectory
    | none => .error .notFound
  termination_by rest => (links, rest.length)

theorem follow_snd_le {fs : FileSystem} {links : Nat} {place : FileTree.Place} {l : List String}
    {found : FileTree.Place × Nat} (h : fs.follow links place l = .ok found) :
    found.2 ≤ links := by
  fun_induction follow fs links place l
  case case1 => cases h; exact Nat.le_refl _
  case case2 ih | case3 ih | case8 ih => exact ih h
  case case7 ih => exact Nat.le_succ_of_le (ih h)
  all_goals cases h

/-- Refuses texts that are no path. -/
def checkPath (path : String) : Except IoError Unit :=
  if path.toList.contains '\x00' then .error .zeroByte
  else if path.isEmpty then .error .notFound
  else if pathLimit < path.utf8ByteSize then .error .nameTooLong
  else .ok ()

/-- The place that a path leads to. -/
def resolve (fs : FileSystem) (path : String) : Except IoError FileTree.Place := do
  checkPath path
  return (← fs.follow linkLimit (startOf fs.workingPlace path) (pieces path)).1

/-- What a path leads to. -/
def get (fs : FileSystem) (path : String) : Except IoError FileTree := do
  match fs.tree.at? (← fs.resolve path) with
  | some t => return t
  | none => throw .notFound

/-- Whether a path leads to a regular file. -/
def isFile (fs : FileSystem) (path : String) : Bool :=
  match fs.get path with
  | .ok t => t.isRegular
  | .error _ => false

/-- Whether a path leads to a directory. -/
def isDirectory (fs : FileSystem) (path : String) : Bool :=
  match fs.get path with
  | .ok t => t.isDirectory
  | .error _ => false

/-- The contents of a file. -/
def read (fs : FileSystem) (path : String) : Except IoError (List UInt8) := do
  match (← fs.get path).contents? with
  | some contents => return contents
  | none => throw .isADirectory

/-- The text in a file. -/
def readText (fs : FileSystem) (path : String) : Except IoError (List Char) := do
  match Text.text? (← fs.read path) with
  | some text => return text
  | none => throw .notText

/-- The pieces of a path before the last that is not empty, that piece, and whether a slash
follows it. -/
def lastPiece? (path : String) : Option (List String × String × Bool) :=
  match (pieces path).reverse.dropWhile (·.isEmpty) with
  | [] => none
  | last :: before => some (before.reverse, last, path.toList.getLast? == some '/')

/-- The place of the directory at the end of some pieces, with its entries, and how many more links
the lookup may follow. -/
def directoryAt (fs : FileSystem) (links : Nat) (base : FileTree.Place) (before : List String) :
    Except IoError (FileTree.Place × List (String × FileTree) × Nat) := do
  let (place, left) ← fs.follow links base before
  match fs.tree.at? place with
  | some (.directory entries) => return (place, entries, left)
  | some _ => throw .notADirectory
  | none => throw .notFound

/-- The last piece of a path as a lookup comes to it. -/
structure LastEntry where
  /-- The place of the directory that holds it. -/
  place : FileTree.Place
  /-- The piece, which is a plain name. -/
  name : String
  /-- What it names in the directory, if anything. -/
  named? : Option FileTree
  /-- How many more links the lookup may follow. -/
  left : Nat

/-- Goes to the last piece of a path, through at most `links` links on the way. -/
def lastEntry (fs : FileSystem) (links : Nat) (base : FileTree.Place) (path : String) :
    Except IoError LastEntry :=
  match lastPiece? path with
  | none => .error .isADirectory
  | some (before, last, slash) => do
    let (place, entries, left) ← fs.directoryAt links (startOf base path) before
    if slash || last = "." || last = ".." then .error .isADirectory
    else if nameLimit < last.utf8ByteSize then .error .nameTooLong
    else .ok ⟨place, last, entries.lookup last, left⟩

theorem directoryAt_eq_ok {fs : FileSystem} {links left : Nat} {base place : FileTree.Place}
    {before : List String} {entries : List (String × FileTree)}
    (h : fs.directoryAt links base before = .ok (place, entries, left)) :
    fs.follow links base before = .ok (place, left) ∧
      fs.tree.at? place = some (.directory entries) := by
  obtain ⟨⟨place', left'⟩, hfollow, h⟩ := Result.bind_eq_ok.1 h
  simp only at h
  split at h
  · next hat => cases h; exact ⟨hfollow, hat⟩
  · cases h
  · cases h

/-- What a lookup has come to at the last piece of a path. -/
theorem lastEntry_eq_ok {fs : FileSystem} {links : Nat} {base : FileTree.Place} {path : String}
    {e : LastEntry} (h : fs.lastEntry links base path = .ok e) :
    ∃ before entries, lastPiece? path = some (before, e.name, false) ∧
      fs.follow links (startOf base path) before = .ok (e.place, e.left) ∧
      fs.tree.at? e.place = some (.directory entries) ∧ e.name ≠ "." ∧ e.name ≠ ".." ∧
      e.name.utf8ByteSize ≤ nameLimit ∧ e.named? = entries.lookup e.name := by
  rw [lastEntry] at h
  split at h
  · cases h
  · next before last slash hlast =>
    obtain ⟨⟨place, entries, left⟩, hdir, h⟩ := Result.bind_eq_ok.1 h
    obtain ⟨hfollow, hat⟩ := directoryAt_eq_ok hdir
    simp only at h
    split at h
    · cases h
    · next hplain =>
      split at h
      · cases h
      · next hlen =>
        cases h
        simp only [Bool.or_eq_true, decide_eq_true_eq, not_or, Bool.not_eq_true] at hplain
        obtain ⟨⟨rfl, hdot⟩, hdots⟩ := hplain
        exact ⟨before, entries, hlast, hfollow, hat, hdot, hdots, Nat.le_of_not_lt hlen, rfl⟩

theorem lastEntry_left_le {fs : FileSystem} {links : Nat} {base : FileTree.Place} {path : String}
    {e : LastEntry} (h : fs.lastEntry links base path = .ok e) : e.left ≤ links := by
  obtain ⟨_, _, -, hfollow, -⟩ := lastEntry_eq_ok h
  exact follow_snd_le hfollow

/-- The place of the file that writing to a path goes to; it need not exist. A link at the end
leads on, as far as the lookup may follow links. -/
def writePlace (fs : FileSystem) (links : Nat) (base : FileTree.Place) (path : String) :
    Except IoError FileTree.Place :=
  match h : fs.lastEntry links base path with
  | .error e => .error e
  | .ok ⟨_, _, some (.directory _), _⟩ => .error .isADirectory
  | .ok ⟨_, _, some (.link _), 0⟩ => .error .tooManyLinks
  | .ok ⟨place, _, some (.link target), left + 1⟩ =>
    have := lastEntry_left_le h
    writePlace fs left place target
  | .ok ⟨place, name, _, _⟩ => .ok (place ++ [name])
  termination_by links

/-- The files after one is written. -/
def write (fs : FileSystem) (path : String) (contents : List UInt8) :
    Except IoError FileSystem := do
  checkPath path
  let place ← fs.writePlace linkLimit fs.workingPlace path
  return { fs with tree := FileTree.put (.file contents) fs.tree place }

/-- The files after a directory is made in one that exists. -/
def createDirectory (fs : FileSystem) (path : String) : Except IoError FileSystem := do
  checkPath path
  match lastPiece? path with
  | none => throw .alreadyExists
  | some (before, last, _) =>
    let (place, entries, _) ← fs.directoryAt linkLimit (startOf fs.workingPlace path) before
    if last = "." || last = ".." then throw .alreadyExists
    if nameLimit < last.utf8ByteSize then throw .nameTooLong
    if (entries.lookup last).isSome then throw .alreadyExists
    return { fs with tree := FileTree.put FileTree.empty fs.tree (place ++ [last]) }

/-- The files after a directory is made that may be there. -/
def ensureDirectory (fs : FileSystem) (path : String) : Except IoError FileSystem :=
  match fs.createDirectory path with
  | .ok fs => .ok fs
  | .error e => if fs.isDirectory path then .ok fs else .error e

/-- The files after the first path of a row is made a directory, by way of the others, each the
parent of the one before it. The empty path is there at any rate. -/
def ensureAll (fs : FileSystem) : List String → Except IoError FileSystem
  | [] => .ok fs
  | path :: parents =>
    if path.isEmpty then .ok fs
    else
      match fs.createDirectory path with
      | .error .notFound => do
        let fs ← fs.ensureAll parents
        fs.ensureDirectory path
      | _ => fs.ensureDirectory path

/-- The files after a directory and all those above it are made. -/
def createDirectories (fs : FileSystem) (path : String) : Except IoError FileSystem :=
  fs.ensureAll (Path.ancestors path)

/-- The files after one is removed, if it is there. -/
def remove (fs : FileSystem) (path : String) : FileSystem :=
  match fs.resolve path with
  | .ok place => { fs with tree := fs.tree.erase place }
  | .error _ => fs

end FileSystem
end PackageListing
