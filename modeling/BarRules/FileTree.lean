import BarRules.Text.Pieces

/-
  A tree of files, and the ways in which its use can fail.

  Key definitions include:
    * `BarRules.FileFault`
    * `BarRules.FileTree`
    * `BarRules.FileTree.resolve`
    * `BarRules.FileTree.readText`
    * `BarRules.FileTree.writeFile`
    * `BarRules.FileTree.makeDirectory`
    * `BarRules.FileTree.makeDirectories`
    * `BarRules.FileTree.joinPath`

  A place is the list of names that lead to it from the root.
  A path is text, whose parts are walked one after another from
  the root or from the working directory; every part but the
  last has to lead to a directory that exists.  A request that
  fails changes nothing, except that the directories made
  before a failure in `makeDirectories` stay.
-/

------------------------------------------------------------
-- Faults
------------------------------------------------------------

namespace BarRules

/-
  Why a request to the file system fails.  A reason that a tree
  of files does not know, such as a lack of permission, is told
  in the words of the system.
-/
inductive FileFault where
  | noSuchFile
  | fileExists
  | notADirectory
  | isADirectory
  | nameTooLong
  | nulInPath
  | notText
  | other (reason : String)
  deriving DecidableEq

namespace FileFault

/- The wording of a fault. -/
def message : FileFault → String
  | .noSuchFile => "No such file or directory (os error 2)"
  | .fileExists => "File exists (os error 17)"
  | .notADirectory => "Not a directory (os error 20)"
  | .isADirectory => "Is a directory (os error 21)"
  | .nameTooLong => "File name too long (os error 36)"
  | .nulInPath =>
      "file name contained an unexpected NUL byte"
  | .notText => "stream did not contain valid UTF-8"
  | .other reason => reason

end FileFault

end BarRules

------------------------------------------------------------
-- Trees
------------------------------------------------------------

namespace BarRules

/- What stands at a place. -/
inductive FileNode where
  | file (content : ByteArray)
  | directory

/-
  The files and directories at their places, the latest entry
  for a place first, and the working directory.
-/
structure FileTree where
  base : List String
  entries : List (List String × FileNode)

namespace FileTree

/- What stands at a place, if anything; the root always does. -/
def node?
    (tree : FileTree)
    (place : List String) :
    Option FileNode :=
  if place = [] then
    some .directory
  else
    tree.entries.lookup place

/- Put a file or a directory at a place. -/
def put
    (tree : FileTree)
    (place : List String)
    (node : FileNode) :
    FileTree where
  base := tree.base
  entries := (place, node) :: tree.entries

end FileTree

end BarRules

------------------------------------------------------------
-- Walking Paths
------------------------------------------------------------

namespace BarRules

namespace FileTree

/- The most bytes that a name may have. -/
def nameLimit : Nat := 255

/- The number of bytes that is too long for a path. -/
def pathLimit : Nat := 4096

/- A path starts at the root. -/
def isAbsolute (path : String) : Bool :=
  path.toList.head? == some '/'

/- The place from which a path starts. -/
def start
    (tree : FileTree)
    (path : String) :
    List String :=
  if isAbsolute path then [] else tree.base

/-
  Follow the parts of a path.  An empty part and a single dot
  stay in a directory, two dots go back to the one above.
-/
def walk
    (tree : FileTree)
    (place : List String) :
    List String → Except FileFault (List String)
  | [] => .ok place
  | part :: rest =>
      match tree.node? place with
      | none => .error .noSuchFile
      | some (.file _) => .error .notADirectory
      | some .directory =>
          if part = "" || part = "." then
            walk tree place rest
          else if part = ".." then
            walk tree place.dropLast rest
          else if nameLimit < part.utf8ByteSize then
            .error .nameTooLong
          else
            walk tree (place ++ [part]) rest

/- A path that may be walked at all. -/
def checkPath (path : String) : Except FileFault Unit :=
  if path.toList.contains '\x00' then
    .error .nulInPath
  else if path = "" then
    .error .noSuchFile
  else if pathLimit ≤ path.utf8ByteSize then
    .error .nameTooLong
  else
    .ok ()

/- The place that a path leads to, existing or not. -/
def resolve
    (tree : FileTree)
    (path : String) :
    Except FileFault (List String) :=
  match checkPath path with
  | .error fault => .error fault
  | .ok () =>
      tree.walk (tree.start path) (Text.pieces '/' path)

/- A path leads to a directory that exists. -/
def isDirectory
    (tree : FileTree)
    (path : String) :
    Bool :=
  match tree.resolve path with
  | .error _ => false
  | .ok place =>
      match tree.node? place with
      | some .directory => true
      | _ => false

end FileTree

end BarRules

------------------------------------------------------------
-- Files
------------------------------------------------------------

namespace BarRules

namespace FileTree

/- The text in a file. -/
def readText
    (tree : FileTree)
    (path : String) :
    Except FileFault String :=
  match tree.resolve path with
  | .error fault => .error fault
  | .ok place =>
      match tree.node? place with
      | none => .error .noSuchFile
      | some .directory => .error .isADirectory
      | some (.file content) =>
          match String.fromUTF8? content with
          | none => .error .notText
          | some text => .ok text

/- Put text into a file, which need not exist. -/
def writeFile
    (tree : FileTree)
    (path text : String) :
    Except FileFault FileTree :=
  match tree.resolve path with
  | .error fault => .error fault
  | .ok place =>
      match tree.node? place with
      | some .directory => .error .isADirectory
      | _ => .ok (tree.put place (.file text.toUTF8))

/- The path of a name in a directory. -/
def joinPath
    (directory name : String) :
    String :=
  if directory.toList.getLast? = some '/' then
    directory ++ name
  else
    directory ++ "/" ++ name

end FileTree

end BarRules

------------------------------------------------------------
-- Directories
------------------------------------------------------------

namespace BarRules

namespace FileTree

/- The parts of a path without the slashes at its end. -/
def partsToLast (path : String) : List String :=
  ((Text.pieces '/' path).reverse.dropWhile (· = "")).reverse

/-
  Make one directory, in a directory that exists.  A path that
  ends in dots, or is the root, leads to what exists already.
-/
def makeDirectory
    (tree : FileTree)
    (path : String) :
    Except FileFault FileTree :=
  match checkPath path with
  | .error fault => .error fault
  | .ok () =>
      match (partsToLast path).getLast? with
      | none => .error .fileExists
      | some name =>
          let above := (partsToLast path).dropLast ++ [""]
          match tree.walk (tree.start path) above with
          | .error fault => .error fault
          | .ok place =>
              if name = "." || name = ".." then
                .error .fileExists
              else if nameLimit < name.utf8ByteSize then
                .error .nameTooLong
              else
                match tree.node? (place ++ [name]) with
                | some _ => .error .fileExists
                | none =>
                    .ok (tree.put (place ++ [name]) .directory)

/- The directory is there, or is made now. -/
def ensureDirectory
    (tree : FileTree)
    (path : String) :
    Except FileFault FileTree :=
  match tree.makeDirectory path with
  | .error .fileExists =>
      if tree.isDirectory path then
        .ok tree
      else
        .error .fileExists
  | result => result

/-
  The parts of a path that count for what it is in: neither
  empty ones nor single dots, except a dot at its start.
-/
def steps (path : String) : List String :=
  let counts (part : String) : Bool :=
    part ≠ "" && part ≠ "."
  match Text.pieces '/' path with
  | "." :: rest => "." :: rest.filter counts
  | parts => parts.filter counts

/- The path of the first so many steps of a path. -/
def leading
    (path : String)
    (count : Nat) :
    String :=
  (if isAbsolute path then "/" else "") ++
    Text.joinWith "/" ((steps path).take count)

/-
  A path and what it is in, nearest first, up to but without
  the place where it starts.
-/
def ancestors (path : String) : List String :=
  match (steps path).length with
  | 0 => []
  | above + 1 =>
      path ::
        (List.range above).reverse.map
          (fun i => leading path (i + 1))

/-
  Make the nearest ancestor that can be made or is there.  The
  ones nearer than it are still missing, farthest first.
-/
def makeNearest
    (tree : FileTree)
    (missing : List String) :
    List String → Except FileFault (FileTree × List String)
  | [] => .ok (tree, missing)
  | path :: rest =>
      match tree.ensureDirectory path with
      | .ok tree => .ok (tree, missing)
      | .error .noSuchFile =>
          makeNearest tree (path :: missing) rest
      | .error fault => .error fault

/- Make directories in order up to the first fault. -/
def makeAll
    (tree : FileTree) :
    List String → FileTree × Option FileFault
  | [] => (tree, none)
  | path :: rest =>
      match tree.ensureDirectory path with
      | .ok tree => makeAll tree rest
      | .error fault => (tree, some fault)

/- Make a directory together with the ones that it is in. -/
def makeDirectories
    (tree : FileTree)
    (path : String) :
    FileTree × Option FileFault :=
  match tree.makeNearest [] (ancestors path) with
  | .error fault => (tree, some fault)
  | .ok (tree, missing) => tree.makeAll missing

end FileTree

end BarRules
