import Lockstep.SystemError
import Lockstep.Text.Utf8

/-!
# File trees

A tree of directories with files, symbolic links, devices and installed programs. A path is
followed component by component from the root or from a working directory: a link is replaced by
what it points to, at most forty times, a component beside a directory is a fault, and the path to
what was found is the canonical one. What is missing in an existing directory can be created.
-/

namespace Lockstep.Files

/-- Devices. -/
inductive Device where
  /-- Takes everything and has nothing. -/
  | null
  /-- Has NUL bytes without end. -/
  | zero
  /-- Has NUL bytes without end, and no room for any byte. -/
  | full
  deriving Repr, DecidableEq

/-- What a path can lead to. -/
inductive Node where
  | file (content : Bytes) (executable : Bool)
  | link (target : String)
  | device (d : Device)
  /-- A program of the system, known by its name. -/
  | program (name : String)
  | directory (entries : List (String × Node))
  deriving Repr

namespace Node

/-- An empty directory. -/
def empty : Node := .directory []

/-- The entries of a directory. -/
def entries : Node → List (String × Node)
  | .directory entries => entries
  | _ => []

/-- Whether the node may have others in it. -/
def isDirectory : Node → Bool
  | .directory _ => true
  | _ => false

/-- The entry of a directory. -/
def child? (n : Node) (name : String) : Option Node :=
  (n.entries.find? fun e => e.1 == name).map (·.2)

/-- What stands at a canonical path. -/
def at? : List String → Node → Option Node
  | [], n => some n
  | name :: rest, n => (n.child? name).bind (at? rest)

/-- Entries with one put in the place of another of its name, or at the end. -/
def putEntry (name : String) (n : Node) : List (String × Node) → List (String × Node)
  | [] => [(name, n)]
  | e :: rest => if e.1 == name then (name, n) :: rest else e :: putEntry name n rest

/-- The tree with a node put at a canonical path. -/
def put (n : Node) (path : List String) (new : Node) : Node :=
  match path with
  | [] => new
  | name :: rest =>
    .directory (putEntry name (((n.child? name).getD .empty).put rest new) n.entries)

/-- The tree without what stands at a canonical path. -/
def remove (n : Node) : List String → Node
  | [] => n
  | [name] => .directory (n.entries.filter fun e => e.1 != name)
  | name :: rest =>
    match n.child? name with
    | some child => .directory (putEntry name (child.remove rest) n.entries)
    | none => n

end Node

/-- What following a path comes to. -/
inductive Found where
  | node (path : List String) (n : Node)
  /-- Nothing of this name is in the directory. -/
  | missing (directory : List String) (name : String)

/-- The text of a canonical path. -/
def showPath (path : List String) : String :=
  match path with
  | [] => "/"
  | _ => String.join (path.map ("/" ++ ·))

/-- The components of a path; one that ends in a slash leads to a directory. -/
def components (path : String) : List String :=
  let parts := (path.splitOn "/").filter (· ≠ "")
  if path.endsWith "/" then parts ++ ["."] else parts

/-- Whether the path begins at the root. -/
def isAbsolute (path : String) : Bool := path.startsWith "/"

/-- How many links one path may follow. -/
def maxLinks : Nat := 40

/-- How many bytes a component may have. -/
def maxName : Nat := 255

/-- How many bytes a path may have. -/
def maxPath : Nat := 4095

/--
Follows components from a directory. The last component is followed, too, if it is a link and
`follow` says so.
-/
def walk (root : Node) (follow : Bool) (links : Nat) (place : List String) (todo : List String) :
    Except SystemError Found :=
  match todo with
  | [] =>
    match root.at? place with
    | some n => .ok (.node place n)
    | none => .error .notFound
  | name :: rest =>
    match root.at? place with
    | some (.directory entries) =>
      if name = "." then walk root follow links place rest
      else if name = ".." then walk root follow links place.dropLast rest
      else if (utf8 name).length > maxName then .error .nameTooLong
      else
        match (Node.directory entries).child? name with
        | none => if rest.isEmpty then .ok (.missing place name) else .error .notFound
        | some (.link target) =>
          if rest.isEmpty && !follow then .ok (.node (place ++ [name]) (.link target))
          else
            match links with
            | 0 => .error .tooManyLinks
            | links + 1 =>
              if target = "" then .error .notFound
              else
                walk root follow links (if isAbsolute target then [] else place)
                  (components target ++ rest)
        | some _ => walk root follow links (place ++ [name]) rest
    | some _ => .error .notDirectory
    | none => .error .notFound
termination_by (links, todo.length)

/-- A file tree with a working directory, given by its canonical path. -/
structure Tree where
  root : Node
  workingDirectory : List String
  deriving Repr

namespace Tree

/-- What a path of any length leads to. -/
def follow (t : Tree) (last : Bool) (path : String) : Except SystemError Found :=
  if path.toList.contains '\x00' then .error .nulInPath
  else if path = "" then .error .notFound
  else
    walk t.root last maxLinks (if isAbsolute path then [] else t.workingDirectory)
      (components path)

/-- What a path leads to. -/
def find (t : Tree) (last : Bool) (path : String) : Except SystemError Found :=
  if (utf8 path).length > maxPath && !path.toList.contains '\x00' then .error .nameTooLong
  else t.follow last path

/-- The canonical path and the node of something that exists. -/
def existing (t : Tree) (path : String) : Except SystemError (List String × Node) :=
  match t.find true path with
  | .error cause => .error cause
  | .ok (.missing _ _) => .error .notFound
  | .ok (.node place n) => .ok (place, n)

/-- The canonical form of a path, which may be longer than a path that is opened. -/
def canonical (t : Tree) (path : String) : Except SystemError String :=
  match t.follow true path with
  | .error cause => .error cause
  | .ok (.missing _ _) => .error .notFound
  | .ok (.node place _) => .ok (showPath place)

/-- Whether a path leads to something. -/
def exists? (t : Tree) (path : String) : Bool :=
  match t.existing path with
  | .ok _ => true
  | .error _ => false

/-- The content of a file; the endless device is taken for empty. -/
def read (t : Tree) (path : String) : Except SystemError Bytes :=
  match t.existing path with
  | .error cause => .error cause
  | .ok (_, .file content _) => .ok content
  | .ok (_, .directory _) => .error .isDirectory
  | .ok (_, _) => .ok []

/-- The text of a file. -/
def readText (t : Tree) (path : String) : Except SystemError (List Char) :=
  match t.read path with
  | .error cause => .error cause
  | .ok bytes =>
    match Utf8.decode? bytes with
    | some text => .ok text
    | none => .error .notText

/-- Where a file is written: the canonical path, and the node that is there already. -/
def place (t : Tree) (path : String) : Except SystemError (List String × Option Node) :=
  match t.find true path with
  | .error cause =>
    if path.endsWith "/" && cause == .notFound then .error .isDirectory else .error cause
  | .ok (.missing directory name) => .ok (directory ++ [name], none)
  | .ok (.node _ (.directory _)) => .error .isDirectory
  | .ok (.node place n) => .ok (place, some n)

/-- Changes the content of a file; one that is missing is made, and devices stay as they are. -/
def modify (t : Tree) (path : String) (f : Bytes → Bytes) : Except SystemError Tree :=
  match t.place path with
  | .error cause => .error cause
  | .ok (place, none) => .ok { t with root := t.root.put place (.file (f []) false) }
  | .ok (place, some (.file content executable)) =>
    .ok { t with root := t.root.put place (.file (f content) executable) }
  | .ok (_, some _) => .ok t

/-- Gives a file a new content. -/
def write (t : Tree) (path : String) (content : Bytes) : Except SystemError Tree :=
  match t.place path, content with
  | .ok (_, some (.device .full)), _ :: _ => .error .noSpace
  | _, _ => t.modify path fun _ => content

/-- Puts bytes at the end of a file. -/
def append (t : Tree) (path : String) (content : Bytes) : Except SystemError Tree :=
  t.modify path (· ++ content)

/-- The names in a directory, sorted. -/
def names (t : Tree) (path : String) : List String :=
  match t.existing path with
  | .ok (_, .directory entries) => (entries.map (·.1)).mergeSort
  | _ => []

/-- The tree with a node put at a path of plain components, directories being made on the way. -/
def plant (t : Tree) (path : String) (n : Node) : Tree :=
  let parts := (path.splitOn "/").filter (· ≠ "")
  let place := if isAbsolute path then parts else t.workingDirectory ++ parts
  { t with root := t.root.put place n }

end Tree

end Lockstep.Files
