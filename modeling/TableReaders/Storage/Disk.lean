import TableReaders.Storage.Error

/-!
Directories and files. A store answers two requests: to make a directory with all the directories
above it, and to put a file at a path, in place of a file that is there. A disk is the store that
maps places, lists of names from the root down, to what is there. A path is names between slashes;
an empty name and a single dot stay where they are, two dots go up. A path that ends in a single dot
speaks of what is inside a directory, so that the directory itself is not made for it: once those
above are made, it has to be there.
-/

namespace TableReaders.Storage

class Store (σ : Type) where
  makeDirectory : σ → (path : String) → Attempt σ
  putFile : σ → (path : String) → (contents : String) → Attempt σ

def joinPath (directory file : String) : String :=
  if directory = "" then file
  else if directory.toList.getLast? = some '/' then directory ++ file
  else directory ++ "/" ++ file

def namesFrom (name : List Char) : List Char → List String
  | [] => [String.ofList name.reverse]
  | c :: rest =>
      if c = '/' then String.ofList name.reverse :: namesFrom [] rest
      else namesFrom (c :: name) rest

def pathNames (path : String) : List String :=
  namesFrom [] path.toList

def pathSteps (path : String) : List String :=
  (pathNames path).filter fun name => name != "" && name != "."

def endsInDot (path : String) : Bool :=
  ((pathNames path).filter (· != "")).getLast? == some "."

inductive Node where
  | directory
  | file (contents : ByteArray)

/-- A list of names from the root down. The root is the empty list. -/
abbrev Place := List String

structure Disk where
  /-- What is at each place but the root, every place once. -/
  nodes : List (Place × Node) := []

namespace Disk

-- Both limits count bytes of UTF-8.
def longestName : Nat := 255

def longestPath : Nat := 4095

def hasZero (path : String) : Bool :=
  path.toList.any (·.toNat == 0)

def refusal? (path : String) : Option StorageError :=
  if hasZero path then some .badName
  else if longestPath < path.utf8ByteSize then some .nameTooLong
  else none

def node? (disk : Disk) (place : Place) : Option Node :=
  if place.isEmpty then some .directory else disk.nodes.lookup place

def isDirectory (disk : Disk) (place : Place) : Bool :=
  match disk.node? place with
  | some .directory => true
  | some (.file _) | none => false

def put (disk : Disk) (place : Place) (node : Node) : Disk where
  nodes := (place, node) :: disk.nodes.filter (·.1 != place)

def isDots (name : String) : Bool :=
  name == "" || name == "." || name == ".."

def followDots (place : Place) (name : String) : Place :=
  if name = ".." then place.dropLast else place

def enter (disk : Disk) (place : Place) : List String → Except StorageError Place
  | [] => .ok place
  | name :: rest =>
      if isDots name then disk.enter (followDots place name) rest
      else
        match disk.node? (place ++ [name]) with
        | some .directory => disk.enter (place ++ [name]) rest
        | some (.file _) => .error .notADirectory
        | none => .error (if longestName < name.utf8ByteSize then .nameTooLong else .notFound)

def makeFrom (disk : Disk) (place : Place) : List String → Attempt Disk
  | [] => { store := disk }
  | name :: rest =>
      if isDots name then disk.makeFrom (followDots place name) rest
      else
        match disk.node? (place ++ [name]) with
        | some .directory => disk.makeFrom (place ++ [name]) rest
        | some (.file _) => { store := disk, failure := some .notADirectory }
        | none =>
            if name.utf8ByteSize ≤ longestName then
              (disk.put (place ++ [name]) .directory).makeFrom (place ++ [name]) rest
            else { store := disk, failure := some .nameTooLong }

/-- Makes the directories above the last name, as far as they are missing, and then goes where all
names lead. -/
def makeAbove (disk : Disk) (names : List String) : Attempt Disk :=
  let above := disk.makeFrom [] names.dropLast
  match above.failure with
  | some _ => above
  | none =>
      match above.store.enter [] names with
      | .ok _ => above
      | .error error => { store := above.store, failure := some error }

def makeDirectory (disk : Disk) (path : String) : Attempt Disk :=
  match refusal? path with
  | some error => { store := disk, failure := some error }
  | none =>
      if endsInDot path then disk.makeAbove (pathSteps path) else disk.makeFrom [] (pathSteps path)

def filePlace (disk : Disk) (path : String) : Except StorageError Place := do
  if let some error := refusal? path then throw error
  let names := pathNames path
  let directory ← disk.enter [] names.dropLast
  let name := names.getLastD ""
  if isDots name then .error .isADirectory
  else if longestName < name.utf8ByteSize then .error .nameTooLong
  else if disk.isDirectory (directory ++ [name]) then .error .isADirectory
  else return directory ++ [name]

def putFile (disk : Disk) (path contents : String) : Attempt Disk :=
  match disk.filePlace path with
  | .ok place => { store := disk.put place (.file contents.toUTF8) }
  | .error error => { store := disk, failure := some error }

instance : Store Disk where
  makeDirectory := makeDirectory
  putFile := putFile

def readText (disk : Disk) (path : String) : Except StorageError String := do
  match disk.node? (← disk.filePlace path) with
  | none => .error .notFound
  | some .directory => .error .isADirectory
  | some (.file contents) =>
      match String.fromUTF8? contents with
      | some text => return text
      | none => .error .notText

def hasDirectory (disk : Disk) (path : String) : Bool :=
  match refusal? path, disk.enter [] (pathNames path) with
  | none, .ok _ => true
  | _, _ => false

def files (disk : Disk) : List (String × ByteArray) :=
  disk.nodes.filterMap fun (place, node) =>
    match node with
    | .directory => none
    | .file contents => some ("/".intercalate place, contents)

end Disk

end TableReaders.Storage
