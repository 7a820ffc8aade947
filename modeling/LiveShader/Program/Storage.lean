import LiveShader.Data.Table

/-! The files a program can read. -/

namespace LiveShader

inductive StoredItem where
  | file (text : String)
  | directory
  /-- Something that cannot be read as text. -/
  | unreadable (reason : String)
  deriving DecidableEq, Repr

/-- Files and directories by their paths. What a path leads through is a directory. -/
abbrev Storage := Table String StoredItem

/-- Why a file could not be read. -/
inductive ReadError where
  | notFound
  | isDirectory
  /-- A file stands where the path goes on. -/
  | notDirectory
  | nameTooLong
  /-- The path holds a character that ends paths. -/
  | brokenPath
  | unreadable (reason : String)
  deriving DecidableEq, Repr

def ReadError.message : ReadError → String
  | notFound => "No such file or directory (os error 2)"
  | isDirectory => "Is a directory (os error 21)"
  | notDirectory => "Not a directory (os error 20)"
  | nameTooLong => "File name too long (os error 36)"
  | brokenPath => "file name contained an unexpected NUL byte"
  | unreadable reason => reason

/-- The text of an item that a path ends at. -/
def StoredItem.read : StoredItem → Except ReadError String
  | file text => .ok text
  | directory => .error .isDirectory
  | unreadable reason => .error (.unreadable reason)

namespace Storage

/-- How many bytes a name may have. -/
def longestName : Nat := 255

/-- How many bytes a path may have. -/
def longestPath : Nat := 4095

/-- The names between the slashes of a path. -/
def namesOf (path : String) : List String :=
  (path.toList.splitOn '/').map String.ofList

/-- Whether a name stands for the directory it is looked up in. -/
def isHere (name : String) : Bool :=
  name = "" || name = "."

/-- What is stored at a place below the root, or else below the working directory. -/
def itemAt? (storage : Storage) ( isRooted : Bool) (place : List String) :
    Option StoredItem :=
  let entries := (storage.filter (·.1.startsWith "/" = isRooted)).map fun (path, item) =>
    ((namesOf path).filter (!isHere ·), item)
  match Table.find? entries place with
  | some item => some item
  | none => if entries.any fun entry => place.isPrefixOf entry.1 then some .directory else none

/-- Follows names from a directory. -/
def follow (storage : Storage) ( isRooted : Bool) (place : List String) :
    List String → Except ReadError String
  | [] => .error .isDirectory
  | name :: rest =>
      if isHere name then follow storage isRooted place rest
      else if name = ".." then follow storage isRooted place.dropLast rest
      else if longestName < name.utf8ByteSize then .error .nameTooLong
      else
        match itemAt? storage isRooted (place ++ [name]) with
        | none => .error .notFound
        | some .directory => follow storage isRooted (place ++ [name]) rest
        | some item => if rest.isEmpty then item.read else .error .notDirectory

/-- The text of a file. -/
def read (storage : Storage) (path : String) : Except ReadError String :=
  match Table.find? storage path with
  | some item => item.read
  | none =>
      if path.toList.contains '\x00' then .error .brokenPath
      else if path.isEmpty then .error .notFound
      else if longestPath < path.utf8ByteSize then .error .nameTooLong
      else follow storage (path.startsWith "/") [] (namesOf path)

example : (read [("a/b", .file "text")] "a//./b").toOption = some "text" := by
  decide +kernel

end Storage

end LiveShader
