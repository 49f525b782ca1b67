import Screenplay.Config.Layers

/-!
# Folders

A folder holds files under relative paths.  Looking up a path goes through its
components one by one; `.` and empty components stay where they are, and `..` goes
up.  What is outside of the folder is taken to be empty.
-/

namespace Screenplay.CommandLine

/-- Something in a folder. -/
inductive Entry where
  | file (bytes : ByteArray)
  | folder

/-- A folder, by the paths of what it holds. -/
structure Folder where
  entries : List (String × Entry)

namespace Folder

/-- The longest name of a file, in bytes. -/
def nameLimit : Nat := 255

/-- The components of a path. -/
def components (path : String) : List String :=
  (path.splitToList (· == '/'))

/-- What is in a folder at the end of some components.  A folder is also there when
something is inside it. -/
def entry? (folder : Folder) (place : List String) : Option Entry :=
  let path := "/".intercalate place
  match place, folder.entries.lookup path with
  | [], _ => some .folder
  | _, some entry => some entry
  | _, none =>
      if folder.entries.any fun entry => (path ++ "/").isPrefixOf entry.1 then some .folder
      else none

/-- Follow components from a place, of which there is none outside of the folder. -/
def follow (folder : Folder) (place : Option (List String)) : List String → FileState
  | [] =>
      match place.map folder.entry? with
      | some none => .absent
      | some (some (.file bytes)) => .ofBytes bytes
      | some (some .folder) => .unreadable
      | none => .unreadable
  | component :: rest =>
      match place.map folder.entry? with
      | some none => .absent
      | some (some (.file _)) => .unreadable
      | _ =>
          if component.isEmpty || component == "." then
            folder.follow place rest
          else if component == ".." then
            folder.follow
              (place.bind fun names => if names.isEmpty then none else some names.dropLast) rest
          else if nameLimit < component.utf8ByteSize then .unreadable
          else
            match place with
            | none => .absent
            | some names => folder.follow (some (names ++ [component])) rest

/-- What is found under a path. -/
def read (folder : Folder) (path : String) : FileState :=
  folder.follow (if "/".isPrefixOf path then none else some []) (components path)

end Folder

end Screenplay.CommandLine
