import TemporalNetwork.Text.Quoted
import TemporalNetwork.Text.Split
import TemporalNetwork.Workspace

/-!
Paths in a working directory. A path that begins with a slash starts at the root; each part of a
path but the last has to be a directory that is there. A slash at the end says that the last part
is a directory, so no file can be created there.
-/

namespace TemporalNetwork.Workspace

inductive PathFault where
  | missing
  | notDirectory
  | directory
  | nameTooLong
  | zeroCharacter
  deriving DecidableEq, Repr

def PathFault.message (path : String) : PathFault → String
  | .missing => "[Errno 2] No such file or directory: " ++ Text.quoted path
  | .notDirectory => "[Errno 20] Not a directory: " ++ Text.quoted path
  | .directory => "[Errno 21] Is a directory: " ++ Text.quoted path
  | .nameTooLong => "[Errno 36] File name too long: " ++ Text.quoted path
  | .zeroCharacter => "embedded null byte"

/-! ## Parts -/

def parts (path : String) : List String :=
  (Text.split '/' path.toList).map String.ofList

/-- How a path shows that it starts at the root: two slashes are kept apart from one, and more are
one. -/
def rootMark (path : String) : String :=
  match (path.toList.takeWhile (· == '/')).length with
  | 0 => ""
  | 2 => "//"
  | _ => "/"

def parentPath (path : String) : String :=
  let names := ((parts path).filter fun name => name ≠ "" && name ≠ ".").dropLast
  let joined := rootMark path ++ String.intercalate "/" names
  if joined = "" then "." else joined

/-! ## Walking -/

def longestName : Nat := 255

def longestPath : Nat := 4095

/-- Where a path ends: at a directory that is there already, or at a name in one, with or without a
slash behind it. -/
inductive Goal where
  | directory
  | name (above : Place) (name : String) (slash : Bool)
  deriving DecidableEq, Repr

def enter (workspace : Workspace) (here : Place) (name : String) : Except PathFault Place :=
  if longestName < name.utf8ByteSize then .error .nameTooLong
  else
    match workspace.lookup? (here ++ [name]) with
    | some .directory => .ok (here ++ [name])
    | some (.file _) => .error .notDirectory
    | none => .error .missing

def walk (workspace : Workspace) (here : Place) : List String → Except PathFault Goal
  | [] => .ok .directory
  | name :: rest =>
    if name = "" || name = "." then walk workspace here rest
    else if name = ".." then walk workspace (parent here) rest
    else if rest.all (· == "") then .ok (.name here name (!rest.isEmpty))
    else
      match workspace.enter here name with
      | .error fault => .error fault
      | .ok place => walk workspace place rest

def locate (workspace : Workspace) (path : String) : Except PathFault Goal :=
  if path.toList.contains (Char.ofNat 0) then .error .zeroCharacter
  else if path = "" then .error .missing
  else if longestPath < path.utf8ByteSize then .error .nameTooLong
  else walk workspace (if path.toList.head? = some '/' then ["/"] else []) (parts path)

def find (workspace : Workspace) (path : String) : Except PathFault Entry :=
  match workspace.locate path with
  | .error fault => .error fault
  | .ok .directory => .ok .directory
  | .ok (.name above name slash) =>
    if longestName < name.utf8ByteSize then .error .nameTooLong
    else
      match workspace.lookup? (above ++ [name]) with
      | none => .error .missing
      | some .directory => .ok .directory
      | some (.file content) => if slash then .error .notDirectory else .ok (.file content)

/-- Whether a path leads to a directory. A path that is too long leaves it open. -/
def isDirectory (workspace : Workspace) (path : String) : Except PathFault Bool :=
  match workspace.find path with
  | .ok entry => .ok (entry == .directory)
  | .error .nameTooLong => .error .nameTooLong
  | .error _ => .ok false

/-! ## Files -/

def read (workspace : Workspace) (path : String) : Except PathFault (List UInt8) :=
  match workspace.find path with
  | .error fault => .error fault
  | .ok .directory => .error .directory
  | .ok (.file content) => .ok content

def write (workspace : Workspace) (path : String) (content : List UInt8) :
    Except PathFault Workspace :=
  match workspace.locate path with
  | .error fault => .error fault
  | .ok .directory => .error .directory
  | .ok (.name _ _ true) => .error .directory
  | .ok (.name above name false) =>
    if longestName < name.utf8ByteSize then .error .nameTooLong
    else if workspace.lookup? (above ++ [name]) = some .directory then .error .directory
    else .ok (workspace.put (above ++ [name]) content)

end TemporalNetwork.Workspace
