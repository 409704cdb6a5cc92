import TemporalNetwork.CommandLine.Address
import TemporalNetwork.Text.Blank

/-!
The destination of a table, as a word of the command line names it. An address is opened for
reading, so what goes there is lost. Other words are paths, of files in directories that are there.
Stores that need a package and packed files that need one cannot be written.
-/

namespace TemporalNetwork.CommandLine.Destination

inductive Fault where
  | host (fault : Host.Fault)
  | address (fault : AddressFault)
  | package (name : String)
  | directory (path : String)
  | file (path : String) (fault : Workspace.PathFault)
  deriving DecidableEq, Repr

def Fault.message : Fault → String
  | .host fault => fault.message
  | .address fault => fault.message
  | .package name =>
    "`Import " ++ name ++ "` failed.  Use pip, conda, or your preferred package management tool " ++
      "to install the " ++ name ++ " package."
  | .directory path => "Cannot save file into a non-existent directory: '" ++ path ++ "'"
  | .file path fault => fault.message path

def expandHome (home word : String) : String :=
  match word.toList with
  | '~' :: rest =>
    if rest.head?.all (· = '/') then
      let above := (home.toList.reverse.dropWhile (· = '/')).reverse
      if above ++ rest = [] then "/" else String.ofList (above ++ rest)
    else word
  | _ => word

/-- Whether a word leads to a store: scheme characters with a letter in front, then two colons and
more of them any number of times, and a colon and two slashes. -/
def isStore (word : List Char) : Bool :=
  word.head?.any Address.isLetter && afterName true word
where
  /-- Goes on in a name of a chain; `filled` tells that it has a character. -/
  afterName (filled : Bool) : List Char → Bool
    | ':' :: ':' :: rest => filled && afterName false rest
    | ':' :: '/' :: '/' :: _ => filled
    | c :: rest => Address.isSchemeChar c && afterName true rest
    | [] => false

def needsPacking (word : List Char) : Bool :=
  (word.map Char.toLower).drop (word.length - 4) = ['.', 'z', 's', 't']

def saveFile (workspace : Workspace) (path : String) (packed : Bool) (content : List UInt8) :
    Except Fault Workspace :=
  let above := Workspace.parentPath path
  match workspace.isDirectory above with
  | .error fault => .error (.file above fault)
  | .ok false => .error (.directory above)
  | .ok true =>
    if packed then .error (.package "zstandard")
    else
      match workspace.write path content with
      | .error fault => .error (.file path fault)
      | .ok after => .ok after

def save (home : String) (workspace : Workspace) (word : String) (content : List UInt8) :
    Except Fault Workspace :=
  let path := expandHome home word
  let cs := Address.significant path.toList
  let packed := needsPacking path.toList
  match Host.check (Address.authority (Address.splitScheme cs).2) with
  | .error fault => .error (.host fault)
  | .ok () =>
    if Address.schemes.contains (Address.splitScheme cs).1 then
      match (Address.ofWord path.toList).openAt workspace with
      | .error fault => .error (.address fault)
      | .ok () => if packed then .error (.package "zstandard") else .ok workspace
    else if isStore path.toList then .error (.package "fsspec")
    else saveFile workspace path packed content

end TemporalNetwork.CommandLine.Destination
