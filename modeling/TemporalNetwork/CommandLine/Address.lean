import TemporalNetwork.CommandLine.WebRequest
import TemporalNetwork.Encoding.Utf8
import TemporalNetwork.Seed.Hex
import TemporalNetwork.Workspace.Path

/-!
Addresses: words that begin with a scheme. Of all that addresses can name, only a file is within
reach.
-/

namespace TemporalNetwork.CommandLine

inductive OpenFault where
  | unknownScheme (scheme : String)
  | noHost
  | noServer
  | foreignFile
  | foreignHost
  | file (path : String) (fault : Workspace.PathFault)
  | unreached (failure : Machine.Failure)
  | serverUnreached (failure : Machine.Failure)
  deriving DecidableEq, Repr

def OpenFault.reason : OpenFault → String
  | .unknownScheme scheme => "unknown url type: " ++ scheme
  | .noHost => "no host given"
  | .noServer => "ftp error: no host given"
  | .foreignFile => "file:// scheme is supported only on localhost"
  | .foreignHost => "file not on local host"
  | .file path fault => fault.message path
  | .unreached failure => failure.message
  | .serverUnreached failure => "ftp error: " ++ failure.display

inductive AddressFault where
  | unopened (fault : OpenFault)
  | zeroCharacter
  | name (fault : Machine.NameFault)
  | serviceDigits (count : Nat)
  | serviceRange
  | serviceWord (word : String)
  | control (text : String) (c : Char)
  | encoding (error : Narrow.Error)
  | header (value : List UInt8)
  deriving DecidableEq, Repr

def AddressFault.message : AddressFault → String
  | .unopened fault => "<urlopen error " ++ fault.reason ++ ">"
  | .zeroCharacter => Workspace.PathFault.message "" .zeroCharacter
  | .name fault => fault.message
  | .serviceDigits count => Decimal.tooManyMessage count
  | .serviceRange => "Python int too large to convert to C long"
  | .serviceWord word => "nonnumeric port: '" ++ word ++ "'"
  | .control text c =>
    "URL can't contain control characters. " ++ Text.quoted text ++ " (found at least " ++
      Text.quoted (String.ofList [c]) ++ ")"
  | .encoding error => error.message
  | .header value => "Invalid header value " ++ Text.quotedBytes value

def AddressFault.ofConnect (unreached : Machine.Failure → OpenFault) :
    Machine.ConnectFault → AddressFault
  | .name fault => .name fault
  | .serviceRange => .serviceRange
  | .failed failure => .unopened (unreached failure)

def AddressFault.ofRequest : WebRequest.Fault → AddressFault
  | .service word => .serviceWord word
  | .control text c => .control text c
  | .encoding error => .encoding error
  | .header value => .header value
  | .connection fault => .ofConnect .unreached fault

structure Address where
  scheme : String
  host : Option String
  rest : List Char
  deriving DecidableEq, Repr

namespace Address

def schemes : List String := [
  "file", "ftp", "git", "git+ssh", "gopher", "hdl", "http", "https", "imap", "mms", "nfs", "nntp",
  "prospero", "rsync", "rtsp", "rtspu", "sftp", "shttp", "sip", "sips", "snews", "svn",
  "svn+ssh", "tel", "telnet", "wais", "ws", "wss"]

def isLetter (c : Char) : Bool := c.toNat < 0x80 && c.isAlpha

def isSchemeChar (c : Char) : Bool := isLetter c || c.isDigit || c = '+' || c = '-' || c = '.'

/-- What counts of a word when its scheme is looked for: no control characters in front, and no
tabs and line ends at all. -/
def significant (word : List Char) : List Char :=
  (word.dropWhile fun c => c.toNat ≤ 0x20).filter fun c => c ≠ '\t' && c ≠ '\r' && c ≠ '\n'

def splitScheme (cs : List Char) : String × List Char :=
  let (name, rest) := Text.splitFirst ':' cs
  if name.length < cs.length && name.head?.any isLetter && name.all isSchemeChar then
    (String.ofList (name.map Char.toLower), rest)
  else ("", cs)

def authority : List Char → List Char
  | '/' :: '/' :: rest => rest.takeWhile fun c => c ≠ '/' && c ≠ '?' && c ≠ '#'
  | _ => []

def dropTag (cs : List Char) : List Char :=
  match cs.reverse.dropWhile (· ≠ '#') with
  | [] => cs
  | _ :: before => before.reverse

def isGap (c : Char) : Bool := Text.isBlank c || (0x1c ≤ c.toNat && c.toNat ≤ 0x1f)

def strip (cs : List Char) : List Char :=
  ((cs.dropWhile isGap).reverse.dropWhile isGap).reverse

def escapedByte? : List Char → Option UInt8
  | '%' :: high :: low :: _ =>
    (Text.hexDigit? high).bind fun h => (Text.hexDigit? low).map (Hex.byteOfDigits h)
  | _ => none

def unescapedBytes (cs : List Char) : List UInt8 :=
  match cs with
  | [] => []
  | c :: rest =>
    match escapedByte? (c :: rest) with
    | some byte => byte :: unescapedBytes (rest.drop 2)
    | none => Utf8.encodeChar c ++ unescapedBytes rest
termination_by cs.length
decreasing_by all_goals simp only [List.length_cons, List.length_drop] <;> omega

def unescape (cs : List Char) : String :=
  String.ofList (Utf8.decodeLeniently (unescapedBytes cs))

def ofWord (word : List Char) : Address :=
  let (scheme, rest) := Text.splitFirst ':' (dropTag (strip word))
  let name := String.ofList (scheme.map Char.toLower)
  match rest with
  | '/' :: '/' :: path =>
    let host := authority rest
    let path := path.drop host.length
    { scheme := name
      host := some (unescape host)
      rest := if path.head?.all (· = '/') then path else '/' :: path }
  | _ => { scheme := name, host := none, rest }

def splitService (host : List Char) : List Char × Option (List Char) :=
  let digits := (host.reverse.takeWhile Char.isDigit).reverse
  match (host.take (host.length - digits.length)).reverse with
  | ':' :: before => (before.reverse, if digits.isEmpty then none else some digits)
  | _ => (host, none)

/-- Whether a host is this machine. One that names a service is not, unless it names
nothing else. -/
def isHere (host : List Char) : Except AddressFault Bool :=
  match splitService host with
  | ([], _) => .ok true
  | (_, some _) => .ok false
  | (name, none) =>
    match Machine.lookUp name with
    | .error fault => .error (.name fault)
    | .ok (.ok address) => .ok (address = Machine.here)
    | .ok (.error _) => .ok false

/-- Whether the file of an address is looked for at all: a path with two slashes in front has to be on
a machine that is called this one. -/
def isSought (address : Address) : Bool :=
  let host := address.host.getD ""
  address.rest.take 2 ≠ ['/', '/'] || (address.rest.drop 2).head? = some '/' || host = "" ||
    host.toList = Machine.thisMachine

def openFile (workspace : Workspace) (address : Address) : Except AddressFault Unit :=
  let host := address.host.getD ""
  let path := unescape address.rest
  if !address.isSought then
    .error (.unopened (if host = "127.0.0.1" then .unknownScheme "file" else .foreignFile))
  else
    match workspace.find path with
    | .error .zeroCharacter => .error .zeroCharacter
    | .error fault => .error (.unopened (.file path fault))
    | .ok entry =>
      (isHere host.toList).bind fun here =>
        if !here then .error (.unopened .foreignHost)
        else if entry = .directory then .error (.unopened (.file path .directory))
        else .ok ()

def fileService : Option (List Char) → Except AddressFault Int
  | none => .ok 21
  | some digits =>
    if Decimal.mostDigits < digits.length then .error (.serviceDigits digits.length)
    else .ok (Decimal.value digits)

/-- What asking a file server comes to. The name of the server stands behind that of the user. -/
def serverFault (host : String) : AddressFault :=
  let (place, digits) := splitService host.toList
  match fileService digits with
  | .error fault => fault
  | .ok service =>
    let name := (unescape (Host.dropUser place)).toList
    match Machine.lookUp name with
    | .error fault => .name fault
    | .ok (.error failure) => .unopened (.unreached failure)
    | .ok (.ok _) => .ofConnect .serverUnreached (Machine.connectFault Machine.thisMachine service)

def openAt (workspace : Workspace) (address : Address) : Except AddressFault Unit :=
  let host := address.host.getD ""
  match address.scheme with
  | "file" => address.openFile workspace
  | "http" | "https" =>
    .error (if host = "" then .unopened .noHost
      else .ofRequest (WebRequest.fault host.toList address.rest))
  | "ftp" => .error (if host = "" then .unopened .noServer else serverFault host)
  | scheme => .error (.unopened (.unknownScheme scheme))

end Address

end TemporalNetwork.CommandLine
