import TemporalNetwork.CommandLine.Machine
import TemporalNetwork.CommandLine.Number
import TemporalNetwork.Encoding.Narrow

/-!
A request to a web server. The server and the number of its service, the line that asks for a path
and the line that names the server are checked, in this order, before a connection is tried.
-/

namespace TemporalNetwork.CommandLine.WebRequest

inductive Fault where
  | service (word : String)
  | control (text : String) (c : Char)
  | encoding (error : Narrow.Error)
  | header (value : List UInt8)
  | connection (fault : Machine.ConnectFault)
  deriving DecidableEq, Repr

/-! ## The server -/

def standardService : Int := 80

/-- What stands before the last colon and behind it; a colon before a closing bracket is none. -/
def splitService (server : List Char) : List Char × Option (List Char) :=
  let word := (server.reverse.takeWhile (· ≠ ':')).reverse
  if server.contains ':' && !word.contains ']' then
    (server.take (server.length - word.length - 1), some word)
  else (server, none)

def serviceNumber : Option (List Char) → Except Fault Int
  | none => .ok standardService
  | some [] => .ok standardService
  | some word =>
    match readWhole? (String.ofList word) with
    | some number => .ok number
    | none => .error (.service (String.ofList word))

def dropBrackets (machine : List Char) : List Char :=
  if machine.head? = some '[' && machine.getLast? = some ']' then (machine.drop 1).dropLast
  else machine

/-! ## Lines -/

def isControl (c : Char) : Bool := c.toNat ≤ 0x20 || c.toNat = 0x7f

def checkControl (cs : List Char) : Except Fault Unit :=
  match cs.find? isControl with
  | some c => .error (.control (String.ofList cs) c)
  | none => .ok ()

def line (path : List Char) : List Char := "GET ".toList ++ path ++ " HTTP/1.1".toList

/-- Whether a line ends in the middle of a value: only a blank may stand behind its end. -/
def breaksLine : List UInt8 → Bool
  | [] => false
  | byte :: rest =>
    let goesOn := rest.head?.any fun next => next = 32 || next = 9
    (byte = 10 && !goesOn) || (byte = 13 && !goesOn && rest.head? ≠ some 10) || breaksLine rest

def encodeLine (encoding : Narrow.Encoding) (cs : List Char) : Except Fault (List UInt8) :=
  (Narrow.encode encoding cs).mapError .encoding

def checkHeader (server : List Char) : Except Fault Unit :=
  (encodeLine .latin server).bind fun bytes =>
    if breaksLine bytes then .error (.header bytes) else .ok ()

/-! ## The request -/

def prepare (server path : List Char) : Except Fault (List Char × Int) := do
  let (machine, word) := splitService server
  let number ← serviceNumber word
  let name := dropBrackets machine
  checkControl name
  let path := if path.isEmpty then ['/'] else path
  checkControl path
  let _ ← encodeLine .ascii (line path)
  checkHeader server
  return (name, number)

def fault (server path : List Char) : Fault :=
  match prepare server path with
  | .error fault => fault
  | .ok (name, number) => .connection (Machine.connectFault name number)

end TemporalNetwork.CommandLine.WebRequest
