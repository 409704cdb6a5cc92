import TemporalNetwork.CommandLine.Host
import TemporalNetwork.Encoding.Punycode

/-!
Names of machines. A name is put into ASCII label by label before it is looked up; numbers and the
name of this machine are found without asking anyone, and there is no one to ask or to answer.
-/

namespace TemporalNetwork.CommandLine.Machine

/-! ## Names in ASCII -/

inductive NameFault where
  | label
  | lastLabel
  | forbidden (c : Char)
  | marked
  | zeroCharacter
  deriving DecidableEq, Repr

def NameFault.reason : NameFault → String
  | .label => "label empty or too long"
  | .lastLabel => "label too long"
  | .forbidden c => "Invalid character " ++ Text.quoted (String.ofList [c])
  | .marked => "Label starts with ACE prefix"
  | .zeroCharacter => "gethostbyname() argument 1 must be encoded string without null bytes, not str"

def NameFault.message : NameFault → String
  | .zeroCharacter => NameFault.reason .zeroCharacter
  | fault => "encoding with 'idna' codec failed (UnicodeError: " ++ fault.reason ++ ")"

def isAscii (cs : List Char) : Bool := cs.all fun c => c.toNat < 0x80

def isAmong (ranges : List (Nat × Nat)) (c : Char) : Bool :=
  ranges.any fun (first, last) => first ≤ c.toNat && c.toNat ≤ last

def ignored : List (Nat × Nat) := [
  (0xad, 0xad), (0x34f, 0x34f), (0x1806, 0x1806), (0x180b, 0x180d), (0x200b, 0x200d),
  (0x2060, 0x2060), (0xfe00, 0xfe0f), (0xfeff, 0xfeff)]

/-- The characters that no label may have: control, layout and private characters, and codes that
are no characters. -/
def forbidden : List (Nat × Nat) := [
  (0x80, 0x9f), (0x6dd, 0x6dd), (0x70f, 0x70f), (0x1680, 0x1680), (0x180e, 0x180e),
  (0x200e, 0x200f), (0x2028, 0x202e), (0x2061, 0x2063), (0x206a, 0x206f), (0x2ff0, 0x2ffb),
  (0xe000, 0xf8ff), (0xfdd0, 0xfdef), (0xfff9, 0xffff), (0x1d173, 0x1d17a), (0xe0001, 0xe0001),
  (0xe0020, 0xe007f), (0xf0000, 0x10ffff)]

def isForbidden (c : Char) : Bool := isAmong forbidden c || 0xfffe ≤ c.toNat % 0x10000

def spaces : List (Nat × Nat) := [
  (0xa0, 0xa0), (0x2000, 0x200a), (0x202f, 0x202f), (0x205f, 0x205f), (0x3000, 0x3000)]

def plainForm (c : Char) : Char :=
  if 0xff01 ≤ c.toNat && c.toNat ≤ 0xff5e then (Char.ofNat (c.toNat - 0xfee0)).toLower
  else if isAmong spaces c then ' '
  else c.toLower

def sized (label : List Char) : Except NameFault (List Char) :=
  if label.isEmpty || 64 ≤ label.length then .error .label else .ok label

def mark : List Char := ['x', 'n', '-', '-']

def encodeLabel (label : List Char) : Except NameFault (List Char) :=
  if isAscii label then sized label
  else
    let prepared := (label.filter fun c => !isAmong ignored c).map plainForm
    match prepared.find? isForbidden with
    | some c => .error (.forbidden c)
    | none =>
      if isAscii prepared then sized prepared
      else if mark.isPrefixOf prepared then .error .marked
      else sized (mark ++ Punycode.encode prepared)

def isPoint (c : Char) : Bool :=
  c = '.' || c.toNat = 0x3002 || c.toNat = 0xff0e || c.toNat = 0xff61

def encodeLabels : List (List Char) → Except NameFault (List (List Char))
  | [] => .ok []
  | label :: rest =>
    match encodeLabel label with
    | .error fault => .error fault
    | .ok encoded => (encodeLabels rest).map (encoded :: ·)

def encodeName (name : List Char) : Except NameFault (List Char) :=
  let labels := Text.split '.' (name.map fun c => if isPoint c then '.' else c)
  if isAscii name then
    if labels.dropLast.any fun label => label.isEmpty || 64 ≤ label.length then .error .label
    else if labels.getLast?.any fun label => 64 ≤ label.length then .error .lastLabel
    else .ok name
  else
    let ending := if labels.getLast? = some [] then labels.dropLast else labels
    (encodeLabels ending).map fun encoded =>
      ['.'].intercalate encoded ++ if ending.length < labels.length then ['.'] else []

/-! ## Addresses in numbers -/

/-- A number with the base that its first characters tell: sixteen, eight or ten. -/
def number? (cs : List Char) : Option Nat :=
  let (base, digits) := match cs with
    | '0' :: 'x' :: rest => (16, rest)
    | '0' :: 'X' :: rest => (16, rest)
    | '0' :: c :: rest => (8, c :: rest)
    | _ => (10, cs)
  if digits.isEmpty then none
  else
    (digits.mapM fun c => (Text.hexDigit? c).filter (· < base)).map fun values =>
      values.foldl (fun n d => n * base + d) 0

/-- Joins the parts of an address: a byte each, and whatever is left for the last. -/
def joinParts? (room : Nat) : List Nat → Option Nat
  | [] => none
  | [last] => if last < room then some last else none
  | part :: rest =>
    if part < 256 then (joinParts? (room / 256) rest).map (part * (room / 256) + ·) else none

def numeric? (name : List Char) : Option Nat :=
  let parts := Text.split '.' name
  if 4 < parts.length then none else (parts.mapM number?).bind (joinParts? UInt32.size)

def here : Nat := 0x7f000001

def thisMachine : List Char := "localhost".toList

def address? (name : List Char) : Option Nat :=
  if name.isEmpty then some 0
  else if name.map Char.toLower = thisMachine then some here
  else numeric? name

/-! ## Connections -/

inductive Failure where
  | unknownName
  | noAnswer
  | service
  | refused
  deriving DecidableEq, Repr

def Failure.number : Failure → Int
  | .unknownName => -2
  | .noAnswer => -3
  | .service => -8
  | .refused => 111

def Failure.text : Failure → String
  | .unknownName => "Name or service not known"
  | .noAnswer => "Temporary failure in name resolution"
  | .service => "Servname not supported for ai_socktype"
  | .refused => "Connection refused"

def Failure.message (failure : Failure) : String :=
  "[Errno " ++ Decimal.ofInt failure.number ++ "] " ++ failure.text

def Failure.display (failure : Failure) : String :=
  (match failure with
    | .refused => "ConnectionRefusedError"
    | _ => "gaierror") ++
    "(" ++ Decimal.ofInt failure.number ++ ", '" ++ failure.text ++ "')"

def isNameChar (c : Char) : Bool := c.isAlphanum || c = '-' || c = '_' || c = '.'

def longestName : Nat := 253

def isAskable (name : List Char) : Bool :=
  name.length ≤ longestName && name.all isNameChar && name.head? ≠ some '-'

def askFailure (name : List Char) : Failure := if isAskable name then .noAnswer else .unknownName

def isLikeAddress (name : List Char) : Bool :=
  name.all (fun c => c.isDigit || c = '.') && name.getLast? ≠ some '.'

def find (name : List Char) : Except Failure Nat :=
  match address? name with
  | some address => .ok address
  | none => .error (if isLikeAddress name then .unknownName else askFailure name)

def lookUp (name : List Char) : Except NameFault (Except Failure Nat) :=
  (encodeName name).bind fun encoded =>
    if encoded.contains (Char.ofNat 0) then .error .zeroCharacter else .ok (find encoded)

inductive ConnectFault where
  | name (fault : NameFault)
  | serviceRange
  | failed (failure : Failure)
  deriving DecidableEq, Repr

/-- What connecting to a service of a machine comes to. The number of the service has to be a machine
word, of which the lower half counts and may not be negative. -/
def connectFault (name : List Char) (service : Int) : ConnectFault :=
  match encodeName name with
  | .error fault => .name fault
  | .ok encoded =>
    if service < Int64.minValue.toInt || Int64.maxValue.toInt < service then .serviceRange
    else if 0x80000000 ≤ service % 0x100000000 then .failed .service
    else if encoded.isEmpty then .failed .unknownName
    else if (address? encoded).isSome || Host.isLong encoded then .failed .refused
    else .failed (askFailure encoded)

end TemporalNetwork.CommandLine.Machine
