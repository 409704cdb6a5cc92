import TemporalNetwork.Decimal
import TemporalNetwork.Text.Digit
import TemporalNetwork.Text.Quoted
import TemporalNetwork.Text.Split

/-!
What names the machine in an address. Between brackets it is eight groups of hexadecimal digits, some
of which may be left out once, or a letter v and a form of a later version. Characters that unfold
into one that ends a part of an address are refused.
-/

namespace TemporalNetwork.CommandLine.Host

inductive Fault where
  | brackets
  | later
  | short
  | unknown (host : String)
  | unfolding (authority : String)
  deriving DecidableEq, Repr

def Fault.message : Fault → String
  | .brackets => "Invalid IPv6 URL"
  | .later => "IPvFuture address is invalid"
  | .short => "An IPv4 address cannot be in brackets"
  | .unknown host => Text.quoted host ++ " does not appear to be an IPv4 or IPv6 address"
  | .unfolding authority =>
    "netloc '" ++ authority ++ "' contains invalid characters under NFKC normalization"

def isHexDigit (c : Char) : Bool := (Text.hexDigit? c).isSome

def isOctet (cs : List Char) : Bool :=
  !cs.isEmpty && cs.length ≤ 3 && cs.all Char.isDigit &&
    (cs.length = 1 || cs.head? ≠ some '0') && Decimal.value cs < 256

def isShort (cs : List Char) : Bool :=
  (Text.split '.' cs).length = 4 && (Text.split '.' cs).all isOctet

def isGroup (cs : List Char) : Bool := !cs.isEmpty && cs.length ≤ 4 && cs.all isHexDigit

def widen (groups : List (List Char)) : List (List Char) :=
  match groups.getLast? with
  | some last => if isShort last then groups.dropLast ++ [['0'], ['0']] else groups
  | none => groups

def sideLength? (groups : List (List Char)) : Option Nat :=
  if groups = [[]] then some 0 else if groups.all isGroup then some groups.length else none

/-- Eight groups, or fewer with an empty one inside for those that are left out. -/
def areGroups (groups : List (List Char)) : Bool :=
  let before := 1 + ((groups.drop 1).takeWhile (! ·.isEmpty)).length
  if before + 1 < groups.length then
    match sideLength? (groups.take before), sideLength? (groups.drop (before + 1)) with
    | some high, some low => high + low < 8
    | _, _ => false
  else groups.length = 8 && groups.all isGroup

def isLong (cs : List Char) : Bool :=
  let (groups, zone) := Text.splitFirst '%' cs
  (groups = cs || !zone.isEmpty && !zone.contains '%') && 3 ≤ (Text.split ':' groups).length &&
    areGroups (widen (Text.split ':' groups))

def isLater : List Char → Bool
  | 'v' :: rest =>
    let (version, form) := Text.splitFirst '.' rest
    !version.isEmpty && version.all isHexDigit && !form.isEmpty
  | _ => false

def checkBracketed (host : List Char) : Except Fault Unit :=
  if host.head? = some 'v' then if isLater host then .ok () else .error .later
  else if isShort host then .error .short
  else if isLong host then .ok ()
  else .error (.unknown (String.ofList host))

/-- What brackets enclose: nothing may stand in front, and behind them only a colon and what follows
it. Where there are none, what stands before the first colon. -/
def bracketed (place : List Char) : Except Fault (List Char) :=
  if place.contains '[' then
    let (before, rest) := Text.splitFirst '[' place
    let (host, after) := Text.splitFirst ']' rest
    if before.isEmpty && after.head?.all (· = ':') then .ok host else .error .brackets
  else .ok (Text.splitFirst ':' place).1

def dropUser (authority : List Char) : List Char :=
  (authority.reverse.takeWhile (· ≠ '@')).reverse

def checkBrackets (authority : List Char) : Except Fault Unit :=
  if authority.contains '[' ≠ authority.contains ']' then .error .brackets
  else if authority.contains '[' then (bracketed (dropUser authority)).bind checkBracketed
  else .ok ()

/-- The characters with a compatibility form that has a slash, a question mark, a hash sign, an at
sign or a colon in it. -/
def unfolding : List Nat := [
  0x2047, 0x2048, 0x2049, 0x2100, 0x2101, 0x2105, 0x2106, 0x2a74, 0xfe13, 0xfe16, 0xfe55, 0xfe56,
  0xfe5f, 0xfe6b, 0xff03, 0xff0f, 0xff1a, 0xff1f, 0xff20]

def check (authority : List Char) : Except Fault Unit :=
  (checkBrackets authority).bind fun _ =>
    if authority.any fun c => unfolding.contains c.toNat then
      .error (.unfolding (String.ofList authority))
    else .ok ()

end TemporalNetwork.CommandLine.Host
