import TemporalNetwork.CommandLine.Flag

/-!
The usage line of a program, broken at a width of seventy-eight characters, and its help, with the
purposes of the options in a column of their own.
-/

namespace TemporalNetwork.CommandLine

def lineWidth : Nat := 78

def purposeColumn : Nat := 24

def spaces (n : Nat) : String := String.ofList (List.replicate n ' ')

def usageWord : String := "usage: "

def Flag.usageParts (flag : Flag) : List String :=
  let name := flag.names.headD ""
  let words := match flag.placeholder? with
    | none => [name]
    | some placeholder => [name, placeholder]
  if flag.isRequired then words else ["[" ++ String.intercalate " " words ++ "]"]

/-- Breaks parts into lines, of which none but a line of one part is too long. `line` holds the
parts of the line so far, the last first, and `used` its length. -/
def breakLines (indent used : Nat) (line : List String) : List String → List (List String)
  | [] => if line.isEmpty then [] else [line.reverse]
  | part :: rest =>
    if lineWidth < used + 1 + part.length && !line.isEmpty then
      line.reverse :: breakLines indent (indent + part.length) [part] rest
    else breakLines indent (used + 1 + part.length) (part :: line) rest

/-- Later lines begin under the first option, or under the program's name if that is long. -/
def usage (program : String) : String :=
  let parts := Flag.all.flatMap Flag.usageParts
  let single := usageWord ++ String.intercalate " " (program :: parts)
  if single.length ≤ lineWidth then single ++ "\n"
  else if 4 * (usageWord.length + program.length) ≤ 3 * lineWidth then
    let indent := usageWord.length + program.length + 1
    let lines := breakLines indent (usageWord.length - 1) [] (program :: parts)
    usageWord ++ String.intercalate ("\n" ++ spaces indent) (lines.map (String.intercalate " ")) ++
      "\n"
  else
    let indent := usageWord.length
    let lines := breakLines indent (indent - 1) [] parts
    usageWord ++ String.intercalate ("\n" ++ spaces indent)
      (program :: lines.map (String.intercalate " ")) ++ "\n"

def Flag.invocation (flag : Flag) : String :=
  String.intercalate ", " (flag.names.map fun name =>
    match flag.placeholder? with
    | none => name
    | some placeholder => name ++ " " ++ placeholder)

def Flag.helpEntry (flag : Flag) : String :=
  let shown := "  " ++ flag.invocation
  if shown.length + 2 ≤ purposeColumn then
    shown ++ spaces (purposeColumn - shown.length) ++ flag.purpose ++ "\n"
  else shown ++ "\n" ++ spaces purposeColumn ++ flag.purpose ++ "\n"

def help (program : String) : String :=
  usage program ++ "\nGenerate a synthetic temporal graph.\n\noptions:\n" ++
    String.join (Flag.all.map Flag.helpEntry)

end TemporalNetwork.CommandLine
