import TemporalNetwork.CommandLine.Run

/-!
The program: reads what the command line names, runs it, and writes what the run left behind.
-/

namespace TemporalNetwork.Main

def values (word : String) : List String :=
  let cs := word.toList
  [cs, cs.drop 2, (Text.splitFirst '=' cs).2].map String.ofList

def candidates (home value : String) : List String :=
  [value, CommandLine.Destination.expandHome home value,
    CommandLine.Address.unescape (CommandLine.Address.ofWord value.toList).rest]

def placesOn (here : Place) : List String → List Place
  | [] => []
  | name :: rest =>
    if name = "" || name = "." then placesOn here rest
    else
      let next := if name = ".." then Workspace.parent here else here ++ [name]
      next :: placesOn next rest

def placesOf (path : String) : List Place :=
  placesOn (if path.toList.head? = some '/' then ["/"] else []) (Workspace.parts path)

def pathOf : Place → String
  | "/" :: names => "/" ++ String.intercalate "/" names
  | names => String.intercalate "/" names

/-- Error number 21 says that a directory was opened as a file. -/
def entryAt (place : Place) : IO (Option Workspace.Entry) := do
  try
    let content ← IO.FS.readBinFile (pathOf place)
    return some (.file content.toList)
  catch error =>
    match error with
    | .inappropriateType _ 21 _ => return some .directory
    | _ => return none

def snapshot (home : String) (words : List String) : IO Workspace := do
  let paths := (words.flatMap values).flatMap (candidates home)
  let places := (paths.flatMap placesOf).eraseDups
  let entries ← places.filterMapM fun place => do
    return (← entryAt place).map (place, ·)
  return { entries }

def save (before after : Workspace) : IO Unit := do
  for (place, entry) in after.entries do
    if before.lookup? place != some entry then
      match entry with
      | .file content => IO.FS.writeBinFile (pathOf place) ⟨content.toArray⟩
      | .directory => pure ()

def entropy : IO Seed := do
  let bytes ← IO.getRandomBytes 32
  match Seed.ofBytes bytes.toList with
  | .ok seed => return seed
  | .error _ => return Seed.zero

def memory : Nat := 1 <<< 40

def resources (entropy : Seed) : Resources := { entropy, memory, room := by decide }

def exitCode : CommandLine.Ending → UInt32
  | .returned code => code.toUInt32
  | .exited code => code.toUInt32
  | .escaped _ => 1

end TemporalNetwork.Main

open TemporalNetwork in
def main (arguments : List String) : IO UInt32 := do
  let environment : CommandLine.Environment :=
    { program := "temporal-network"
      home := (← IO.getEnv "HOME").getD "/"
      logLevel := ← IO.getEnv "TEMPOGRAPH_LOG_LEVEL"
      resources := Main.resources (← Main.entropy) }
  let before ← Main.snapshot environment.home arguments
  let outcome := CommandLine.run environment arguments before
  Main.save before outcome.workspace
  IO.eprint outcome.errors
  IO.print outcome.output
  match outcome.ending with
  | .escaped escape => IO.eprintln escape.message
  | _ => pure ()
  return Main.exitCode outcome.ending
