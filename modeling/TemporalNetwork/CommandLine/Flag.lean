import TemporalNetwork.Generation.Registry

/-!
The options of the command line: their names, the words that stand for their values, and what they
are for.
-/

namespace TemporalNetwork.CommandLine

inductive Flag where
  | help | generator | nodes | probability | seed | input | output | edgesCsv | logLevel
  deriving DecidableEq, Repr

namespace Flag

def all : List Flag :=
  [.help, .generator, .nodes, .probability, .seed, .input, .output, .edgesCsv, .logLevel]

def names : Flag → List String
  | .help => ["-h", "--help"]
  | .generator => ["--generator", "-g"]
  | .nodes => ["--nodes", "-n"]
  | .probability => ["--p"]
  | .seed => ["--seed", "-s"]
  | .input => ["--input", "-i"]
  | .output => ["--output", "-o"]
  | .edgesCsv => ["--edges-csv"]
  | .logLevel => ["--log-level"]

def placeholder? : Flag → Option String
  | .help => none
  | .generator => some ("\x7b" ++ String.intercalate "," Generator.names ++ "\x7d")
  | .nodes => some "NODES"
  | .probability => some "P"
  | .seed => some "SEED"
  | .input => some "INPUT"
  | .output => some "OUTPUT"
  | .edgesCsv => some "EDGES_CSV"
  | .logLevel => some "LOG_LEVEL"

def purpose : Flag → String
  | .help => "show this help message and exit"
  | .generator => "Generator to run."
  | .nodes => "Number of nodes to add."
  | .probability => "Edge probability."
  | .seed => "32-byte seed as 64 hex characters."
  | .input => "Existing graph JSON to extend."
  | .output => "Where to write the graph JSON."
  | .edgesCsv => "Where to write the edge list as CSV."
  | .logLevel => "Logging level."

def isRequired (flag : Flag) : Bool := flag = .nodes

def byName : List (String × Flag) := all.flatMap fun flag => flag.names.map (·, flag)

def named? (name : String) : Option Flag := (byName.find? (·.1 = name)).map (·.2)

def title (flag : Flag) : String := String.intercalate "/" flag.names

end Flag

end TemporalNetwork.CommandLine
