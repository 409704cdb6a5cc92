/-!
A working directory: files and directories by their places in it, and the directories above it.
-/

namespace TemporalNetwork

inductive Workspace.Entry where
  | file (content : List UInt8)
  | directory
  deriving DecidableEq, Repr

/-- Names from the working directory down, or from the root down after the name of the root. -/
abbrev Place := List String

structure Workspace where
  entries : List (Place × Workspace.Entry)
  deriving Repr

namespace Workspace

def ofFiles (files : List (Place × List UInt8)) (directories : List Place) : Workspace :=
  { entries := files.map (fun (place, content) => (place, .file content)) ++
      directories.map fun place => (place, .directory) }

def isTop (place : Place) : Bool := place = ["/"] || place.all (· == "..")

def lookup? (workspace : Workspace) (place : Place) : Option Entry :=
  if isTop place then some .directory
  else (workspace.entries.find? (·.1 = place)).map (·.2)

def parent (place : Place) : Place :=
  if place = ["/"] then place else if isTop place then place ++ [".."] else place.dropLast

def put (workspace : Workspace) (place : Place) (content : List UInt8) : Workspace :=
  { entries := workspace.entries.filter (·.1 ≠ place) ++ [(place, .file content)] }

theorem lookup?_put_self (workspace : Workspace) {place : Place} (content : List UInt8)
    (below : isTop place = false) :
    (workspace.put place content).lookup? place = some (.file content) := by
  simp [put, lookup?, below, List.find?_append, List.find?_eq_none.2]

theorem lookup?_put_of_ne (workspace : Workspace) {place other : Place} (content : List UInt8)
    (differ : other ≠ place) :
    (workspace.put place content).lookup? other = workspace.lookup? other := by
  simp only [lookup?, put]
  split
  · rfl
  · have others : (fun entry : Place × Entry => decide (entry.1 ≠ place ∧ entry.1 = other)) =
        fun entry => decide (entry.1 = other) := by
      funext entry
      by_cases same : entry.1 = other <;> simp [same, differ]
    rw [List.find?_append, List.find?_filter]
    simp only [decide_eq_true_eq, others]
    simp [Ne.symm differ]

end Workspace

end TemporalNetwork
