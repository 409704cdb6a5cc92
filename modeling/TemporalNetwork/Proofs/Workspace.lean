import TemporalNetwork.Workspace.Path

/-!
A file that was written is read back by the same path. Writing puts a file where no directory was,
so the directories on the way are still there. A path is called a directory exactly if it leads to
one.
-/

namespace TemporalNetwork.Workspace

variable {workspace : Workspace} {place : Place} {content : List UInt8}

theorem isTop_of_no_directory (free : workspace.lookup? place ≠ some .directory) :
    isTop place = false := by
  cases top : isTop place with
  | false => rfl
  | true => exact absurd (by rw [lookup?, if_pos top]) free

-- Wherever one could go before, one can go after a file was put where no directory was.
theorem enter_put (free : workspace.lookup? place ≠ some .directory) {here there : Place}
    {name : String} (entered : workspace.enter here name = .ok there) :
    (workspace.put place content).enter here name = .ok there := by
  rw [enter] at entered ⊢
  split at entered
  · cases entered
  · next short =>
    -- What was entered is a directory, and the file was put where there is none.
    have differ : here ++ [name] ≠ place := by
      intro same
      rw [same] at entered
      split at entered
      · next found => exact free found
      · cases entered
      · cases entered
    rw [if_neg short, lookup?_put_of_ne workspace content differ]
    exact entered

theorem walk_put (free : workspace.lookup? place ≠ some .directory) {here : Place}
    {names : List String} {goal : Goal} (walked : workspace.walk here names = .ok goal) :
    (workspace.put place content).walk here names = .ok goal := by
  induction names generalizing here with
  | nil => exact walked
  | cons name rest ih =>
    rw [walk] at walked ⊢
    split
    · next stays =>
      rw [if_pos stays] at walked
      exact ih walked
    · next goes =>
      rw [if_neg goes] at walked
      split
      · next up =>
        rw [if_pos up] at walked
        exact ih walked
      · next down =>
        rw [if_neg down] at walked
        split
        · next last =>
          rw [if_pos last] at walked
          exact walked
        · next further =>
          rw [if_neg further] at walked
          cases step : workspace.enter here name with
          | error fault =>
            rw [step] at walked
            cases walked
          | ok there =>
            rw [step] at walked
            rw [enter_put free step]
            exact ih walked

theorem locate_put (free : workspace.lookup? place ≠ some .directory) {path : String} {goal : Goal}
    (located : workspace.locate path = .ok goal) :
    (workspace.put place content).locate path = .ok goal := by
  rw [locate] at located ⊢
  split
  · next zero =>
    rw [if_pos zero] at located
    exact located
  · next clean =>
    rw [if_neg clean] at located
    split
    · next nothing =>
      rw [if_pos nothing] at located
      exact located
    · next something =>
      rw [if_neg something] at located
      split
      · next long =>
        rw [if_pos long] at located
        exact located
      · next short =>
        rw [if_neg short] at located
        exact walk_put free located

/-- What was written by a path is read by that path. -/
theorem read_write {path : String} {after : Workspace}
    (written : workspace.write path content = .ok after) : after.read path = .ok content := by
  rw [write] at written
  split at written
  · cases written
  · cases written
  · cases written
  · next above name located =>
    split at written
    · cases written
    · next short =>
      split at written
      · cases written
      · next free =>
        cases written
        have found := lookup?_put_self workspace content (isTop_of_no_directory free)
        rw [read, find, locate_put free located]
        simp only [if_neg short, found]
        rfl

/-! ## Directories -/

theorem enter_ne_directory (workspace : Workspace) (here : Place) (name : String) :
    workspace.enter here name ≠ .error .directory := by
  rw [enter]
  split
  · exact nofun
  · split <;> exact nofun

theorem walk_ne_directory (workspace : Workspace) (here : Place) (names : List String) :
    workspace.walk here names ≠ .error .directory := by
  induction names generalizing here with
  | nil => exact nofun
  | cons name rest ih =>
    rw [walk]
    split
    · exact ih here
    · split
      · exact ih (parent here)
      · split
        · exact nofun
        · cases entered : workspace.enter here name with
          | ok place => exact ih place
          | error fault =>
            intro called
            cases called
            exact workspace.enter_ne_directory here name entered

theorem locate_ne_directory (workspace : Workspace) (path : String) :
    workspace.locate path ≠ .error .directory := by
  rw [locate]
  split
  · exact nofun
  · split
    · exact nofun
    · split
      · exact nofun
      · exact workspace.walk_ne_directory _ _

theorem find_ne_directory (workspace : Workspace) (path : String) :
    workspace.find path ≠ .error .directory := by
  rw [find]
  split
  · next fault lost =>
    intro called
    cases called
    exact workspace.locate_ne_directory path lost
  · exact nofun
  · split
    · exact nofun
    · split
      · exact nofun
      · exact nofun
      · split <;> exact nofun

-- That a path leads to a directory is said of directories only.
theorem read_eq_directory {path : String} :
    workspace.read path = .error .directory ↔ workspace.find path = .ok .directory := by
  rw [read]
  cases found : workspace.find path with
  | error fault =>
    constructor
    · intro called
      cases called
      exact absurd found (workspace.find_ne_directory path)
    · exact nofun
  | ok entry => cases entry <;> simp

end TemporalNetwork.Workspace
