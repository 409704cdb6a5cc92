import TemporalNetwork.CommandLine.Flag
import TemporalNetwork.CommandLine.Number
import TemporalNetwork.Generation.Run
import TemporalNetwork.Value.Text

/-!
Reading the words of a command line. First every word is told to be an option, a value, or unknown;
a long name may be cut short as long as one option has it, and a value may follow its option in the
same word. Then the options take their values in turn, the last setting of an option counts, and
what is left over is refused at the end.

Readers of options differ in two places, and this one goes with the older of them: two dashes are taken
away also where they are given in the word of an option, and a letter after the help option that names
no option is refused.
-/

namespace TemporalNetwork.CommandLine

inductive Stop where
  | help
  | ambiguous (word : String) (names : List String)
  | valueMissing (flag : Flag)
  | valueIgnored (flag : Flag) (given : String)
  | notWhole (flag : Flag) (given : String)
  | notNumber (flag : Flag) (given : String)
  | notChoice (flag : Flag) (given : String) (choices : List String)
  | required (flags : List Flag)
  | unrecognized (words : List String)
  deriving DecidableEq, Repr

def Stop.message : Stop → String
  | .help => ""
  | .ambiguous word names =>
    "ambiguous option: " ++ word ++ " could match " ++ String.intercalate ", " names
  | .valueMissing flag => about flag "expected one argument"
  | .valueIgnored flag given => about flag ("ignored explicit argument " ++ Text.quoted given)
  | .notWhole flag given => about flag ("invalid int value: " ++ Text.quoted given)
  | .notNumber flag given => about flag ("invalid float value: " ++ Text.quoted given)
  | .notChoice flag given choices =>
    about flag ("invalid choice: " ++ Text.quoted given ++ " (choose from " ++
      String.intercalate ", " (choices.map fun choice : String => Text.quoted choice) ++ ")")
  | .required flags =>
    "the following arguments are required: " ++ String.intercalate ", " (flags.map Flag.title)
  | .unrecognized words => "unrecognized arguments: " ++ String.intercalate " " words
where
  about (flag : Flag) (fault : String) : String := "argument " ++ flag.title ++ ": " ++ fault

/-! ## Words -/

inductive Word where
  | value
  | unknown
  | option (flag : Flag) (name : String) (given : Option String)
  deriving DecidableEq, Repr

def splitEquals (cs : List Char) : String × Option String :=
  match cs.dropWhile (· != '=') with
  | _ :: rest => (String.ofList (cs.takeWhile (· != '=')), some (String.ofList rest))
  | [] => (String.ofList cs, none)

def isNegativeNumber (cs : List Char) : Bool :=
  let isDigit := fun c => (Text.digitValue? c).isSome
  let body := if cs.getLast? = some '\n' then cs.dropLast else cs
  match body with
  | '-' :: number =>
    match number.dropWhile isDigit with
    | [] => !number.isEmpty
    | '.' :: decimals => !decimals.isEmpty && decimals.all isDigit
    | _ => false
  | _ => false

def cutShort (word : String) : Except Stop (Option Word) :=
  let (start, given) := splitEquals word.toList
  match Flag.byName.filter fun known => start.toList.isPrefixOf known.1.toList with
  | [] => .ok none
  | [(name, flag)] => .ok (some (.option flag name given))
  | several => .error (.ambiguous word (several.map (·.1)))

def shortWithValue (cs : List Char) : Option Word :=
  let name := String.ofList (cs.take 2)
  (Flag.named? name).map fun flag => .option flag name (some (String.ofList (cs.drop 2)))

def otherWord (cs : List Char) : Word :=
  if isNegativeNumber cs || cs.contains ' ' then .value else .unknown

def classifyDashed (word : String) : Except Stop Word :=
  let cs := word.toList
  let (start, given) := splitEquals cs
  match Flag.named? word, Flag.named? start, cs with
  | some flag, _, _ => .ok (.option flag word none)
  | none, some flag, _ => .ok (.option flag start given)
  | none, none, [_] => .ok .value
  | none, none, '-' :: '-' :: _ =>
    match cutShort word with
    | .error stop => .error stop
    | .ok found => .ok (found.getD (otherWord cs))
  | none, none, cs => .ok ((shortWithValue cs).getD (otherWord cs))

def classify (word : String) : Except Stop Word :=
  match word.toList with
  | '-' :: _ => classifyDashed word
  | _ => .ok .value

/-- All words with what they are. After two dashes alone there are only values. The two dashes
themselves are no value for an option. -/
def classifyAll : List String → Except Stop (List (String × Word))
  | [] => .ok []
  | word :: rest =>
    if word = "--" then .ok ((word, .unknown) :: rest.map (·, .value))
    else
      match classify word, classifyAll rest with
      | .error stop, _ => .error stop
      | _, .error stop => .error stop
      | .ok first, .ok others => .ok ((word, first) :: others)

/-! ## Settings -/

/-- The value of every option. An option whose value is taken away has an empty list for it. -/
structure Settings where
  generator : Value
  nodes : Value
  probability : Value
  seed : Value
  input : Value
  output : Value
  edgesCsv : Value
  logLevel : Value
  deriving Repr

def Settings.initial (logLevel : String) : Settings where
  generator := .text Generator.erdosRenyi.name
  nodes := .none
  probability := .float Generation.evenProbability
  seed := .none
  input := .none
  output := .none
  edgesCsv := .none
  logLevel := .text logLevel

def readSetting (flag : Flag) (given : String) : Except Stop Value :=
  match flag with
  | .nodes =>
    match readWhole? given with
    | some n => .ok (.int n)
    | none => .error (.notWhole flag given)
  | .probability =>
    match readDouble? given with
    | some x => .ok (.float x)
    | none => .error (.notNumber flag given)
  | .generator =>
    if Generator.names.contains given then .ok (.text given)
    else .error (.notChoice flag given Generator.names)
  | _ => .ok (.text given)

def Settings.set (settings : Settings) (flag : Flag) (value : Value) : Settings :=
  match flag with
  | .help => settings
  | .generator => { settings with generator := value }
  | .nodes => { settings with nodes := value }
  | .probability => { settings with probability := value }
  | .seed => { settings with seed := value }
  | .input => { settings with input := value }
  | .output => { settings with output := value }
  | .edgesCsv => { settings with edgesCsv := value }
  | .logLevel => { settings with logLevel := value }

/-- Sets an option; two dashes as its value are taken away, given in its word or in the next one. Newer
readers keep those that are given in its word. -/
def Settings.read (settings : Settings) (flag : Flag) (given : String) : Except Stop Settings :=
  if given = "--" then .ok (settings.set flag (.list []))
  else (readSetting flag given).map (settings.set flag)

/-! ## Reading -/

/-- Letters after the help option in one word are more options; the last of them may take a value
from the rest of the word or from the next word. Newer readers print the help before they look at the
letters. -/
def helpLetters (valueFollows : Bool) : List Char → Stop
  | [] => .help
  | letter :: rest =>
    match Flag.named? (String.ofList ['-', letter]) with
    | none => .valueIgnored .help (String.ofList (letter :: rest))
    | some .help => helpLetters valueFollows rest
    | some flag => if rest.isEmpty && !valueFollows then .valueMissing flag else .help

def helpStop (name : String) (given : Option String) (valueFollows : Bool) : Stop :=
  match given with
  | none => .help
  | some letters =>
    if name = "-h" && letters ≠ "" then helpLetters valueFollows letters.toList
    else .valueIgnored .help letters

def valueFollows : List (String × Word) → Bool
  | (_, .value) :: _ => true
  | _ => false

def takeWords (settings : Settings) (left : List String) :
    List (String × Word) → Except Stop (Settings × List String)
  | [] => .ok (settings, left)
  | (_, .option .help name given) :: rest => .error (helpStop name given (valueFollows rest))
  | (_, .option flag _ (some given)) :: rest =>
    match settings.read flag given with
    | .error stop => .error stop
    | .ok settings => takeWords settings left rest
  | (_, .option flag _ none) :: (given, .value) :: rest =>
    match settings.read flag given with
    | .error stop => .error stop
    | .ok settings => takeWords settings left rest
  | (_, .option flag _ none) :: _ => .error (.valueMissing flag)
  | (word, _) :: rest => takeWords settings (word :: left) rest

def isGiven (flag : Flag) (words : List (String × Word)) : Bool :=
  words.any fun word =>
    match word.2 with
    | .option known _ _ => known = flag
    | _ => false

def parse (logLevel : String) (arguments : List String) : Except Stop Settings :=
  match classifyAll arguments with
  | .error stop => .error stop
  | .ok words =>
    match takeWords (.initial logLevel) [] words with
    | .error stop => .error stop
    | .ok (settings, left) =>
      match Flag.all.filter fun flag => flag.isRequired && !isGiven flag words with
      | [] => if left.isEmpty then .ok settings else .error (.unrecognized left.reverse)
      | missing => .error (.required missing)

end TemporalNetwork.CommandLine
