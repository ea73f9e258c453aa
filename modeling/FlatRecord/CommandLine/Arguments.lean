import FlatRecord.Number.IntegerText
import FlatRecord.Text.Quoted

/-!
# Arguments

A command line is a list of words. Words that begin with a dash are switches, if one is known by their
name, by the beginning of its name, or by what stands before an equals sign; its operand is what stands
behind that sign, or the next word. Negative numbers and words with a blank are no switches, and behind
two dashes nothing is one.
-/

namespace FlatRecord.CommandLine

open FlatRecord.Text

/-- What stands behind a switch. -/
inductive Operand where
  | nothing
  | text
  | number
  | choice (options : List String)
  deriving DecidableEq, Repr

/-- A switch: the names that it goes by, the first of them long, and its operand. -/
structure Switch where
  names : List String
  operand : Operand
  deriving DecidableEq, Repr

/-- What messages call a switch. -/
def Switch.label (s : Switch) : String := "/".intercalate s.names

/-- Why a command line is refused. -/
inductive UsageFault where
  /-- Several switches begin like that. -/
  | ambiguous (given : String) (names : List String)
  /-- The operand is missing. -/
  | missingOperand (label : String)
  /-- There is an operand where none is expected. -/
  | extraOperand (label given : String)
  /-- The operand is no whole number. -/
  | notNumber (label given : String)
  /-- The operand is none of the options. -/
  | notOption (label given : String) (options : List String)
  /-- Some arguments must be given. -/
  | missing (labels : List String)
  /-- Some words have no meaning. -/
  | unrecognized (words : List String)
  /-- The number of artifacts to keep is not positive. -/
  | capacity
  deriving DecidableEq, Repr

/-- The text of the fault. -/
def UsageFault.message : UsageFault → String
  | ambiguous given names =>
    "ambiguous option: " ++ given ++ " could match " ++ ", ".intercalate names
  | missingOperand label => "argument " ++ label ++ ": expected one argument"
  | extraOperand label given => "argument " ++ label ++ ": ignored explicit argument " ++ quoted given
  | notNumber label given => "argument " ++ label ++ ": invalid int value: " ++ quoted given
  | notOption label given options =>
    "argument " ++ label ++ ": invalid choice: " ++ quoted given ++ " (choose from " ++
      ", ".intercalate (options.map quoted) ++ ")"
  | missing labels => "the following arguments are required: " ++ ", ".intercalate labels
  | unrecognized words => "unrecognized arguments: " ++ " ".intercalate words
  | capacity => "--max-cache-entries must be positive"

/-- What a word of a command line is. -/
inductive Meaning where
  | plain
  /-- Two dashes, behind which nothing is a switch. -/
  | divider
  /-- A word that looks like a switch. -/
  | unknown
  /-- A switch, with the operand that is attached to it. -/
  | switch (s : Switch) (attached : Option String)

/-- A word and what it is. -/
structure Word where
  text : String
  meaning : Meaning

/-- A way to understand a word: the name that it stands for, the switch, and the attached operand. -/
structure Match where
  name : String
  switch : Switch
  attached : Option String

/-- The names of switches, in order. -/
def namedSwitches (switches : List Switch) : List (String × Switch) :=
  switches.flatMap fun s => s.names.map fun name => (name, s)

/-- The part of a word before its first equals sign, and the part behind it. -/
def splitEquals (word : String) : String × Option String :=
  let (before, rest) := word.toList.span (· != '=')
  match rest with
  | _ :: after => (String.ofList before, some (String.ofList after))
  | [] => (word, none)

/-- The switches whose names begin like a word of two dashes. -/
def longMatches (switches : List Switch) (word : String) : List Match :=
  let (before, attached) := splitEquals word
  ((namedSwitches switches).filter fun n => before.toList.isPrefixOf n.1.toList).map fun n =>
    ⟨n.1, n.2, attached⟩

/-- The switches that a word of one dash may stand for: of one letter, with the rest of the word as the
operand. -/
def shortMatches (switches : List Switch) (word : String) : List Match :=
  (namedSwitches switches).filterMap fun n =>
    if n.1.toList = word.toList.take 2 then some ⟨n.1, n.2, some (String.ofList (word.toList.drop 2))⟩
    else if word.toList.isPrefixOf n.1.toList then some ⟨n.1, n.2, none⟩
    else none

/-- Whether a character is a decimal digit. -/
def isDigit (c : Char) : Bool := (digitValue? c).isSome

/-- Whether a word is a negative number, with or without a point. -/
def isNegativeNumber (word : List Char) : Bool :=
  match word with
  | '-' :: rest =>
    let tail := rest.dropWhile isDigit
    match tail with
    | [] => !rest.isEmpty
    | '.' :: fraction => !fraction.isEmpty && fraction.all isDigit
    | _ => false
  | _ => false

/-- What a word is that stands before any divider. -/
def meaningOf (switches : List Switch) (word : String) : Except UsageFault Meaning :=
  let known := namedSwitches switches
  match word.toList with
  | [] => .ok .plain
  | ['-'] => .ok .plain
  | '-' :: second :: _ =>
    let (before, attached) := splitEquals word
    match known.lookup word, known.lookup before with
    | some s, _ => .ok (.switch s none)
    | none, some s => .ok (.switch s attached)
    | none, none =>
      match if second = '-' then longMatches switches word else shortMatches switches word with
      | [m] => .ok (.switch m.switch m.attached)
      | m :: n :: more => .error (.ambiguous word ((m :: n :: more).map Match.name))
      | [] =>
        if isNegativeNumber word.toList || word.toList.contains ' ' then .ok .plain else .ok .unknown
  | _ => .ok .plain

/-- What each word of a command line is. -/
def words (switches : List Switch) : List String → Except UsageFault (List Word)
  | [] => .ok []
  | word :: rest =>
    if word = "--" then .ok (⟨word, .divider⟩ :: rest.map fun w => ⟨w, .plain⟩)
    else do
      let meaning ← meaningOf switches word
      let more ← words switches rest
      return ⟨word, meaning⟩ :: more

/-- Check the operand of a switch. -/
def checkOperand (s : Switch) (given : String) : Except UsageFault Unit :=
  match s.operand with
  | .number =>
    match Number.readInteger given.toList with
    | .ok _ => .ok ()
    | .error _ => .error (.notNumber s.label given)
  | .choice options => if options.contains given then .ok () else .error (.notOption s.label given options)
  | _ => .ok ()

/-- What a command line gives: switches with their operands, words without a meaning, and, where a
command is expected, the command and the words behind it. -/
structure Given where
  settings : List (Switch × String)
  extras : List String
  command : Option (String × List String)

/-- The same with one more switch in front. -/
def Given.addSetting (s : Switch) (operand : String) (g : Given) : Given :=
  { g with settings := (s, operand) :: g.settings }

/-- The same with one more word without a meaning in front. -/
def Given.addExtra (word : String) (g : Given) : Given := { g with extras := word :: g.extras }

/-- Read words, up to the command where one is expected. -/
def readWords (commands : List String) : List Word → Except UsageFault Given
  | [] => .ok ⟨[], [], none⟩
  | word :: rest =>
    let command (name : String) : Except UsageFault Given :=
      if commands.contains name then .ok ⟨[], [], some (name, rest.map Word.text)⟩
      else .error (.notOption "command" name commands)
    match word.meaning with
    | .plain =>
      if commands.isEmpty then (readWords commands rest).map (Given.addExtra word.text)
      else command word.text
    | .divider =>
      if commands.isEmpty || rest.isEmpty then (readWords commands rest).map (Given.addExtra word.text)
      else command word.text
    | .unknown => (readWords commands rest).map (Given.addExtra word.text)
    | .switch s attached =>
      match s.operand, attached with
      | .nothing, some given => .error (.extraOperand s.label given)
      | .nothing, none => (readWords commands rest).map (Given.addSetting s "")
      | _, some given => do
        checkOperand s given
        (readWords commands rest).map (Given.addSetting s given)
      | _, none =>
        match rest with
        | ⟨given, .plain⟩ :: rest => do
          checkOperand s given
          (readWords commands rest).map (Given.addSetting s given)
        | _ => .error (.missingOperand s.label)

namespace Given

/-- The operand of the last of the switches of a name. -/
def operand? (g : Given) (name : String) : Option String :=
  (g.settings.reverse.find? fun e => e.1.names.contains name).map Prod.snd

/-- Whether a switch is given. -/
def has (g : Given) (name : String) : Bool := (g.operand? name).isSome

/-- The names of switches that are not given. -/
def lacking (g : Given) (names : List String) : List String := names.filter fun name => !g.has name

end Given

end FlatRecord.CommandLine
