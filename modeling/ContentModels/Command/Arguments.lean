import ContentModels.Command.Basic
import ContentModels.Text.Similarity

/-!
# Arguments

The arguments of the program are read word by word: options and their values, and the verb of a
command with the options of that command. A value may follow its option as a word of its own, if it
does not look like an option, or behind an equals sign, or directly behind the letter of the option.

## Main definitions

* `UsageError` — why arguments are refused, with its message.
* `Request` — what arguments ask for.
* `Request.ofArguments` — reads arguments.
-/

namespace ContentModels

open Text

/-! ## Errors -/

/-- Something that may have been meant. -/
inductive Hint where
  | switch (s : Switch)
  /-- An option of another command, which is named further on. -/
  | ofVerb (verb : Verb) (s : Switch)
  /-- A verb stands behind two dashes, where it is no verb. -/
  | dashes (verb : Verb)
  deriving DecidableEq, Repr

def Hint.text : Hint → String
  | switch s => s!"a similar argument exists: '--{s.long}'"
  | ofVerb verb s => s!"'{verb.name} --{s.long}' exists"
  | dashes verb => s!"subcommand '{verb.name}' exists; to use it, remove the '--' before it"

/-- What is wrong with arguments. -/
inductive UsageFault where
  | unknownVerb (word : String) (similar : List String)
  | unexpected (word : String) (hint : Option Hint)
  | missingValue (s : Switch)
  | invalidValue (s : Switch) (value reason : String)
  | extraValue (s : Switch) (value : String)
  | repeated (s : Switch)
  | missingVerb
  deriving DecidableEq, Repr

def UsageFault.text : UsageFault → String
  | unknownVerb word [] => s!"unrecognized subcommand '{word}'"
  | unknownVerb word [one] =>
    s!"unrecognized subcommand '{word}'\n\n  tip: a similar subcommand exists: '{one}'"
  | unknownVerb word many =>
    s!"unrecognized subcommand '{word}'\n\n  tip: some similar subcommands exist: " ++
      ", ".intercalate (many.map fun s => s!"'{s}'")
  | unexpected word none => s!"unexpected argument '{word}' found"
  | unexpected word (some hint) => s!"unexpected argument '{word}' found\n\n  tip: {hint.text}"
  | missingValue s => s!"a value is required for '{s.text}' but none was supplied"
  | invalidValue s value reason => s!"invalid value '{value}' for '{s.text}': {reason}"
  | extraValue s value =>
    s!"unexpected value '{value}' for '{s.text}' found; no more were expected"
  | repeated s => s!"the argument '{s.text}' cannot be used multiple times"
  | missingVerb =>
    s!"'{programName}' requires a subcommand but one was not provided\n  [subcommands: " ++
      ", ".intercalate (Verb.all.map Verb.name) ++ "]"

/-- Refused arguments, perhaps with how to do it right. -/
structure UsageError where
  fault : UsageFault
  usage : Option String := none
  deriving DecidableEq, Repr

def UsageError.message (e : UsageError) : String :=
  let usage := match e.usage with
    | some usage => s!"\n\n{usage}"
    | none => ""
  s!"error: {e.fault.text}{usage}\n\nFor more information, try '--help'.\n"

/-- Why the reading of arguments ends early. -/
inductive Halt where
  | refused (e : UsageError)
  /-- The version is asked for. -/
  | version
  /-- Help is asked for. -/
  | help (s : Scope)
  /-- Nothing is asked for. -/
  | nothing
  deriving DecidableEq, Repr

/-! ## Reading options -/

/-- The options that were read, and the one that still waits, for its value or to be looked at. -/
structure Given where
  values : List (Switch × String) := []
  waiting : Option (Switch × Option String) := none
  deriving DecidableEq, Repr

namespace Given

def switches (g : Given) : List Switch := g.values.map (·.1)

/-- The value of an option. -/
def value? (g : Given) (s : Switch) : Option String := g.values.lookup s

def has (g : Given) (s : Switch) : Bool := (g.value? s).isSome

/-- Refuses a value that an option cannot have. -/
def checkValue (s : Switch) (value : String) : Except Halt Unit :=
  if s.takesPath ∧ value = "" then .error (.refused ⟨.missingValue s, none⟩)
  else if s = .mode then
    match Mode.parse value with
    | .ok _ => .ok ()
    | .error reason => .error (.refused ⟨.invalidValue s value reason, none⟩)
  else .ok ()

/-- Takes in an option. -/
def add (scope : Scope) (g : Given) (s : Switch) (value : String) : Except Halt Given :=
  if g.has s then .error (.refused ⟨.repeated s, scope.usage⟩)
  else do
    checkValue s value
    return { g with values := g.values ++ [(s, value)] }

/-- Takes in the option that still waits. -/
def settle (scope : Scope) (g : Given) : Except Halt Given :=
  match g.waiting with
  | none => .ok g
  | some (s, none) => .error (.refused ⟨.missingValue s, none⟩)
  | some (s, some value) => { g with waiting := none }.add scope s value

/-- Takes in the option that still waits, unless there is something wrong with it. -/
def settled (scope : Scope) (g : Given) : Given :=
  match g.settle scope with
  | .ok g => g
  | .error _ => { g with waiting := none }

/-- Takes in an option without a value. -/
def addFlag (scope : Scope) (g : Given) (s : Switch) : Except Halt Given := do
  let g ← g.settle scope
  match s with
  | .help => .error (.help scope)
  | .version => .error .version
  | s => g.add scope s ""

/-- Takes in an option with the value that is attached to it, if there is one. -/
def addOption (scope : Scope) (g : Given) (s : Switch) (attached : Option String) :
    Except Halt Given := do
  let g ← g.settle scope
  match attached with
  | some value => g.add scope s value
  | none => return { g with waiting := some (s, none) }

/-- The option of a verb that was meant by a long name, if the verb comes further on. -/
def hintOfVerb (name : String) (rest : List String) : Option Hint :=
  let found := Verb.all.filterMap fun verb => do
    let name ← (similar name ((verb.switches ++ [.help]).map Switch.long)).getLast?
    let s ← (verb.switches ++ [.help]).find? fun s => s.long == name
    let place ← rest.findIdx? (· == verb.name)
    return (place, Hint.ofVerb verb s)
  (found.foldl (fun best next => match best with
    | none => some next
    | some b => if next.1 < b.1 then some next else best) none).map (·.2)

/-- The error that there is no option of a long name. -/
def unknownLong (scope : Scope) (g : Given) (name : String) (rest : List String) :
    Except Halt Given :=
  let g := g.settled scope
  let known := scope.switches
  match (similar name (known.map Switch.long)).getLast? with
  | some word =>
    let meant := known.find? fun s => s.long == word
    let used := g.switches ++ meant.toList.filter fun s => !g.has s
    .error (.refused ⟨.unexpected s!"--{name}" (meant.map Hint.switch), scope.usageWith used⟩)
  | none =>
    let hint := if scope = .program then hintOfVerb name rest else none
    .error (.refused ⟨.unexpected s!"--{name}" hint, scope.usageWith g.switches⟩)

/-- Reads a long option, which may have a value attached to it. -/
def readLong (scope : Scope) (g : Given) (name : String) (attached : Option String)
    (rest : List String) : Except Halt Given :=
  match scope.switches.find? fun s => s.long == name, attached with
  | none, _ => g.unknownLong scope name rest
  | some s, attached =>
    if s.takesValue then g.addOption scope s attached
    else
      match attached with
      | some value => .error (.refused ⟨.extraValue s value, scope.usageWith g.switches⟩)
      | none => g.addFlag scope s

/-- Reads options given by their letters. The letters behind one that takes a value are its value,
without an equals sign before it. -/
def readShort (scope : Scope) (g : Given) : List Char → Except Halt Given
  | [] => .ok g
  | c :: rest =>
    match scope.switches.find? fun s => s.short? == some c with
    | none => .error (.refused ⟨.unexpected s!"-{c}" none, scope.usage⟩)
    | some s =>
      if s.takesValue then
        g.addOption scope s <| match rest with
          | [] => none
          | '=' :: value => some (String.ofList value)
          | value => some (String.ofList value)
      else do (← g.addFlag scope s).readShort scope rest

/-- Whether an option waits for a value. -/
def needsValue (g : Given) : Bool :=
  match g.waiting with
  | some (_, none) => true
  | _ => false

/-- Gives the option that waits its value. -/
def giveValue (g : Given) (value : String) : Given :=
  { g with waiting := g.waiting.map fun (s, _) => (s, some value) }

end Given

/-! ## Reading arguments -/

/-- The verb of a word, where there may be one. -/
def Scope.verb? (s : Scope) (word : String) : Option Verb :=
  if s = .program then Verb.ofName? word else none

/-- The error that a word is no option and no value; `ended` tells that it comes behind two dashes.
-/
def unexpectedWord (scope : Scope) (ended : Bool) (word : String) : UsageError :=
  match scope, ended, Verb.ofName? word with
  | .program, true, some verb => ⟨.unexpected word (some (.dashes verb)), scope.usage⟩
  | .program, _, _ => ⟨.unknownVerb word (similar word (Verb.all.map Verb.name)), scope.usage⟩
  | .command _, _, _ => ⟨.unexpected word none, scope.usage⟩

/-- The name and the value of a long option. -/
def splitLong (cs : List Char) : String × Option String :=
  let name := String.ofList (cs.takeWhile (· != '='))
  match cs.dropWhile (· != '=') with
  | [] => (name, none)
  | _ :: value => (name, some (String.ofList value))

/-- Reads the options of a scope, up to a verb or the end; answers the verb with the words behind
it. -/
def readOptions (scope : Scope) (g : Given) :
    List String → Except Halt (Given × Option (Verb × List String))
  | [] => do return (← g.settle scope, none)
  | word :: rest =>
    match (if g.needsValue then none else scope.verb? word), word.toList with
    | some verb, _ => do return (← g.settle scope, some (verb, rest))
    | none, ['-', '-'] =>
      match rest with
      | [] => do return (← g.settle scope, none)
      | next :: _ => .error (.refused (unexpectedWord scope true next))
    | none, '-' :: '-' :: cs => do
      let (name, attached) := splitLong cs
      readOptions scope (← g.readLong scope name attached rest) rest
    | none, '-' :: c :: cs => do readOptions scope (← g.readShort scope (c :: cs)) rest
    | none, _ =>
      if g.needsValue then readOptions scope (g.giveValue word) rest
      else .error (.refused (unexpectedWord scope false word))

/-- What arguments ask for. -/
structure Request where
  command : Command
  /-- Whether more is to be logged. -/
  verbose : Bool
  deriving DecidableEq, Repr

/-- A path that is given by an option. -/
def Given.path? (g : Given) (s : Switch) : Option Path := (g.value? s).map Path.mk

/-- The values that take the place of configured ones. -/
def Given.overrides (g : Given) : Overrides where
  modelsDir := g.path? .modelsDir
  space := g.value? .space
  mode := (g.value? .mode).bind fun s => (Mode.parse s).toOption
  schema := g.path? .schema
  artifactDir := g.path? .artifactDir

/-- The command of a verb; help is none. -/
def Given.command? (g : Given) : Verb → Option Command
  | .generate => some <|
    .generate g.overrides (g.path? .config) (g.has .watch) (g.has .dryRun)
  | .init => some (.init ((g.path? .output).getD ⟨Config.fileName⟩) (g.has .force))
  | .validate => some (.validate g.overrides (g.path? .config))
  | .status => some (.status g.overrides (g.path? .config) (g.has .json))
  | .help => none

/-- What is asked for help on. -/
def helpScope : List String → Except Halt Scope
  | [] => .ok .program
  | word :: _ =>
    match Verb.ofName? word with
    | some verb => .ok (.command verb)
    | none => .error (.refused ⟨.unknownVerb word [], Scope.program.usage⟩)

/-- Reads arguments. -/
def Request.ofArguments (arguments : List String) : Except Halt Request := do
  let (outer, verb?) ← readOptions .program {} arguments
  match verb? with
  | none =>
    if outer.values.isEmpty then .error .nothing
    else .error (.refused ⟨.missingVerb, Scope.program.usage⟩)
  | some (verb, rest) =>
    if verb = .help then .error (.help (← helpScope rest))
    else
      let (inner, _) ← readOptions (.command verb) {} rest
      match inner.command? verb with
      | some command => return ⟨command, outer.has .verbose || inner.has .verbose⟩
      | none => .error (.help (.command verb))

end ContentModels
