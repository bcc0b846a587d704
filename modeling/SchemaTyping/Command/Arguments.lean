import SchemaTyping.Project.Path

/-!
# Arguments of the command line

A command line is options, the name of a command, and the words and options
of that command. Options mean the same in front of the name and after it; one
after the name wins over one in front of it, but at each of the two levels an
option is given at most once.

The value of an option is the rest of its word, or else the next word. A value
in the next word is only looked at when something else is given after it or
the words end, so that of two faults the one in the later option may be
reported first.
-/

namespace SchemaTyping

/-- How an answer is written down. -/
inductive Format where
  | text
  | json
  deriving DecidableEq, Repr, Inhabited

/-- The format of that name. -/
def Format.ofName? : String → Option Format
  | "text" => some .text
  | "json" => some .json
  | _ => none

/-- **What is asked for.** -/
inductive Command where
  | property (model property : String)
  | model (model : String)
  /-- One table, or all of them. -/
  | tables (table : Option String)
  deriving DecidableEq, Repr

/-- The options that are given. -/
structure Settings where
  config : Option String := none
  format : Option Format := none
  verbose : Bool := false
  noColor : Bool := false
  deriving DecidableEq, Repr, Inhabited

/-- **A command line** that can be carried out. -/
structure Invocation where
  command : Command
  settings : Settings
  deriving DecidableEq, Repr

/-- Why a command line is not carried out. The first two are no faults. -/
inductive UsageError where
  | helpRequested
  | versionRequested
  /-- Nothing is given at all. -/
  | nothing
  /-- There are options only. -/
  | noCommand
  | unknownCommand
  /-- A word that the command needs is missing. -/
  | missingWord
  /-- There is no such option, or a word too many. -/
  | unknownArgument
  /-- An option has a value that it cannot have, or none. -/
  | invalidValue
  /-- An option that takes no value has one. -/
  | unwantedValue
  /-- An option is given twice. -/
  | repeatedOption
  deriving DecidableEq, Repr

/-- The error in words. -/
def UsageError.message : UsageError → String
  | .helpRequested => "help"
  | .versionRequested => "version"
  | .nothing => "no command is given"
  | .noCommand => "a command is missing"
  | .unknownCommand => "there is no such command"
  | .missingWord => "the command needs one more word"
  | .unknownArgument => "there is no such option, or a word too many"
  | .invalidValue => "an option has a value that it cannot have"
  | .unwantedValue => "an option has a value but takes none"
  | .repeatedOption => "an option is given twice"

/-- The options with a value. -/
inductive ValueOption where
  | config
  | format
  deriving DecidableEq, Repr

/-- The options without a value. -/
inductive Switch where
  | verbose
  | noColor
  | help
  | version
  deriving DecidableEq, Repr

/-- An option. -/
abbrev OptionKind := ValueOption ⊕ Switch

/-- The option of that long name. -/
def longOption? : String → Option OptionKind
  | "config" => some (.inl .config)
  | "format" => some (.inl .format)
  | "verbose" => some (.inr .verbose)
  | "no-color" => some (.inr .noColor)
  | "help" => some (.inr .help)
  | "version" => some (.inr .version)
  | _ => none

/-- The option of that letter. -/
def shortOption? : Char → Option OptionKind
  | 'c' => some (.inl .config)
  | 'v' => some (.inr .verbose)
  | 'h' => some (.inr .help)
  | 'V' => some (.inr .version)
  | _ => none

namespace Settings

/-- Gives an option its value. -/
def setValue (settings : Settings) (option : ValueOption)
    (value : Option String) : Except UsageError Settings :=
  match option, value with
  | _, none => .error .invalidValue
  | .config, some path =>
    if settings.config.isSome then .error .repeatedOption
    else if path.isEmpty then .error .invalidValue
    else .ok { settings with config := some path }
  | .format, some name =>
    if settings.format.isSome then .error .repeatedOption
    else
      match Format.ofName? name with
      | some format => .ok { settings with format := some format }
      | none => .error .invalidValue

/-- Turns on an option without a value. -/
def turnOn (settings : Settings) : Switch → Except UsageError Settings
  | .help => .error .helpRequested
  | .version => .error .versionRequested
  | .verbose =>
    if settings.verbose then .error .repeatedOption
    else .ok { settings with verbose := true }
  | .noColor =>
    if settings.noColor then .error .repeatedOption
    else .ok { settings with noColor := true }

/-- Whether no option is given. -/
def isEmpty (settings : Settings) : Bool := settings == {}

/-- The options of two levels together, those of the inner level first. -/
def orElse (inner outer : Settings) : Settings where
  config := inner.config <|> outer.config
  format := inner.format <|> outer.format
  verbose := inner.verbose || outer.verbose
  noColor := inner.noColor || outer.noColor

end Settings

/-- **How far the words of one level are read.** -/
structure Progress where
  settings : Settings := {}
  /-- The option whose value is still to be looked at, and the value if there
  is one already. -/
  pending : Option (ValueOption × Option String) := none
  /-- The words that are neither options nor values. -/
  words : List String := []
  deriving DecidableEq, Repr, Inhabited

namespace Progress

/-- Whether the next word is the value of an option. -/
def awaitsValue (progress : Progress) : Bool :=
  match progress.pending with
  | some (_, none) => true
  | _ => false

/-- Looks at the value of the pending option. -/
def settle (progress : Progress) : Except UsageError Progress := do
  match progress.pending with
  | none => .ok progress
  | some (option, value) =>
    .ok { progress with
      settings := ← progress.settings.setValue option value
      pending := none }

/-- Takes a value for the pending option. -/
def takeValue (progress : Progress) (value : String) : Progress :=
  { progress with
    pending := progress.pending.map fun (option, _) => (option, some value) }

/-- Takes an option with the value that is part of its word, if any. -/
def takeOption (progress : Progress) (option : ValueOption)
    (value : Option String) : Except UsageError Progress := do
  let progress ← progress.settle
  match value with
  | none => .ok { progress with pending := some (option, none) }
  | some value =>
    .ok { progress with
      settings := ← progress.settings.setValue option (some value) }

/-- Takes an option without a value. -/
def takeSwitch (progress : Progress) (switch : Switch) :
    Except UsageError Progress := do
  let progress ← progress.settle
  .ok { progress with settings := ← progress.settings.turnOn switch }

/-- Takes a word that is an option by its long name, after the dashes. -/
def takeLong (progress : Progress) (text : List Char) :
    Except UsageError Progress :=
  let (name, value) := match Text.cutFirst '=' text with
    | some (name, value) => (name, some (String.ofList value))
    | none => (text, none)
  match longOption? (String.ofList name), value with
  | none, _ => .error .unknownArgument
  | some (.inl option), value => progress.takeOption option value
  | some (.inr switch), none => progress.takeSwitch switch
  | some (.inr _), some _ => .error .unwantedValue

/-- The value in the rest of a word, of which an equals sign in front is no
part. -/
def attachedValue? : List Char → Option String
  | [] => none
  | '=' :: value => some (String.ofList value)
  | value => some (String.ofList value)

/-- Takes a word of options by their letters, after the dash. -/
def takeLetters (progress : Progress) : List Char → Except UsageError Progress
  | [] => .ok progress
  | letter :: rest =>
    match shortOption? letter with
    | none => .error .unknownArgument
    | some (.inl option) => progress.takeOption option (attachedValue? rest)
    | some (.inr switch) => do
      takeLetters (← progress.takeSwitch switch) rest

/-- Takes a word of a command that needs no more than `limit` of them. -/
def takeWord (progress : Progress) (limit : Nat) (word : String) :
    Except UsageError Progress := do
  if progress.words.length < limit then
    let progress ← progress.settle
    .ok { progress with words := progress.words ++ [word] }
  else .error .unknownArgument

end Progress

/-- What a word is by its first characters. -/
inductive WordShape where
  /-- Two dashes, after which there are no options. -/
  | separator
  | long (text : List Char)
  | letters (text : List Char)
  | plain
  deriving DecidableEq, Repr

/-- The shape of a word. -/
def WordShape.of (word : String) : WordShape :=
  match word.toList with
  | ['-', '-'] => .separator
  | '-' :: '-' :: text => .long text
  | ['-'] => .plain
  | '-' :: text => .letters text
  | _ => .plain

/-- The names of the commands. -/
inductive CommandName where
  | property
  | model
  | tables
  deriving DecidableEq, Repr

namespace CommandName

/-- The command of that name. -/
def ofWord? : String → Option CommandName
  | "property" => some .property
  | "model" => some .model
  | "tables" => some .tables
  | _ => none

/-- The most words a command takes. -/
def limit : CommandName → Nat
  | .property => 2
  | .model | .tables => 1

/-- The command with its words. -/
def withWords (name : CommandName) (words : List String) :
    Except UsageError Command :=
  match name, words with
  | .property, [first, second] => .ok (.property first second)
  | .model, [first] => .ok (.model first)
  | .tables, words => .ok (.tables words.head?)
  | _, _ => .error .missingWord

/-- The word that asks for help. -/
def help : String := "help"

/-- What comes of asking for help on some words: help, if they name at most
one command. -/
def helpOn (words : List String) : UsageError :=
  match words with
  | [] => .helpRequested
  | [word] =>
    if word = help || (ofWord? word).isSome then .helpRequested
    else .unknownCommand
  | _ => .unknownCommand

end CommandName

/-- Reads the words of a command. -/
def readWords (limit : Nat) (progress : Progress) :
    List String → Except UsageError Progress
  | [] => .ok progress
  | word :: rest =>
    match WordShape.of word with
    | .separator => rest.foldlM (·.takeWord limit ·) progress
    | .long text => do readWords limit (← progress.takeLong text) rest
    | .letters text => do readWords limit (← progress.takeLetters text) rest
    | .plain => do
      if progress.awaitsValue then
        readWords limit (progress.takeValue word) rest
      else readWords limit (← progress.takeWord limit word) rest

/-- Reads a command after its name: the command and its options. -/
def readCommand (name : CommandName) (words : List String) :
    Except UsageError Invocation := do
  let progress ← readWords name.limit {} words
  let progress ← progress.settle
  .ok ⟨← name.withWords progress.words, progress.settings⟩

/-- What options without a command come to. -/
def withoutCommand (progress : Progress) : Except UsageError Invocation := do
  let progress ← progress.settle
  .error (if progress.settings.isEmpty then .nothing else .noCommand)

/-- Reads words in front of the name of the command. -/
def readInvocation (progress : Progress) :
    List String → Except UsageError Invocation
  | [] => withoutCommand progress
  | word :: rest =>
    let name := if progress.awaitsValue then none else CommandName.ofWord? word
    match name, WordShape.of word with
    | some name, _ => do
      -- The command is read before the pending value is looked at.
      let inner ← readCommand name rest
      let progress ← progress.settle
      .ok { inner with settings := inner.settings.orElse progress.settings }
    | none, .separator =>
      if rest.isEmpty then withoutCommand progress else .error .unknownCommand
    | none, .long text => do readInvocation (← progress.takeLong text) rest
    | none, .letters text => do
      readInvocation (← progress.takeLetters text) rest
    | none, .plain =>
      if progress.awaitsValue then readInvocation (progress.takeValue word) rest
      else if word = CommandName.help then .error (CommandName.helpOn rest)
      else .error .unknownCommand

namespace Invocation

/-- **The invocation that the words of a command line make.** -/
def ofWords (words : List String) : Except UsageError Invocation :=
  readInvocation {} words

end Invocation

end SchemaTyping
