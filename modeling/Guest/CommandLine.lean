import Guest.Command

/-!
# The command line

Arguments are options and texts.  The first text names the action, and the second one, if there is
one, is the source; without it the source is the standard input.  No option may be repeated.
-/

namespace Guest

/-- What the program is asked to do. -/
inductive Action where
  | eval | check | type | message | filter | paragraphs
  deriving DecidableEq, Repr

namespace Action

/-- The action with a name. -/
def ofName? : String → Option Action
  | "eval" => some eval
  | "check" => some check
  | "type" => some type
  | "message" => some message
  | "filter" => some filter
  | "paragraphs" => some paragraphs
  | _ => none

/-- Tells the actions with identifiers. -/
def takesVariables : Action → Bool
  | eval | type | message => true
  | _ => false

/-- Tells the actions on expressions of a dialect. -/
def takesDialect : Action → Bool
  | eval | check => true
  | _ => false

end Action

/-- Why no action is taken. -/
inductive Halt where
  | usage
  | help
  | version
  deriving DecidableEq, Repr

/-- One argument of a command line. -/
inductive Argument where
  /-- All further arguments are texts. -/
  | terminator
  | named (name : List Char) (value : Option (List Char))
  | letters (letters : List Char)
  | text (text : List Char)
  deriving DecidableEq, Repr

namespace Argument

/-- What stands before an equals sign and, if there is one, what follows it. -/
def splitValue (s : List Char) : List Char × Option (List Char) :=
  match s.dropWhile (· != '=') with
  | [] => (s, none)
  | _ :: value => (s.takeWhile (· != '='), some value)

/-- The argument that a text denotes. -/
def ofString (arg : String) : Argument :=
  match arg.toList with
  | ['-', '-'] => terminator
  | '-' :: '-' :: option =>
    let (name, value) := splitValue option
    named name value
  | ['-'] => text ['-']
  | '-' :: option => letters option
  | s => text s

end Argument

/-- The options and the source of an action. -/
structure Options where
  pretty : Bool
  tracks : Bool
  bindings : Option String
  dialect : Option Dialect
  source : Option String

namespace Options

/-- No options. -/
def none : Options := ⟨false, false, .none, .none, .none⟩

/-- Asks for indented output. -/
def setPretty (options : Options) : Except Halt Options :=
  if options.pretty then .error .usage else .ok { options with pretty := true }

/-- Sets the source. -/
def setSource (options : Options) (source : String) : Except Halt Options :=
  if options.source.isSome then .error .usage else .ok { options with source := source }

/-- Sets options of one letter. -/
def setLetters : Options → List Char → Except Halt Options
  | options, [] => .ok options
  | options, 'p' :: rest => do setLetters (← options.setPretty) rest
  | _, 'h' :: _ => .error .help
  | _, _ => .error .usage

/-- The dialect with a name. -/
def dialectOf? (name : List Char) : Option Dialect :=
  if name = "basic".toList then some .basic
  else if name = "extended".toList then some .extended
  else .none

/-- Sets an option that has a value. -/
def setValue (options : Options) (name value : List Char) : Except Halt Options :=
  if name = "vars".toList then
    if options.bindings.isSome then .error .usage
    else .ok { options with bindings := some (String.ofList value) }
  else
    match options.dialect, dialectOf? value with
    | .none, some dialect => .ok { options with dialect := some dialect }
    | _, _ => .error .usage

/-- Sets an option that has no value. -/
def setFlag (options : Options) (action : Action) (name : List Char) : Except Halt Options :=
  if name = "pretty".toList then options.setPretty
  else if name = "help".toList then .error .help
  else if name = "track".toList ∧ action = .eval ∧ !options.tracks then
    .ok { options with tracks := true }
  else .error .usage

/-- Tells the options of an action that have a value. -/
def hasValue (action : Action) (name : List Char) : Bool :=
  (action.takesVariables && name == "vars".toList) ||
    (action.takesDialect && name == "grammar".toList)

/-- Takes all arguments as texts. -/
def readTexts : Options → List String → Except Halt Options
  | options, [] => .ok options
  | options, arg :: rest => do readTexts (← options.setSource arg) rest

/-- Reads the arguments of an action. -/
def read (action : Action) : Options → List String → Except Halt Options
  | options, [] => .ok options
  | options, arg :: rest =>
    match Argument.ofString arg with
    | .terminator => readTexts options rest
    | .text _ => do read action (← options.setSource arg) rest
    | .letters letters => do read action (← options.setLetters letters) rest
    | .named name value =>
      if hasValue action name then
        match value, rest with
        | some value, rest => do read action (← options.setValue name value) rest
        | .none, next :: rest =>
          match Argument.ofString next with
          | .text value => do read action (← options.setValue name value) rest
          | _ => .error .usage
        | .none, [] => .error .usage
      else if value.isSome then .error .usage
      else do read action (← options.setFlag action name) rest

end Options

/-- An action with its options. -/
structure Invocation where
  action : Action
  options : Options

namespace Invocation

/-- Options of one letter before the action. -/
def readLetters : Bool → List Char → Except Halt Bool
  | pretty, [] => .ok pretty
  | false, 'p' :: rest => readLetters true rest
  | _, 'V' :: _ => .error .version
  | _, 'h' :: _ => .error .help
  | _, _ => .error .usage

/-- What asking for help on some actions leads to. -/
def helpOn : List String → Halt
  | [] => .help
  | [name] => if name = "help" ∨ (Action.ofName? name).isSome then .help else .usage
  | _ => .usage

/-- Reads the arguments of the program; `pretty` tells whether indented output was asked for. -/
def read : Bool → List String → Except Halt Invocation
  | _, [] => .error .usage
  | pretty, arg :: rest =>
    match Argument.ofString arg with
    | .terminator => .error .usage
    | .text _ =>
      match Action.ofName? arg with
      | some action => do
        let options ← Options.read action .none rest
        return ⟨action, { options with pretty := pretty || options.pretty }⟩
      | none => .error (if arg = "help" then helpOn rest else .usage)
    | .letters letters => do read (← readLetters pretty letters) rest
    | .named name value =>
      if value.isSome then .error .usage
      else if name = "version".toList then .error .version
      else if name = "help".toList then .error .help
      else if name = "pretty".toList ∧ !pretty then read true rest
      else .error .usage

/-- The value that an invocation prints, from the text of the standard input. -/
def value (invocation : Invocation) (input : String) : Except CommandError Value :=
  let options := invocation.options
  let source := options.source.getD input
  let dialect := options.dialect.getD .extended
  match invocation.action with
  | .eval => Command.evaluate dialect options.bindings options.tracks source
  | .check => (Command.check dialect source).map fun _ => .string "Syntax is valid"
  | .type => Command.types options.bindings source
  | .message => Command.messages options.bindings source
  | .filter => Command.query source
  | .paragraphs => Command.paragraphs source

end Invocation

/-- What a run of the program leaves. -/
structure Output where
  code : Nat
  stdout : String
  /-- The text on the standard error, without the newline that ends it. -/
  stderr : String
  deriving DecidableEq, Repr

namespace CommandLine

/-- The name and the version of the program. -/
def version : String := "mace 0.1.0\n"

/-- How the program is used. -/
def usage : String := "Usage: mace [OPTIONS] <COMMAND>\n"

/-- The output when no action is taken. -/
def halted : Halt → Output
  | .usage => ⟨2, "", usage⟩
  | .help => ⟨0, usage, ""⟩
  | .version => ⟨0, version, ""⟩

/-- The output of an invocation. -/
def output (invocation : Invocation) (input : String) : Output :=
  match invocation.value input with
  | .ok v =>
    ⟨0, (if invocation.options.pretty then v.jsonIndented else v.json) ++ "\n", ""⟩
  | .error error => ⟨1, "", error.message⟩

/-- The output of a run with some arguments and a standard input. -/
def run (args : List String) (input : String) : Output :=
  match Invocation.read false args with
  | .ok invocation => output invocation input
  | .error halt => halted halt

/-- Tells whether a run reads the standard input. -/
def readsInput (args : List String) : Bool :=
  match Invocation.read false args with
  | .ok invocation => invocation.options.source.isNone
  | .error _ => false

end CommandLine

end Guest
