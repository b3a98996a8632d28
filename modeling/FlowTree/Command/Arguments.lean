import FlowTree.Command.Basic

/-! # Arguments

The arguments of a command line are words and options. The first word names the command. An option has a name
after two hyphens or a letter after one, and its value follows; after two hyphens alone all are words. -/

namespace FlowTree.Command

/-- Why arguments make no invocation. -/
inductive UsageError where
  | noCommand
  | unknownCommand (name : String)
  | unknownOption (argument : String)
  | noValue (argument : String)
  | missing (what : String)
  | unexpected (argument : String)

def UsageError.message : UsageError → String
  | noCommand => "a command is required: run, template, eval, helpers or blocks"
  | unknownCommand name => "there is no command '" ++ name ++ "'"
  | unknownOption argument => "there is no option '" ++ argument ++ "'"
  | noValue argument => "a value is required for '" ++ argument ++ "'"
  | missing what => "an argument is required: " ++ what
  | unexpected argument => "unexpected argument '" ++ argument ++ "'"

/-- An option: its name, its letter if it has one, and whether a value follows. -/
structure OptionForm where
  name : String
  letter : Option Char := none
  hasValue : Bool := true

/-- The options that may stand anywhere. -/
def commonForms : List OptionForm :=
  [{ name := "config" }, { name := "verbose", letter := some 'v', hasValue := false }]

/-- The options of a command. -/
def formsOf : (command : String) → List OptionForm
  | "run" =>
    [{ name := "method", letter := some 'X' }, { name := "path" }, { name := "query", letter := some 'q' },
      { name := "header", letter := some 'H' }, { name := "body", letter := some 'b' },
      { name := "dump-context", hasValue := false }]
  | "template" => [{ name := "context", letter := some 'c' }]
  | _ => []

/-- How an option is written. -/
inductive OptionKey where
  | name (name : String)
  | letter (letter : Char)

def OptionForm.hasKey (f : OptionForm) : OptionKey → Bool
  | .name name => f.name = name
  | .letter letter => f.letter = some letter

/-- What an argument may be. -/
inductive Argument where
  | word
  | option (key : OptionKey) (value : Option String)
  | endOfOptions

/-- An argument by its hyphens. The value of an option may be attached to it. -/
def Argument.ofText (text : String) : Argument :=
  match text.toList with
  | ['-', '-'] => .endOfOptions
  | '-' :: '-' :: cs =>
    match Text.cut? ['='] cs with
    | some (name, value) => .option (.name (String.ofList name)) (some (String.ofList value))
    | none => .option (.name (String.ofList cs)) none
  | ['-', c] => .option (.letter c) none
  | '-' :: c :: '=' :: value => .option (.letter c) (some (String.ofList value))
  | '-' :: c :: value => .option (.letter c) (some (String.ofList value))
  | _ => .word

/-- Arguments taken apart. -/
structure Arguments where
  words : List String := []
  /-- The options by name, each with its value; that of one without a value is empty. -/
  options : List (String × String) := []

namespace Arguments

def addWords (a : Arguments) (words : List String) : Arguments :=
  { a with words := a.words ++ words }

def addOption (a : Arguments) (name value : String) : Arguments :=
  { a with options := a.options ++ [(name, value)] }

/-- The values of an option, in order. -/
def values (a : Arguments) (name : String) : List String :=
  (a.options.filter (·.1 = name)).map (·.2)

/-- The value of an option; of several the last. -/
def value? (a : Arguments) (name : String) : Option String :=
  (a.values name).getLast?

def has (a : Arguments) (name : String) : Bool :=
  (a.value? name).isSome

/-- The form of an option. What there is depends on the command, once it is known. -/
def form? (a : Arguments) (key : OptionKey) : Option OptionForm :=
  (commonForms ++ (a.words.head?.map formsOf).getD []).find? fun f => f.hasKey key

/-- Takes further arguments apart. -/
def scan (a : Arguments) : List String → Except UsageError Arguments
  | [] => .ok a
  | text :: rest =>
    match Argument.ofText text with
    | .word => scan (a.addWords [text]) rest
    | .endOfOptions => .ok (a.addWords rest)
    | .option key value =>
      match a.form? key with
      | none => .error (.unknownOption text)
      | some form =>
        match form.hasValue, value, rest with
        | false, none, rest => scan (a.addOption form.name "") rest
        | false, some _, _ => .error (.unexpected text)
        | true, some value, rest => scan (a.addOption form.name value) rest
        | true, none, value :: rest => scan (a.addOption form.name value) rest
        | true, none, [] => .error (.noValue text)

/-- The one word after the command. -/
def operand (a : Arguments) (what : String) : Except UsageError String :=
  match a.words.drop 1 with
  | [word] => .ok word
  | _ :: word :: _ => .error (.unexpected word)
  | [] => .error (.missing what)

/-- Refuses words after the command. -/
def noOperand (a : Arguments) : Except UsageError Unit :=
  match a.words.drop 1 with
  | word :: _ => .error (.unexpected word)
  | [] => .ok ()

/-- What is to be done. -/
def action (a : Arguments) : Except UsageError Action := do
  match a.words.head? with
  | some "run" =>
    return .run
      { flow := ← a.operand "the file of a flow"
        method := (a.value? "method").getD "GET"
        path := (a.value? "path").getD "/"
        query := a.values "query"
        headers := a.values "header"
        body := a.value? "body"
        dumpContext := a.has "dump-context" }
  | some "template" => return .template (← a.operand "a template") (a.value? "context")
  | some "eval" => return .eval (← a.operand "an expression")
  | some "helpers" => a.noOperand; return .helpers
  | some "blocks" => a.noOperand; return .blocks
  | some name => throw (.unknownCommand name)
  | none => throw .noCommand

end Arguments

/-- The invocation that arguments write. -/
def Invocation.ofArguments (arguments : List String) : Except UsageError Invocation := do
  let a ← Arguments.scan {} arguments
  return { settings := a.value? "config", verbose := a.has "verbose", action := ← a.action }

/-- The file of the flow that an invocation runs. -/
def Invocation.flow? (i : Invocation) : Option String :=
  match i.action with
  | .run o => some o.flow
  | _ => none

end FlowTree.Command
