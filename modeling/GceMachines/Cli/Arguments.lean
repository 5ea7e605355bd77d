/-!
# Command lines

A command line is options and one command; a command has options of its own, and some have a
name. An option is given once, with its value behind an equals sign or in the next argument. The
style of the output may be said before the command or behind it, where the latter counts.

* `Invocation`: what a command line asks for.
* `Invocation.ofArguments`: the reading of a command line.
-/

namespace GceMachines.Cli

/-- How results are shown. -/
inductive Style
  | human
  | json
  deriving DecidableEq, Repr

/-- Where a secret comes from. -/
inductive SecretSource
  | file (path : String)
  /-- A secret in a cluster. -/
  | reference (text : String)
  deriving DecidableEq, Repr

/-- The specification and the secret of a command. -/
structure Inputs where
  spec : String
  secret : SecretSource
  deriving DecidableEq, Repr

/-- **A command.** -/
inductive Command
  | create (name : String) (inputs : Inputs)
  | delete (name : String) (inputs : Inputs)
  | status (name : String) (inputs : Inputs)
  | list (inputs : Inputs)
  | describe (id : String) (secret : SecretSource)
  | validate (inputs : Inputs)
  deriving DecidableEq, Repr

/-- **What a command line asks for.** -/
structure Invocation where
  style : Style
  command : Command
  deriving DecidableEq, Repr

/-- Why a command line asks for no command. -/
inductive Stop
  | help
  | version
  | misuse
  deriving DecidableEq, Repr

/-! ### Options -/

/-- The options with values. -/
inductive Opt
  | output
  | spec
  | secretFile
  | secretRef
  deriving DecidableEq, Repr

namespace Opt

/-- The long name of an option. -/
def long : Opt → String
  | output => "output"
  | spec => "spec"
  | secretFile => "secret-file"
  | secretRef => "secret-ref"

/-- Whether an option may have a value. -/
def accepts : Opt → String → Bool
  | output, v => v = "human" || v = "json"
  | spec, v => !v.isEmpty
  | secretFile, v => !v.isEmpty
  | secretRef, _ => true

end Opt

/-- The words of a command line that may stand at one level. -/
structure Level where
  options : List Opt
  /-- Whether the version can be asked for. -/
  hasVersion : Bool
  /-- How many arguments without a name there may be. -/
  arguments : Nat

/-- The words before a command. -/
def topLevel : Level := ⟨[.output], true, 0⟩

/-- What one level says. -/
structure Words where
  values : List (Opt × String)
  arguments : List String
  deriving DecidableEq, Repr

namespace Words

/-- Nothing. -/
def none : Words := ⟨[], []⟩

/-- The value of an option. -/
def value? (w : Words) (o : Opt) : Option String := (w.values.find? (·.1 = o)).map Prod.snd

/-- One more value. No option has two. -/
def withValue (o : Opt) (v : String) (w : Words) : Except Stop Words :=
  if (w.value? o).isSome || !o.accepts v then .error .misuse
  else .ok { w with values := (o, v) :: w.values }

/-- One more argument without a name. -/
def withArgument (l : Level) (a : String) (w : Words) : Except Stop Words :=
  if w.arguments.length < l.arguments then .ok { w with arguments := w.arguments ++ [a] }
  else .error .misuse

end Words

/-- What one argument is. -/
inductive Word
  | argument
  /-- An option with its value. -/
  | valued (o : Opt) (v : String)
  /-- An option whose value is the next argument. -/
  | waiting (o : Opt)
  | stop (s : Stop)
  deriving DecidableEq, Repr

namespace Word

/-- The part of a text before its first equals sign, and the part behind it, if there is one. -/
def splitValue (cs : List Char) : String × Option String :=
  (String.ofList (cs.takeWhile (· ≠ '=')),
    match cs.dropWhile (· ≠ '=') with
    | _ :: v => some (String.ofList v)
    | [] => none)

/-- An argument behind two hyphens. -/
def ofLong (l : Level) (cs : List Char) : Word :=
  let (name, value) := splitValue cs
  match l.options.find? (·.long = name), value with
  | some o, some v => .valued o v
  | some o, none => .waiting o
  | none, none =>
    if name = "help" then .stop .help
    else if name = "version" && l.hasVersion then .stop .version
    else .stop .misuse
  | none, some _ => .stop .misuse

/-- An argument behind one hyphen. -/
def ofShort (l : Level) (cs : List Char) : Word :=
  match cs with
  | 'o' :: [] => .waiting .output
  | 'o' :: '=' :: v => .valued .output (String.ofList v)
  | 'o' :: v => .valued .output (String.ofList v)
  | 'h' :: _ => .stop .help
  | 'V' :: _ => .stop (if l.hasVersion then .version else .misuse)
  | _ => .stop .misuse

/-- What an argument is. -/
def ofText (l : Level) (s : String) : Word :=
  match s.toList with
  | '-' :: '-' :: cs => ofLong l cs
  | ['-'] => .argument
  | '-' :: cs => ofShort l cs
  | _ => .argument

/-- Whether an argument may be the value of the option before it. -/
def isValue (s : String) : Bool :=
  match s.toList with
  | '-' :: _ :: _ => false
  | _ => true

end Word

/-- The words of a level: those behind `w`, of which the first may be the value of an option. -/
def readWords (l : Level) : (waiting : Option Opt) → List String → Words → Except Stop Words
  | none, [], w => .ok w
  | some _, [], _ => .error .misuse
  | some o, v :: rest, w =>
    if Word.isValue v then (w.withValue o v).bind (readWords l none rest)
    else .error .misuse
  | none, a :: rest, w =>
    if a = "--" then rest.foldlM (fun w a => w.withArgument l a) w
    else match Word.ofText l a with
      | .argument => (w.withArgument l a).bind (readWords l none rest)
      | .valued o v => (w.withValue o v).bind (readWords l none rest)
      | .waiting o => readWords l (some o) rest w
      | .stop s => .error s

/-- The words before the command, the command, and the words behind it. -/
def splitCommand : (waiting : Option Opt) → List String → Words →
    Except Stop (Words × String × List String)
  | _, [], _ => .error .misuse
  | some o, v :: rest, w =>
    if Word.isValue v then (w.withValue o v).bind (splitCommand none rest)
    else .error .misuse
  | none, a :: rest, w =>
    if a = "--" then .error .misuse
    else match Word.ofText topLevel a with
      | .argument => .ok (w, a, rest)
      | .valued o v => (w.withValue o v).bind (splitCommand none rest)
      | .waiting o => splitCommand (some o) rest w
      | .stop s => .error s

/-! ### Commands -/

/-- The names of the commands. -/
inductive CommandName
  | create
  | delete
  | status
  | list
  | describe
  | validate
  deriving DecidableEq, Repr

namespace CommandName

/-- The name as it is written. -/
def text : CommandName → String
  | create => "create"
  | delete => "delete"
  | status => "status"
  | list => "list"
  | describe => "describe"
  | validate => "validate"

/-- All commands. -/
def all : List CommandName := [create, delete, status, list, describe, validate]

/-- The command of a name. -/
def ofText? (s : String) : Option CommandName := all.find? (·.text = s)

theorem ofText?_text (c : CommandName) : ofText? c.text = some c := by cases c <;> decide

/-- The words that may stand behind a command. -/
def level : CommandName → Level
  | describe => ⟨[.output, .secretFile, .secretRef], false, 1⟩
  | list => ⟨[.output, .spec, .secretFile, .secretRef], false, 0⟩
  | validate => ⟨[.output, .spec, .secretFile, .secretRef], false, 0⟩
  | _ => ⟨[.output, .spec, .secretFile, .secretRef], false, 1⟩

end CommandName

/-- The one source of the secret. -/
def secretSource (w : Words) : Except Stop SecretSource :=
  match w.value? .secretFile, w.value? .secretRef with
  | some path, none => .ok (.file path)
  | none, some text => .ok (.reference text)
  | _, _ => .error .misuse

/-- The specification and the secret. -/
def inputs (w : Words) : Except Stop Inputs :=
  match w.value? .spec with
  | some spec => (secretSource w).map fun secret => ⟨spec, secret⟩
  | none => .error .misuse

/-- The one argument without a name. -/
def argument (w : Words) : Except Stop String :=
  match w.arguments with
  | [a] => .ok a
  | _ => .error .misuse

/-- The command of a name with its words. -/
def commandOf (name : CommandName) (w : Words) : Except Stop Command :=
  let named (f : String → Inputs → Command) : Except Stop Command :=
    (argument w).bind fun a => (inputs w).map (f a)
  match name with
  | .create => named .create
  | .delete => named .delete
  | .status => named .status
  | .list => (inputs w).map .list
  | .describe => (argument w).bind fun a => (secretSource w).map (.describe a)
  | .validate => (inputs w).map .validate

/-- The style that words ask for. -/
def style? (w : Words) : Option Style :=
  (w.value? .output).map fun v => if v = "json" then .json else .human

/-- What a request for help asks for: the commands, or one of them. -/
def helpFor : List String → Stop
  | [] => .help
  | [name] => if name = "help" || (CommandName.ofText? name).isSome then .help else .misuse
  | _ => .misuse

/-- **What a command line asks for.** -/
def Invocation.ofArguments (args : List String) : Except Stop Invocation :=
  (splitCommand none args .none).bind fun (before, name, rest) =>
    match CommandName.ofText? name with
    | none => .error (if name = "help" then helpFor rest else .misuse)
    | some name =>
      (readWords name.level none rest .none).bind fun w =>
        (commandOf name w).map fun command =>
          ⟨((style? w).or (style? before)).getD .human, command⟩

end GceMachines.Cli
