/-!
# Arguments of the command line

Options may stand before or behind the command, in a long or a short form, with their value in the
next argument, behind an equals sign, or right behind the letter. An option is given at most once
before the command and once behind it, and the one behind counts.
-/

namespace LineagePorts.CommandLine

inductive Command where
  | apply (requests : String)
  | show (qualifiedName : String)
  | get (guid : String)
deriving DecidableEq

structure Arguments where
  config : String
  user : Option String
  externalSource : Option String
  command : Command
deriving DecidableEq

inductive Invocation where
  | run (arguments : Arguments)
  | help
  | version
  | usageError
deriving DecidableEq

inductive OptionName where
  | config
  | user
  | externalSource
deriving DecidableEq

namespace OptionName

def long : OptionName → String
  | .config => "--config"
  | .user => "--user"
  | .externalSource => "--external-source"

def short : OptionName → Char
  | .config => 'c'
  | .user => 'u'
  | .externalSource => 'e'

def all : List OptionName := [.config, .user, .externalSource]

end OptionName

/-- An argument by its form. -/
inductive Form where
  | plain (s : String)
  /-- An option with its value, unless that is in the next argument. -/
  | option (name : OptionName) (value : Option String)
  | help
  | version
  /-- Two hyphens, behind which every argument is plain. -/
  | separator
  | unknown
deriving DecidableEq

def longForm (cs : List Char) : Form :=
  let name := String.ofList (cs.takeWhile fun c => c ≠ '=')
  let value := match cs.dropWhile fun c => c ≠ '=' with
    | [] => none
    | _ :: v => some (String.ofList v)
  if name = "--help" && value.isNone then .help
  else if name = "--version" && value.isNone then .version
  else
    match OptionName.all.find? fun o => o.long = name with
    | some o => .option o value
    | none => .unknown

def shortForm (letter : Char) (attached : List Char) : Form :=
  if letter = 'h' then .help
  else if letter = 'V' then .version
  else
    match OptionName.all.find? fun o => o.short = letter with
    | none => .unknown
    | some o =>
      match attached with
      | [] => .option o none
      | '=' :: v => .option o (some (String.ofList v))
      | v => .option o (some (String.ofList v))

def form (argument : String) : Form :=
  match argument.toList with
  | ['-', '-'] => .separator
  | '-' :: '-' :: cs => longForm ('-' :: '-' :: cs)
  | '-' :: c :: cs => shortForm c cs
  | _ => .plain argument

/-- The options and plain arguments at one side of the command. -/
structure Given where
  options : List (OptionName × String)
  plain : List String
deriving DecidableEq

namespace Given

def empty : Given := ⟨[], []⟩

def find? (g : Given) (name : OptionName) : Option String :=
  (g.options.find? fun o => o.1 = name).map Prod.snd

/-- An option is given once; the path of a configuration is not empty. -/
def addOption? (g : Given) (name : OptionName) (value : String) : Option Given :=
  if (g.find? name).isSome || (name = .config && value.isEmpty) then none
  else some { g with options := g.options ++ [(name, value)] }

end Given

/-- What stops the reading of arguments early. -/
inductive Stop where
  | help
  | version
  | usageError
deriving DecidableEq

/-- Reads the arguments before the command, and gives the command and the arguments behind it. -/
def readBefore (g : Given) : List String → Except Stop (Given × String × List String)
  | [] => .error .usageError
  | argument :: rest =>
    match form argument with
    | .plain command => .ok (g, command, rest)
    | .help => .error .help
    | .version => .error .version
    | .separator => .error .usageError
    | .unknown => .error .usageError
    | .option name (some value) =>
      match g.addOption? name value with
      | some g => readBefore g rest
      | none => .error .usageError
    | .option name none =>
      match rest with
      | [] => .error .usageError
      | next :: rest =>
        match form next, g.addOption? name next with
        | .plain _, some g => readBefore g rest
        | _, _ => .error .usageError

/-- The argument of a command is given once; that of `apply`, which is a path, is not empty. -/
def addPlain? (command : String) (g : Given) (s : String) : Option Given :=
  if !g.plain.isEmpty || (command = "apply" && s.isEmpty) then none
  else some { g with plain := [s] }

/-- Reads the arguments behind the command, of which at most one is plain. -/
def readBehind (command : String) (g : Given) : List String → Except Stop Given
  | [] => .ok g
  | argument :: rest =>
    match form argument with
    | .plain s =>
      match addPlain? command g s with
      | some g => readBehind command g rest
      | none => .error .usageError
    | .help => .error .help
    | .version => .error .usageError
    | .separator => .ok { g with plain := g.plain ++ rest }
    | .unknown => .error .usageError
    | .option name (some value) =>
      match g.addOption? name value with
      | some g => readBehind command g rest
      | none => .error .usageError
    | .option name none =>
      match rest with
      | [] => .error .usageError
      | next :: rest =>
        match form next, g.addOption? name next with
        | .plain _, some g => readBehind command g rest
        | _, _ => .error .usageError

/-- The command of a name, with its one argument. -/
def command? (name : String) (plain : List String) : Option Command :=
  match plain with
  | [argument] =>
    if name = "apply" then if argument.isEmpty then none else some (.apply argument)
    else if name = "show" then some (.show argument)
    else if name = "get" then some (.get argument)
    else none
  | _ => none

def defaultConfig : String := "portlink.toml"

def versionText : String := "portlink 0.1.0"

def helpText : String :=
  "\n".intercalate [
    "Port relationship manager for a lineage metadata store",
    "",
    "Usage: portlink [OPTIONS] <COMMAND>",
    "",
    "Commands:",
    "  apply <REQUESTS>       Apply a JSON array of requests in order, with one JSON line each",
    "  show <QUALIFIED_NAME>  Show the port of this name and its schema type",
    "  get <GUID>             Show any stored entity",
    "",
    "Options:",
    "  -c, --config <CONFIG>                    Path of the configuration, else portlink.toml",
    "  -u, --user <USER>                        Calling user, else that of the configuration",
    "  -e, --external-source <EXTERNAL_SOURCE>  External source, else the first configured one",
    "  -h, --help                               Print this help",
    "  -V, --version                            Print the version"]

def commandNames : List String := ["apply", "show", "get"]

/-- What may stand behind the help command. -/
def asksForHelp : List String → Bool
  | [] => true
  | [name] => ("help" :: commandNames).contains name
  | _ => false

def read (arguments : List String) : Except Stop Arguments := do
  let (before, name, rest) ← readBefore .empty arguments
  if name = "help" && asksForHelp rest then throw .help
  if !commandNames.contains name then throw .usageError
  let behind ← readBehind name .empty rest
  let value := fun option => (behind.find? option).or (before.find? option)
  match command? name behind.plain with
  | none => throw .usageError
  | some command =>
    return {
      config := (value .config).getD defaultConfig
      user := value .user
      externalSource := value .externalSource
      command := command }

def invocation (arguments : List String) : Invocation :=
  match read arguments with
  | .ok a => .run a
  | .error .help => .help
  | .error .version => .version
  | .error .usageError => .usageError

end LineagePorts.CommandLine
