/-!
# Arguments of the command

The command has two tasks, `replay` and `switch`, each with options of its own.  Options may
stand in any order and are given at most once; the value of an option is the next argument, or
what follows an equals sign.  After `--` arguments are not options.

`Invocation.ofArguments` reads the arguments.  Help and the version end the reading where they
are asked for, an argument that fits nowhere ends it as a usage error.
-/

namespace GraphStore

/-- What the command is asked to do. -/
inductive Task where
  | replay (workspace : String) (current : Option String) (file : String)
  | switch (workspace user : String)
  deriving DecidableEq

/-- How the command is called. -/
structure Invocation where
  task : Task
  settings : Option String
  logJson : Bool
  deriving DecidableEq

/-- What help is asked for. -/
inductive Topic where
  | command
  | replay
  | switch
  | help
  deriving DecidableEq

/-- Why there is nothing to do. -/
inductive Stop where
  | help (topic : Topic)
  | version
  | usage
  deriving DecidableEq

/-- The options and the place of a task. -/
structure TaskGrammar where
  topic : Topic
  /-- The options with a value, and whether the value is the path of a file. -/
  options : List (String × Bool)
  takesFile : Bool

/-- What is gathered from the arguments of a task. -/
structure Gathered where
  values : List (String × String)
  file : Option String
  logJson : Bool

namespace Arguments

def replayGrammar : TaskGrammar :=
  ⟨.replay, [("workspace", false), ("current", false), ("config", true)], true⟩

def switchGrammar : TaskGrammar :=
  ⟨.switch, [("workspace", false), ("user", false), ("config", true)], false⟩

/-- An argument as a long option: its name, and its value after an equals sign. -/
def long? (arg : String) : Option (String × Option String) :=
  match arg.toList with
  | '-' :: '-' :: cs =>
    let name := String.ofList (cs.takeWhile (· ≠ '='))
    match cs.dropWhile (· ≠ '=') with
    | [] => some (name, none)
    | _ :: value => some (name, some (String.ofList value))
  | _ => none

/-- The first letter of an argument with short options. -/
def short? (arg : String) : Option Char :=
  match arg.toList with
  | '-' :: c :: _ => some c
  | _ => none

/-- The argument stands for options and not for a value. -/
def isOption (arg : String) : Bool := (short? arg).isSome

/-- Give an option its value, once. -/
def give (g : Gathered) (name value : String) (isPath : Bool) : Except Stop Gathered :=
  if g.values.any (·.1 == name) || (isPath && value.isEmpty) then .error .usage
  else .ok { g with values := (name, value) :: g.values }

/-- Take an argument that is no option. -/
def takeFile (grammar : TaskGrammar) (g : Gathered) (arg : String) : Except Stop Gathered :=
  if !grammar.takesFile || g.file.isSome || arg.isEmpty then .error .usage
  else .ok { g with file := some arg }

/-- Gather the arguments of a task. -/
def gather (grammar : TaskGrammar) (g : Gathered) : List String → Except Stop Gathered
  | [] => .ok g
  | arg :: rest =>
    if arg = "--" then rest.foldlM (takeFile grammar) g
    else match long? arg with
      | some ("help", none) => .error (.help grammar.topic)
      | some ("log-json", none) =>
        if g.logJson then .error .usage else gather grammar { g with logJson := true } rest
      | some (name, value) =>
        match grammar.options.find? (·.1 == name), value, rest with
        | some (_, isPath), some value, rest => do
          gather grammar (← give g name value isPath) rest
        | some (_, isPath), none, value :: rest =>
          if isOption value then .error .usage
          else do gather grammar (← give g name value isPath) rest
        | _, _, _ => .error .usage
      | none =>
        match short? arg with
        | some 'h' => .error (.help grammar.topic)
        | some _ => .error .usage
        | none => do gather grammar (← takeFile grammar g arg) rest

/-- A value that must be given. -/
def required (g : Gathered) (name : String) : Except Stop String :=
  match g.values.find? (·.1 == name) with
  | some (_, value) => .ok value
  | none => .error .usage

/-- A value that may be given. -/
def optional (g : Gathered) (name : String) : Option String :=
  (g.values.find? (·.1 == name)).map (·.2)

/-- What `help` with further arguments is about. -/
def helpTopic : List String → Stop
  | [] => .help .command
  | ["replay"] => .help .replay
  | ["switch"] => .help .switch
  | ["help"] => .help .help
  | _ => .usage

/-- Read the arguments up to the task, and then those of the task. -/
def read (logJson : Bool) : List String → Except Stop Invocation
  | [] => .error .usage
  | "replay" :: rest => do
    let g ← gather replayGrammar ⟨[], none, false⟩ rest
    let workspace ← required g "workspace"
    match g.file with
    | none => .error .usage
    | some file => return ⟨.replay workspace (optional g "current") file, optional g "config",
        logJson || g.logJson⟩
  | "switch" :: rest => do
    let g ← gather switchGrammar ⟨[], none, false⟩ rest
    let workspace ← required g "workspace"
    let user ← required g "user"
    return ⟨.switch workspace user, optional g "config", logJson || g.logJson⟩
  | "help" :: rest => .error (helpTopic rest)
  | arg :: rest =>
    match long? arg with
    | some ("help", none) => .error (.help .command)
    | some ("version", none) => .error .version
    | some ("log-json", none) => if logJson then .error .usage else read true rest
    | some _ => .error .usage
    | none =>
      match short? arg with
      | some 'h' => .error (.help .command)
      | some 'V' => .error .version
      | _ => .error .usage

end Arguments

/-- How the command is called. -/
def Invocation.ofArguments (args : List String) : Except Stop Invocation :=
  Arguments.read false args

end GraphStore
