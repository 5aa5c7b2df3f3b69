import LastGood.Interval
import LastGood.Number.Decimal
import LastGood.Path

/-!
# The command line

The program is called with the name of a command and with options, in any order behind
the command. An option with a value takes it from the next argument, from behind an
equals sign, or, if it has one letter, from behind that letter. No option may be given
twice, except that `--json` may stand both before and behind the command. What does not
follow these rules is a misuse.
-/

namespace LastGood

/-- What the program is asked to do. -/
inductive Request where
  /-- Keep a configuration fresh. -/
  | serve (config : Path) (interval : Interval) (watch : Bool)
  /-- Say whether a configuration is valid. -/
  | check (config : Path)
  /-- Print a configuration. -/
  | print (config : Path) (editable : Bool)
  /-- Change the port of a configuration. -/
  | setPort (config : Path) (port : UInt16)
  deriving DecidableEq, Repr

/-- The path of the configuration that a request is about. -/
def Request.config : Request → Path
  | .serve config .. | .check config | .print config _ | .setPort config _ => config

/-- A call of the program. -/
structure Invocation where
  /-- What it is asked to do. -/
  request : Request
  /-- Whether log records are written as JSON. -/
  json : Bool
  deriving Repr

namespace CommandLine

/-- An option. -/
structure Opt where
  /-- Its name behind two hyphens. -/
  long : String
  /-- Its letter behind one hyphen. -/
  short : Option Char := none
  /-- Whether it takes a value. -/
  hasValue : Bool := false
  deriving Repr

/-- The options of a command. -/
structure Shape where
  /-- The options. -/
  options : List Opt
  /-- How many arguments there are that belong to no option. -/
  operands : Nat := 0

/-- What a command was given. -/
structure Given where
  /-- The options with their values; an option without a value has the empty one. -/
  options : List (String × String) := []
  /-- The arguments that belong to no option, in order. -/
  operands : List String := []

/-- The option that log records are written as JSON. -/
def jsonOption : Opt := { long := "json" }

/-- The option with the path of the configuration. -/
def configOption : Opt := { long := "config", short := some 'c', hasValue := true }

/-- The shape of a command. -/
def shape? : String → Option Shape
  | "serve" => some ⟨[jsonOption, configOption,
      { long := "interval", short := some 'i', hasValue := true }, { long := "watch" }], 0⟩
  | "check" => some ⟨[jsonOption, configOption], 0⟩
  | "show" => some ⟨[jsonOption, configOption, { long := "editable" }], 0⟩
  | "set-port" => some ⟨[jsonOption, configOption], 1⟩
  | _ => none

namespace Given

/-- What was given, with an option more; it must be the first of its name. -/
def adding (given : Given) (option : Opt) (value : String) : Option Given :=
  if given.options.any fun entry => entry.1 == option.long then none
  else some { given with options := given.options ++ [(option.long, value)] }

/-- The value of an option. -/
def value? (given : Given) (name : String) : Option String :=
  (given.options.find? fun entry => entry.1 == name).map Prod.snd

end Given

/-- Whether an argument looks like an option: a hyphen with something behind it. -/
def looksLikeOption (argument : String) : Bool :=
  match argument.toList with
  | '-' :: _ :: _ => true
  | _ => false

/-- Reads the letters behind one hyphen. When the last of them needs a value that is not
    there, it is given back. -/
def readLetters (shape : Shape) (given : Given) : List Char → Option (Given × Option Opt)
  | [] => some (given, none)
  | letter :: rest => do
      let option ← shape.options.find? fun option => option.short == some letter
      if option.hasValue then
        match rest with
        | [] => some (given, some option)
        | '=' :: value => (given.adding option (String.ofList value)).map (·, none)
        | value => (given.adding option (String.ofList value)).map (·, none)
      else
        let next ← given.adding option ""
        readLetters shape next rest

/-- Reads an argument that looks like an option. When it needs a value that is not there,
    the option is given back. -/
def readOption (shape : Shape) (given : Given) (argument : String) :
    Option (Given × Option Opt) :=
  match argument.toList with
  | '-' :: '-' :: body =>
      let name := String.ofList (body.takeWhile (· != '='))
      match shape.options.find? fun option => option.long == name with
      | none => none
      | some option =>
          match body.dropWhile (· != '='), option.hasValue with
          | [], true => some (given, some option)
          | [], false => (given.adding option "").map (·, none)
          | _ :: value, true => (given.adding option (String.ofList value)).map (·, none)
          | _ :: _, false => none
  | _ :: letters => readLetters shape given letters
  | [] => none

/-- Reads the arguments behind the name of a command. -/
def readArguments (shape : Shape) (given : Given) : List String → Option Given
  | [] => some given
  | argument :: rest =>
      if argument == "--" then some { given with operands := given.operands ++ rest }
      else if looksLikeOption argument then
        match readOption shape given argument with
        | none => none
        | some (next, none) => readArguments shape next rest
        | some (next, some option) =>
            match rest with
            | value :: others =>
                if looksLikeOption value then none
                else do
                  let after ← next.adding option value
                  readArguments shape after others
            | [] => none
      else readArguments shape { given with operands := given.operands ++ [argument] } rest

/-- A whole number below a limit, with or without a plus sign; a negative zero is one,
    too, if signs are allowed. -/
def natural? (limit : Nat) (signed : Bool) (text : String) : Option Nat :=
  let (digits, isNegative) :=
    match text.toList with
    | '+' :: rest => (rest, false)
    | '-' :: rest => if signed then (rest, true) else (['-'], false)
    | cs => (cs, false)
  if digits.isEmpty || !digits.all Decimal.isDigit then none
  else
    let n := Decimal.digitsValue digits
    if n < limit && !(isNegative && n != 0) then some n else none

/-- What a command with its arguments asks for. -/
def request? (name : String) (given : Given) : Option Request := do
  let config ← given.value? "config"
  if config == "" then none
  else
    let path : Path := ⟨config⟩
    match name with
    | "serve" => do
        let seconds ←
          match given.value? "interval" with
          | some text => natural? UInt64.size false text
          | none => some 60
        return .serve path (.ofSeconds seconds) (given.value? "watch").isSome
    | "check" => return .check path
    | "show" => return .print path (given.value? "editable").isSome
    | "set-port" => do
        let text ← given.operands.head?
        let port ← natural? UInt16.size true text
        return .setPort path port.toUInt16
    | _ => none

/-- What arguments ask for, the global options before the command among them. -/
def readGlobal (json : Bool) : List String → Option Invocation
  | [] => none
  | argument :: rest =>
      if argument == "--json" then if json then none else readGlobal true rest
      else do
        let shape ← shape? argument
        let given ← readArguments shape {} rest
        if given.operands.length != shape.operands then none
        else do
          let request ← request? argument given
          return { request, json := json || (given.value? "json").isSome }

/-- What arguments ask for; `none` if they are a misuse. -/
def read (arguments : List String) : Option Invocation := readGlobal false arguments

end CommandLine

end LastGood
