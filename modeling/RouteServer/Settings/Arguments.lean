import RouteServer.Json.Overlay
import RouteServer.Settings.Basic
import RouteServer.Text.Similar

/-! # Settings on the command line

Options stand in any order. A long one takes its value behind an equals sign or from the next argument,
a short one also without anything between. A value from the next argument is read only when the next
option begins or the line ends, so that an argument that is unknown is reported before it.
-/

namespace RouteServer.Settings

inductive Flag where
  | daemonSocket
  | logFilter
  | logFormat
  | neighborFile
  | reactorIdle
  | configPath
deriving DecidableEq, Repr

namespace Flag

def all : List Flag := [daemonSocket, logFilter, logFormat, neighborFile, reactorIdle, configPath]

def long : Flag → String
  | daemonSocket => "daemon-socket"
  | logFilter => "log-filter"
  | logFormat => "log-format"
  | neighborFile => "neighbor-file"
  | reactorIdle => "reactor-idle-ms"
  | configPath => "config-path"

def short? : Flag → Option Char
  | daemonSocket => some 'd'
  | logFilter => some 'l'
  | logFormat => some 'L'
  | neighborFile => some 'n'
  | reactorIdle => some 'r'
  | configPath => none

def valueName : Flag → String
  | configPath => "PATH"
  | f => .ofList (f.long.toList.map fun c => if c = '-' then '_' else c.toUpper)

def usage (f : Flag) : String := "--" ++ f.long ++ " <" ++ f.valueName ++ ">"

end Flag

/-! ## Faults -/

/-- What is wrong with a command line. An argument may be unknown although it is like an option; then the
usage shows this option and those that have been taken. -/
inductive ArgumentError where
  | unknown (text : String) (similar : Option String) (shown : List String)
  | missingValue (flag : Flag)
  | repeated (flag : Flag)
  | invalidValue (flag : Flag) (value why : String)
  | unexpectedValue (value : String)
  | help
deriving DecidableEq, Repr

namespace ArgumentError

def helpOption : String := "--help"

def headline : ArgumentError → String
  | unknown text _ _ => "error: unexpected argument '" ++ text ++ "' found"
  | missingValue flag =>
    "error: a value is required for '" ++ flag.usage ++ "' but none was supplied"
  | repeated flag => "error: the argument '" ++ flag.usage ++ "' cannot be used multiple times"
  | invalidValue flag value why =>
    "error: invalid value '" ++ value ++ "' for '" ++ flag.usage ++ "': " ++ why
  | unexpectedValue value =>
    "error: unexpected value '" ++ value ++ "' for '" ++ helpOption ++
      "' found; no more were expected"
  | help => "CLI parser struct generated by `OrthoConfig` for `Config`"

def tip? : ArgumentError → Option String
  | unknown _ similar _ => similar.map fun option => "  tip: a similar argument exists: '" ++ option ++ "'"
  | _ => none

/-- The usage of the program, if it is shown: with the options that matter, or with a word for all. -/
def usage? : ArgumentError → Option String
  | unknown _ _ [] | repeated _ => some "Usage: bgpd [OPTIONS]"
  | unknown _ _ shown => some ("Usage: bgpd " ++ " ".intercalate shown)
  | unexpectedValue _ => some ("Usage: bgpd " ++ helpOption)
  | _ => none

/-- All that is said: paragraphs with an empty line between, the last of them ended. -/
def message (e : ArgumentError) : String :=
  "\n\n".intercalate ([e.headline] ++ e.tip?.toList ++ e.usage?.toList ++
    ["For more information, try '" ++ helpOption ++ "'.\n"])

end ArgumentError

/-! ## Values -/

/-- What the command line sets, and the options in the order in which they were taken. -/
structure Arguments where
  values : Keyed String Json.Value := {}
  configPath : Option String := none
  taken : List Flag := []

def numberFault (text : String) : String :=
  let digits := Decimal.dropPlus text.toList
  if text = "" then "cannot parse integer from empty string"
  else if (Decimal.digits? digits).isSome then "number too large to fit in target type"
  else "invalid digit found in string"

def readFlag (flag : Flag) (text : String) : Except ArgumentError Json.Value :=
  match flag with
  | .daemonSocket =>
    match Endpoint.parse text with
    | .ok e => .ok (.string e.render)
    | .error e => .error (.invalidValue flag text e.message)
  | .logFormat =>
    match Log.Format.parse? text with
    | some f => .ok (.string f.render)
    | none => .error (.invalidValue flag text Log.Format.unknownMessage)
  | .reactorIdle =>
    match Decimal.readUInt64? text with
    | some n => .ok (.integer n.toNat)
    | none => .error (.invalidValue flag text (numberFault text))
  | .configPath => if text = "" then .error (.missingValue flag) else .ok (.string text)
  | .logFilter | .neighborFile => .ok (.string text)

def Arguments.take (a : Arguments) (flag : Flag) (value : Option String) :
    Except ArgumentError Arguments :=
  match value with
  | none => .error (.missingValue flag)
  | some text =>
    if flag ∈ a.taken then .error (.repeated flag)
    else match readFlag flag text with
      | .error e => .error e
      | .ok v =>
        let a := { a with taken := a.taken ++ [flag] }
        match flag with
        | .configPath => .ok { a with configPath := some text }
        | _ => .ok { a with values := a.values.insert flag.long v }

def Arguments.toValue (a : Arguments) : Json.Value :=
  .object (a.values.toList.map fun (name, v) =>
    (.ofList (name.toList.map fun c => if c = '-' then '_' else c), v))

/-! ## Reading -/

/-- An option that has begun, and the value it was given by the next argument. -/
structure Begun where
  flag : Flag
  value : Option String
deriving DecidableEq, Repr

/-- What has been read: the options taken, and the one that has begun. -/
structure Reading where
  done : Arguments := {}
  begun : Option Begun := none

def Reading.settle (r : Reading) : Except ArgumentError Arguments :=
  match r.begun with
  | none => .ok r.done
  | some b => r.done.take b.flag b.value

def Reading.start (r : Reading) (flag : Flag) (attached : Option String) :
    Except ArgumentError Reading := do
  let done ← r.settle
  match attached with
  | none => return { done, begun := some ⟨flag, none⟩ }
  | some text => return { done := ← done.take flag (some text), begun := none }

/-- Asks for help, which is given after the option that has begun is taken. -/
def Reading.askHelp (r : Reading) : Except ArgumentError Reading := do
  let _ ← r.settle
  throw .help

def Reading.unknownOption (r : Reading) (name : String) : ArgumentError :=
  let known := Flag.all.map fun f => (f.long, f.usage)
  let similar? := Text.mostAlike? name (known.map (·.1) ++ ["help"])
  let shown := similar?.toList.map fun long => (known.lookup long).getD ArgumentError.helpOption
  let option (long : String) : String := "--" ++ long
  .unknown (option name) (similar?.map option) (r.done.taken.map Flag.usage ++ shown).eraseDups

def Reading.long (r : Reading) (cs : List Char) : Except ArgumentError Reading :=
  let name := String.ofList (cs.takeWhile (· ≠ '='))
  let attached := match cs.dropWhile (· ≠ '=') with
    | [] => none
    | _ :: value => some (String.ofList value)
  match Flag.all.find? fun f => f.long = name with
  | some flag => r.start flag attached
  | none =>
    if name = "help" then
      match attached with
      | none => r.askHelp
      | some value => .error (.unexpectedValue value)
    else .error (r.unknownOption name)

/-- Reads the argument behind one dash: its first sign is an option, and the rest the value of that. -/
def Reading.short (r : Reading) (first : Char) (rest : List Char) : Except ArgumentError Reading :=
  match Flag.all.find? fun f => f.short? = some first with
  | some flag =>
    let value := match rest with
      | '=' :: rest => rest
      | _ => rest
    r.start flag (if rest = [] then none else some (.ofList value))
  | none => if first = 'h' then r.askHelp else .error (.unknown ("-" ++ .singleton first) none [])

/-- Reads an argument that is no option: it is the value of the option that has begun. -/
def Reading.plain (r : Reading) (text : String) : Except ArgumentError Reading :=
  match r.begun with
  | some ⟨flag, none⟩ => .ok { r with begun := some ⟨flag, some text⟩ }
  | _ => .error (.unknown text none [])

/-- Reads the arguments; behind two dashes alone nothing may follow. -/
def readArguments (r : Reading) : List String → Except ArgumentError Arguments
  | [] => r.settle
  | text :: rest =>
    match text.toList with
    | ['-', '-'] =>
      match rest with
      | [] => r.settle
      | other :: _ => .error (.unknown other none [])
    | '-' :: '-' :: cs => do readArguments (← r.long cs) rest
    | '-' :: c :: cs => do readArguments (← r.short c cs) rest
    | _ => do readArguments (← r.plain text) rest

def Arguments.parse (args : List String) : Except ArgumentError Arguments := readArguments {} args

end RouteServer.Settings
