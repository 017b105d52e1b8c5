import RouteServer.Log.Pattern
import RouteServer.Log.Record
import RouteServer.Text.Blank
import RouteServer.Text.Decimal
import RouteServer.Unicode.Alphanumeric

/-! # Filters for log records

A filter is a list of directives. A directive gives a level to the records of a target, or to all
records, and may ask for fields that a record has to have. Of the directives that match a record the
most specific one decides.
-/

namespace RouteServer.Log

/-! ## Directives -/

inductive FilterFault where
  | directive
  | level
  | pattern
deriving DecidableEq, Repr

def FilterFault.message : FilterFault → String
  | directive => "invalid filter directive"
  | level => "error parsing level filter: expected one of \"off\", \"error\", \"warn\", \"info\", " ++
      "\"debug\", \"trace\", or a number 0-5"
  | pattern => "invalid field filter: error building NFA"

/-- The records that a directive is about, and the level up to which it shows them. A field may come
with a value that it has to have. -/
structure Directive where
  target : Option String := none
  span : Option String := none
  fields : List (String × Option String) := []
  verbosity : Nat := 5
deriving DecidableEq, Repr

def levelVerbosity? (cs : List Char) : Option Nat :=
  match Decimal.below? UInt64.size cs with
  | some n => if n ≤ 5 then some n else none
  | none =>
    let name := Text.lowercase (.ofList cs)
    if name = "off" then some 0
    else if name = "" then some 1
    else (Level.all.find? fun l => Text.lowercase l.render = name).map Level.verbosity

/-- A level behind an equals sign; nothing there means everything. -/
def levelBehind (cs : List Char) : Except FilterFault Nat :=
  if cs = [] then .ok 5
  else match levelVerbosity? cs with
    | some v => .ok v
    | none => .error .level

def canBegin (c : Char) : Bool := c = '-' || c = ':' || c = '_' || Unicode.isAlphanumeric c

/-- A name, perhaps with a value behind an equals sign. What follows another one does not count. -/
def fieldOf (cs : List Char) : Except FilterFault (String × Option String) :=
  if cs = [] then .error .directive
  else match cs.splitOn '=' with
    | name :: value :: _ =>
      if Pattern.isValue value then .ok (.ofList name, some (.ofList value)) else .error .pattern
    | _ => .ok (.ofList cs, none)

def readBehindSpan (d : Directive) : List Char → Except FilterFault Directive
  | [] => .ok d
  | '=' :: rest => (levelBehind rest).map fun verbosity => { d with verbosity }
  | _ => .error .directive

/-- Reads what follows the opening bracket of a span: its name, and fields in braces. -/
def readSpan (d : Directive) (cs : List Char) : Except FilterFault Directive :=
  let endsName (c : Char) : Bool := c = ']' || c = '\x7b'
  let name := String.ofList (cs.takeWhile (!endsName ·))
  match cs.dropWhile (!endsName ·) with
  | ']' :: rest => readBehindSpan { d with span := some name } rest
  | '\x7b' :: rest =>
    match rest.dropWhile (· ≠ '\x7d') with
    | [] => .error .directive
    | _ :: rest' => do
      let fields ← ((rest.takeWhile (· ≠ '\x7d')).splitOn ',').mapM fieldOf
      match rest' with
      | ']' :: behind =>
        readBehindSpan { d with span := if name = "" then none else some name, fields } behind
      | _ => .error .directive
  | _ => .error .directive

/-- Reads a directive: a level, a target, a target with a level, or a span with or without these. -/
def Directive.parse (text : String) : Except FilterFault Directive :=
  let cs := text.toList
  let endsTarget (c : Char) : Bool := c = '=' || c = '['
  match cs with
  | '[' :: rest => readSpan {} rest
  | first :: _ =>
    if !canBegin first then .error .directive
    else
      let target := String.ofList (cs.takeWhile (!endsTarget ·))
      match cs.dropWhile (!endsTarget ·) with
      | '=' :: rest => (levelBehind rest).map fun verbosity => { target := some target, verbosity }
      | '[' :: rest => readSpan { target := some target } rest
      | _ =>
        match levelVerbosity? cs with
        | some verbosity => .ok { verbosity }
        | none => .ok { target := some text }
  | [] => .error .directive

/-! ## Filters -/

/-- The directives in the order of their texts. -/
structure Filter where
  directives : List Directive
deriving DecidableEq, Repr

/-- Whether a directive can match records that stand in no span, whatever their values. -/
def Directive.isStatic (d : Directive) : Bool := d.span.isNone && d.fields.all fun f => f.2.isNone

def Directive.concerns (d : Directive) (r : Record) : Bool :=
  d.isStatic && (d.target.all fun t => t.toList.isPrefixOf r.target.toList) &&
    d.fields.all fun f => f.1 = "message" || r.fields.any fun g => g.1 = f.1

/-- Whether `d` is at least as specific as `e`: it has the longer target, or more fields, or a name that
comes later. -/
def Directive.outranks (d e : Directive) : Bool :=
  let size (x : Directive) : Nat × Nat :=
    ((x.target.map fun t => t.utf8ByteSize + 1).getD 0, x.fields.length)
  let names (x : Directive) : List String := x.target.toList ++ x.fields.map (·.1)
  match compare (size d).1 (size e).1 with
  | .gt => true
  | .lt => false
  | .eq =>
    match compare (size d).2 (size e).2 with
    | .gt => true
    | .lt => false
    | .eq => (compare (names d) (names e)).isGE

namespace Filter

/-- The directive that decides about a record: the most specific one, and of equals the last. -/
def deciding? (f : Filter) (r : Record) : Option Directive :=
  (f.directives.filter (·.concerns r)).foldl (fun best d =>
    match best with
    | none => some d
    | some b => if d.outranks b then some d else some b) none

def shows (f : Filter) (r : Record) : Bool :=
  (f.deciding? r).any fun d => r.level.verbosity ≤ d.verbosity

end Filter

/-! ## The filter of the daemon -/

/-- The parts of the daemon that report so much that a general filter does not show their details. -/
def floors : List (String × String) := [(part "scheduler", "info"), (part "dispatch", "info")]

def names (target directive : String) : Bool :=
  target.toList.isPrefixOf directive.toList &&
    ((directive.toList.drop target.length).head?.all fun c => c = '=' || c = '[')

/-- The directives of a filter text, with a floor for each chatty part that none of them names. -/
def directiveTexts (text : String) : List String :=
  let given := ((Text.splitOnChar ',' text).map Text.trim).filter (· ≠ "")
  given ++ (floors.filter fun (target, _) => !given.any (names target)).map
    fun (target, level) => target ++ "=" ++ level

structure FilterError where
  text : String
  fault : FilterFault
deriving DecidableEq, Repr

def FilterError.message (e : FilterError) : String :=
  "invalid log filter '" ++ e.text ++ "': " ++ e.fault.message

def Filter.parse (text : String) : Except FilterError Filter :=
  let texts := directiveTexts text
  match texts.mapM Directive.parse with
  | .ok directives => .ok ⟨directives⟩
  | .error fault => .error ⟨",".intercalate texts, fault⟩

end RouteServer.Log
