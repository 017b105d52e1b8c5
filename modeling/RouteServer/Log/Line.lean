import RouteServer.Json.Printer
import RouteServer.Log.Filter
import RouteServer.Log.Format
import RouteServer.Text.Printable

/-! # Log lines

A record is one line: in compact form its level, target and message, and the fields that have a value;
in JSON an object with all of these.
-/

namespace RouteServer.Log

def FieldValue.render : FieldValue → String
  | .shown s => s
  | .text s => Text.quote s
  | .number n => toString n

def Record.compactLine (r : Record) : String :=
  r.level.render ++ " " ++ r.target ++ ": " ++ r.message ++
    String.join (r.values.map fun (name, value) => " " ++ name ++ "=" ++ value.render)

def FieldValue.toJson : FieldValue → Json.Value
  | .shown s | .text s => .string s
  | .number n => .ofNat n

def Record.toJson (r : Record) : Json.Value :=
  .object ([("level", .string r.level.render), ("message", .string r.message)] ++
    r.values.map (fun (name, value) => (name, value.toJson)) ++ [("target", .string r.target)])

/-- The line of a record in a format, without the moment. -/
def Record.line (r : Record) (format : Format) : String :=
  if format.isStructured then r.toJson.render else r.compactLine

structure Output where
  filter : Filter
  format : Format
deriving DecidableEq, Repr

end RouteServer.Log
