import RouteServer.Text.Blank

/-! # Formats of log output -/

namespace RouteServer.Log

/-- One JSON object per event, or one line of text. -/
inductive Format where
  | json
  | compact
deriving DecidableEq, Repr

namespace Format

def all : List Format := [json, compact]

def render : Format → String
  | json => "json"
  | compact => "compact"

def parse? (text : String) : Option Format := all.find? fun f => f.render = Text.lowercase text

def unknownMessage : String := "Matching variant not found"

/-- Whether the output is made for programs. -/
def isStructured (f : Format) : Bool := f = json

end Format

end RouteServer.Log
