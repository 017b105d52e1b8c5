import RouteServer.Json.Value

/-! # Tables under construction

A document fills a tree of tables line by line. A table remembers how it came to be, because a table
that was written out is not opened again by another header, and keys with dots only extend tables that
keys with dots have made.
-/

namespace RouteServer.Toml

/-- How a table came to be: on the way to another, by a header of its own, or by keys with dots. -/
inductive Origin where
  | onTheWay
  | header
  | dotted
deriving DecidableEq, Repr

inductive Node where
  | value (v : Json.Value)
  | table (origin : Origin) (members : List (String × Node))
  | tables (items : List (List (String × Node)))

abbrev Members := List (String × Node)

/-! ## Members -/

def setMember (name : String) (node : Node) : Members → Members
  | [] => [(name, node)]
  | (other, old) :: rest =>
    if other = name then (name, node) :: rest else (other, old) :: setMember name node rest

/-- Follows names from a table and changes the table that they lead to; missing tables are made. From a
list of tables the way goes on in its last one. -/
def descend (making origin : Origin) (path : List String)
    (change : Origin → Members → Option Members) (members : Members) : Option Members :=
  match path with
  | [] => change origin members
  | name :: rest =>
    match members.lookup name with
    | none => do
      let inner ← descend making making rest change []
      return setMember name (.table making inner) members
    | some (.value _) => none
    | some (.table origin inner) =>
      if making = .dotted ∧ origin = .header then none
      else do
        let inner ← descend making origin rest change inner
        return setMember name (.table origin inner) members
    | some (.tables items) => do
      let inner ← descend making .header rest change (items.getLastD [])
      return setMember name (.tables (items.dropLast ++ [inner])) members

/-! ## Statements -/

/-- Sets a key with dots to a value in a table of the given origin. The table that takes the value has
been made by dots exactly if the key has dots. -/
def assign (origin : Origin) (path : List String) (name : String) (v : Json.Value)
    (members : Members) : Option Members :=
  descend .dotted origin path (fun origin inner =>
    if (origin = .dotted) = (path = []) then none
    else if (inner.lookup name).isSome then none
    else some (setMember name (.value v) inner)) members

def openTable (path : List String) (name : String) (members : Members) : Option Members :=
  descend .onTheWay .header path (fun _ inner =>
    match inner.lookup name with
    | none => some (setMember name (.table .header []) inner)
    | some (.table .onTheWay old) => some (setMember name (.table .header old) inner)
    | some _ => none) members

def openItem (path : List String) (name : String) (members : Members) : Option Members :=
  descend .onTheWay .header path (fun _ inner =>
    match inner.lookup name with
    | none => some (setMember name (.tables [[]]) inner)
    | some (.tables items) => some (setMember name (.tables (items ++ [[]])) inner)
    | some _ => none) members

def assignIn (current path : List String) (name : String) (v : Json.Value) (members : Members) :
    Option Members :=
  descend .onTheWay .header current (fun _ inner => assign .header path name v inner) members

/-! ## Finished tables -/

mutual

def Node.toValue : Node → Json.Value
  | .value v => v
  | .table _ members => .object (membersToValues members)
  | .tables items => .array (itemsToValues items)

def membersToValues : List (String × Node) → List (String × Json.Value)
  | [] => []
  | (name, node) :: rest => (name, node.toValue) :: membersToValues rest

def itemsToValues : List (List (String × Node)) → List Json.Value
  | [] => []
  | members :: rest => .object (membersToValues members) :: itemsToValues rest

end

end RouteServer.Toml
