import RouteServer.Json.Value

/-! # Laying one value over another

Objects are combined member by member; any other value hides what lies under it.
-/

namespace RouteServer.Json

/-- Gives a member a value, at the place of the old one or at the end. -/
def setMember (name : String) (v : Value) : List (String × Value) → List (String × Value)
  | [] => [(name, v)]
  | (other, old) :: rest =>
    if other = name then (name, v) :: rest else (other, old) :: setMember name v rest

mutual

def Value.overlay (lower upper : Value) : Value :=
  match upper with
  | .object members =>
    match lower with
    | .object under => .object (overlayMembers under members)
    | _ => .object members
  | v => v

def overlayMembers (under : List (String × Value)) : List (String × Value) → List (String × Value)
  | [] => under
  | (name, v) :: rest =>
    let combined := match under.lookup name with
      | some old => old.overlay v
      | none => v
    overlayMembers (setMember name combined under) rest

end

end RouteServer.Json
