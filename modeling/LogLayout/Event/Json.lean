import LogLayout.Event
import LogLayout.Json.Read

namespace LogLayout

/-- A level as JSON: its name in upper or in lower case, or an object with that name as the key
of a single `null`. -/
def Level.ofJson? : Json → Option Level
  | .string (some s) => all.find? (fun l => s = l.name ∨ s = l.lowerName)
  | .object [(some s, .null)] => all.find? (fun l => s = l.name ∨ s = l.lowerName)
  | _ => none

/-- The value of a member that must not come twice; `none` where it does. -/
def Json.member? (name : String) (members : List (JsonText × Json)) : Option (Option Json) :=
  match members.filter (fun m => m.1 = some name) with
  | [] => some none
  | [m] => some (some m.2)
  | _ => none

namespace Event

/-- Context entries as JSON: an object whose values are strings. The last value of a key
counts. -/
def contextOfJson? : Json → Option (Dictionary String)
  | .object members => do
    let entries ← members.mapM fun m => do return ((← m.1), (← m.2.text?))
    return .ofList entries
  | _ => none

/-- An event from the values of its fields, where there are any. -/
def ofFields? (logger level message thread context : Option Json) : Option Event := do
  let text (v : Option Json) : Option String := v.elim (some "") Json.text?
  return {
    logger := ← text logger
    level := ← level.elim (some .info) Level.ofJson?
    message := ← text message
    thread := ← text thread
    context := ← context.elim (some .empty) contextOfJson? }

/-- An event from a JSON value: an object whose members are its fields, or an array of their values
in order. What is missing has its default, and members with other keys are passed over. Every key
has to be text, and no field may come twice. -/
def ofJson? : Json → Option Event
  | .object members => do
    guard (members.all fun m => m.1.isSome)
    ofFields? (← Json.member? "logger" members) (← Json.member? "level" members)
      (← Json.member? "message" members) (← Json.member? "thread" members)
      (← Json.member? "context" members)
  | .array items => do
    guard (items.length ≤ 5)
    ofFields? items[0]? items[1]? items[2]? items[3]? items[4]?
  | _ => none

/-- An event from JSON text. -/
def ofText? (s : String) : Option Event :=
  (Json.ofText? s).bind ofJson?

end Event

end LogLayout
