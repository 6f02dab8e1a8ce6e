import LogLayout.Json.Token

namespace LogLayout.Json

/-- An array or object that is still open. -/
inductive Frame where
  /-- The items so far, newest first. -/
  | array (items : List Json)
  /-- The members so far, newest first, and the key of the one that is being read. -/
  | object (members : List (JsonText × Json)) (key : JsonText)

/-- What has to come next inside the innermost open array or object. -/
inductive Expect where
  | value
  /-- A first item, or the end of the array. -/
  | firstItem
  /-- A first key, or the end of the object. -/
  | firstKey
  /-- A key after the members so far. -/
  | key (members : List (JsonText × Json))
  /-- The colon after a key. -/
  | colon (members : List (JsonText × Json)) (key : JsonText)
  /-- Whatever may follow a value that was just read. -/
  | afterValue (v : Json)

/-- A reader between two tokens. It keeps what is open, so values may nest as deep as they like. -/
structure Reader where
  expect : Expect
  /-- What is open, innermost first. -/
  frames : List Frame

namespace Reader

/-- A value starts. -/
def beginValue (frames : List Frame) : Token → Option Reader
  | .openArray => some ⟨.firstItem, frames⟩
  | .openObject => some ⟨.firstKey, frames⟩
  | .scalar v => some ⟨.afterValue v, frames⟩
  | _ => none

/-- Takes one token. -/
def step (r : Reader) (t : Token) : Option Reader :=
  match r.expect with
  | .value => beginValue r.frames t
  | .firstItem =>
    match t with
    | .closeArray => some ⟨.afterValue (.array []), r.frames⟩
    | t => beginValue (.array [] :: r.frames) t
  | .firstKey =>
    match t with
    | .closeObject => some ⟨.afterValue (.object []), r.frames⟩
    | .scalar (.string key) => some ⟨.colon [] key, r.frames⟩
    | _ => none
  | .key members =>
    match t with
    | .scalar (.string key) => some ⟨.colon members key, r.frames⟩
    | _ => none
  | .colon members key =>
    match t with
    | .colon => some ⟨.value, .object members key :: r.frames⟩
    | _ => none
  | .afterValue v =>
    match r.frames, t with
    | .array items :: frames, .comma => some ⟨.value, .array (v :: items) :: frames⟩
    | .array items :: frames, .closeArray =>
      some ⟨.afterValue (.array (v :: items).reverse), frames⟩
    | .object members key :: frames, .comma => some ⟨.key ((key, v) :: members), frames⟩
    | .object members key :: frames, .closeObject =>
      some ⟨.afterValue (.object ((key, v) :: members).reverse), frames⟩
    | _, _ => none

/-- Before the first token. -/
def start : Reader := ⟨.value, []⟩

/-- The value that was read, when nothing is open any more. -/
def result? (r : Reader) : Option Json :=
  match r.expect, r.frames with
  | .afterValue v, [] => some v
  | _, _ => none

end Reader

/-- The value of tokens. -/
def ofTokens? (ts : List Token) : Option Json :=
  (ts.foldlM Reader.step Reader.start).bind Reader.result?

/-- The value of JSON text. Nothing but white space stands around it. -/
def ofText? (s : String) : Option Json :=
  (tokens? s.toList).bind ofTokens?

end LogLayout.Json
