import LogLayout.Proofs.Checked.Text

namespace LogLayout.Pattern

/-- What a turn of a loop ends with: the state to go on from, or a result. -/
inductive Turn (σ α : Type) where
  | again (state : σ)
  | done (result : α)

/-- Takes turns until there is a result. Whatever is left to do has to become less with every turn;
a loop that could go on without end has no result. -/
def loop? {σ α : Type} (left : σ → Nat) (turn : σ → Option (Turn σ α)) (state : σ) : Option α :=
  match turn state with
  | none => none
  | some (.done result) => some result
  | some (.again next) => if left next < left state then loop? left turn next else none
termination_by left state

section Loop

variable {σ α : Type} {left : σ → Nat} {turn : σ → Option (Turn σ α)} {state next : σ}

theorem loop?_of_done {result : α} (h : turn state = some (.done result)) :
    loop? left turn state = some result := by
  rw [loop?, h]

theorem loop?_of_again (h : turn state = some (.again next)) (hleft : left next < left state) :
    loop? left turn state = loop? left turn next := by
  rw [loop?, h]
  exact if_pos hleft

end Loop

/-- A place in a pattern. -/
structure Cursor where
  source : String
  position : Nat

namespace Cursor

/-- The character behind the cursor. -/
def peek? (c : Cursor) : Option (Option Char) :=
  (Text.sliceFrom? c.source c.position).map (·.toList.head?)

/-- The cursor behind a character that stands at it. -/
def advance (c : Cursor) (ch : Char) : Cursor :=
  { c with position := c.position + ch.utf8Size }

/-- Takes the next character, if there is one. -/
def bump? (c : Cursor) : Option (Option Char × Cursor) := do
  match ← c.peek? with
  | none => return (none, c)
  | some ch => return (some ch, c.advance ch)

/-- Takes the next character if it is the expected one. -/
def eat? (c : Cursor) (expected : Char) : Option (Bool × Cursor) := do
  if (← c.peek?) = some expected then return (true, c.advance expected)
  else return (false, c)

/-- The number of bytes behind the cursor. -/
def left (c : Cursor) : Nat := c.source.utf8ByteSize - c.position

/-- Goes over a character of a class. -/
def skipTurn? (p : Char → Bool) (c : Cursor) : Option (Turn Cursor Cursor) := do
  match ← c.peek? with
  | none => return .done c
  | some ch => if p ch then return .again (c.advance ch) else return .done c

/-- The cursor behind all characters of a class. -/
def skipWhile? (p : Char → Bool) (c : Cursor) : Option Cursor := loop? left (skipTurn? p) c

/-- Takes all characters of a class. -/
def takeWhile? (p : Char → Bool) (c : Cursor) : Option (String × Cursor) := do
  let stop ← c.skipWhile? p
  return (← Text.slice? c.source c.position stop.position, stop)

/-- The cursor between two parts of a pattern. -/
def between (before rest : List Char) : Cursor :=
  ⟨String.ofList (before ++ rest), Text.byteSize before⟩

variable (before rest : List Char)

theorem peek?_between : (between before rest).peek? = some rest.head? := by
  rw [peek?, between, Text.sliceFrom?_ofList, Option.map_some, String.toList_ofList]

theorem advance_between (ch : Char) :
    (between before (ch :: rest)).advance ch = between (before ++ [ch]) rest := by
  simp [advance, between, Text.byteSize]

theorem bump?_between_nil : (between before []).bump? = some (none, between before []) := by
  simp only [bump?, peek?_between, List.head?_nil, Option.bind_eq_bind, Option.bind_some,
    Option.pure_def]

theorem bump?_between_cons (ch : Char) :
    (between before (ch :: rest)).bump? = some (some ch, between (before ++ [ch]) rest) := by
  simp only [bump?, peek?_between, List.head?_cons, advance_between, Option.bind_eq_bind,
    Option.bind_some, Option.pure_def]

theorem eat?_between_of_head (expected : Char) :
    (between before (expected :: rest)).eat? expected =
      some (true, between (before ++ [expected]) rest) := by
  simp only [eat?, peek?_between, List.head?_cons, advance_between, if_true, Option.bind_eq_bind,
    Option.bind_some, Option.pure_def]

variable {before rest}

theorem eat?_between_of_ne {expected : Char} (h : rest.head? ≠ some expected) :
    (between before rest).eat? expected = some (false, between before rest) := by
  simp only [eat?, peek?_between, if_neg h, Option.bind_eq_bind, Option.bind_some,
    Option.pure_def]

variable (before rest)

theorem left_between : (between before rest).left = Text.byteSize rest := by
  rw [left, between, ← Text.byteSize_toList, String.toList_ofList, Text.byteSize_append,
    Nat.add_sub_cancel_left]

/-- The cursor gets on with everything that is read. -/
theorem left_between_lt {text : List Char} (h : text ≠ []) :
    (between (before ++ text) rest).left < (between before (text ++ rest)).left := by
  obtain ⟨ch, text, rfl⟩ := List.exists_cons_of_ne_nil h
  have hpos := ch.utf8Size_pos
  rw [left_between, left_between, Text.byteSize_append, Text.byteSize]
  omega

theorem skipWhile?_between (p : Char → Bool) :
    (between before rest).skipWhile? p =
      some (between (before ++ rest.takeWhile p) (rest.dropWhile p)) := by
  rw [skipWhile?]
  induction rest generalizing before with
  | nil =>
    apply loop?_of_done
    simp [skipTurn?, peek?_between]
  | cons ch rest ih =>
    by_cases hp : p ch = true
    · have hturn : (between before (ch :: rest)).skipTurn? p =
          some (.again (between (before ++ [ch]) rest)) := by
        simp [skipTurn?, peek?_between, advance_between, hp]
      have hleft := left_between_lt before rest (List.cons_ne_nil ch [])
      simp [loop?_of_again hturn hleft, ih, hp]
    · apply loop?_of_done
      simp [skipTurn?, peek?_between, hp]

theorem takeWhile?_between (p : Char → Bool) :
    (between before rest).takeWhile? p = some (String.ofList (rest.takeWhile p),
      between (before ++ rest.takeWhile p) (rest.dropWhile p)) := by
  have hslice := Text.slice?_ofList before (rest.takeWhile p) (rest.dropWhile p)
  rw [List.append_assoc, List.takeWhile_append_dropWhile] at hslice
  rw [takeWhile?, skipWhile?_between]
  simp only [between, hslice, Option.bind_eq_bind, Option.bind_some, Option.pure_def]

end Cursor

end LogLayout.Pattern
