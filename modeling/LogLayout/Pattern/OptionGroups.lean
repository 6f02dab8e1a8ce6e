namespace LogLayout.Pattern

/-- The text of one group, and what stands after its closing brace. Nothing stands there when
the group is never closed. -/
structure Group where
  text : List Char
  rest : Option (List Char)
  deriving DecidableEq, Repr

namespace Group

/-- A group with one more character in front of its text. -/
def cons (c : Char) (g : Group) : Group :=
  { g with text := c :: g.text }

/-- What was read after the opening brace. -/
def source (g : Group) : List Char :=
  match g.rest with
  | none => g.text
  | some rest => g.text ++ '}' :: rest

/-- Reads on inside a group, with `depth` braces open in its text. -/
def read : Nat → List Char → Group
  | _, [] => ⟨[], none⟩
  | depth, c :: cs =>
    if c = '{' then (read (depth + 1) cs).cons c
    else if c = '}' then
      match depth with
      | 0 => ⟨[], some cs⟩
      | depth + 1 => (read depth cs).cons c
    else (read depth cs).cons c

@[simp] theorem source_cons (c : Char) (g : Group) : (g.cons c).source = c :: g.source := by
  cases hrest : g.rest <;> simp [source, cons, hrest]

/-- A group is made of all that was read. -/
@[simp] theorem source_read (depth : Nat) (cs : List Char) : (read depth cs).source = cs := by
  induction cs generalizing depth with
  | nil => rfl
  | cons c cs ih =>
    simp only [read]
    split
    · simp [ih]
    · split
      · rename_i hclose
        cases depth with
        | zero => simp [source, hclose]
        | succ depth => simp [ih]
      · simp [ih]

/-- The rest is shorter than what was read, by the closing brace at least. -/
theorem length_of_rest {depth : Nat} {cs rest : List Char}
    (h : (read depth cs).rest = some rest) :
    cs.length = (read depth cs).text.length + rest.length + 1 := by
  have hsource := congrArg List.length (source_read depth cs)
  simp only [source, h, List.length_append, List.length_cons] at hsource
  omega

/-- The text of a group is no longer than what was read. -/
theorem length_text_le (depth : Nat) (cs : List Char) :
    (read depth cs).text.length ≤ cs.length := by
  cases h : (read depth cs).rest with
  | none =>
    have hsource := congrArg List.length (source_read depth cs)
    simp only [source, h] at hsource
    omega
  | some rest =>
    have := length_of_rest h
    omega

end Group

/-- The option groups after a converter name. -/
structure OptionGroups where
  /-- The texts of the groups that are closed, in order. -/
  closed : List (List Char) := []
  /-- The text of a last group that runs to the end of the pattern. -/
  unclosed : Option (List Char) := none
  deriving DecidableEq, Repr

namespace OptionGroups

/-- The option texts, in order. -/
def texts (g : OptionGroups) : List (List Char) :=
  g.closed ++ g.unclosed.toList

/-- The options as the converter gets them. -/
def options (g : OptionGroups) : List String :=
  g.texts.map String.ofList

/-- One more closed group in front. -/
def cons (text : List Char) (g : OptionGroups) : OptionGroups :=
  { g with closed := text :: g.closed }

/-- The groups as they are written. -/
def source (g : OptionGroups) : List Char :=
  g.closed.flatMap (fun text => '{' :: (text ++ ['}'])) ++
    match g.unclosed with
    | none => []
    | some text => '{' :: text

/-- Reads as many groups as there are, and gives what follows them. -/
def read (cs : List Char) : OptionGroups × List Char :=
  match cs with
  | [] => ({}, [])
  | c :: body =>
    if c = '{' then
      match _hrest : (Group.read 0 body).rest with
      | none => ({ unclosed := some (Group.read 0 body).text }, [])
      | some rest => ((read rest).1.cons (Group.read 0 body).text, (read rest).2)
    else ({}, c :: body)
termination_by cs.length
decreasing_by
  all_goals
    have := Group.length_of_rest _hrest
    simp only [List.length_cons]
    omega

@[simp] theorem texts_cons (text : List Char) (g : OptionGroups) :
    (g.cons text).texts = text :: g.texts := rfl

@[simp] theorem source_cons (text : List Char) (g : OptionGroups) :
    (g.cons text).source = '{' :: (text ++ '}' :: g.source) := by
  simp [source, cons]

/-- Groups written back and followed by the rest give the text that was read. -/
theorem source_append_rest (cs : List Char) : (read cs).1.source ++ (read cs).2 = cs := by
  fun_induction read cs with
  | case1 => rfl
  | case2 body hrest =>
    have hsource := Group.source_read 0 body
    rw [Group.source, hrest] at hsource
    simp only at hsource
    simp [source, hsource]
  | case3 body rest hrest ih =>
    have hsource := Group.source_read 0 body
    rw [Group.source, hrest] at hsource
    simp only at hsource
    simp [ih, hsource]
  | case4 c body hc => simp [source]

/-- The texts of the groups are shorter than what was read, and so is the rest. -/
theorem length_lt_of_mem_texts {cs text : List Char} (h : text ∈ (read cs).1.texts) :
    text.length < cs.length := by
  fun_induction read cs with
  | case1 => simp [texts] at h
  | case2 body hrest =>
    have := Group.length_text_le 0 body
    simp only [texts, Option.toList_some, List.nil_append, List.mem_singleton] at h
    simp only [h, List.length_cons]
    omega
  | case3 body rest hrest ih =>
    have hlength := Group.length_of_rest hrest
    simp only [texts_cons, List.mem_cons] at h
    simp only [List.length_cons]
    rcases h with rfl | h
    · omega
    · have := ih h
      omega
  | case4 c body hc => simp [texts] at h

end OptionGroups

end LogLayout.Pattern
