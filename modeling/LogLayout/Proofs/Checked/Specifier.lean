import LogLayout.Pattern.Compile
import LogLayout.Proofs.Checked.Cursor
import LogLayout.Proofs.Pattern.Segmentation

namespace LogLayout.Pattern

namespace Cursor

/-- Reads the point of a width with what belongs to it. -/
def maximum? (c : Cursor) : Option (Option (Bool × List Char) × Cursor) := do
  let (point, c) ← c.eat? '.'
  if point then
    let (dash, c) ← c.eat? '-'
    let (digits, c) ← c.takeWhile? Char.isDigit
    return (some (dash, digits.toList), c)
  else return (none, c)

/-- Reads the width part of a specifier. -/
def width? (c : Cursor) : Option (WidthText × Cursor) := do
  let (dash, c) ← c.eat? '-'
  let (minimum, c) ← c.takeWhile? Char.isDigit
  let (maximum, c) ← c.maximum?
  return ({ dash, minimum := minimum.toList, maximum }, c)

/-- The longest registered part of a run of letters that is no longer than a number of bytes. -/
def registered? (registry : Registry) (run : String) : Nat → Option (Option String)
  | 0 => some none
  | n + 1 => do
    let part ← Text.slice? run 0 (n + 1)
    if registry.contains part then return some part else registered? registry run n

/-- The name at the start of a run of letters. -/
def name? (registry : Registry) (run : String) : Option String := do
  return (← registered? registry run run.utf8ByteSize).getD run

/-- Reads a character of a group whose text starts at a byte offset, with `depth` braces open. In
the end there is the text, and whether the group is closed. -/
def groupTurn? (start : Nat) : Nat × Cursor → Option (Turn (Nat × Cursor) (String × Bool × Cursor))
  | (depth, c) => do
    let (ch, c) ← c.bump?
    match ch with
    | none => return .done (← Text.sliceFrom? c.source start, false, c)
    | some ch =>
      if ch = '{' then return .again (depth + 1, c)
      else if ch = '}' then
        let depth ← Text.sub? depth 1
        if depth = 0 then
          return .done (← Text.slice? c.source start (← Text.sub? c.position 1), true, c)
        else return .again (depth, c)
      else return .again (depth, c)

/-- Reads on inside a group. -/
def group? (start depth : Nat) (c : Cursor) : Option (String × Bool × Cursor) :=
  loop? (·.2.left) (groupTurn? start) (depth, c)

/-- Reads one group more if there is one. -/
def groupsTurn? : List (List Char) × Cursor →
    Option (Turn (List (List Char) × Cursor) (OptionGroups × Cursor))
  | (closed, c) => do
    let (opened, c) ← c.eat? '{'
    if opened then
      let (text, ended, c) ← c.group? c.position 1
      if ended then return .again (closed ++ [text.toList], c)
      else return .done ({ closed, unclosed := some text.toList }, c)
    else return .done ({ closed }, c)

/-- Reads as many groups as there are. -/
def groups? (c : Cursor) : Option (OptionGroups × Cursor) := loop? (·.2.left) groupsTurn? ([], c)

/-- Reads a specifier behind its marker. The cursor is set back behind the name before the options
are read. -/
def specifier? (registry : Registry) (c : Cursor) : Option (Specifier × Cursor) := do
  let (width, c) ← c.width?
  let runStart := c.position
  let (run, c) ← c.takeWhile? Char.isAlpha
  let name ← name? registry run
  let (groups, c) ← groups? { c with position := runStart + name.utf8ByteSize }
  return ({ width, name := name.toList, groups }, c)

end Cursor

/-- A point with what belongs to it, as it is written. -/
def WidthText.maximumSource : Option (Bool × List Char) → List Char
  | none => []
  | some (dash, digits) => '.' :: (dashSource dash ++ digits)

theorem WidthText.source_eq_append (w : WidthText) :
    w.source = dashSource w.dash ++ w.minimum ++ maximumSource w.maximum := by
  rcases w with ⟨dash, minimum, _ | ⟨right, digits⟩⟩ <;> rfl

namespace Cursor

variable (before rest : List Char)

theorem eat?_dash_between :
    (between before rest).eat? '-' = some ((WidthText.readDash rest).1,
      between (before ++ WidthText.dashSource (WidthText.readDash rest).1)
        (WidthText.readDash rest).2) := by
  cases rest with
  | nil =>
    rw [eat?_between_of_ne (by simp)]
    simp [WidthText.readDash, WidthText.dashSource]
  | cons ch rest =>
    by_cases hdash : ch = '-'
    · rw [hdash, eat?_between_of_head]
      simp [WidthText.readDash, WidthText.dashSource]
    · rw [eat?_between_of_ne (by simpa using hdash)]
      simp [WidthText.readDash, WidthText.dashSource, hdash]

theorem maximum?_between :
    (between before rest).maximum? = some ((WidthText.readMaximum rest).1,
      between (before ++ WidthText.maximumSource (WidthText.readMaximum rest).1)
        (WidthText.readMaximum rest).2) := by
  cases rest with
  | nil =>
    rw [maximum?, eat?_between_of_ne (by simp)]
    simp [WidthText.readMaximum, WidthText.maximumSource]
  | cons ch rest =>
    by_cases hpoint : ch = '.'
    · rw [hpoint, maximum?, eat?_between_of_head]
      simp [eat?_dash_between, takeWhile?_between, WidthText.readMaximum, WidthText.maximumSource]
    · rw [maximum?, eat?_between_of_ne (by simpa using hpoint)]
      simp [WidthText.readMaximum, WidthText.maximumSource, hpoint]

theorem width?_between :
    (between before rest).width? = some ((WidthText.read rest).1,
      between (before ++ (WidthText.read rest).1.source) (WidthText.read rest).2) := by
  simp only [width?, eat?_dash_between, takeWhile?_between, maximum?_between, Option.bind_eq_bind,
    Option.bind_some, Option.pure_def, String.toList_ofList, WidthText.read,
    WidthText.source_eq_append, List.append_assoc]

theorem utf8Size_of_isAlpha {ch : Char} (h : ch.isAlpha = true) : ch.utf8Size = 1 := by
  have hletter := Text.toNat_of_isAlpha h
  have hascii : ch.val.toNat ≤ 127 := by
    rw [Char.toNat_val]
    omega
  exact Char.utf8Size_eq_one_iff.mpr (UInt32.le_iff_toNat_le.mpr hascii)

theorem byteSize_of_isAlpha {letters : List Char} (h : ∀ c ∈ letters, c.isAlpha = true) :
    Text.byteSize letters = letters.length := by
  induction letters with
  | nil => rfl
  | cons c letters ih =>
    rw [Text.byteSize, utf8Size_of_isAlpha (h c List.mem_cons_self),
      ih fun d hd => h d (List.mem_cons_of_mem c hd), List.length_cons, Nat.add_comm]

theorem registered?_ofList (registry : Registry) {letters : List Char}
    (h : ∀ c ∈ letters, c.isAlpha = true) {n : Nat} (hn : n ≤ letters.length) :
    registered? registry (String.ofList letters) n =
      some ((longestName? registry.isName letters n).map String.ofList) := by
  induction n with
  | zero => rfl
  | succ n ih =>
    have hslice := Text.slice?_ofList [] (letters.take (n + 1)) (letters.drop (n + 1))
    have hsize : Text.byteSize (letters.take (n + 1)) = n + 1 := by
      rw [byteSize_of_isAlpha fun c hc => h c (List.mem_of_mem_take hc),
        List.length_take_of_le hn]
    rw [List.nil_append, List.take_append_drop, hsize, Text.byteSize] at hslice
    rw [registered?, longestName?, ih (by omega), hslice]
    by_cases hname : registry.isName (letters.take (n + 1)) = true
    · have hcontains : registry.contains (String.ofList (letters.take (n + 1))) = true := hname
      simp [hname, hcontains]
    · have hcontains : ¬ registry.contains (String.ofList (letters.take (n + 1))) = true := hname
      simp [hname, hcontains]

theorem name?_ofList (registry : Registry) {letters : List Char}
    (h : ∀ c ∈ letters, c.isAlpha = true) :
    name? registry (String.ofList letters) =
      some (String.ofList (converterName registry.isName letters)) := by
  have hsize : (String.ofList letters).utf8ByteSize = letters.length := by
    rw [← Text.byteSize_toList, String.toList_ofList, byteSize_of_isAlpha h]
  rw [name?, hsize, registered?_ofList registry h (Nat.le_refl _), converterName]
  cases longestName? registry.isName letters letters.length <;> rfl

/-- A group whose text starts behind `lead` as it is taken, when `inner` is read before it: its
text, whether it is closed, and the cursor behind it. -/
def ofGroup (lead inner : List Char) (g : Group) : String × Bool × Cursor :=
  match g.rest with
  | none => (String.ofList (inner ++ g.text), false, between (lead ++ (inner ++ g.text)) [])
  | some after => (String.ofList (inner ++ g.text), true,
      between (lead ++ (inner ++ g.text) ++ ['}']) after)

theorem ofGroup_cons (lead inner : List Char) (ch : Char) (g : Group) :
    ofGroup lead inner (g.cons ch) = ofGroup lead (inner ++ [ch]) g := by
  rcases g with ⟨text, _ | after⟩ <;> simp [ofGroup, Group.cons]

/-- Reading on inside a group whose text starts behind `lead`, of which `inner` is read already. -/
theorem group?_between (lead inner : List Char) (depth : Nat) :
    group? (Text.byteSize lead) (depth + 1) (between (lead ++ inner) rest) =
      some (ofGroup lead inner (Group.read depth rest)) := by
  -- The cursor counts the group's own brace too, so the count does not reach zero before its end.
  induction rest generalizing inner depth with
  | nil =>
    have hslice := Text.sliceFrom?_ofList lead inner
    apply loop?_of_done
    rw [groupTurn?, bump?_between_nil]
    simp only [between, List.append_nil, hslice, Option.bind_eq_bind, Option.bind_some,
      Option.pure_def, Group.read, ofGroup]
  | cons ch rest ih =>
    have hagain : ∀ next, groupTurn? (Text.byteSize lead)
        (depth + 1, between (lead ++ inner) (ch :: rest)) =
          some (.again (next + 1, between (lead ++ inner ++ [ch]) rest)) →
        group? (Text.byteSize lead) (depth + 1) (between (lead ++ inner) (ch :: rest)) =
          some (ofGroup lead inner ((Group.read next rest).cons ch)) := by
      intro next hturn
      have hleft := left_between_lt (lead ++ inner) rest (List.cons_ne_nil ch [])
      rw [group?, loop?_of_again hturn hleft, List.append_assoc, ofGroup_cons]
      exact ih (inner ++ [ch]) next
    have hturn := groupTurn?.eq_1 (Text.byteSize lead) (depth + 1)
      (between (lead ++ inner) (ch :: rest))
    simp only [bump?_between_cons, Option.bind_eq_bind, Option.bind_some, Text.sub?_add_right,
      Option.pure_def] at hturn
    by_cases hopen : ch = '{'
    · rw [if_pos hopen] at hturn
      rw [hagain _ hturn, hopen, Group.read_open]
    · rw [if_neg hopen] at hturn
      by_cases hclose : ch = '}'
      · rw [if_pos hclose] at hturn
        cases depth with
        | zero =>
          have hslice := Text.slice?_ofList lead inner (['}'] ++ rest)
          have hstart : Text.byteSize (lead ++ inner ++ ['}']) =
              Text.byteSize (lead ++ inner) + 1 := Text.byteSize_append _ _
          rw [← List.append_assoc] at hslice
          apply loop?_of_done
          rw [hturn]
          simp only [between, hclose, hstart, Text.sub?_add_right, hslice, Option.bind_some,
            if_true, Group.read_close_zero, ofGroup, List.append_nil]
        | succ depth =>
          rw [if_neg (Nat.succ_ne_zero depth)] at hturn
          rw [hagain _ hturn, hclose, Group.read_close_succ]
      · rw [if_neg hclose] at hturn
        rw [hagain _ hturn, Group.read_other hopen hclose]

theorem group?_between_start (body : List Char) :
    (between before body).group? (between before body).position 1 =
      some (ofGroup before [] (Group.read 0 body)) := by
  have hgroup := group?_between body before [] 0
  rwa [List.append_nil] at hgroup

theorem groupsTurn?_between_of_ne (closed : List (List Char)) (h : rest.head? ≠ some '{') :
    groupsTurn? (closed, between before rest) = some (.done ({ closed }, between before rest)) := by
  simp only [groupsTurn?, eat?_between_of_ne h, Option.bind_eq_bind, Option.bind_some,
    Option.pure_def, Bool.false_eq_true, if_false]

/-- The groups that are read join those that were read before. -/
theorem loop?_groupsTurn?_between (closed : List (List Char)) :
    loop? (·.2.left) groupsTurn? (closed, between before rest) =
      some ({ closed := closed ++ (OptionGroups.read rest).1.closed
              unclosed := (OptionGroups.read rest).1.unclosed },
        between (before ++ (OptionGroups.read rest).1.source) (OptionGroups.read rest).2) := by
  fun_induction OptionGroups.read rest generalizing before closed with
  | case1 =>
    apply loop?_of_done
    rw [groupsTurn?_between_of_ne _ _ _ (by simp)]
    simp [OptionGroups.source]
  | case2 body hrest =>
    apply loop?_of_done
    simp only [groupsTurn?, eat?_between_of_head, Option.bind_eq_bind, Option.bind_some, if_true,
      group?_between_start, ofGroup, hrest]
    simp [OptionGroups.source]
  | case3 body rest hrest ih =>
    generalize htext : (Group.read 0 body).text = text
    have hbody : body = text ++ '}' :: rest := by
      have hsource := Group.source_read 0 body
      simp only [Group.source, hrest, htext] at hsource
      exact hsource.symm
    have hturn : groupsTurn? (closed, between before ('{' :: body)) =
        some (.again (closed ++ [text], between (before ++ '{' :: (text ++ ['}'])) rest)) := by
      simp only [groupsTurn?, eat?_between_of_head, Option.bind_eq_bind, Option.bind_some, if_true,
        group?_between_start, ofGroup, hrest, htext]
      simp
    have hleft := left_between_lt before rest (List.cons_ne_nil '{' (text ++ ['}']))
    rw [List.cons_append, List.append_assoc, List.singleton_append, ← hbody] at hleft
    rw [loop?_of_again hturn hleft, ih, OptionGroups.source_cons]
    simp [OptionGroups.cons]
  | case4 c body hc =>
    apply loop?_of_done
    rw [groupsTurn?_between_of_ne _ _ _ (by simpa using hc)]
    simp [OptionGroups.source]

theorem groups?_between :
    (between before rest).groups? = some ((OptionGroups.read rest).1,
      between (before ++ (OptionGroups.read rest).1.source) (OptionGroups.read rest).2) :=
  loop?_groupsTurn?_between before rest []

/-- A specifier is read as it is from characters, and the cursor ends behind it. -/
theorem specifier?_between (registry : Registry) :
    specifier? registry (between before rest) = some ((Specifier.read registry.isName rest).1,
      between (before ++ (Specifier.read registry.isName rest).1.body)
        (Specifier.read registry.isName rest).2) := by
  generalize hwidth : WidthText.read rest = read
  obtain ⟨width, after⟩ := read
  have hname := converterName_append_drop registry.isName (after.takeWhile Char.isAlpha)
    (after.dropWhile Char.isAlpha)
  rw [List.takeWhile_append_dropWhile] at hname
  generalize hchosen : converterName registry.isName (after.takeWhile Char.isAlpha) = name at hname
  have hletters := takeWhile?_between (before ++ width.source) after Char.isAlpha
  generalize hstop : between (before ++ width.source ++ after.takeWhile Char.isAlpha)
    (after.dropWhile Char.isAlpha) = stop at hletters
  -- The cursor is set back from behind the letters to where the name ends.
  have hback : ({ stop with position := (between (before ++ width.source) after).position +
      (String.ofList name).utf8ByteSize } : Cursor) =
      between (before ++ width.source ++ name) (after.drop name.length) := by
    simp only [← hstop, between, ← Text.byteSize_toList, String.toList_ofList, List.append_assoc,
      List.takeWhile_append_dropWhile, hname, Text.byteSize_append, Nat.add_assoc]
  have hread : Specifier.read registry.isName rest =
      ({ width, name, groups := (OptionGroups.read (after.drop name.length)).1 },
        (OptionGroups.read (after.drop name.length)).2) := by
    simp only [Specifier.read, hwidth, hchosen]
  rw [specifier?, width?_between, hwidth, hread]
  simp only [Option.bind_eq_bind, Option.bind_some, hletters,
    name?_ofList registry fun c hc => List.mem_takeWhile_imp hc, hchosen, hback, groups?_between]
  simp only [Specifier.body, String.toList_ofList, List.append_assoc, Option.pure_def]

end Cursor

end LogLayout.Pattern
