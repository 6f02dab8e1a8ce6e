import LogLayout.Event.Json
import LogLayout.Proofs.Dictionary
import LogLayout.Proofs.Json.Written
import LogLayout.Proofs.Level

namespace LogLayout

namespace Event

/-- The names of the members that hold the fields of an event. -/
def fieldNames : List String := ["logger", "level", "message", "thread", "context"]

/-- What stands for a text: the text, or nothing when it is empty. -/
inductive TextField (s : String) : Option Json → Prop
  | written : TextField s (some (.string (some s)))
  | omitted (h : s = "") : TextField s none

/-- What stands for a level: its name in upper or in lower case, or nothing for `INFO`. -/
inductive LevelField (l : Level) : Option Json → Prop
  | upper : LevelField l (some (.string (some l.name)))
  | lower : LevelField l (some (.string (some l.lowerName)))
  | omitted (h : l = .info) : LevelField l none

/-- The object with a member for each of some context entries. -/
def contextObject (entries : List (String × String)) : Json :=
  .object (entries.map fun entry => (some entry.1, .string (some entry.2)))

/-- What stands for a context: its entries in some order, or nothing when there are none. -/
inductive ContextField (context : Dictionary String) : Option Json → Prop
  | written {entries : List (String × String)} (h : entries.Perm context.entries) :
    ContextField context (some (contextObject entries))
  | omitted (h : context = .empty) : ContextField context none

/-- The member under a name, unless nothing stands for its value. -/
def member (name : String) (v : Option Json) : List (JsonText × Json) :=
  v.toList.map fun v => (some name, v)

/-- A choice of what stands for the fields of an event, and of members with other names. -/
structure Form (e : Event) where
  logger : Option Json
  level : Option Json
  message : Option Json
  thread : Option Json
  context : Option Json
  others : List (JsonText × Json)
  logger_field : TextField e.logger logger
  level_field : LevelField e.level level
  message_field : TextField e.message message
  thread_field : TextField e.thread thread
  context_field : ContextField e.context context
  other_names : ∀ m ∈ others, ∃ name, m.1 = some name ∧ name ∉ fieldNames

/-- All members of a form. -/
def Form.members {e : Event} (form : e.Form) : List (JsonText × Json) :=
  member "logger" form.logger ++ member "level" form.level ++ member "message" form.message ++
    member "thread" form.thread ++ member "context" form.context ++ form.others

theorem TextField.elim_text? {s : String} {v : Option Json} (h : TextField s v) :
    v.elim (some "") Json.text? = some s := by
  cases h with
  | written => rfl
  | omitted h => rw [h]; rfl

theorem LevelField.elim_ofJson? {l : Level} {v : Option Json} (h : LevelField l v) :
    v.elim (some .info) Level.ofJson? = some l := by
  cases h with
  | upper => exact Level.ofJson?_string_eq_some_iff.mpr (.inl rfl)
  | lower => exact Level.ofJson?_string_eq_some_iff.mpr (.inr rfl)
  | omitted h => rw [h]; rfl

theorem contextOfJson?_contextObject (entries : List (String × String)) :
    contextOfJson? (contextObject entries) = some (.ofList entries) := by
  have hentries : (entries.map fun e => ((some e.1 : JsonText), Json.string (some e.2))).mapM
      (fun m => do return ((← m.1), (← m.2.text?))) = some entries := by
    induction entries with
    | nil => rfl
    | cons e entries ih =>
      rw [List.map_cons, List.mapM_cons, ih]
      rfl
  rw [contextObject, contextOfJson?, hentries]
  rfl

theorem ContextField.elim_contextOfJson? {context : Dictionary String} {v : Option Json}
    (h : ContextField context v) : v.elim (some .empty) contextOfJson? = some context := by
  cases h with
  | written h => rw [Option.elim_some, contextOfJson?_contextObject, Dictionary.ofList_of_perm h]
  | omitted h => rw [h]; rfl

theorem Form.ofFields?_eq_some {e : Event} (form : e.Form) :
    ofFields? form.logger form.level form.message form.thread form.context = some e := by
  simp only [ofFields?, form.logger_field.elim_text?, form.level_field.elim_ofJson?,
    form.message_field.elim_text?, form.thread_field.elim_text?,
    form.context_field.elim_contextOfJson?]
  rfl

theorem filter_member (name key : String) (v : Option Json) :
    (member key v).filter (fun m => m.1 = some name) =
      if key = name then member name v else [] := by
  cases v with
  | none => simp [member]
  | some v => by_cases h : key = name <;> simp [member, h]

theorem Form.filter_others {e : Event} (form : e.Form) {name : String} (h : name ∈ fieldNames) :
    form.others.filter (fun m => m.1 = some name) = [] := by
  rw [List.filter_eq_nil_iff]
  intro m hm
  obtain ⟨other, hother, hnot⟩ := form.other_names m hm
  rw [hother, decide_eq_true_eq, Option.some_inj]
  rintro rfl
  exact hnot h

/-- Each field is found under its name, and nothing else is. -/
theorem Form.filter_members {e : Event} (form : e.Form) {name : String} {v : Option Json}
    (h : (name, v) ∈ [("logger", form.logger), ("level", form.level), ("message", form.message),
      ("thread", form.thread), ("context", form.context)]) :
    form.members.filter (fun m => m.1 = some name) = member name v := by
  have hname : name ∈ fieldNames := by
    have hmem := List.mem_map_of_mem (f := Prod.fst) h
    simpa [fieldNames] using hmem
  simp only [Form.members, List.filter_append, filter_member, form.filter_others hname]
  simp only [List.mem_cons, Prod.mk.injEq, List.not_mem_nil, or_false] at h
  rcases h with ⟨rfl, rfl⟩ | ⟨rfl, rfl⟩ | ⟨rfl, rfl⟩ | ⟨rfl, rfl⟩ | ⟨rfl, rfl⟩ <;> simp

theorem member?_eq_some {name : String} {v : Option Json}
    {members members' : List (JsonText × Json)} (horder : members.Perm members')
    (hfilter : members'.filter (fun m => m.1 = some name) = member name v) :
    Json.member? name members = some v := by
  have hperm := horder.filter fun m => decide (m.1 = some name)
  rw [hfilter] at hperm
  cases v with
  | none => rw [Json.member?, List.perm_nil.mp hperm]
  | some v => rw [Json.member?, List.perm_singleton.mp hperm]

theorem key_of_mem_member {name : String} {v : Option Json} {m : JsonText × Json}
    (h : m ∈ member name v) : m.1 = some name := by
  obtain ⟨_, -, rfl⟩ := List.mem_map.mp h
  rfl

theorem Form.isSome_of_mem {e : Event} (form : e.Form) {m : JsonText × Json}
    (h : m ∈ form.members) : m.1.isSome = true := by
  simp only [Form.members, List.mem_append] at h
  rcases h with ((((h | h) | h) | h) | h) | h
  case inr =>
    obtain ⟨name, hname, -⟩ := form.other_names m h
    rw [hname]
    rfl
  all_goals
    rw [key_of_mem_member h]
    rfl

/-- The members of an event are read as that event in any order. -/
theorem Form.ofJson?_eq_some {e : Event} (form : e.Form) {members : List (JsonText × Json)}
    (horder : members.Perm form.members) : ofJson? (.object members) = some e := by
  have hkeys : members.all (fun m => m.1.isSome) = true := by
    rw [List.all_eq_true]
    intro m hm
    exact form.isSome_of_mem (horder.mem_iff.mp hm)
  have hlogger : Json.member? "logger" members = some form.logger :=
    member?_eq_some horder (form.filter_members (by simp))
  have hlevel : Json.member? "level" members = some form.level :=
    member?_eq_some horder (form.filter_members (by simp))
  have hmessage : Json.member? "message" members = some form.message :=
    member?_eq_some horder (form.filter_members (by simp))
  have hthread : Json.member? "thread" members = some form.thread :=
    member?_eq_some horder (form.filter_members (by simp))
  have hcontext : Json.member? "context" members = some form.context :=
    member?_eq_some horder (form.filter_members (by simp))
  simp only [ofJson?, hkeys, hlogger, hlevel, hmessage, hthread, hcontext]
  exact form.ofFields?_eq_some

/-- The form with all five fields and nothing else. -/
def fullForm (e : Event) : e.Form where
  logger := some (.string (some e.logger))
  level := some (.string (some e.level.name))
  message := some (.string (some e.message))
  thread := some (.string (some e.thread))
  context := some (contextObject e.context.entries)
  others := []
  logger_field := .written
  level_field := .upper
  message_field := .written
  thread_field := .written
  context_field := .written (.refl _)
  other_names := by simp

/-- JSON text that an event is written as: an object with the members of some form of the event, in
some order. -/
def WrittenAs (e : Event) (text : String) : Prop :=
  ∃ (form : e.Form) (members : List (JsonText × Json)),
    members.Perm form.members ∧ (Json.object members).WrittenAs text

theorem exists_writtenAs (e : Event) : ∃ text, e.WrittenAs text := by
  have hcontext : (contextObject e.context.entries).Writable := by
    apply Json.writable_object
    intro m hm
    obtain ⟨entry, -, rfl⟩ := List.mem_map.mp hm
    exact ⟨rfl, Json.writable_string entry.2⟩
  have hobject : (Json.object e.fullForm.members).Writable := by
    apply Json.writable_object
    simp [Form.members, member, fullForm, Json.writable_string, hcontext]
  obtain ⟨text, htext⟩ := hobject.exists_writtenAs
  exact ⟨text, e.fullForm, _, .refl _, htext⟩

/-- Every event can be written as JSON, and whatever it is written as is read as that event: its
members may stand in any order and between members with other names, whose values are any JSON; a
field with its default value may be left out; the name of the level may be in upper or in lower
case; the context entries may stand in any order; every character may be escaped in each way that
JSON has for it; and any white space may stand between the tokens. -/
theorem written_event_read_back (e : Event) :
    (∃ text, e.WrittenAs text) ∧ ∀ text, e.WrittenAs text → ofText? text = some e := by
  refine ⟨e.exists_writtenAs, ?_⟩
  rintro text ⟨form, members, horder, htext⟩
  rw [ofText?, htext.ofText?_eq_some, Option.bind_some, form.ofJson?_eq_some horder]

/-- Members out of order and one that is no field, with half of a surrogate pair in it; the level in
lower case, and a message whose characters are given by one code unit, by two and by a letter. -/
theorem written_event_read_back_escaped :
    let e : Event :=
      { level := .warn, message := "é😀\n", context := .ofList [("a", "1"), ("b", "")] }
    let text := "\x7b\n\"x\":\"\\ud800\",\t\"message\" : \"\\u00e9\\uD83D\\ude00\\n\"" ++
      ",\"context\":\x7b\"b\":\"\",\"a\":\"1\"\x7d,\"level\":\"warn\"\x7d\r"
    e.WrittenAs text ∧ ofText? text = some e := by
  intro e text
  let entries := [("b", ""), ("a", "1")]
  have hcontext : entries.Perm e.context.entries := by decide
  let form : e.Form :=
    { logger := none
      level := some (.string (some "warn"))
      message := some (.string (some "é😀\n"))
      thread := none
      context := some (contextObject entries)
      others := [(some "x", .string none)]
      logger_field := .omitted rfl
      level_field := .lower
      message_field := .written
      thread_field := .omitted rfl
      context_field := .written hcontext
      other_names := by simp [fieldNames] }
  let members : List (JsonText × Json) :=
    [(some "x", .string none), (some "message", .string (some "é😀\n")),
      (some "context", contextObject entries), (some "level", .string (some "warn"))]
  have horder : members.Perm form.members :=
    (List.reverse_perm members).symm.trans (.cons _ (.swap _ _ _))
  have hhalf : Json.Token.Spelling (.scalar (.string none))
      ('"' :: ('\\' :: 'u' :: ['d', '8', '0', '0'] ++ ['"'])) := by
    have hunit : Json.UnitDigits 0xD800 ['d', '8', '0', '0'] :=
      .intro (a := 13) (b := 8) (c := 0) (d := 0) (by decide) (by decide) (by decide) (by decide)
    refine .unpaired (.cons (.unit hunit) .nil) ?_
    intro cs hcs
    cases hcs.pieceChars_eq_some
  have hmessage : Json.Token.Spelling (.scalar (.string (some "é😀\n")))
      ('"' :: (['\\', 'u', '0', '0', 'e', '9', '\\', 'u', 'D', '8', '3', 'D', '\\', 'u', 'd', 'e',
        '0', '0', '\\', 'n'] ++ ['"'])) := by
    have hunit : Json.UnitDigits 'é'.toNat ['0', '0', 'e', '9'] :=
      .intro (a := 0) (b := 0) (c := 14) (d := 9) (by decide) (by decide) (by decide) (by decide)
    have hhigh : Json.UnitDigits (0xD800 + 0x3D) ['D', '8', '3', 'D'] :=
      .intro (a := 13) (b := 8) (c := 3) (d := 13) (by decide) (by decide) (by decide) (by decide)
    have hlow : Json.UnitDigits (0xDC00 + 0x200) ['d', 'e', '0', '0'] :=
      .intro (a := 13) (b := 14) (c := 0) (d := 0) (by decide) (by decide) (by decide) (by decide)
    have hbody := Json.SpelledPieces.cons (.unit hunit) <| .cons (.unit hhigh) <|
      .cons (.unit hlow) <| .cons (.short (by decide : ('n', '\n') ∈ Json.shortEscapes)) .nil
    have hchars : "é😀\n".toList = ['é', '😀', '\n'] := by simp
    have hstands := Json.StandsFor.unit (by decide : 'é'.toNat < 0x10000) <|
      .pair (c := '😀') (by decide : 0x3D < 0x400) (by decide : 0x200 < 0x400) rfl <|
      .char '\n' .nil
    rw [← hchars] at hstands
    exact .text hbody hstands
  have hplain (s : String) (h : ∀ c ∈ s.toList, 0x20 ≤ c.toNat ∧ c ≠ '"' ∧ c ≠ '\\') :=
    Json.Token.Spelling.plainText h
  have htext : (Json.object members).WrittenAs text := by
    have hnone : Json.IsSpaces [] := by simp [Json.IsSpaces]
    have hline : Json.IsSpaces ['\n'] := by simp [Json.IsSpaces]
    have htab : Json.IsSpaces ['\t'] := by simp [Json.IsSpaces]
    have hblank : Json.IsSpaces [' '] := by simp [Json.IsSpaces]
    have hreturn : Json.IsSpaces ['\r'] := by simp [Json.IsSpaces]
    have hspaced := Json.Spaced.cons hnone .openObject <|
      .cons hline (hplain "x" (by simp)) <| .cons hnone .colon <|
      .cons hnone hhalf <| .cons hnone .comma <|
      .cons htab (hplain "message" (by simp)) <|
      .cons hblank .colon <| .cons hblank hmessage <| .cons hnone .comma <|
      .cons hnone (hplain "context" (by simp)) <| .cons hnone .colon <| .cons hnone .openObject <|
      .cons hnone (hplain "b" (by simp)) <| .cons hnone .colon <|
      .cons hnone (hplain "" (by simp)) <| .cons hnone .comma <|
      .cons hnone (hplain "a" (by simp)) <| .cons hnone .colon <|
      .cons hnone (hplain "1" (by simp)) <| .cons hnone .closeObject <| .cons hnone .comma <|
      .cons hnone (hplain "level" (by simp)) <| .cons hnone .colon <|
      .cons hnone (hplain "warn" (by simp)) <| .cons hnone .closeObject <| .nil hreturn
    simpa [Json.WrittenAs, members, entries, contextObject, text, Json.tokens, Json.memberTokens]
      using hspaced
  have hwritten : e.WrittenAs text := ⟨form, members, horder, htext⟩
  exact ⟨hwritten, (written_event_read_back e).2 text hwritten⟩

end Event

end LogLayout
