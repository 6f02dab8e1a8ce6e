import LogLayout.Event.Json
import LogLayout.Proofs.Json.Written
import Mathlib.Data.Option.Basic

namespace LogLayout

namespace Text

theorem toLower_toUpper_char (c : Char) : c.toUpper.toLower = c.toLower := by
  have hascii : ∀ n < 128, (Char.ofNat n).toUpper.toLower = (Char.ofNat n).toLower := by decide
  by_cases hc : c.toNat < 128
  · have hcase := hascii c.toNat hc
    rwa [Char.ofNat_toNat] at hcase
  · have hrange : ¬(c.val ≥ 97 ∧ c.val ≤ 122) := by
      rintro ⟨-, hlast⟩
      have hlast : c.toNat ≤ 122 := UInt32.le_iff_toNat_le.mp hlast
      omega
    have hupper : c.toUpper = c := dif_neg hrange
    rw [hupper]

theorem toLower_toUpper (s : String) : s.toUpper.toLower = s.toLower := by
  change (s.map Char.toUpper).map Char.toLower = s.map Char.toLower
  simp only [String.map_map, Function.comp_def, toLower_toUpper_char]

end Text

namespace Level

theorem mem_all (l : Level) : l ∈ all := by cases l <;> decide

theorem name_injective {l l' : Level} (h : l.name = l'.name) : l = l' := by
  cases l <;> cases l' <;> simp_all [name]

theorem name_ne_warning (l : Level) : l.name ≠ "WARNING" := by cases l <;> decide

theorem toUpper_name (l : Level) : l.name.toUpper = l.name := by
  cases l <;> decide +kernel

theorem toLower_name (l : Level) : l.name.toLower = l.lowerName := by
  cases l <;> decide +kernel

theorem toUpper_lowerName (l : Level) : l.lowerName.toUpper = l.name := by
  cases l <;> decide +kernel

theorem toLower_lowerName (l : Level) : l.lowerName.toLower = l.lowerName := by
  cases l <;> decide +kernel

theorem find?_all_eq_some_iff {p : Level → Bool} {l : Level}
    (hp : ∀ l', p l = true → p l' = true → l' = l) : all.find? p = some l ↔ p l = true := by
  constructor
  · exact List.find?_some
  · intro hl
    cases hfind : all.find? p with
    | none => exact absurd hl (List.find?_eq_none.mp hfind l (mem_all l))
    | some l' => rw [hp l' hl (List.find?_some hfind)]

theorem ofText?_eq_some_iff {s : String} {l : Level} :
    ofText? s = some l ↔ s.toUpper = l.name ∨ (s.toUpper = "WARNING" ∧ l = .warn) := by
  have hupper : String.ofList (s.toList.map Char.toUpper) = s.toUpper := by
    simp [← String.toList_inj, String.toUpper]
  rw [ofText?, hupper]
  by_cases hwarning : s.toUpper = "WARNING"
  · simp [hwarning, (name_ne_warning l).symm, eq_comm]
  · rw [if_neg hwarning, find?_all_eq_some_iff]
    · simp [hwarning, eq_comm]
    · intro l' hl hl'
      exact name_injective ((of_decide_eq_true hl').trans (of_decide_eq_true hl).symm)

theorem ofJson?_string_eq_some_iff {s : String} {l : Level} :
    ofJson? (.string (some s)) = some l ↔ s = l.name ∨ s = l.lowerName := by
  have hname : ∀ l' : Level, s = l'.name ∨ s = l'.lowerName → s.toUpper = l'.name := by
    rintro l' (rfl | rfl)
    · exact toUpper_name l'
    · exact toUpper_lowerName l'
  rw [ofJson?, find?_all_eq_some_iff]
  · exact decide_eq_true_iff
  · intro l' hl hl'
    exact name_injective
      ((hname l' (of_decide_eq_true hl')).symm.trans (hname l (of_decide_eq_true hl)))

/-- As the member of an event a level is read only where all letters are in one case, and only under
its own name. -/
theorem ofJson?_string_eq_some_iff_ofText? {s : String} {l : Level} :
    ofJson? (.string (some s)) = some l ↔
      ofText? s = some l ∧ (s.toUpper = s ∨ s.toLower = s) ∧ s.toUpper ≠ "WARNING" := by
  rw [ofJson?_string_eq_some_iff, ofText?_eq_some_iff]
  constructor
  · rintro (rfl | rfl)
    · exact ⟨.inl (toUpper_name l), .inl (toUpper_name l), by simp [toUpper_name, name_ne_warning]⟩
    · refine ⟨.inl (toUpper_lowerName l), .inr (toLower_lowerName l), ?_⟩
      simp [toUpper_lowerName, name_ne_warning]
  · rintro ⟨hupper | ⟨hwarning, -⟩, hcase, hne⟩
    · obtain hcase | hcase := hcase
      · exact .inl (hcase.symm.trans hupper)
      · right
        calc
          s = s.toUpper.toLower := by rw [Text.toLower_toUpper, hcase]
          _ = l.lowerName := by rw [hupper, toLower_name]
    · exact absurd hwarning hne

end Level

section

variable {before after : List (JsonText × Json)}

namespace Json

theorem member?_insert_of_ne {key name : String} (h : key ≠ name) (v : Json) :
    member? name (before ++ (some key, v) :: after) = member? name (before ++ after) := by
  have hfilter : ((some key, v) :: after).filter (fun m => m.1 = some name) =
      after.filter fun m => m.1 = some name := by
    simp [h]
  rw [member?, member?, List.filter_append, List.filter_append, hfilter]

theorem member?_insert {key : String} (h : ∀ m ∈ before ++ after, m.1 ≠ some key) (v : Json) :
    member? key (before ++ (some key, v) :: after) = some (some v) := by
  have hnone : (before ++ after).filter (fun m => m.1 = some key) = [] :=
    List.filter_eq_nil_iff.mpr fun m hm => by simpa using h m hm
  rw [List.filter_append, List.append_eq_nil_iff] at hnone
  rw [member?, List.filter_append, List.filter_cons, hnone.1, hnone.2]
  simp

/-- An object of two texts in which no character has to be escaped, written without white space. -/
theorem writtenAs_texts {key s key' s' text : String}
    (hplain : ∀ t ∈ [key, s, key', s'], ∀ c ∈ t.toList, 0x20 ≤ c.toNat ∧ c ≠ '"' ∧ c ≠ '\\')
    (htext : text.toList = "\x7b\"".toList ++ key.toList ++ "\":\"".toList ++ s.toList ++
      "\",\"".toList ++ key'.toList ++ "\":\"".toList ++ s'.toList ++ "\"\x7d".toList) :
    (object [(some key, .string (some s)), (some key', .string (some s'))]).WrittenAs text := by
  have hnone : IsSpaces [] := by simp [IsSpaces]
  have hspelled : ∀ t ∈ [key, s, key', s'],
      Token.Spelling (.scalar (.string (some t))) ('"' :: (t.toList ++ ['"'])) :=
    fun t ht => .plainText (hplain t ht)
  have hspaced := Spaced.cons hnone .openObject <|
    .cons hnone (hspelled key (by simp)) <| .cons hnone .colon <|
    .cons hnone (hspelled s (by simp)) <| .cons hnone .comma <|
    .cons hnone (hspelled key' (by simp)) <| .cons hnone .colon <|
    .cons hnone (hspelled s' (by simp)) <| .cons hnone .closeObject <| .nil hnone
  rw [WrittenAs, htext]
  simpa [tokens, memberTokens] using hspaced

end Json

namespace Event

theorem ofFields?_level (logger message thread context : Option Json) (v : Json) :
    ofFields? logger (some v) message thread context =
      (ofFields? logger none message thread context).bind fun e =>
        (Level.ofJson? v).map fun l => { e with level := l } := by
  cases hlevel : Level.ofJson? v <;> simp [ofFields?, hlevel, Option.bind_assoc]

theorem ofJson?_insert_level (h : ∀ m ∈ before ++ after, m.1 ≠ some "level") (v : Json) :
    ofJson? (.object (before ++ (some "level", v) :: after)) =
      (ofJson? (.object (before ++ after))).bind fun e =>
        (Level.ofJson? v).map fun l => { e with level := l } := by
  have hkeys : (before ++ (some "level", v) :: after).all (fun m => m.1.isSome) =
      (before ++ after).all fun m => m.1.isSome := by
    simp
  have hlevel : Json.member? "level" (before ++ after) = some none := by
    rw [Json.member?, List.filter_eq_nil_iff.mpr fun m hm => by simpa using h m hm]
  simp (disch := decide) only [ofJson?, hkeys, hlevel, Json.member?_insert h,
    Json.member?_insert_of_ne]
  simp [ofFields?_level, Option.bind_assoc]

/-- An event in JSON whose level member is a string is read, with the level that the string names as
text, where the string is in one case and not `WARNING`; nothing else of the event depends on the
member. -/
theorem ofText?_eq_some_iff_level {text s : String} {e : Event}
    (htext : Json.ofText? text =
      some (.object (before ++ (some "level", .string (some s)) :: after)))
    (hkeys : ∀ m ∈ before ++ after, m.1 ≠ some "level")
    (he : ofJson? (.object (before ++ after)) = some e) :
    (∀ l, ofText? text = some { e with level := l } ↔
      Level.ofText? s = some l ∧ (s.toUpper = s ∨ s.toLower = s) ∧ s.toUpper ≠ "WARNING") ∧
    ∀ e', ofText? text = some e' → ∃ l, e' = { e with level := l } := by
  have hread : ofText? text =
      (Level.ofJson? (.string (some s))).map fun l => { e with level := l } := by
    rw [ofText?, htext, Option.bind_some, ofJson?_insert_level hkeys, he, Option.bind_some]
  rw [hread]
  constructor
  · intro l
    rw [← Level.ofJson?_string_eq_some_iff_ofText?, Option.map_eq_some_iff]
    simp
  · intro e' he'
    obtain ⟨l, -, rfl⟩ := Option.map_eq_some_iff.mp he'
    exact ⟨l, rfl⟩

theorem ofText?_level_warn :
    let text := "\x7b\"message\":\"m\",\"level\":\"warn\"\x7d"
    let before : List (JsonText × Json) := [(some "message", .string (some "m"))]
    Json.ofText? text = some (.object (before ++ [(some "level", .string (some "warn"))])) ∧
    (∀ m ∈ before ++ [], m.1 ≠ some "level") ∧
    ofJson? (.object (before ++ [])) = some { message := "m" } ∧
    ofText? text = some { message := "m", level := .warn } := by
  intro text before
  have htext : Json.ofText? text =
      some (.object (before ++ [(some "level", .string (some "warn"))])) :=
    (Json.writtenAs_texts (by simp) (by simp [text])).ofText?_eq_some
  have hkeys : ∀ m ∈ before ++ [], m.1 ≠ some "level" := by
    simp [before]
  have hrest : ofJson? (.object (before ++ [])) = some { message := "m" } := rfl
  exact ⟨htext, hkeys, hrest,
    ((ofText?_eq_some_iff_level htext hkeys hrest).1 .warn).mpr (by decide +kernel)⟩

/-- `Error` and `WARNING` are levels as text. As the level member of what is an event without it
they make it unreadable. -/
theorem ofText?_level_mixed_case :
    let text (name : String) := "\x7b\"level\":\"" ++ name ++ "\",\"message\":\"boom\"\x7d"
    let json (name : String) := Json.object
      [(some "level", .string (some name)), (some "message", .string (some "boom"))]
    ofJson? (.object [(some "message", .string (some "boom"))]) = some { message := "boom" } ∧
    Json.ofText? (text "Error") = some (json "Error") ∧
    Level.ofText? "Error" = some .error ∧ ofText? (text "Error") = none ∧
    Json.ofText? (text "WARNING") = some (json "WARNING") ∧
    Level.ofText? "WARNING" = some .warn ∧ ofText? (text "WARNING") = none := by
  intro text json
  have hread (name : String)
      (hplain : ∀ c ∈ name.toList, 0x20 ≤ c.toNat ∧ c ≠ '"' ∧ c ≠ '\\') :
      Json.ofText? (text name) = some (json name) :=
    (Json.writtenAs_texts (by simpa using hplain) (by simp [text])).ofText?_eq_some
  refine ⟨rfl, hread "Error" (by simp), by decide +kernel, ?_, hread "WARNING" (by simp),
    by decide +kernel, ?_⟩
  · rw [← Option.isNone_iff_eq_none]
    decide +kernel
  · rw [← Option.isNone_iff_eq_none]
    decide +kernel

end Event

end

end LogLayout
