import LogLayout.Proofs.Checked.Rendering
import LogLayout.Text.Segments
import Mathlib.Data.List.DropRight

namespace LogLayout

namespace Text

/-- Whether digits stand for a number of 64 bits. -/
def IsWord (digits : List Char) (n : Nat) : Prop :=
  digits ≠ [] ∧ (∀ c ∈ digits, c.isDigit = true) ∧ decimalValue digits = n ∧ n < wordBound

theorem ite_eq_some_iff_isWord {digits : List Char} {n : Nat} :
    (if (digits.isEmpty || !digits.all Char.isDigit) = true then none
      else if decimalValue digits < wordBound then some (decimalValue digits) else none) = some n ↔
    IsWord digits n := by
  rw [IsWord]
  by_cases hdigits : (digits.isEmpty || !digits.all Char.isDigit) = true
  · rw [if_pos hdigits]
    simp only [Bool.or_eq_true, List.isEmpty_iff, Bool.not_eq_true', List.all_eq_false] at hdigits
    grind
  · rw [if_neg hdigits]
    simp only [Bool.or_eq_true, List.isEmpty_iff, Bool.not_eq_true', List.all_eq_false] at hdigits
    grind

theorem word?_plus_eq_some_iff {rest : List Char} {n : Nat} :
    word? ('+' :: rest) = some n ↔ IsWord rest n := by
  rw [word?]
  exact ite_eq_some_iff_isWord

theorem word?_eq_some_iff_of_ne {cs : List Char} {n : Nat} (h : ∀ rest, cs ≠ '+' :: rest) :
    word? cs = some n ↔ IsWord cs n := by
  rw [word?]
  · exact ite_eq_some_iff_isWord
  · exact h

/-- A word is read from digits with at most a plus sign in front of them. -/
theorem word?_eq_some_iff {cs : List Char} {n : Nat} :
    word? cs = some n ↔
      ∃ sign digits, cs = sign ++ digits ∧ (sign = [] ∨ sign = ['+']) ∧ IsWord digits n := by
  by_cases hplus : ∃ rest, cs = '+' :: rest
  · obtain ⟨rest, rfl⟩ := hplus
    rw [word?_plus_eq_some_iff]
    constructor
    · intro h
      exact ⟨['+'], rest, rfl, .inr rfl, h⟩
    · rintro ⟨sign, digits, hcs, rfl | rfl, h⟩
      · obtain rfl : '+' :: rest = digits := hcs
        exact absurd (h.2.1 '+' List.mem_cons_self) (by decide)
      · rwa [List.cons.inj hcs |>.2]
  · rw [not_exists] at hplus
    rw [word?_eq_some_iff_of_ne hplus]
    constructor
    · intro h
      exact ⟨[], cs, rfl, .inl rfl, h⟩
    · rintro ⟨sign, digits, rfl, rfl | rfl, h⟩
      · exact h
      · exact absurd rfl (hplus digits)

end Text

/-- `AsksForPrecision options precision` says that the options of a logger converter ask for a
precision. Only the first of them counts, without the white space around it. -/
inductive AsksForPrecision : List String → Option Nat → Prop where
  | absent : AsksForPrecision [] none
  | blank {option : String} (rest : List String) (blank : Text.trim option = "") :
      AsksForPrecision (option :: rest) none
  /-- A positive number, which may have a plus sign. -/
  | number {option : String} (rest : List String) {sign digits : List Char} {n : Nat}
      (trimmed : Text.trim option = String.ofList (sign ++ digits))
      (plus : sign = [] ∨ sign = ['+']) (word : Text.IsWord digits n) (positive : 1 ≤ n) :
      AsksForPrecision (option :: rest) (some n)

/-- An option that is not blank is a precision, or it is refused. -/
theorem loggerPrecision_cases {option : String} (rest : List String)
    (hblank : Text.trim option ≠ "") :
    (∃ n, Text.word? (Text.trim option).toList = some n ∧ 0 < n ∧
      loggerPrecision (option :: rest) = .ok (some n)) ∨
    (∀ n, Text.word? (Text.trim option).toList = some n → ¬ 0 < n) ∧
      loggerPrecision (option :: rest) = .error (.invalidOption "logger" (Text.trim option)
        "precision must be a positive integer") := by
  have hne : Text.trimChars option.toList ≠ [] := by
    intro h
    apply hblank
    rw [Text.trim, h]
  have hread : loggerPrecision (option :: rest) =
      ((Text.word? (Text.trim option).toList).filter (0 < ·)).elim
        (.error (.invalidOption "logger" (Text.trim option)
          "precision must be a positive integer"))
        fun n => .ok (some n) := by
    rw [loggerPrecision, if_neg (by simpa using hne), Text.trim, String.toList_ofList]
    cases (Text.word? (Text.trimChars option.toList)).filter (0 < ·) <;> rfl
  rw [hread]
  cases hn : (Text.word? (Text.trim option).toList).filter (0 < ·) with
  | none =>
    right
    exact ⟨by simpa using Option.filter_eq_none_iff.mp hn, rfl⟩
  | some n =>
    left
    obtain ⟨hword, hpositive⟩ := Option.filter_eq_some_iff.mp hn
    exact ⟨n, hword, of_decide_eq_true hpositive, rfl⟩

theorem loggerPrecision_of_blank {option : String} (rest : List String)
    (hblank : Text.trim option = "") : loggerPrecision (option :: rest) = .ok none := by
  have hnil : Text.trimChars option.toList = [] := by
    rw [← String.toList_inj, Text.trim, String.toList_ofList] at hblank
    exact hblank
  rw [loggerPrecision, if_pos (by simpa using hnil)]

theorem loggerPrecision_eq_ok_iff {options : List String} {precision : Option Nat} :
    loggerPrecision options = .ok precision ↔ AsksForPrecision options precision := by
  constructor
  · intro h
    cases options with
    | nil =>
      cases h
      exact .absent
    | cons option rest =>
      by_cases hblank : Text.trim option = ""
      · rw [loggerPrecision_of_blank rest hblank] at h
        cases h
        exact .blank rest hblank
      · obtain ⟨n, hword, hpositive, hok⟩ | ⟨-, herror⟩ := loggerPrecision_cases rest hblank
        · rw [hok] at h
          cases h
          obtain ⟨sign, digits, htrimmed, hplus, hword⟩ := Text.word?_eq_some_iff.mp hword
          refine .number rest ?_ hplus hword hpositive
          rw [← htrimmed, String.ofList_toList]
        · rw [herror] at h
          cases h
  · intro h
    cases h with
    | absent => rfl
    | blank rest hblank => exact loggerPrecision_of_blank rest hblank
    | @number option rest sign digits n trimmed plus word positive =>
      have hword : Text.word? (Text.trim option).toList = some n := by
        rw [trimmed, String.toList_ofList]
        exact Text.word?_eq_some_iff.mpr ⟨sign, digits, rfl, plus, word⟩
      have hblank : Text.trim option ≠ "" := by
        intro h
        rw [h] at hword
        cases hword
      obtain ⟨n', hword', -, hok⟩ | ⟨hnot, -⟩ := loggerPrecision_cases rest hblank
      · rw [hok, ← hword', hword]
      · exact absurd positive (hnot n hword)

theorem eq_of_loggerPrecision_eq_error {options : List String} {error : ConverterError}
    (h : loggerPrecision options = .error error) :
    ∃ option ∈ options.head?, error =
      .invalidOption "logger" (Text.trim option) "precision must be a positive integer" := by
  cases options with
  | nil => cases h
  | cons option rest =>
    refine ⟨option, rfl, ?_⟩
    by_cases hblank : Text.trim option = ""
    · rw [loggerPrecision_of_blank rest hblank] at h
      cases h
    · obtain ⟨n, -, -, hok⟩ | ⟨-, herror⟩ := loggerPrecision_cases rest hblank
      · rw [hok] at h
        cases h
      · rw [herror] at h
        exact (Except.error.inj h).symm

section Segments

variable {n : Nat} (name : String)

/-- The last segments of a name, cut again, are the last of its segments. -/
theorem segments_lastSegments (hn : n ≠ 0) :
    Text.segments '.' (lastSegments n name).toList = (Text.segments '.' name.toList).rtake n := by
  obtain ⟨index, rfl⟩ := Nat.exists_eq_succ_of_ne_zero hn
  obtain ⟨hfew, hall⟩ | ⟨front, back, hname, hdots, hback⟩ := lastSegments_cases index name
  · have hlength := Text.length_segments '.' name.toList
    rw [hall, List.rtake, Nat.sub_eq_zero_of_le (by omega), List.drop_zero]
  · have hlength : (Text.segments '.' back).length = index + 1 := by
      rw [Text.length_segments, hdots]
    rw [hback, String.toList_ofList, hname, Text.segments_append_separator, List.rtake,
      List.length_append, hlength, Nat.add_sub_cancel, List.drop_left]

theorem toList_lastSegments (hn : n ≠ 0) :
    (lastSegments n name).toList =
      ['.'].intercalate ((Text.segments '.' name.toList).rtake n) := by
  rw [← segments_lastSegments name hn, Text.intercalate_segments]

theorem lastSegments_suffix (hn : n ≠ 0) : (lastSegments n name).toList <:+ name.toList := by
  obtain ⟨index, rfl⟩ := Nat.exists_eq_succ_of_ne_zero hn
  obtain ⟨-, hall⟩ | ⟨front, back, hname, -, hback⟩ := lastSegments_cases index name
  · rw [hall]
  · rw [hback, String.toList_ofList, hname]
    exact ⟨front ++ ['.'], by simp⟩

/-- Fewer segments of fewer segments are segments of the name. -/
theorem lastSegments_lastSegments {m : Nat} (hn : n ≠ 0) (hm : m ≠ 0) :
    lastSegments m (lastSegments n name) = lastSegments (min n m) name := by
  have hmin : min n m ≠ 0 := by omega
  have hfewer : ∀ k : Nat, k - n + (k - (k - n) - m) = k - min n m := by
    intro k
    omega
  rw [← String.toList_inj, toList_lastSegments _ hm, segments_lastSegments _ hn,
    toList_lastSegments _ hmin, List.rtake, List.rtake, List.rtake, List.drop_drop,
    List.length_drop, hfewer]

end Segments

/-- Text that is empty, or positive digits with at most a plus sign, is a precision behind the white
space around it, and no other option is looked at. A logger writes as many of the last segments of
the name as its precision says, dots between them, and all when there are no more. So it writes the
end of the name, and what it wrote can be cut again as if the name had been cut so far at once. -/
theorem logger_writes_last_segments :
    (∀ options precision,
      loggerPrecision options = .ok precision ↔ AsksForPrecision options precision) ∧
    (∀ options error, loggerPrecision options = .error error → ∃ option ∈ options.head?, error =
      .invalidOption "logger" (Text.trim option) "precision must be a positive integer") ∧
    ∀ (e : Event) (buffer : String),
      (Converter.logger none).appendTo e buffer = buffer ++ e.logger ∧
      ∀ n, 1 ≤ n →
        let segments := Text.segments '.' e.logger.toList
        let kept := String.ofList (['.'].intercalate (segments.rtake (min n segments.length)))
        (Converter.logger (some n)).appendTo e buffer = buffer ++ kept ∧
        (Converter.logger (some n)).appendTo? e buffer = some (buffer ++ kept) ∧
        kept.toList <:+ e.logger.toList ∧
        ∀ m, 1 ≤ m → (Converter.logger (some m)).appendTo { e with logger := kept } buffer =
          (Converter.logger (some (min n m))).appendTo e buffer := by
  refine ⟨fun options precision => loggerPrecision_eq_ok_iff,
    fun options error => eq_of_loggerPrecision_eq_error, ?_⟩
  intro e buffer
  refine ⟨rfl, ?_⟩
  intro n hn segments kept
  have hn : n ≠ 0 := by omega
  have hmin : segments.rtake (min n segments.length) = segments.rtake n :=
    congrArg segments.drop (by omega)
  have hkept : lastSegments n e.logger = kept := by
    rw [← String.toList_inj, toList_lastSegments e.logger hn, String.toList_ofList, hmin]
  have hwritten : ∀ m, (Converter.logger (some m)).appendTo e buffer =
      buffer ++ lastSegments m e.logger := fun m => rfl
  rw [← hkept]
  refine ⟨hwritten n, ?_, lastSegments_suffix e.logger hn, ?_⟩
  · simp only [Converter.appendTo?, lastSegments?_eq_some hn, Option.bind_eq_bind,
      Option.bind_some, Option.pure_def]
  · intro m hm
    have hm : m ≠ 0 := by omega
    rw [hwritten, ← lastSegments_lastSegments e.logger hn hm]
    rfl

/-- A name with dots at both ends and next to each other. -/
theorem logger_writes_last_segments_dots :
    let e : Event := { logger := ".a..ö." }
    loggerPrecision ["\u2003+03 ", "all"] = .ok (some 3) ∧ 1 ≤ 3 ∧ 1 ≤ 2 ∧
    (Converter.logger (some 3)).appendTo e "> " = "> .ö." ∧
    (Converter.logger (some 2)).appendTo { e with logger := ".ö." } "> " = "> ö." := by
  intro e
  obtain ⟨hprecision, -, hwritten⟩ := logger_writes_last_segments
  have hasks : AsksForPrecision ["\u2003+03 ", "all"] (some 3) :=
    @AsksForPrecision.number _ ["all"] ['+'] ['0', '3'] 3 (by decide) (.inr rfl)
      ⟨by simp, by simp [Char.isDigit], rfl, by decide⟩ (by decide)
  have hkept : String.ofList (['.'].intercalate ((Text.segments '.' e.logger.toList).rtake
      (min 3 (Text.segments '.' e.logger.toList).length))) = ".ö." := by decide
  have htwo : (Converter.logger (some (min 3 2))).appendTo e "> " = "> ö." := by decide
  obtain ⟨hthree, -, -, hagain⟩ := (hwritten e "> ").2 3 (by decide)
  rw [hkept] at hthree hagain
  exact ⟨(hprecision _ _).mpr hasks, by decide, by decide, hthree,
    (hagain 2 (by decide)).trans htwo⟩

end LogLayout
