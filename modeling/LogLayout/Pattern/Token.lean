import LogLayout.Pattern.OptionGroups
import LogLayout.Pattern.WidthText
import LogLayout.Text.Offset

namespace LogLayout.Pattern

/-- The character that starts a conversion specifier. -/
def marker : Char := '%'

/-- The longest registered part `letters.take m` with `1 ≤ m ≤ n`. -/
def longestName? (isName : List Char → Bool) (letters : List Char) : Nat → Option (List Char)
  | 0 => none
  | n + 1 =>
    if isName (letters.take (n + 1)) then some (letters.take (n + 1))
    else longestName? isName letters n

/-- The converter name at the start of a run of letters: the longest registered part, so that a
name may be followed by text without a gap, and the whole run when no part is registered. -/
def converterName (isName : List Char → Bool) (letters : List Char) : List Char :=
  (longestName? isName letters letters.length).getD letters

/-- A conversion specifier as it is written after its marker. -/
structure Specifier where
  width : WidthText
  name : List Char
  groups : OptionGroups
  deriving DecidableEq, Repr

namespace Specifier

/-- Reads the specifier whose marker stands before `cs`, and gives what follows it. -/
def read (isName : List Char → Bool) (cs : List Char) : Specifier × List Char :=
  let (width, rest) := WidthText.read cs
  let name := converterName isName (rest.takeWhile Char.isAlpha)
  let (groups, rest) := OptionGroups.read (rest.drop name.length)
  ({ width, name, groups }, rest)

/-- The specifier as it is written, marker included. -/
def source (s : Specifier) : List Char :=
  marker :: (s.width.source ++ s.name ++ s.groups.source)

/-- The name as a registry key. -/
def key (s : Specifier) : String := String.ofList s.name

/-- The options in order. -/
def options (s : Specifier) : List String := s.groups.options

end Specifier

/-- One token of a pattern. -/
inductive Token where
  /-- A character that stands for itself. -/
  | char (c : Char)
  /-- Two markers, which stand for one. -/
  | doubledMarker
  /-- A marker at the end of the pattern, which stands for itself. -/
  | finalMarker
  | specifier (s : Specifier)
  deriving DecidableEq, Repr

namespace Token

/-- The token as it is written. -/
def source : Token → List Char
  | .char c => [c]
  | .doubledMarker => [marker, marker]
  | .finalMarker => [marker]
  | .specifier s => s.source

/-- The options of a token. -/
def options : Token → List String
  | .specifier s => s.options
  | _ => []

/-- Reads the first token of `c :: cs`, and gives what follows it. -/
def read (isName : List Char → Bool) (c : Char) (cs : List Char) : Token × List Char :=
  if c = marker then
    match cs with
    | [] => (.finalMarker, [])
    | d :: ds =>
      if d = marker then (.doubledMarker, ds)
      else
        let (s, rest) := Specifier.read isName (d :: ds)
        (.specifier s, rest)
  else (.char c, cs)

end Token

/-- What is chosen as a name is a part of the letters that it was chosen from, so taking it off
the text that starts with them loses nothing. -/
theorem converterName_append_drop (isName : List Char → Bool) (letters rest : List Char) :
    converterName isName letters ++ (letters ++ rest).drop (converterName isName letters).length
      = letters ++ rest := by
  have htake : ∀ n name, longestName? isName letters n = some name →
      ∃ m, name = letters.take m := by
    intro n
    induction n with
    | zero => intro name h; simp [longestName?] at h
    | succ n ih =>
      intro name h
      simp only [longestName?] at h
      split at h
      · exact ⟨n + 1, (Option.some.inj h).symm⟩
      · exact ih name h
  have hpart : ∃ m, converterName isName letters = letters.take m := by
    cases hname : longestName? isName letters letters.length with
    | none => exact ⟨letters.length, by simp [converterName, hname]⟩
    | some name =>
      obtain ⟨m, hm⟩ := htake _ _ hname
      exact ⟨m, by simp [converterName, hname, hm]⟩
  obtain ⟨m, hm⟩ := hpart
  have hlength : (letters.take m).length ≤ letters.length := by
    rw [List.length_take]
    omega
  rw [hm, List.drop_append_of_le_length hlength, ← List.append_assoc, List.length_take]
  congr 1
  by_cases hle : m ≤ letters.length
  · rw [Nat.min_eq_left hle, List.take_append_drop]
  · rw [Nat.min_eq_right (by omega), List.take_of_length_le (by omega), List.drop_length,
      List.append_nil]

/-- A specifier written back and followed by the rest gives the marker and the text read. -/
theorem Specifier.source_append_rest (isName : List Char → Bool) (cs : List Char) :
    (Specifier.read isName cs).1.source ++ (Specifier.read isName cs).2 = marker :: cs := by
  have hwidth := WidthText.source_append_rest cs
  have hname := converterName_append_drop isName ((WidthText.read cs).2.takeWhile Char.isAlpha)
    ((WidthText.read cs).2.dropWhile Char.isAlpha)
  rw [List.takeWhile_append_dropWhile] at hname
  have hgroups := OptionGroups.source_append_rest ((WidthText.read cs).2.drop
    (converterName isName ((WidthText.read cs).2.takeWhile Char.isAlpha)).length)
  simp only [Specifier.read, Specifier.source, List.cons_append, List.append_assoc, hgroups,
    hname, hwidth]

/-- A token written back and followed by the rest gives the text that was read. -/
theorem Token.source_append_rest (isName : List Char → Bool) (c : Char) (cs : List Char) :
    (Token.read isName c cs).1.source ++ (Token.read isName c cs).2 = c :: cs := by
  simp only [Token.read]
  split
  · rename_i hc
    cases cs with
    | nil => simp [source, hc]
    | cons d ds =>
      simp only
      split
      · rename_i hd
        simp [source, hc, hd]
      · simp only [source]
        rw [Specifier.source_append_rest, hc]
  · simp [source]

theorem Token.length_source_pos (t : Token) : 0 < t.source.length := by
  cases t <;> simp [source, Specifier.source]

/-- A token takes at least one character. -/
theorem Token.length_rest_lt (isName : List Char → Bool) (c : Char) (cs : List Char) :
    (Token.read isName c cs).2.length < (c :: cs).length := by
  have hsource := congrArg List.length (Token.source_append_rest isName c cs)
  have hpos := Token.length_source_pos (Token.read isName c cs).1
  simp only [List.length_append] at hsource
  omega

/-- The tokens of a pattern, from the left. -/
def tokens (isName : List Char → Bool) : List Char → List Token
  | [] => []
  | c :: cs => (Token.read isName c cs).1 :: tokens isName (Token.read isName c cs).2
termination_by cs => cs.length
decreasing_by exact Token.length_rest_lt isName c cs

/-- The tokens of a pattern, written back, are the pattern. -/
theorem flatMap_source_tokens (isName : List Char → Bool) (cs : List Char) :
    (tokens isName cs).flatMap Token.source = cs := by
  fun_induction tokens isName cs with
  | case1 => rfl
  | case2 c cs ih => rw [List.flatMap_cons, ih, Token.source_append_rest]

/-- Tokens with the byte offsets at which they start, the first at `offset`. -/
def locate (offset : Nat) : List Token → List (Nat × Token)
  | [] => []
  | t :: rest => (offset, t) :: locate (offset + Text.byteSize t.source) rest

theorem mem_of_mem_locate {offset : Nat} {ts : List Token} {x : Nat × Token}
    (h : x ∈ locate offset ts) : x.2 ∈ ts := by
  induction ts generalizing offset with
  | nil => simp [locate] at h
  | cons t rest ih =>
    simp only [locate, List.mem_cons] at h
    rcases h with rfl | h
    · exact List.mem_cons_self
    · exact List.mem_cons_of_mem _ (ih h)

/-- An option of a specifier is shorter than what the specifier was read from. -/
theorem Specifier.length_lt_of_mem_options {isName : List Char → Bool} {cs : List Char}
    {option : String} (h : option ∈ (Specifier.read isName cs).1.options) :
    option.length < cs.length := by
  obtain ⟨text, htext, rfl⟩ := List.mem_map.mp h
  have hgroup : text.length < ((WidthText.read cs).2.drop
      (converterName isName ((WidthText.read cs).2.takeWhile Char.isAlpha)).length).length :=
    OptionGroups.length_lt_of_mem_texts htext
  have hwidth := congrArg List.length (WidthText.source_append_rest cs)
  rw [List.length_append] at hwidth
  rw [List.length_drop] at hgroup
  rw [String.length_ofList]
  omega

theorem Token.length_lt_of_mem_options {isName : List Char → Bool} {c : Char} {cs : List Char}
    {option : String} (h : option ∈ (Token.read isName c cs).1.options) :
    option.length < cs.length := by
  simp only [Token.read] at h
  split at h
  · cases cs with
    | nil => simp [options] at h
    | cons d ds =>
      simp only at h
      split at h
      · simp [options] at h
      · exact Specifier.length_lt_of_mem_options h
  · simp [options] at h

/-- An option of a token of a pattern is shorter than the pattern. -/
theorem length_lt_of_mem_tokens {isName : List Char → Bool} {cs : List Char} {t : Token}
    {option : String} (ht : t ∈ tokens isName cs) (h : option ∈ t.options) :
    option.length < cs.length := by
  fun_induction tokens isName cs with
  | case1 => simp at ht
  | case2 c cs ih =>
    rcases List.mem_cons.mp ht with rfl | ht
    · have := Token.length_lt_of_mem_options h
      simp only [List.length_cons]
      omega
    · have hrest := Token.length_rest_lt isName c cs
      have := ih ht
      omega

end LogLayout.Pattern
