import LogLayout.Proofs.Json.Strings
import Mathlib.Data.List.Chain

namespace LogLayout.Json

/-- One or more decimal digits. -/
def IsDigits (cs : List Char) : Prop := cs ≠ [] ∧ ∀ c ∈ cs, c.isDigit = true

/-- The whole part of a number: a zero, or digits that do not start with one. -/
def IsWhole (cs : List Char) : Prop := cs = ['0'] ∨ IsDigits cs ∧ cs.head? ≠ some '0'

/-- The fraction of a number, if it has one. -/
def IsFraction (cs : List Char) : Prop := cs = [] ∨ ∃ digits, IsDigits digits ∧ cs = '.' :: digits

/-- The exponent of a number, if it has one, with a sign or without. -/
def IsExponent (cs : List Char) : Prop :=
  cs = [] ∨ ∃ letter ∈ ['e', 'E'], ∃ sign ∈ [[], ['+'], ['-']], ∃ digits, IsDigits digits ∧
    cs = letter :: (sign ++ digits)

/-- A number without its sign. -/
inductive IsMagnitude : List Char → Prop
  | intro {whole fraction exponent : List Char} (hwhole : IsWhole whole)
    (hfraction : IsFraction fraction) (hexponent : IsExponent exponent) :
    IsMagnitude (whole ++ fraction ++ exponent)

namespace Token

/-- Whether a token is a bracket, a brace, a colon or a comma. -/
def isMark : Token → Bool
  | .scalar _ => false
  | _ => true

/-- The ways to write a token. A string whose pieces leave half of a surrogate pair alone stands for
no text. -/
inductive Spelling : Token → List Char → Prop
  | openArray : Spelling .openArray ['[']
  | closeArray : Spelling .closeArray [']']
  | openObject : Spelling .openObject ['\x7b']
  | closeObject : Spelling .closeObject ['\x7d']
  | colon : Spelling .colon [':']
  | comma : Spelling .comma [',']
  | null : Spelling (.scalar .null) ['n', 'u', 'l', 'l']
  | isTrue : Spelling (.scalar (.bool true)) ['t', 'r', 'u', 'e']
  | isFalse : Spelling (.scalar (.bool false)) ['f', 'a', 'l', 's', 'e']
  | number {digits : List Char} (h : IsMagnitude digits) :
    Spelling (.scalar (.number (String.ofList digits))) digits
  | negative {digits : List Char} (h : IsMagnitude digits) :
    Spelling (.scalar (.number (String.ofList ('-' :: digits)))) ('-' :: digits)
  | text {s : String} {pieces : List StringPiece} {body : List Char}
    (hbody : SpelledPieces pieces body) (hs : StandsFor pieces s.toList) :
    Spelling (.scalar (.string (some s))) ('"' :: (body ++ ['"']))
  | unpaired {pieces : List StringPiece} {body : List Char} (hbody : SpelledPieces pieces body)
    (hnone : ∀ cs, ¬ StandsFor pieces cs) :
    Spelling (.scalar (.string none)) ('"' :: (body ++ ['"']))

end Token

/-- Nothing but the four characters that JSON takes for white space. -/
def IsSpaces (cs : List Char) : Prop := ∀ c ∈ cs, c ∈ [' ', '\t', '\n', '\r']

/-- Tokens, written with white space before, between and behind them. -/
inductive Spaced : List Token → List Char → Prop
  | nil {space : List Char} (hspace : IsSpaces space) : Spaced [] space
  | cons {t : Token} {ts : List Token} {space cs rest : List Char} (hspace : IsSpaces space)
    (htoken : t.Spelling cs) (hrest : Spaced ts rest) : Spaced (t :: ts) (space ++ cs ++ rest)

section Numbers

variable {rest : List Char}

/-- What may stand behind a number. -/
def EndsNumber (rest : List Char) : Prop :=
  ∀ c ∈ rest.head?, c.isDigit = false ∧ c ∉ ['.', 'e', 'E']

theorem IsDigits.readDigits_append {digits : List Char} (h : IsDigits digits)
    (hrest : ∀ c ∈ rest.head?, c.isDigit = false) :
    readDigits (digits ++ rest) = some (digits, rest) := by
  simp only [readDigits, Text.takeWhile_run_append h.2 hrest,
    Text.dropWhile_append_of_head h.2 hrest]
  rw [if_neg (by simpa using h.1)]

theorem IsWhole.readWhole_append {whole : List Char} (h : IsWhole whole)
    (hrest : ∀ c ∈ rest.head?, c.isDigit = false) :
    readWhole (whole ++ rest) = some (whole, rest) := by
  obtain rfl | ⟨hdigits, hhead⟩ := h
  · rfl
  · rw [readWhole_of_head?_ne, hdigits.readDigits_append hrest]
    obtain ⟨digit, digits, rfl⟩ := List.exists_cons_of_ne_nil hdigits.1
    exact hhead

theorem IsFraction.readFraction_append {fraction : List Char} (h : IsFraction fraction)
    (hrest : ∀ c ∈ rest.head?, c.isDigit = false ∧ c ≠ '.') :
    readFraction (fraction ++ rest) = some (fraction, rest) := by
  obtain rfl | ⟨digits, hdigits, rfl⟩ := h
  · rw [List.nil_append, readFraction_of_head?_ne]
    intro hpoint
    exact (hrest '.' hpoint).2 rfl
  · simp [readFraction, hdigits.readDigits_append fun c hc => (hrest c hc).1]

theorem IsExponent.readExponent_append {exponent : List Char} (h : IsExponent exponent)
    (hrest : EndsNumber rest) : readExponent (exponent ++ rest) = some (exponent, rest) := by
  obtain rfl | ⟨letter, hletter, sign, hsign, digits, hdigits, rfl⟩ := h
  · cases rest with
    | nil => rfl
    | cons c rest =>
      have hc := (hrest c rfl).2
      simp only [List.mem_cons, List.not_mem_nil, or_false, not_or] at hc
      simp [readExponent, hc.2.1, hc.2.2]
  · have hletter : letter = 'e' ∨ letter = 'E' := by simpa using hletter
    have hread := hdigits.readDigits_append fun c hc => (hrest c hc).1
    obtain rfl | hsign := List.mem_cons.mp hsign
    · -- Without a sign the first character is a digit, and so it is no sign.
      obtain ⟨digit, digits, rfl⟩ := List.exists_cons_of_ne_nil hdigits.1
      have hdigit : ¬(digit = '+' ∨ digit = '-') := by
        rintro (rfl | rfl) <;> exact absurd (hdigits.2 _ List.mem_cons_self) (by decide)
      rw [List.cons_append] at hread
      simp [readExponent, hletter, hdigit, hread]
    · have hsign : sign = ['+'] ∨ sign = ['-'] := by simpa using hsign
      rcases hsign with rfl | rfl <;> simp [readExponent, hletter, hread]

theorem IsExponent.head?_append {exponent : List Char} (h : IsExponent exponent) {c : Char}
    (hc : c ∈ (exponent ++ rest).head?) : c = 'e' ∨ c = 'E' ∨ c ∈ rest.head? := by
  obtain rfl | ⟨letter, hletter, _, -, _, -, rfl⟩ := h
  · exact .inr (.inr hc)
  · cases hc
    exact (List.mem_cons.mp hletter).imp_right fun h => .inl (List.mem_singleton.mp h)

theorem IsFraction.head?_append {fraction : List Char} (h : IsFraction fraction) {c : Char}
    (hc : c ∈ (fraction ++ rest).head?) : c = '.' ∨ c ∈ rest.head? := by
  obtain rfl | ⟨_, -, rfl⟩ := h
  · exact .inr hc
  · cases hc
    exact .inl rfl

/-- A number is read whole: each of its parts ends where the next one starts. -/
theorem IsMagnitude.readMagnitude_append {digits : List Char} (h : IsMagnitude digits)
    (hrest : EndsNumber rest) : readMagnitude (digits ++ rest) = some (digits, rest) := by
  obtain ⟨hwhole, hfraction, hexponent⟩ := h
  rename_i whole fraction exponent
  have hexponentHead : ∀ c ∈ (exponent ++ rest).head?, c.isDigit = false ∧ c ≠ '.' := by
    intro c hc
    obtain rfl | rfl | hc := hexponent.head?_append hc
    · decide
    · decide
    · have hnot := (hrest c hc).2
      exact ⟨(hrest c hc).1, fun heq => hnot (by simp [heq])⟩
  have hfractionHead : ∀ c ∈ (fraction ++ (exponent ++ rest)).head?, c.isDigit = false := by
    intro c hc
    obtain rfl | hc := hfraction.head?_append hc
    · decide
    · exact (hexponentHead c hc).1
  rw [List.append_assoc, List.append_assoc, readMagnitude, hwhole.readWhole_append hfractionHead]
  simp [hfraction.readFraction_append hexponentHead, hexponent.readExponent_append hrest]

theorem IsMagnitude.exists_eq_cons {digits : List Char} (h : IsMagnitude digits) :
    ∃ first rest, digits = first :: rest ∧ first.isDigit = true := by
  obtain ⟨hwhole, -, -⟩ := h
  obtain rfl | ⟨hdigits, -⟩ := hwhole
  · exact ⟨'0', _, rfl, by decide⟩
  · obtain ⟨first, rest, rfl⟩ := List.exists_cons_of_ne_nil hdigits.1
    exact ⟨first, _, rfl, hdigits.2 first List.mem_cons_self⟩

end Numbers

theorem readWord_append (word rest : List Char) : readWord word (word ++ rest) = some rest := by
  rw [readWord, if_pos (List.isPrefixOf_iff_prefix.mpr (List.prefix_append word rest)),
    List.drop_left]

theorem readToken_of_isDigit {c : Char} (hc : c.isDigit = true) (cs : List Char) :
    readToken c cs = (readMagnitude (c :: cs)).map fun (digits, rest) =>
      (.scalar (.number (String.ofList digits)), rest) := by
  unfold readToken
  split
  case h_12 => rw [if_pos hc]
  all_goals exact absurd hc (by decide)

theorem isSpace_of_isDigit {c : Char} (hc : c.isDigit = true) : isSpace c = false := by
  by_contra hspace
  rw [isDigit_space (by simpa using hspace)] at hc
  cases hc

/-- A token is read from the front of text, and what is behind it is left, if that cannot belong to
a number. -/
theorem Token.Spelling.readToken_append {t : Token} {cs : List Char} (h : t.Spelling cs)
    {rest : List Char} (hrest : t.isMark = false → EndsNumber rest) :
    ∃ first more, cs = first :: more ∧ isSpace first = false ∧
      readToken first (more ++ rest) = some (t, rest) := by
  cases h with
  | openArray | closeArray | openObject | closeObject | colon | comma =>
    exact ⟨_, [], rfl, by decide, rfl⟩
  | null | isTrue | isFalse =>
    refine ⟨_, _, rfl, by decide, ?_⟩
    rw [readToken, readWord_append, Option.map_some]
  | number h =>
    obtain ⟨first, more, rfl, hfirst⟩ := h.exists_eq_cons
    refine ⟨first, more, rfl, isSpace_of_isDigit hfirst, ?_⟩
    rw [readToken_of_isDigit hfirst, ← List.cons_append, h.readMagnitude_append (hrest rfl),
      Option.map_some]
  | negative h =>
    refine ⟨_, _, rfl, by decide, ?_⟩
    rw [readToken, h.readMagnitude_append (hrest rfl), Option.map_some]
  | text hbody hs =>
    refine ⟨_, _, rfl, by decide, ?_⟩
    rw [readToken, List.append_assoc, List.singleton_append, hbody.readString_append]
    simp [hs.pieceChars_eq_some]
  | unpaired hbody hnone =>
    rename_i pieces body
    have hchars : pieceChars pieces = none := by
      cases hread : pieceChars pieces with
      | none => rfl
      | some cs => exact (hnone cs (standsFor_of_pieceChars (fun n => hbody.lt_of_mem) hread)).elim
    refine ⟨_, _, rfl, by decide, ?_⟩
    rw [readToken, List.append_assoc, List.singleton_append, hbody.readString_append]
    simp [hchars]

theorem isSpace_eq_true_iff {c : Char} : isSpace c = true ↔ c ∈ [' ', '\t', '\n', '\r'] := by
  simp [isSpace, or_assoc]

theorem tokens?_append_of_isSpaces {space : List Char} (h : IsSpaces space) (cs : List Char) :
    tokens? (space ++ cs) = tokens? cs := by
  induction space with
  | nil => rfl
  | cons c space ih =>
    have hc : isSpace c = true := isSpace_eq_true_iff.mpr (h c List.mem_cons_self)
    rw [List.cons_append, tokens?, if_pos hc]
    exact ih fun d hd => h d (List.mem_cons_of_mem c hd)

theorem EndsNumber.of_space {c : Char} (hc : c ∈ [' ', '\t', '\n', '\r']) (rest : List Char) :
    EndsNumber (c :: rest) := by
  have hall : ∀ d ∈ [' ', '\t', '\n', '\r'], d.isDigit = false ∧ d ∉ ['.', 'e', 'E'] := by simp
  rintro d ⟨⟩
  exact hall c hc

theorem Token.Spelling.endsNumber_append {t : Token} {cs : List Char} (h : t.Spelling cs)
    (hmark : t.isMark = true) (rest : List Char) : EndsNumber (cs ++ rest) := by
  cases h with
  | openArray | closeArray | openObject | closeObject | colon | comma =>
    rintro d ⟨⟩
    decide
  | _ => cases hmark

/-- Neither white space nor a mark goes on with a number. -/
theorem Spaced.endsNumber {ts : List Token} {cs : List Char} (h : Spaced ts cs)
    (hfirst : ∀ t ∈ ts.head?, t.isMark = true) : EndsNumber cs := by
  cases h with
  | nil hspace =>
    cases cs with
    | nil => rintro d ⟨⟩
    | cons c cs => exact .of_space (hspace c List.mem_cons_self) cs
  | @cons t ts space _ _ hspace htoken hrest =>
    cases space with
    | nil => exact htoken.endsNumber_append (hfirst t rfl) _
    | cons c space => exact .of_space (hspace c List.mem_cons_self) _

/-- Tokens are read back from their text when a mark stands between any two values. -/
theorem Spaced.tokens?_eq_some {ts : List Token} {cs : List Char} (h : Spaced ts cs)
    (happart : ts.IsChain fun s t => s.isMark = true ∨ t.isMark = true) :
    tokens? cs = some ts := by
  induction h with
  | @nil space hspace =>
    rw [← List.append_nil space, tokens?_append_of_isSpaces hspace, tokens?]
  | @cons t ts space cs rest hspace htoken hrest ih =>
    obtain ⟨hnext, happart⟩ := List.isChain_cons.mp happart
    have hends : t.isMark = false → EndsNumber rest := by
      intro hvalue
      apply hrest.endsNumber
      intro next hmem
      exact (hnext next hmem).resolve_left (by simp [hvalue])
    obtain ⟨first, more, rfl, hfirst, hread⟩ := htoken.readToken_append hends
    rw [List.append_assoc, tokens?_append_of_isSpaces hspace, List.cons_append,
      tokens?_cons (by simp [hfirst]), hread]
    simp [ih happart]

/-- Text without anything to escape stands between its quotes as it is. -/
theorem Token.Spelling.plainText {s : String}
    (h : ∀ c ∈ s.toList, 0x20 ≤ c.toNat ∧ c ≠ '"' ∧ c ≠ '\\') :
    Spelling (.scalar (.string (some s))) ('"' :: (s.toList ++ ['"'])) := by
  have hplain : ∀ cs : List Char, (∀ c ∈ cs, 0x20 ≤ c.toNat ∧ c ≠ '"' ∧ c ≠ '\\') →
      SpelledPieces (cs.map .char) cs ∧ StandsFor (cs.map .char) cs := by
    intro cs
    induction cs with
    | nil => exact fun _ => ⟨.nil, .nil⟩
    | cons c cs ih =>
      intro h
      obtain ⟨⟨hcontrol, hquote, hescape⟩, hcs⟩ := List.forall_mem_cons.mp h
      obtain ⟨hbody, hstands⟩ := ih hcs
      exact ⟨.cons (.plain hcontrol hquote hescape) hbody, .char c hstands⟩
  obtain ⟨hbody, hstands⟩ := hplain s.toList h
  exact .text hbody hstands

theorem Token.exists_spelling_text (s : String) :
    ∃ cs, Spelling (.scalar (.string (some s))) cs := by
  obtain ⟨pieces, body, hbody, hs⟩ := exists_spelledPieces s.toList
  exact ⟨_, .text hbody hs⟩

theorem exists_spaced {ts : List Token} (h : ∀ t ∈ ts, ∃ cs, t.Spelling cs) :
    ∃ cs, Spaced ts cs := by
  have hspace : IsSpaces [] := by simp [IsSpaces]
  induction ts with
  | nil => exact ⟨_, .nil hspace⟩
  | cons t ts ih =>
    rw [List.forall_mem_cons] at h
    obtain ⟨⟨cs, hcs⟩, hts⟩ := h
    obtain ⟨rest, hrest⟩ := ih hts
    exact ⟨_, .cons hspace hcs hrest⟩

end LogLayout.Json
