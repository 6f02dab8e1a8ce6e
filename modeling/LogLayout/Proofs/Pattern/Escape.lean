import LogLayout.Proofs.Pattern.Refusal
import LogLayout.Proofs.Pattern.Segmentation

namespace LogLayout.Pattern

/-- A character as it is written to stand for itself. -/
def escapeChar (c : Char) : List Char :=
  if c = marker then [marker, marker] else [c]

/-- Text with every marker doubled. -/
def escape (cs : List Char) : List Char := cs.flatMap escapeChar

namespace Token

/-- The token of a character that is written to stand for itself. -/
def ofChar (c : Char) : Token :=
  if c = marker then .doubledMarker else .char c

theorem source_ofChar (c : Char) : (ofChar c).source = escapeChar c := by
  unfold ofChar escapeChar
  split <;> rfl

theorem fits_ofChar (isName : List Char → Bool) (c : Char) (rest : List Char) :
    (ofChar c).Fits isName rest := by
  unfold ofChar
  split
  · trivial
  · assumption

theorem value_ofChar (registry : Registry) (c : Char) :
    (ofChar c).value registry = .text [c] := by
  unfold ofChar
  split
  · rename_i hc
    rw [hc]
    rfl
  · rfl

theorem reports_ofChar (registry : Registry) (position : Nat) (c : Char) :
    reports registry (position, ofChar c) = [] := by
  unfold ofChar
  split <;> rfl

end Token

theorem map_value_ofChar (registry : Registry) (cs : List Char) :
    (cs.map Token.ofChar).map (·.value registry) = cs.map fun c => Piece.text [c] := by
  rw [List.map_map]
  apply List.map_congr_left
  intro c _
  exact Token.value_ofChar registry c

/-- Escaped text is cut into its characters, and what stands behind it is cut as it would be by
itself. -/
theorem Segmentation.escape_append {isName : List Char → Bool} {rest : List Char}
    {ts : List Token} (h : Segmentation isName rest ts) (cs : List Char) :
    Segmentation isName (escape cs ++ rest) (cs.map Token.ofChar ++ ts) := by
  induction cs with
  | nil => exact h
  | cons c cs ih =>
    have hcons := Segmentation.cons (Token.fits_ofChar isName c _) ih
    rw [Token.source_ofChar, ← List.append_assoc] at hcons
    exact hcons

/-- Text that is added character by character waits as if it had been added at once. -/
theorem foldl_add_chars (d : Draft) (cs : List Char) :
    (cs.map fun c => Piece.text [c]).foldl Draft.add d = d.add (.text cs) := by
  induction cs generalizing d with
  | nil => simp [Draft.add]
  | cons c cs ih =>
    rw [List.map_cons, List.foldl_cons, ih]
    simp only [Draft.add, String.append_assoc, ← String.ofList_append, List.singleton_append]

theorem tokens_escape_append (isName : List Char → Bool) (cs rest : List Char) :
    tokens isName (escape cs ++ rest) = cs.map Token.ofChar ++ tokens isName rest := by
  have hrest := segmentation_tokens isName rest
  exact (segmentation_iff.mp (hrest.escape_append cs)).symm

theorem renderTokens_map_ofChar (registry : Registry) (e : Event) (cs : List Char) :
    renderTokens registry e (cs.map Token.ofChar) = String.ofList cs := by
  induction cs with
  | nil => rfl
  | cons c cs ih =>
    rw [List.map_cons, renderTokens_cons, ih, Token.value_ofChar, Piece.rendered,
      ← String.ofList_append, List.singleton_append]

/-- A text with every marker doubled. -/
def escaped (text : String) : String := String.ofList (escape text.toList)

variable (registry : Registry)

theorem tokens_escaped (text : String) :
    tokens registry.isName (escaped text).toList = text.toList.map Token.ofChar := by
  have htokens := tokens_escape_append registry.isName text.toList []
  rwa [List.append_nil, tokens, List.append_nil, ← String.toList_ofList (l := escape _)] at htokens

theorem text_compile_escaped_append (text pattern : String) (e : Event) :
    (compile registry (escaped text ++ pattern)).chain.text e =
      text ++ (compile registry pattern).chain.text e := by
  rw [text_compile, text_compile, String.toList_append, escaped, String.toList_ofList,
    tokens_escape_append, renderTokens_append, renderTokens_map_ofChar, String.ofList_toList]

theorem chain_compile_escaped (text : String) :
    (compile registry (escaped text)).chain =
      ⟨escaped text, if text = "" then [] else [⟨.literal text, {}⟩]⟩ := by
  have hpending : Draft.add {} (.text text.toList) = { pending := text } := by
    simp [Draft.add]
  rw [compile_chain, tokens_escaped, map_value_ofChar, formattersOf, foldl_add_chars, hpending,
    Draft.flush]
  split <;> rfl

theorem diagnostics_compile_escaped (text : String) :
    (compile registry (escaped text)).diagnostics = [] := by
  rw [diagnostics_compile, tokens_escaped, List.flatMap_eq_nil_iff]
  rintro ⟨position, t⟩ hx
  obtain ⟨c, -, rfl⟩ := List.mem_map.mp (mem_of_mem_locate hx)
  exact Token.reports_ofChar registry position c

/-- An escaped text in front of a pattern writes the text in front of what the pattern writes. By
itself it is a single literal, or nothing if the text is empty, and nothing is reported of it. -/
theorem compile_escaped (text : String) :
    (∀ pattern e buffer, (compile registry (escaped text ++ pattern)).chain.appendTo e buffer =
      (compile registry pattern).chain.appendTo e (buffer ++ text)) ∧
    (compile registry (escaped text)).chain =
      ⟨escaped text, if text = "" then [] else [⟨.literal text, {}⟩]⟩ ∧
    (compile registry (escaped text)).diagnostics = [] := by
  refine ⟨?_, chain_compile_escaped registry text, diagnostics_compile_escaped registry text⟩
  intro pattern e buffer
  rw [Chain.appendTo_eq_append, Chain.appendTo_eq_append, text_compile_escaped_append,
    String.append_assoc]

end LogLayout.Pattern
