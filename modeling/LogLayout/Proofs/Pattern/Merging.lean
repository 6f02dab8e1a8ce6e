import LogLayout.Proofs.Pattern.Segmentation
import LogLayout.Proofs.Pattern.Values
import Mathlib.Data.List.Forall2
import Mathlib.Data.List.SplitBy

namespace LogLayout

/-- Whether a converter is a literal. -/
def Converter.isLiteral : Converter → Bool
  | .literal _ => true
  | _ => false

namespace Pattern

namespace Piece

def isText : Piece → Bool
  | .text _ => true
  | .formatter _ => false

/-- The characters of a piece of text. -/
def chars : Piece → List Char
  | .text cs => cs
  | .formatter _ => []

/-- The formatter of a run: a formatter makes a run by itself, and texts make one literal, in a
field that is as wide as they are. -/
def ofRun : List Piece → Formatter
  | [.formatter f] => f
  | run => ⟨.literal (String.ofList (run.flatMap chars)),
    { minimum := 0, maximum := none, alignLeft := false, cutLeft := true }⟩

end Piece

/-- The formatters of pieces, one for every run. Neighbouring texts belong to one run. -/
def formattersOfRuns (pieces : List Piece) : List Formatter :=
  (pieces.splitBy fun p q => p.isText && q.isText).map Piece.ofRun

theorem formattersOfRuns_append {ps qs : List Piece} (h : ∀ p ∈ ps.getLast?, p.isText = false) :
    formattersOfRuns (ps ++ qs) = formattersOfRuns ps ++ formattersOfRuns qs := by
  have hsplit : (ps ++ qs).splitBy (fun p q => p.isText && q.isText) =
      ps.splitBy (fun p q => p.isText && q.isText) ++
        qs.splitBy (fun p q => p.isText && q.isText) := by
    apply List.splitBy_append
    intro p hp q _
    simp [h p hp]
  rw [formattersOfRuns, hsplit, List.map_append]
  rfl

theorem formattersOfRuns_texts {ps : List Piece} (hne : ps ≠ []) (h : ∀ p ∈ ps, p.isText = true) :
    formattersOfRuns ps = [⟨.literal (String.ofList (ps.flatMap Piece.chars)), {}⟩] := by
  have hrun : ps.splitBy (fun p q => p.isText && q.isText) = [ps] := by
    apply List.splitBy_of_isChain hne
    apply List.Pairwise.isChain
    apply List.pairwise_of_forall_mem_list
    intro p hp q hq
    simp [h p hp, h q hq]
  rw [formattersOfRuns, hrun]
  cases ps with
  | nil => exact absurd rfl hne
  | cons p ps =>
    cases p with
    | text cs => rfl
    | formatter f => simpa [Piece.isText] using h _ List.mem_cons_self

theorem formattersOfRuns_append_formatter (ps : List Piece) (f : Formatter) :
    formattersOfRuns (ps ++ [.formatter f]) = formattersOfRuns ps ++ [f] := by
  have hsplit : (ps ++ [Piece.formatter f]).splitBy (fun p q => p.isText && q.isText) =
      ps.splitBy (fun p q => p.isText && q.isText) ++ [[Piece.formatter f]] := by
    rw [List.splitBy_append]
    · rfl
    · intro p _ q hq
      obtain rfl : Piece.formatter f = q := by simpa using hq
      simp [Piece.isText]
  rw [formattersOfRuns, hsplit, List.map_append]
  rfl

/-- What a draft holds after some pieces: the formatters of all but the texts that they end with,
and those texts. -/
structure Draft.Holds (d : Draft) (settled waiting : List Piece) : Prop where
  ends : ∀ p ∈ settled.getLast?, p.isText = false
  texts : ∀ p ∈ waiting, p.isText = true ∧ p.chars ≠ []
  formatters : d.formatters = formattersOfRuns settled
  pending : d.pending = String.ofList (waiting.flatMap Piece.chars)

theorem Draft.Holds.flush {d : Draft} {settled waiting : List Piece} (h : d.Holds settled waiting) :
    d.flush.formatters = formattersOfRuns (settled ++ waiting) := by
  cases waiting with
  | nil =>
    have hpending : d.pending = "" := h.pending
    rw [Draft.flush, if_pos hpending, h.formatters, List.append_nil]
  | cons p waiting =>
    have hpending : d.pending ≠ "" := by
      obtain ⟨-, hchars⟩ := h.texts p List.mem_cons_self
      rw [h.pending]
      intro hempty
      have hnil := congrArg String.toList hempty
      simp [hchars] at hnil
    have hruns := formattersOfRuns_texts (List.cons_ne_nil p waiting) fun q hq => (h.texts q hq).1
    rw [Draft.flush, if_neg hpending, formattersOfRuns_append h.ends, hruns, h.formatters,
      h.pending]

/-- One more piece either joins the texts that wait or settles all pieces so far. -/
theorem Draft.Holds.add {d : Draft} {settled waiting : List Piece} (h : d.Holds settled waiting)
    {p : Piece} (hp : p.isText = true → p.chars ≠ []) :
    ∃ settled' waiting', (d.add p).Holds settled' waiting' ∧
      settled' ++ waiting' = settled ++ waiting ++ [p] := by
  cases p with
  | text cs =>
    refine ⟨settled, waiting ++ [.text cs], ⟨h.ends, ?_, h.formatters, ?_⟩, by simp⟩
    · intro q hq
      rcases List.mem_append.mp hq with hq | hq
      · exact h.texts q hq
      · obtain rfl := List.mem_singleton.mp hq
        exact ⟨rfl, hp rfl⟩
    · simp [Draft.add, h.pending, Piece.chars, String.ofList_append]
  | formatter f =>
    refine ⟨settled ++ waiting ++ [.formatter f], [],
      ⟨?_, by simp, ?_, d.pending_flush⟩, by simp⟩
    · intro q hq
      obtain rfl : Piece.formatter f = q := by simpa using hq
      rfl
    · rw [formattersOfRuns_append_formatter, ← h.flush]
      rfl

theorem Draft.Holds.foldl {pieces : List Piece}
    (hpieces : ∀ p ∈ pieces, p.isText = true → p.chars ≠ []) {d : Draft}
    {settled waiting : List Piece} (h : d.Holds settled waiting) :
    ∃ settled' waiting', (pieces.foldl Draft.add d).Holds settled' waiting' ∧
      settled' ++ waiting' = settled ++ waiting ++ pieces := by
  induction pieces generalizing d settled waiting with
  | nil => exact ⟨settled, waiting, h, by simp⟩
  | cons p pieces ih =>
    obtain ⟨settled', waiting', hadd, hsame⟩ := h.add (hpieces p List.mem_cons_self)
    obtain ⟨settled'', waiting'', hrest, hall⟩ :=
      ih (fun q hq => hpieces q (List.mem_cons_of_mem p hq)) hadd
    refine ⟨settled'', waiting'', hrest, ?_⟩
    rw [hall, hsame, List.append_assoc, List.singleton_append]

/-- Pieces are merged run by run, if none of them is text without characters. -/
theorem formattersOf_eq_formattersOfRuns {pieces : List Piece}
    (h : ∀ p ∈ pieces, p.isText = true → p.chars ≠ []) :
    formattersOf pieces = formattersOfRuns pieces := by
  -- At the start nothing is settled and no text waits.
  have hempty : Draft.Holds {} [] [] := ⟨by simp, by simp, rfl, rfl⟩
  obtain ⟨settled, waiting, hholds, hall⟩ := hempty.foldl h
  rw [formattersOf, hholds.flush, hall]
  rfl

private theorem isText_of_isChain {p : Piece} {run : List Piece}
    (h : (p :: run).IsChain fun x y => (x.isText && y.isText) = true) :
    ∀ q ∈ run, q.isText = true := by
  induction run generalizing p with
  | nil => simp
  | cons q run ih =>
    obtain ⟨hpair, hrest⟩ := List.isChain_cons_cons.mp h
    intro x hx
    rcases List.mem_cons.mp hx with rfl | hx
    · exact (Bool.and_eq_true_iff.mp hpair).2
    · exact ih hrest x hx

/-- A run is a formatter by itself, or texts and nothing else. -/
theorem run_cases {pieces run : List Piece}
    (h : run ∈ pieces.splitBy fun p q => p.isText && q.isText) :
    (∃ f, run = [.formatter f]) ∨ ∀ p ∈ run, p.isText = true := by
  have hchain := List.isChain_of_mem_splitBy h
  cases run with
  | nil => exact absurd rfl (List.ne_nil_of_mem_splitBy h)
  | cons p run =>
    cases p with
    | text cs =>
      refine .inr ?_
      intro q hq
      rcases List.mem_cons.mp hq with rfl | hq
      · rfl
      · exact isText_of_isChain hchain q hq
    | formatter f =>
      cases run with
      | nil => exact .inl ⟨f, rfl⟩
      | cons q run => cases (List.isChain_cons_cons.mp hchain).1

theorem mem_of_mem_run {pieces run : List Piece} {p : Piece}
    (h : run ∈ pieces.splitBy fun p q => p.isText && q.isText) (hp : p ∈ run) : p ∈ pieces := by
  rw [← List.flatten_splitBy (fun p q => p.isText && q.isText) pieces]
  exact List.mem_flatten.mpr ⟨run, h, hp⟩

/-- A formatter of some pieces is one of them, or a literal that is not empty. -/
theorem mem_formattersOfRuns {pieces : List Piece}
    (hpieces : ∀ p ∈ pieces, p.isText = true → p.chars ≠ []) {f : Formatter}
    (hf : f ∈ formattersOfRuns pieces) :
    (∃ text, text ≠ "" ∧ f = ⟨.literal text, {}⟩) ∨ .formatter f ∈ pieces := by
  obtain ⟨run, hrun, rfl⟩ := List.mem_map.mp hf
  obtain ⟨g, rfl⟩ | htexts := run_cases hrun
  · exact .inr (mem_of_mem_run hrun List.mem_cons_self)
  · have hne := List.ne_nil_of_mem_splitBy hrun
    obtain ⟨p, rest, rfl⟩ := List.exists_cons_of_ne_nil hne
    have hp := htexts p List.mem_cons_self
    have hchars := hpieces p (mem_of_mem_run hrun List.mem_cons_self) hp
    refine .inl ⟨String.ofList ((p :: rest).flatMap Piece.chars), ?_, ?_⟩
    · intro hempty
      have hnil := congrArg String.toList hempty
      simp [hchars] at hnil
    · cases p with
      | text cs => rfl
      | formatter g => cases hp

theorem isText_of_isLiteral_ofRun {pieces run : List Piece}
    (hpieces : ∀ f, .formatter f ∈ pieces → f.converter.isLiteral = false)
    (hrun : run ∈ pieces.splitBy fun p q => p.isText && q.isText)
    (hliteral : (Piece.ofRun run).converter.isLiteral = true) : ∀ p ∈ run, p.isText = true := by
  obtain ⟨f, rfl⟩ | htexts := run_cases hrun
  · have hf := hpieces f (mem_of_mem_run hrun List.mem_cons_self)
    rw [Piece.ofRun, hf] at hliteral
    cases hliteral
  · exact htexts

/-- No two literals are neighbours, if none of the pieces is a literal of its own. -/
theorem isChain_formattersOfRuns {pieces : List Piece}
    (hpieces : ∀ f, .formatter f ∈ pieces → f.converter.isLiteral = false) :
    (formattersOfRuns pieces).IsChain fun f g =>
      ¬(f.converter.isLiteral = true ∧ g.converter.isLiteral = true) := by
  rw [formattersOfRuns, List.isChain_map]
  apply (List.isChain_getLast_head_splitBy _ pieces).imp_of_mem_imp
  rintro run next hrun hnext ⟨hne, hne', hparted⟩ ⟨hliteral, hliteral'⟩
  have hlast := isText_of_isLiteral_ofRun hpieces hrun hliteral _ (List.getLast_mem hne)
  have hfirst := isText_of_isLiteral_ofRun hpieces hnext hliteral' _ (List.head_mem hne')
  rw [hlast, hfirst] at hparted
  cases hparted

theorem Specifier.value_cases (registry : Registry) (s : Specifier) :
    s.value registry = .text s.source ∨ ∃ f, s.value registry = .formatter f := by
  unfold value
  split
  · split
    · exact .inl rfl
    · exact .inr ⟨_, rfl⟩
  · exact .inl rfl

theorem Token.chars_value_ne_nil (registry : Registry) (t : Token)
    (htext : (t.value registry).isText = true) : (t.value registry).chars ≠ [] := by
  cases t with
  | char c => simp [value, Piece.chars]
  | doubledMarker => simp [value, Piece.chars]
  | finalMarker => simp [value, Piece.chars]
  | specifier s =>
    rw [value] at htext ⊢
    obtain hvalue | ⟨f, hvalue⟩ := s.value_cases registry
    · rw [hvalue, Specifier.source_eq_marker_cons]
      exact List.cons_ne_nil marker s.body
    · rw [hvalue] at htext
      cases htext

theorem chars_ne_nil_of_mem_values {registry : Registry} {ts : List Token} {p : Piece}
    (hp : p ∈ ts.map (·.value registry)) (htext : p.isText = true) : p.chars ≠ [] := by
  obtain ⟨t, -, rfl⟩ := List.mem_map.mp hp
  exact t.chars_value_ne_nil registry htext

theorem formatters_compile (registry : Registry) (pattern : String) :
    (compile registry pattern).chain.formatters =
      formattersOfRuns ((tokens registry.isName pattern.toList).map (·.value registry)) := by
  rw [compile_chain]
  exact formattersOf_eq_formattersOfRuns fun p => chars_ne_nil_of_mem_values

theorem forall₂_denotes_iff {registry : Registry} {ts : List Token} {ps : List Piece} :
    List.Forall₂ (Token.Denotes registry) ts ps ↔ ps = ts.map (·.value registry) := by
  have hequal : List.Forall₂ (Token.Denotes registry) ts ps ↔
      List.Forall₂ Eq (ts.map (·.value registry)) ps := by
    have hdenotes : Token.Denotes registry = fun t p => t.value registry = p := by
      funext t p
      exact propext (Token.denotes_iff.trans eq_comm)
    rw [List.forall₂_map_left_iff, hdenotes]
  rw [hequal, List.forall₂_eq_eq_eq, eq_comm]

/-- Every pattern is cut into tokens in one way, each token stands for one piece, and the chain of
the pattern is made of these pieces, in their order, with every run of neighbouring texts as one
literal. -/
theorem exists_unique_segmentation_and_chain (registry : Registry) (pattern : String) :
    ∃ ts pieces,
      (∀ us, Segmentation (fun name => (registry.get? (String.ofList name)).isSome)
        pattern.toList us ↔ us = ts) ∧
      (∀ ps, List.Forall₂ (Token.Denotes registry) ts ps ↔ ps = pieces) ∧
      (compile registry pattern).chain = ⟨pattern, formattersOfRuns pieces⟩ := by
  refine ⟨tokens registry.isName pattern.toList, _, fun us => segmentation_iff,
    fun ps => forall₂_denotes_iff, ?_⟩
  rw [compile_chain, formattersOf_eq_formattersOfRuns]
  exact fun p => chars_ne_nil_of_mem_values

end Pattern

end LogLayout
