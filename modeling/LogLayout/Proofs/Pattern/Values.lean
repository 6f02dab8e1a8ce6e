import LogLayout.Pattern.Compile
import LogLayout.Proofs.Pattern.WidthText
import LogLayout.Proofs.Rendering

namespace LogLayout

theorem Registry.create_eq_map (registry : Registry) (key : String) (options : List String) :
    registry.create key options = (registry.prepare key options).map fun b =>
      b.build fun p _ => Pattern.compile registry p := by
  rw [Registry.create, Registry.prepare]
  cases registry.get? key with
  | none => rfl
  | some kind =>
    simp only [ConverterKind.create]
    cases kind.prepare options <;> rfl

theorem formattersText_append (e : Event) (fs gs : List Formatter) :
    formattersText e (fs ++ gs) = formattersText e fs ++ formattersText e gs := by
  induction fs with
  | nil => simp [formattersText]
  | cons f fs ih => simp only [List.cons_append, formattersText, ih, String.append_assoc]

namespace Pattern

/-- What a specifier stands for: a formatter when its width is accepted, it has a name, and the
registry makes a converter of it, and otherwise the text that it is. -/
def Specifier.value (registry : Registry) (s : Specifier) : Piece :=
  match s.width.fieldWidth, registry.create s.key s.options with
  | .ok width, .ok (converter, _) =>
    if s.name = [] then .text s.source else .formatter ⟨converter, width⟩
  | _, _ => .text s.source

/-- What a token stands for. -/
def Token.value (registry : Registry) : Token → Piece
  | .char c => .text [c]
  | .doubledMarker => .text [marker]
  | .finalMarker => .text [marker]
  | .specifier s => s.value registry

/-- What the registry makes for a specifier: a converter by its name, whose options are the texts of
its groups, one that is never closed as the last. -/
def Specifier.create (registry : Registry) (s : Specifier) :
    Except ConverterError (Converter × List Diagnostic) :=
  registry.create (String.ofList s.name)
    ((s.groups.closed ++ s.groups.unclosed.toList).map String.ofList)

/-- What a specifier stands for, without the compiler: a converter in a field of the width that is
written, when that width is acceptable, there is a name, and the registry makes the converter, and
otherwise the text of the specifier. -/
inductive Specifier.Denotes (registry : Registry) (s : Specifier) : Piece → Prop where
  | formatter {converter : Converter} {diagnostics : List Diagnostic} (width : s.width.Acceptable)
      (named : s.name ≠ []) (created : s.create registry = .ok (converter, diagnostics)) :
      Denotes registry s (.formatter ⟨converter, s.width.meant⟩)
  | text (refused : ¬(s.width.Acceptable ∧ s.name ≠ [] ∧ ∃ made, s.create registry = .ok made)) :
      Denotes registry s (.text s.source)

/-- What a token stands for, without the compiler. -/
inductive Token.Denotes (registry : Registry) : Token → Piece → Prop where
  | char (c : Char) : Denotes registry (.char c) (.text [c])
  | doubledMarker : Denotes registry .doubledMarker (.text ['%'])
  | finalMarker : Denotes registry .finalMarker (.text ['%'])
  | specifier {s : Specifier} {p : Piece} (h : s.Denotes registry p) :
      Denotes registry (.specifier s) p

theorem Specifier.denotes_value (registry : Registry) (s : Specifier) :
    s.Denotes registry (s.value registry) := by
  rw [value]
  split
  · rename_i width converter diagnostics hwidth hcreated
    obtain ⟨hacceptable, rfl⟩ := WidthText.fieldWidth_eq_ok_iff.mp hwidth
    by_cases hname : s.name = []
    · rw [if_pos hname]
      exact .text fun h => h.2.1 hname
    · rw [if_neg hname]
      exact .formatter hacceptable hname hcreated
  · rename_i hnone
    refine .text ?_
    rintro ⟨hacceptable, -, ⟨converter, diagnostics⟩, hcreated⟩
    have hwidth := WidthText.fieldWidth_eq_ok_iff.mpr ⟨hacceptable, rfl⟩
    exact hnone _ converter diagnostics hwidth hcreated

theorem Specifier.Denotes.unique {registry : Registry} {s : Specifier} {p q : Piece}
    (hp : s.Denotes registry p) (hq : s.Denotes registry q) : p = q := by
  cases hp with
  | formatter hwidth hnamed hcreated =>
    cases hq with
    | formatter _ _ hcreated' =>
      rw [hcreated] at hcreated'
      cases hcreated'
      rfl
    | text hrefused => exact (hrefused ⟨hwidth, hnamed, _, hcreated⟩).elim
  | text hrefused =>
    cases hq with
    | formatter hwidth hnamed hcreated => exact (hrefused ⟨hwidth, hnamed, _, hcreated⟩).elim
    | text _ => rfl

/-- The compiler makes of a token what the token stands for. -/
theorem Token.denotes_iff {registry : Registry} {t : Token} {p : Piece} :
    t.Denotes registry p ↔ p = t.value registry := by
  constructor
  · intro h
    cases h with
    | char c => rfl
    | doubledMarker => rfl
    | finalMarker => rfl
    | specifier h => exact h.unique (Specifier.denotes_value registry _)
  · rintro rfl
    cases t with
    | char c => exact .char c
    | doubledMarker => exact .doubledMarker
    | finalMarker => exact .finalMarker
    | specifier s => exact .specifier (s.denotes_value registry)

/-- A specifier stands for what it asks for at any place, or for its text where it is refused. -/
theorem Specifier.value_eq_request (registry : Registry) (position : Nat) (s : Specifier) :
    s.value registry = match s.request registry position with
      | .ok r => .formatter ⟨(r.blueprint.build fun p _ => Pattern.compile registry p).1, r.width⟩
      | .error _ => .text s.source := by
  simp only [value, request, Registry.create_eq_map, List.isEmpty_iff]
  cases s.width.fieldWidth with
  | error err => rfl
  | ok width =>
    cases registry.prepare s.key s.options with
    | error err =>
      by_cases hname : s.name = []
      · simp only [Except.map, if_pos hname]
      · simp only [Except.map, if_neg hname]
        cases err <;> rfl
    | ok blueprint =>
      by_cases hname : s.name = []
      · simp only [Except.map, if_pos hname]
      · simp only [Except.map, if_neg hname]

section Compile

variable {registry : Registry} {s : Specifier} {position : Nat} (c : String → Compiled)

theorem Specifier.compile_of_error {d : Diagnostic}
    (hrequest : s.request registry position = .error d) :
    s.compile registry position (fun p _ => c p) = (.text s.source, [d]) := by
  -- Making the formatter needs the equation of its case, so it is split and not rewritten.
  unfold compile
  split
  · rename_i hother
    rw [hrequest] at hother
    cases hother
    rfl
  · rename_i hother
    rw [hrequest] at hother
    cases hother

theorem Specifier.compile_of_ok {r : Request} (hrequest : s.request registry position = .ok r) :
    s.compile registry position (fun p _ => c p) =
      (.formatter ⟨(r.blueprint.build fun p _ => c p).1, r.width⟩,
        (r.blueprint.build fun p _ => c p).2 ++
          [.converterCreated s.key (r.blueprint.build fun p _ => c p).1.name
            s.options.length]) := by
  unfold compile
  split
  · rename_i hother
    rw [hrequest] at hother
    cases hother
  · rename_i hother
    rw [hrequest] at hother
    cases hother
    rfl

end Compile

/-- The place of a token has no part in what it stands for. -/
theorem Token.compile_fst (registry : Registry) (position : Nat) (t : Token) :
    (t.compile registry position fun p _ => Pattern.compile registry p).1 = t.value registry := by
  cases t with
  | char c => rfl
  | doubledMarker => rfl
  | finalMarker => rfl
  | specifier s =>
    rw [Token.compile, Token.value, s.value_eq_request registry position]
    cases hrequest : s.request registry position with
    | error d => exact congrArg Prod.fst (Specifier.compile_of_error _ hrequest)
    | ok r => exact congrArg Prod.fst (Specifier.compile_of_ok _ hrequest)

theorem map_snd_locate (offset : Nat) (ts : List Token) : (locate offset ts).map (·.2) = ts := by
  induction ts generalizing offset with
  | nil => rfl
  | cons t ts ih => simp [locate, ih]

/-- The chain of a pattern, from what its tokens stand for. -/
theorem compile_chain (registry : Registry) (pattern : String) :
    (compile registry pattern).chain =
      ⟨pattern, formattersOf ((tokens registry.isName pattern.toList).map (·.value registry))⟩ := by
  have hvalues : (locate 0 (tokens registry.isName pattern.toList)).map
      (fun x => (x.2.compile registry x.1 fun p _ => compile registry p).1) =
      (tokens registry.isName pattern.toList).map (·.value registry) := by
    calc
      _ = (locate 0 (tokens registry.isName pattern.toList)).map
          (fun x => x.2.value registry) := by
        apply List.map_congr_left
        intro x _
        exact Token.compile_fst registry x.1 x.2
      _ = ((locate 0 (tokens registry.isName pattern.toList)).map (·.2)).map
          (·.value registry) := by
        rw [List.map_map]
        rfl
      _ = _ := by rw [map_snd_locate]
  rw [compile_eq, assemble, ← hvalues, List.map_map]
  rfl

/-- What a piece writes. -/
def Piece.rendered (e : Event) : Piece → String
  | .text cs => String.ofList cs
  | .formatter f => f.text e

/-- What a draft writes, the text that waits included. -/
def Draft.rendered (e : Event) (d : Draft) : String :=
  formattersText e d.formatters ++ d.pending

@[simp] theorem Draft.pending_flush (d : Draft) : d.flush.pending = "" := by
  by_cases hpending : d.pending = "" <;> simp [flush, hpending]

theorem Draft.rendered_flush (e : Event) (d : Draft) :
    formattersText e d.flush.formatters = d.rendered e := by
  by_cases hpending : d.pending = ""
  · simp [flush, rendered, hpending]
  · simp [flush, rendered, hpending, formattersText_append, formattersText, Formatter.text,
      Converter.text]

theorem Draft.rendered_add (e : Event) (d : Draft) (p : Piece) :
    (d.add p).rendered e = d.rendered e ++ p.rendered e := by
  cases p with
  | text cs => simp only [add, rendered, Piece.rendered, String.append_assoc]
  | formatter f =>
    have htext := rendered_flush e d
    simp only [add, rendered, Piece.rendered, pending_flush, formattersText_append, formattersText,
      String.append_empty] at htext ⊢
    rw [htext]

theorem rendered_foldl_add (e : Event) (pieces : List Piece) (d : Draft) :
    (pieces.foldl Draft.add d).rendered e =
      d.rendered e ++ String.join (pieces.map (·.rendered e)) := by
  induction pieces generalizing d with
  | nil => simp
  | cons p pieces ih =>
    rw [List.foldl_cons, ih, Draft.rendered_add, List.map_cons, String.join_cons,
      String.append_assoc]

/-- Putting texts together and making literals of them does not change what is written. -/
theorem formattersText_formattersOf (e : Event) (pieces : List Piece) :
    formattersText e (formattersOf pieces) = String.join (pieces.map (·.rendered e)) := by
  rw [formattersOf, Draft.rendered_flush, rendered_foldl_add]
  simp [Draft.rendered, formattersText]

/-- What some tokens write, one after the other. -/
def renderTokens (registry : Registry) (e : Event) (ts : List Token) : String :=
  String.join (ts.map fun t => (t.value registry).rendered e)

theorem renderTokens_cons (registry : Registry) (e : Event) (t : Token) (ts : List Token) :
    renderTokens registry e (t :: ts) =
      (t.value registry).rendered e ++ renderTokens registry e ts := by
  rw [renderTokens, List.map_cons, String.join_cons]
  rfl

theorem renderTokens_append (registry : Registry) (e : Event) (ts us : List Token) :
    renderTokens registry e (ts ++ us) =
      renderTokens registry e ts ++ renderTokens registry e us := by
  rw [renderTokens, List.map_append, String.join_append]
  rfl

/-- A compiled pattern writes what its tokens write. -/
theorem text_compile (registry : Registry) (e : Event) (pattern : String) :
    (compile registry pattern).chain.text e =
      renderTokens registry e (tokens registry.isName pattern.toList) := by
  rw [compile_chain, Chain.text, formattersText_formattersOf, List.map_map]
  rfl

/-- The text that a pattern gives for an event, into an empty buffer. -/
def render (registry : Registry) (pattern : String) (e : Event) : String :=
  (compile registry pattern).chain.appendTo e ""

theorem render_eq_text (registry : Registry) (pattern : String) (e : Event) :
    render registry pattern e = (compile registry pattern).chain.text e := by
  rw [render, Chain.appendTo_eq_append, String.empty_append]

end Pattern

end LogLayout
