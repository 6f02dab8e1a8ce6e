import LogLayout.Proofs.Pattern.Regular
import LogLayout.Proofs.Pattern.Visits
import Mathlib.Data.List.Forall2

namespace LogLayout

mutual

/-- The formatters that stand inside a converter. -/
def Converter.inside : Converter → List Formatter
  | .equals test _ substitution => test.postorder ++ substitution.postorder
  | _ => []

/-- A formatter behind those that stand inside it, unless it is a literal. -/
def Formatter.postorder : Formatter → List Formatter
  | ⟨converter, width⟩ =>
    converter.inside ++ if converter.isLiteral then [] else [⟨converter, width⟩]

/-- The formatters of a whole tree that are no literals, each behind those inside it. Those of a
test come before those of the substitution. -/
def Chain.postorder : Chain → List Formatter
  | ⟨_, formatters⟩ => formattersPostorder formatters

def formattersPostorder : List Formatter → List Formatter
  | [] => []
  | f :: rest => f.postorder ++ formattersPostorder rest

def Substitution.postorder : Substitution → List Formatter
  | .literal _ => []
  | .pattern chain => chain.postorder

end

theorem formattersPostorder_append (fs gs : List Formatter) :
    formattersPostorder (fs ++ gs) = formattersPostorder fs ++ formattersPostorder gs := by
  induction fs with
  | nil => rfl
  | cons f fs ih => simp only [List.cons_append, formattersPostorder, ih, List.append_assoc]

/-- Whether a diagnostic says that a converter was made. -/
def Diagnostic.isCreation : Diagnostic → Bool
  | .converterCreated .. => true
  | _ => false

theorem Diagnostic.RefusedAt.level {position : Nat} {d : Diagnostic} (h : d.RefusedAt position) :
    d.level = .error ∧ d.isCreation = false := by
  cases d <;> first | exact ⟨rfl, rfl⟩ | exact h.elim

namespace Pattern

theorem Draft.formattersPostorder_flush (d : Draft) :
    formattersPostorder d.flush.formatters = formattersPostorder d.formatters := by
  by_cases hpending : d.pending = ""
  · simp [flush, hpending]
  · simp [flush, hpending, formattersPostorder_append, formattersPostorder, Formatter.postorder,
      Converter.inside, Converter.isLiteral]

/-- The formatters that a piece brings into a tree, besides literals. -/
def Piece.postorder : Piece → List Formatter
  | .text _ => []
  | .formatter f => f.postorder

theorem formattersPostorder_foldl_add (pieces : List Piece) (d : Draft) :
    formattersPostorder (pieces.foldl Draft.add d).formatters =
      formattersPostorder d.formatters ++ pieces.flatMap Piece.postorder := by
  induction pieces generalizing d with
  | nil => simp
  | cons p pieces ih =>
    rw [List.foldl_cons, ih, List.flatMap_cons, ← List.append_assoc]
    congr 1
    cases p with
    | text cs => simp [Draft.add, Piece.postorder]
    | formatter f =>
      simp [Draft.add, Piece.postorder, formattersPostorder_append, formattersPostorder,
        Draft.formattersPostorder_flush]

theorem formattersPostorder_formattersOf (pieces : List Piece) :
    formattersPostorder (formattersOf pieces) = pieces.flatMap Piece.postorder := by
  rw [formattersOf, Draft.formattersPostorder_flush, formattersPostorder_foldl_add]
  rfl

variable {registry : Registry}

/-- The formatter that a specifier stands for, unless it is refused. -/
def Spot.formatter? (registry : Registry) (spot : Spot) : Option Formatter :=
  match spot.specifier.value registry with
  | .text _ => none
  | .formatter f => some f

/-- Whether a diagnostic is what is reported of a specifier by itself. -/
def Spot.Reports (registry : Registry) (spot : Spot) (d : Diagnostic) : Prop :=
  match spot.formatter? registry with
  | some f =>
    d = .converterCreated spot.specifier.key f.converter.name spot.specifier.options.length
  | none => d.RefusedAt spot.position

theorem forall₂_flatMap {α β γ : Type} {R : β → γ → Prop} {l : List α} {f : α → List β}
    {g : α → List γ} (h : ∀ x ∈ l, List.Forall₂ R (f x) (g x)) :
    List.Forall₂ R (l.flatMap f) (l.flatMap g) := by
  induction l with
  | nil => exact .nil
  | cons x l ih =>
    rw [List.flatMap_cons, List.flatMap_cons]
    exact List.rel_append (h x List.mem_cons_self)
      (ih fun y hy => h y (List.mem_cons_of_mem x hy))

/-- A specifier is reported by itself, behind what is reported for the patterns that it hands
over. -/
theorem Spot.exists_report (registry : Registry) (spot : Spot) :
    ∃ d, spot.Reports registry d ∧
      Token.reports registry (spot.position, .specifier spot.specifier) =
        (spot.specifier.handed registry).flatMap
          (fun p => (compile registry p).diagnostics) ++ [d] := by
  obtain ⟨pattern, position, s⟩ := spot
  have hreports : Token.reports registry (position, .specifier s) =
      (s.compile registry position fun p _ => compile registry p).2 := rfl
  obtain ⟨hrefused, -⟩ | ⟨-, r, hr⟩ := s.refused_or_accepted registry
  · obtain ⟨d, hd, hcompile⟩ := Specifier.compile_of_refused hrefused position
    refine ⟨d, ?_, ?_⟩
    · rw [Spot.Reports, Spot.formatter?, Specifier.value_of_refused hrefused]
      exact hd
    · rw [hreports, hcompile, Specifier.handed_of_refused hrefused]
      rfl
  · refine ⟨.converterCreated s.key (r.blueprint.build fun p _ => compile registry p).1.name
      s.options.length, ?_, ?_⟩
    · rw [Spot.Reports, Spot.formatter?, s.value_eq_request registry 0, hr.request 0]
    · simp only [hreports, Specifier.compile_of_ok _ (hr.request position),
        Blueprint.diagnostics_build, hr.handed_eq]

/-- Every specifier that is come to is reported once, in order. -/
theorem forall₂_reports (registry : Registry) (call : List (Nat × Nat)) (pattern : String) :
    List.Forall₂ (fun v d => v.spot.Reports registry d) (visits registry call pattern)
      (compile registry pattern).diagnostics := by
  induction pattern using visits_induction registry generalizing call with
  | step pattern ih =>
    rw [visits_eq, diagnostics_compile, flatMap_spots _ fun _ => ⟨fun _ => rfl, rfl, rfl⟩]
    apply forall₂_flatMap
    intro spot hspot
    obtain ⟨d, hd, hreports⟩ := spot.exists_report registry
    rw [visitsAt, hreports, ← flatMap_zipIdx (spot.specifier.handed registry)]
    refine List.rel_append (forall₂_flatMap ?_) (.cons hd .nil)
    intro x hx
    exact ih spot hspot x.1 (List.fst_mem_of_mem_zipIdx hx) _

theorem Spot.formatter?_eq_none_iff {spot : Spot} :
    spot.formatter? registry = none ↔ spot.specifier.refused registry = true := by
  rw [formatter?]
  obtain ⟨hrefused, -⟩ | ⟨haccepted, r, hr⟩ := spot.specifier.refused_or_accepted registry
  · simp [Specifier.value_of_refused hrefused, hrefused]
  · simp [spot.specifier.value_eq_request registry 0, hr.request 0, haccepted]

/-- The report that a converter was made for a specifier. -/
def Spot.creation? (registry : Registry) (spot : Spot) : Option Diagnostic :=
  (spot.formatter? registry).map fun f =>
    .converterCreated spot.specifier.key f.converter.name spot.specifier.options.length

theorem Spot.Reports.cases {spot : Spot} {d : Diagnostic} (h : spot.Reports registry d) :
    (spot.specifier.refused registry = false ∧ d.isCreation = true ∧
      spot.creation? registry = some d) ∨
    (spot.specifier.refused registry = true ∧ d.isCreation = false ∧
      spot.creation? registry = none ∧ d.RefusedAt spot.position ∧ d.level = .error) := by
  have hrefused : spot.formatter? registry = none ↔ spot.specifier.refused registry = true :=
    Spot.formatter?_eq_none_iff
  rw [Reports] at h
  cases hformatter : spot.formatter? registry with
  | some f =>
    simp only [hformatter] at h
    refine .inl ⟨?_, ?_, ?_⟩
    · simpa [hformatter] using hrefused
    · rw [h]
      rfl
    · rw [creation?, hformatter, h]
      rfl
  | none =>
    simp only [hformatter] at h
    refine .inr ⟨hrefused.mp hformatter, h.level.2, ?_, h, h.level.1⟩
    rw [creation?, hformatter]
    rfl

section Aligned

variable {vs : List Visit} {ds : List Diagnostic}
  (h : List.Forall₂ (fun v d => v.spot.Reports registry d) vs ds)

include h

theorem filter_isCreation :
    ds.filter (·.isCreation) = vs.filterMap fun v => v.spot.creation? registry := by
  induction h with
  | nil => rfl
  | cons hd _ ih =>
    obtain ⟨-, hcreation, hsome⟩ | ⟨-, hcreation, hnone, -⟩ := hd.cases
    · simp [hcreation, hsome, ih]
    · simp [hcreation, hnone, ih]

theorem forall₂_refused :
    List.Forall₂ (fun v d => d.RefusedAt v.spot.position ∧ d.level = .error)
      (vs.filter fun v => v.spot.specifier.refused registry)
      (ds.filter fun d => !d.isCreation) := by
  induction h with
  | nil => exact .nil
  | cons hd _ ih =>
    obtain ⟨hrefused, hcreation, -⟩ | ⟨hrefused, hcreation, -, herror⟩ := hd.cases
    · simpa [hrefused, hcreation] using ih
    · simpa [hrefused, hcreation] using ⟨herror, ih⟩

end Aligned

theorem inside_of_copiesField {converter : Converter} (h : converter.CopiesField) :
    converter.inside = [] ∧ converter.isLiteral = false := by
  cases converter with
  | literal text => exact h.elim
  | equals test expected substitution => exact h.elim
  | custom name text => exact h.elim
  | _ => exact ⟨rfl, rfl⟩

/-- Inside a converter of a built-in kind stand the formatters of its patterns, in order. -/
theorem inside_build (hregistry : registry.AllBuiltin) {key : String} {options : List String}
    {b : Blueprint} (h : registry.prepare key options = .ok b) :
    (b.build fun p _ => compile registry p).1.inside =
        b.patterns.flatMap (fun p => (compile registry p).chain.postorder) ∧
      (b.build fun p _ => compile registry p).1.isLiteral = false := by
  obtain ⟨converter, rfl, hcopies⟩ | ⟨-, test, expected, substitution, -, rfl⟩ :=
    hregistry.prepare_cases h
  · exact inside_of_copiesField hcopies
  · refine ⟨?_, rfl⟩
    have hinside : (((Blueprint.equals ⟨test, expected, substitution⟩).build
        fun p _ => compile registry p).1).inside =
          (compile registry test).chain.postorder ++
            (substitutionOf registry substitution).postorder := rfl
    rw [hinside, Blueprint.patterns, EqualsOptions.patterns]
    obtain ⟨hmarker, hsubstitution⟩ | ⟨hmarker, hsubstitution⟩ :=
      substitutionOf_cases registry substitution
    · simp [hmarker, hsubstitution, Substitution.postorder]
    · simp [hmarker, hsubstitution, Substitution.postorder]

/-- A specifier brings the formatters of the patterns that it hands over into a tree, and then its
own. -/
theorem Spot.postorder_value (hregistry : registry.AllBuiltin) (spot : Spot) :
    (spot.specifier.value registry).postorder =
      (spot.specifier.handed registry).flatMap
        (fun p => (compile registry p).chain.postorder) ++
      (spot.formatter? registry).toList := by
  obtain ⟨hrefused, -⟩ | ⟨-, r, hr⟩ := spot.specifier.refused_or_accepted registry
  · rw [formatter?, Specifier.value_of_refused hrefused, Specifier.handed_of_refused hrefused]
    rfl
  · have hvalue := spot.specifier.value_eq_request registry 0
    simp only [hr.request 0] at hvalue
    obtain ⟨hinside, hliteral⟩ := inside_build hregistry hr.blueprint
    simp only [formatter?, hvalue, hr.handed_eq, Piece.postorder, Formatter.postorder, hinside,
      hliteral, Bool.false_eq_true, if_false, Option.toList_some]

theorem postorder_compile (hregistry : registry.AllBuiltin) (call : List (Nat × Nat))
    (pattern : String) :
    (compile registry pattern).chain.postorder =
      (visits registry call pattern).filterMap fun v => v.spot.formatter? registry := by
  induction pattern using visits_induction registry generalizing call with
  | step pattern ih =>
    -- Text that is joined to literals brings no formatters, so the specifiers alone count.
    have hpieces : (compile registry pattern).chain.postorder =
        (locate 0 (tokens registry.isName pattern.toList)).flatMap
          fun x => (x.2.value registry).postorder := by
      conv_lhs => rw [compile_chain, ← map_snd_locate 0 (tokens registry.isName pattern.toList)]
      rw [Chain.postorder, formattersPostorder_formattersOf, List.flatMap_map, List.flatMap_map]
    rw [hpieces, flatMap_spots _ fun _ => ⟨fun _ => rfl, rfl, rfl⟩, visits_eq,
      List.filterMap_flatMap]
    apply List.flatMap_congr
    intro spot hspot
    refine (spot.postorder_value hregistry).trans ?_
    rw [visitsAt, List.filterMap_append, List.filterMap_flatMap,
      ← flatMap_zipIdx (spot.specifier.handed registry)]
    congr 1
    apply List.flatMap_congr
    intro x hx
    exact ih spot hspot x.1 (List.fst_mem_of_mem_zipIdx hx) _

/-- How the reports on a pattern account for the tree that it is compiled to. -/
structure Accounted (registry : Registry) (pattern : String) (c : Compiled) (vs : List Visit) :
    Prop where
  /-- Each specifier of the pattern, and of the patterns compiled for it, is come to once. -/
  once : (vs.map (·.spot)).Perm ((pattern :: calls registry pattern).flatMap (spots registry))
  /-- Positions are byte offsets into the pattern that is being compiled. -/
  inPlace : ∀ v ∈ vs, v.spot.InPlace
  /-- In one compilation, positions ascend. -/
  ordered : vs.Pairwise fun v w => v.call = w.call → v.spot.position < w.spot.position
  /-- There is one report for each specifier that is come to, and there are no others. -/
  reported : List.Forall₂ (fun v d => v.spot.Reports registry d) vs c.diagnostics
  /-- The formatters of the tree are those of the accepted specifiers, in order. -/
  formatters : c.chain.postorder = vs.filterMap fun v => v.spot.formatter? registry
  /-- For the same specifiers, in the same order, it is reported that a converter was made. -/
  created : c.diagnostics.filter (·.isCreation) = vs.filterMap fun v => v.spot.creation? registry
  /-- All other reports are errors, at the places of the refused specifiers. -/
  refused : List.Forall₂ (fun v d => d.RefusedAt v.spot.position ∧ d.level = .error)
    (vs.filter fun v => v.spot.specifier.refused registry)
    (c.diagnostics.filter fun d => !d.isCreation)
  /-- For a refused specifier nothing is compiled. -/
  closed : ∀ v ∈ vs, v.spot.specifier.refused registry = true →
    v.spot.specifier.handed registry = []

theorem accounted_compile (hregistry : registry.AllBuiltin) (pattern : String) :
    Accounted registry pattern (compile registry pattern) (visits registry [] pattern) := by
  have honce := map_spot_visits_perm registry [] pattern
  have hreported := forall₂_reports registry [] pattern
  refine ⟨honce, ?_, pairwise_visits registry [] pattern, hreported,
    postorder_compile hregistry [] pattern, filter_isCreation hreported, forall₂_refused hreported,
    ?_⟩
  · intro v hv
    have hspot := honce.subset (List.mem_map_of_mem hv)
    obtain ⟨p, -, hspot⟩ := List.mem_flatMap.mp hspot
    exact inPlace_of_mem_spots hspot
  · intro v _ hrefused
    exact Specifier.handed_of_refused hrefused

/-- What is reported while a pattern is compiled with built-in kinds accounts for the compiled tree:
its formatters, each behind those inside it, are what converters are reported for, and every other
report is the error of one refused specifier. A layout reports the same of its pattern, between
its start and its end, and all of it under its compilation. -/
theorem compile_accounts {registry : Registry} (hregistry : registry.AllBuiltin)
    (pattern : String) :
    Accounted registry pattern (compile registry pattern) (visits registry [] pattern) ∧
    ∀ id, (Layout.compile registry id pattern).2 =
      (Diagnostic.layoutCompilationStarted id pattern ::
        ((compile registry pattern).diagnostics ++
          [.layoutCompiled id pattern (compile registry pattern).chain.formatters.length])).map
        fun d => ⟨d, [(Diagnostic.layoutCompilationStarted id pattern).span
          "layout_compilation"]⟩ := by
  refine ⟨accounted_compile hregistry pattern, ?_⟩
  intro id
  rfl

/-- Two refused specifiers behind a character of two bytes, one of them in a test. -/
theorem compile_accounts_nested :
    Registry.builtins.AllBuiltin ∧
    (compile Registry.builtins "é%q%equals\x7b%m%5000t\x7d\x7b\x7d\x7b%p\x7d").diagnostics =
      [.unrecognizedSpecifier "q" 2, .converterCreated "m" "message" 0,
        .converterCreationFailed "t" 2 "Invalid field width '5000': must be at most 4096",
        .converterCreated "p" "level" 0, .converterCreated "equals" "equals" 3] ∧
    Accounted Registry.builtins "é%q%equals\x7b%m%5000t\x7d\x7b\x7d\x7b%p\x7d"
      (compile Registry.builtins "é%q%equals\x7b%m%5000t\x7d\x7b\x7d\x7b%p\x7d")
      (visits Registry.builtins [] "é%q%equals\x7b%m%5000t\x7d\x7b\x7d\x7b%p\x7d") := by
  have hbuiltin := Registry.allBuiltin_builtins
  exact ⟨hbuiltin, by decide +kernel, (compile_accounts hbuiltin _).1⟩

end Pattern

end LogLayout
