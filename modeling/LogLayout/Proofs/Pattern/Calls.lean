import LogLayout.Proofs.Pattern.Refusal
import LogLayout.Proofs.Pattern.Segmentation
import LogLayout.Proofs.Registry
import Mathlib.Algebra.GroupWithZero.Nat
import Mathlib.Algebra.Order.BigOperators.Group.List
import Mathlib.Algebra.Order.Group.Nat

namespace LogLayout

/-- Making a converter asks for its patterns, once each and in order. -/
theorem Blueprint.diagnostics_build (b : Blueprint) (c : String → Compiled) :
    (b.build fun p _ => c p).2 = b.patterns.flatMap fun p => (c p).diagnostics := by
  cases b with
  | ready converter => rfl
  | equals o =>
    by_cases hmarker : hasMarker o.substitution = true
    · simp [build, EqualsOptions.build, Substitution.build, patterns, EqualsOptions.patterns,
        hmarker]
    · simp [build, EqualsOptions.build, Substitution.build, patterns, EqualsOptions.patterns,
        hmarker]
  | composed patterns make =>
    have hcompiled : (patterns.attach.map fun p => c p.1) = patterns.map c := by
      rw [List.attach_map_val]
    simp only [build, hcompiled, List.flatMap_map, Blueprint.patterns]

namespace Pattern

namespace OptionGroups

/-- An option stands behind a brace of its own. -/
theorem exists_source_eq_of_mem_texts {g : OptionGroups} {text : List Char} (h : text ∈ g.texts) :
    ∃ before after, g.source = before ++ '{' :: (text ++ after) := by
  obtain ⟨closed, unclosed⟩ := g
  induction closed with
  | nil =>
    cases unclosed with
    | none => simp [texts] at h
    | some last =>
      obtain rfl : text = last := by simpa [texts] using h
      exact ⟨[], [], by simp [source]⟩
  | cons first closed ih =>
    have hcons : (⟨first :: closed, unclosed⟩ : OptionGroups) = cons first ⟨closed, unclosed⟩ := rfl
    rw [hcons, texts_cons, List.mem_cons] at h
    rw [hcons, source_cons]
    obtain rfl | h := h
    · exact ⟨[], '}' :: source ⟨closed, unclosed⟩, by simp⟩
    · obtain ⟨before, after, hsource⟩ := ih h
      exact ⟨'{' :: (first ++ '}' :: before), after, by simp [hsource]⟩

/-- Options do not overlap, so what they hold is counted in the groups all together. -/
theorem sum_count_texts_le (g : OptionGroups) (c : Char) :
    (g.texts.map (List.count c)).sum ≤ g.source.count c := by
  obtain ⟨closed, unclosed⟩ := g
  induction closed with
  | nil =>
    cases unclosed with
    | none => simp [texts, source]
    | some last =>
      simp only [texts, source, List.nil_append, Option.toList_some, List.map_singleton,
        List.sum_singleton, List.flatMap_nil, List.count_cons]
      omega
  | cons first closed ih =>
    have hcons : (⟨first :: closed, unclosed⟩ : OptionGroups) = cons first ⟨closed, unclosed⟩ := rfl
    rw [hcons, texts_cons, source_cons, List.map_cons, List.sum_cons]
    simp only [List.count_cons, List.count_append]
    omega

end OptionGroups

namespace Specifier

/-- The patterns that a specifier hands over to be compiled, in order. -/
def handed (registry : Registry) (s : Specifier) : List String :=
  match s.request registry 0 with
  | .ok r => r.blueprint.patterns
  | .error _ => []

variable {registry : Registry} {s : Specifier}

theorem handed_of_refused (h : s.refused registry = true) : s.handed registry = [] := by
  obtain ⟨d, hrequest, -⟩ := exists_refusal h 0
  rw [handed, hrequest]

theorem Accepted.handed_eq {r : Request} (h : s.Accepted registry r) :
    s.handed registry = r.blueprint.patterns := by
  rw [handed, h.request 0]

/-- A handed pattern stands in the specifier behind its marker, its name and a brace. -/
theorem exists_source_eq_of_mem_handed {p : String} (h : p ∈ s.handed registry) :
    ∃ before after, s.source = before ++ (p.toList ++ after) ∧ 3 ≤ before.length := by
  obtain hrefused | ⟨-, r, haccepted⟩ := s.refused_or_accepted registry
  · rw [handed_of_refused hrefused.1] at h
    cases h
  · rw [haccepted.handed_eq] at h
    obtain ⟨text, htext, rfl⟩ := List.mem_map.mp (mem_options_of_request (haccepted.request 0) h)
    obtain ⟨before, after, hsource⟩ := OptionGroups.exists_source_eq_of_mem_texts htext
    refine ⟨marker :: (s.width.source ++ s.name ++ before ++ ['{']), after, ?_, ?_⟩
    · simp [source, hsource]
    · have hname : 0 < s.name.length := List.length_pos_of_ne_nil haccepted.name
      simp only [List.length_cons, List.length_append, List.length_nil]
      omega

end Specifier

namespace Token

/-- The patterns that a token hands over to be compiled, in order. -/
def handed (registry : Registry) : Token → List String
  | .specifier s => s.handed registry
  | _ => []

theorem exists_source_eq_of_mem_handed {registry : Registry} {t : Token} {p : String}
    (h : p ∈ t.handed registry) :
    ∃ before after, t.source = before ++ (p.toList ++ after) ∧ 3 ≤ before.length := by
  cases t with
  | specifier s => exact Specifier.exists_source_eq_of_mem_handed h
  | _ => cases h

/-- Whatever compiles them, the handed patterns are what a token has compiled, once each and in
order, and at most one report of its own comes behind theirs. -/
theorem exists_compile_snd_eq (registry : Registry) (position : Nat) (t : Token)
    (c : String → Compiled) :
    ∃ own : List Diagnostic, own.length ≤ 1 ∧
      (t.compile registry position fun p _ => c p).2 =
        (t.handed registry).flatMap (fun p => (c p).diagnostics) ++ own := by
  cases t with
  | specifier s =>
    have hcompile : ((Token.specifier s).compile registry position fun p _ => c p) =
        s.compile registry position fun p _ => c p := rfl
    obtain ⟨hrefused, -⟩ | ⟨-, r, haccepted⟩ := s.refused_or_accepted registry
    · obtain ⟨d, -, hd⟩ := Specifier.compile_of_refused hrefused position
      refine ⟨[d], Nat.le_refl 1, ?_⟩
      rw [hcompile, hd, handed, Specifier.handed_of_refused hrefused]
      rfl
    · have haccept := congrArg Prod.snd (Specifier.compile_of_ok c (haccepted.request position))
      simp only [Blueprint.diagnostics_build, ← haccepted.handed_eq] at haccept
      exact ⟨[_], Nat.le_refl 1, hcompile ▸ haccept⟩
  | _ => exact ⟨[], Nat.zero_le 1, rfl⟩

end Token

/-- The patterns that are compiled directly for a pattern, in order. -/
def handed (registry : Registry) (pattern : String) : List String :=
  (tokens registry.isName pattern.toList).flatMap (Token.handed registry)

theorem exists_eq_of_mem_handed {registry : Registry} {pattern p : String}
    (h : p ∈ handed registry pattern) :
    ∃ before after, pattern.toList = before ++ (p.toList ++ after) ∧ 3 ≤ before.length := by
  obtain ⟨t, ht, hp⟩ := List.mem_flatMap.mp h
  obtain ⟨before, after, hsource, hlength⟩ := Token.exists_source_eq_of_mem_handed hp
  obtain ⟨earlier, later, htokens⟩ := List.append_of_mem ht
  have hpattern := flatMap_source_tokens registry.isName pattern.toList
  rw [htokens, List.flatMap_append, List.flatMap_cons, hsource] at hpattern
  refine ⟨earlier.flatMap Token.source ++ before, after ++ later.flatMap Token.source, ?_, ?_⟩
  · simpa only [List.append_assoc] using hpattern.symm
  · rw [List.length_append]
    omega

end Pattern

namespace Text

/-- Every character takes a byte at least. -/
theorem length_le_byteSize (cs : List Char) : cs.length ≤ byteSize cs := by
  induction cs with
  | nil => exact Nat.zero_le 0
  | cons c cs ih =>
    have hpos := c.utf8Size_pos
    simp only [List.length_cons, byteSize]
    omega

end Text

namespace Pattern

theorem utf8ByteSize_of_mem_handed {registry : Registry} {pattern p : String}
    (h : p ∈ handed registry pattern) : p.utf8ByteSize + 3 ≤ pattern.utf8ByteSize := by
  obtain ⟨before, after, hpattern, hlength⟩ := exists_eq_of_mem_handed h
  have hbytes := congrArg Text.byteSize hpattern
  have hbefore := Text.length_le_byteSize before
  simp only [Text.byteSize_append, Text.byteSize_toList] at hbytes
  omega

theorem wellFounded_handed (registry : Registry) :
    WellFounded fun p pattern => p ∈ handed registry pattern := by
  apply Subrelation.wf _ (measure String.utf8ByteSize).wf
  intro p pattern h
  have hbytes := utf8ByteSize_of_mem_handed h
  change p.utf8ByteSize < pattern.utf8ByteSize
  omega

/-- The patterns that are compiled for a pattern at all depths: those that it hands over, each
followed by those that are compiled for it in turn. -/
def calls (registry : Registry) (pattern : String) : List String :=
  (handed registry pattern).attach.flatMap fun ⟨p, _hp⟩ => p :: calls registry p
termination_by pattern.utf8ByteSize
decreasing_by
  have hbytes := utf8ByteSize_of_mem_handed _hp
  omega

theorem calls_eq (registry : Registry) (pattern : String) :
    calls registry pattern = (handed registry pattern).flatMap fun p => p :: calls registry p := by
  rw [calls]
  conv_rhs => rw [← List.attach_map_subtype_val (handed registry pattern), List.flatMap_map]

section Builtin

variable {registry : Registry}

/-- An `equals` specifier is refused for its width, its name or the number of its options, and then
nothing of it is compiled. Otherwise its first option is, and its third if that holds a marker. -/
theorem Specifier.handed_equals {s : Specifier} (hequals : registry.get? s.key = some .equals) :
    (s.refused registry = true ↔
      s.width.fieldWidth.isOk = false ∨ s.name = [] ∨ s.options.length ≠ 3) ∧
    (s.refused registry = true → s.handed registry = []) ∧
    (s.refused registry = false → ∃ test expected substitution,
      s.options = [test, expected, substitution] ∧
      s.handed registry = test :: if hasMarker substitution then [substitution] else []) := by
  have hprepare : registry.prepare s.key s.options =
      (EqualsOptions.ofList (s.options.map some)).map .equals := by
    simp only [Registry.prepare, hequals, ConverterKind.prepare]
  obtain ⟨test, expected, substitution, hoptions, hlist⟩ | ⟨hcount, err, hlist⟩ :=
    EqualsOptions.ofList_cases s.options
  · have hblueprint : registry.prepare s.key s.options =
        .ok (.equals ⟨test, expected, substitution⟩) := by
      rw [hprepare, hlist]
      rfl
    have hcreate : (registry.create s.key s.options).isOk = true := by
      rw [isOk_create, hblueprint]
      rfl
    have hcount : s.options.length = 3 := by
      rw [hoptions]
      rfl
    refine ⟨?_, handed_of_refused, ?_⟩
    · simp [refused, hcreate, hcount]
    · intro haccepted
      obtain ⟨r, hr⟩ := exists_accepted haccepted
      have hmade : r.blueprint = .equals ⟨test, expected, substitution⟩ :=
        Except.ok.inj (hr.blueprint.symm.trans hblueprint)
      refine ⟨test, expected, substitution, hoptions, ?_⟩
      rw [hr.handed_eq, hmade, Blueprint.patterns, EqualsOptions.patterns]
      split <;> rfl
  · have hcreate : (registry.create s.key s.options).isOk = false := by
      rw [isOk_create, hprepare, hlist]
      rfl
    have hrefused : s.refused registry = true := by
      simp [refused, hcreate]
    refine ⟨?_, handed_of_refused, ?_⟩
    · exact ⟨fun _ => .inr (.inr hcount), fun _ => hrefused⟩
    · rw [hrefused]
      rintro ⟨⟩

/-- A specifier has a marker more than its options together. -/
theorem Specifier.sum_count_options_lt (s : Specifier) :
    (s.options.map fun o => o.toList.count marker).sum < s.source.count marker := by
  have htexts : (s.options.map fun o => o.toList.count marker) =
      s.groups.texts.map (List.count marker) := by
    simp [Specifier.options, OptionGroups.options, Function.comp_def]
  have hgroups := s.groups.sum_count_texts_le marker
  rw [htexts, source, List.count_cons_self, List.count_append]
  omega

/-- What a specifier hands over is paid for by its markers, two calls for each. -/
theorem Specifier.sum_handed_le (hregistry : registry.AllBuiltin) (s : Specifier) :
    ((s.handed registry).map fun p => 1 + 2 * p.toList.count marker).sum ≤
      2 * s.source.count marker := by
  have hmarker := s.sum_count_options_lt
  obtain ⟨hrefused, -⟩ | ⟨haccepted, r, hr⟩ := s.refused_or_accepted registry
  · rw [handed_of_refused hrefused]
    exact Nat.zero_le _
  · obtain ⟨converter, hready, -⟩ | ⟨hequals, -⟩ := hregistry.prepare_cases hr.blueprint
    · rw [hr.handed_eq, hready]
      exact Nat.zero_le _
    · obtain ⟨test, expected, substitution, hoptions, hhanded⟩ :=
        (handed_equals hequals).2.2 haccepted
      rw [hoptions] at hmarker
      simp only [List.map_cons, List.map_nil, List.sum_cons, List.sum_nil] at hmarker
      rw [hhanded]
      split
      · simp only [List.map_cons, List.map_nil, List.sum_cons, List.sum_nil]
        omega
      · simp only [List.map_cons, List.map_nil, List.sum_cons, List.sum_nil]
        omega

theorem sum_handed_le (hregistry : registry.AllBuiltin) (ts : List Token) :
    ((ts.flatMap (Token.handed registry)).map fun p => 1 + 2 * p.toList.count marker).sum ≤
      2 * (ts.flatMap Token.source).count marker := by
  induction ts with
  | nil => exact Nat.zero_le _
  | cons t ts ih =>
    have hfirst : ((t.handed registry).map fun p => 1 + 2 * p.toList.count marker).sum ≤
        2 * t.source.count marker := by
      cases t with
      | specifier s => exact s.sum_handed_le hregistry
      | _ => exact Nat.zero_le _
    rw [List.flatMap_cons, List.flatMap_cons, List.map_append, List.sum_append, List.count_append]
    omega

theorem length_calls_le (hregistry : registry.AllBuiltin) (pattern : String) :
    (calls registry pattern).length ≤ 2 * pattern.toList.count marker := by
  induction pattern using (wellFounded_handed registry).induction with
  | _ pattern ih =>
    have hpattern := flatMap_source_tokens registry.isName pattern.toList
    calc (calls registry pattern).length
        = ((handed registry pattern).map fun p => 1 + (calls registry p).length).sum := by
          rw [calls_eq, List.length_flatMap]
          simp only [List.length_cons, Nat.add_comm]
      _ ≤ ((handed registry pattern).map fun p => 1 + 2 * p.toList.count marker).sum := by
          apply List.sum_le_sum
          intro p hp
          exact Nat.add_le_add_left (ih p hp) 1
      _ ≤ 2 * pattern.toList.count marker := by
          conv_rhs => rw [← hpattern]
          exact sum_handed_le hregistry _

end Builtin

/-- Compiling asks for nothing but the handed patterns, each of which is a part of the pattern that
hands it over and at least three bytes shorter. An `equals` specifier that is refused hands over
nothing, and another one hands over its first option and, if that holds a marker, its third. With
built-in kinds there are at most two calls at all depths for every marker of a pattern. -/
theorem compile_calls (registry : Registry) :
    (∀ (t : Token) (position : Nat) (c : String → Compiled),
      ∃ own : List Diagnostic, own.length ≤ 1 ∧
        (t.compile registry position fun p _ => c p).2 =
          (t.handed registry).flatMap (fun p => (c p).diagnostics) ++ own) ∧
    (WellFounded fun p pattern => p ∈ handed registry pattern) ∧
    (∀ pattern, ∀ p ∈ handed registry pattern,
      p.toList <:+: pattern.toList ∧ p.utf8ByteSize + 3 ≤ pattern.utf8ByteSize) ∧
    (∀ s : Specifier, registry.get? s.key = some .equals →
      (s.refused registry = true ↔
        s.width.fieldWidth.isOk = false ∨ s.name = [] ∨ s.options.length ≠ 3) ∧
      (s.refused registry = true → s.handed registry = []) ∧
      (s.refused registry = false → ∃ test expected substitution,
        s.options = [test, expected, substitution] ∧
        s.handed registry = test :: if hasMarker substitution then [substitution] else [])) ∧
    (registry.AllBuiltin → ∀ pattern,
      (calls registry pattern).length ≤ 2 * pattern.toList.count marker) := by
  refine ⟨?_, wellFounded_handed registry, ?_, ?_, ?_⟩
  · intro t position c
    exact t.exists_compile_snd_eq registry position c
  · intro pattern p hp
    obtain ⟨before, after, hpattern, -⟩ := exists_eq_of_mem_handed hp
    refine ⟨⟨before, after, ?_⟩, utf8ByteSize_of_mem_handed hp⟩
    rw [hpattern, List.append_assoc]
  · intro s hequals
    exact Specifier.handed_equals hequals
  · intro hregistry pattern
    exact length_calls_le hregistry pattern

/-- A test and a substitution inside a test, and an `equals` specifier without a substitution. -/
theorem compile_calls_builtins :
    Registry.builtins.AllBuiltin ∧
    (calls Registry.builtins
      "%equals\x7b%equals\x7b%m\x7d\x7b\x7d\x7b%t\x7d\x7d\x7bmain\x7d\x7b%%\x7d").length ≤ 12 ∧
    Registry.builtins.get? (Specifier.key ⟨{}, "equals".toList, ⟨["%m".toList, []], none⟩⟩) =
      some .equals ∧
    Specifier.handed Registry.builtins ⟨{}, "equals".toList, ⟨["%m".toList, []], none⟩⟩ = [] := by
  obtain ⟨-, -, -, hequals, hcalls⟩ := compile_calls Registry.builtins
  have hkind : Registry.builtins.get?
      (Specifier.key ⟨{}, "equals".toList, ⟨["%m".toList, []], none⟩⟩) = some .equals := rfl
  obtain ⟨hrefused, hhanded, -⟩ := hequals _ hkind
  refine ⟨Registry.allBuiltin_builtins, ?_, hkind, ?_⟩
  · exact Nat.le_trans (hcalls Registry.allBuiltin_builtins _) (by decide)
  · exact hhanded (hrefused.mpr (.inr (.inr (by decide))))

end Pattern

end LogLayout
