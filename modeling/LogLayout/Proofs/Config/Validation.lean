import LogLayout.Config.Load
import Mathlib.Data.Finset.Insert

namespace LogLayout

/-- What is wrong with the layout at an index, as a look at all layouts tells. -/
def LayoutConfig.problemsAt (layouts : List LayoutConfig) (index : Nat) (l : LayoutConfig) :
    List Problem :=
  (if Text.isBlankText l.id then [.emptyLayoutId index]
    else if ∃ j < index, (layouts.map (·.id))[j]? = some l.id then [.duplicateLayoutId l.id]
    else []) ++
  if l.pattern = "" then [.emptyPattern l.id] else []

/-- Whether there is nothing wrong with a configuration. -/
structure Config.IsSound (config : Config) : Prop where
  nonempty : config.layouts ≠ []
  named : ∀ l ∈ config.layouts, ∃ c ∈ l.id.toList, Text.isBlank c = false
  distinct : (config.layouts.map (·.id)).Nodup
  written : ∀ l ∈ config.layouts, l.pattern ≠ ""

/-- What checking has come to so far. -/
structure Findings where
  /-- The identifiers that were seen, blank ones aside. -/
  seen : Finset String := ∅
  problems : List Problem := []
  reports : List Diagnostic := []

namespace Findings

/-- Reports a problem and keeps it. -/
def note (f : Findings) (report : Diagnostic) (problem : Problem) : Findings :=
  { f with reports := f.reports ++ [report], problems := f.problems ++ [problem] }

/-- Checks the identifier of the layout at an index. Only one that is not blank is looked up among
those seen, and is put there by the way. -/
def checkId (f : Findings) (index : Nat) (l : LayoutConfig) : Findings :=
  if Text.trim l.id = "" then f.note (.emptyLayoutId index) (.emptyLayoutId index)
  else if l.id ∈ f.seen then f.note (.duplicateLayoutId l.id) (.duplicateLayoutId l.id)
  else { f with seen := insert l.id f.seen }

/-- Checks the pattern of a layout. -/
def checkPattern (f : Findings) (l : LayoutConfig) : Findings :=
  if l.pattern = "" then f.note (.emptyPattern l.id) (.emptyPattern l.id) else f

/-- Checks layouts one after the other, the first of them at an index. -/
def checkLayouts (f : Findings) (index : Nat) : List LayoutConfig → Findings
  | [] => f
  | l :: rest => ((f.checkId index l).checkPattern l).checkLayouts (index + 1) rest

/-- Checks that there are layouts, and then each of them. -/
def ofConfig (config : Config) : Findings :=
  let f : Findings := if config.layouts = [] then note {} .noLayoutsConfigured .noLayouts else {}
  f.checkLayouts 0 config.layouts

/-- `Adds f g problems` says that `g` is `f` with some problems more, each of which is reported. -/
structure Adds (f g : Findings) (problems : List Problem) : Prop where
  problems_eq : g.problems = f.problems ++ problems
  reports_eq : g.reports = f.reports ++ problems.map Problem.diagnostic

theorem Adds.refl (f : Findings) : Adds f f [] := ⟨by simp, by simp⟩

theorem Adds.note (f : Findings) (problem : Problem) :
    Adds f (f.note problem.diagnostic problem) [problem] := ⟨rfl, rfl⟩

theorem Adds.trans {f g h : Findings} {first second : List Problem} (hfirst : Adds f g first)
    (hsecond : Adds g h second) : Adds f h (first ++ second) where
  problems_eq := by rw [hsecond.problems_eq, hfirst.problems_eq, List.append_assoc]
  reports_eq := by
    rw [hsecond.reports_eq, hfirst.reports_eq, List.map_append, List.append_assoc]

section Check

variable {f : Findings} {seen : List String} (index : Nat) (l : LayoutConfig)

theorem adds_checkPattern : Adds f (f.checkPattern l) l.patternProblems := by
  rw [checkPattern, LayoutConfig.patternProblems]
  split
  · exact Adds.note f (.emptyPattern l.id)
  · exact Adds.refl f

theorem seen_checkPattern : (f.checkPattern l).seen = f.seen := by
  rw [checkPattern]
  split <;> rfl

/-- Whether the set of identifiers holds those seen before, as far as it is asked for them. -/
def HasSeen (f : Findings) (seen : List String) : Prop :=
  ∀ id, Text.isBlankText id = false → (id ∈ f.seen ↔ id ∈ seen)

theorem adds_checkId (hseen : f.HasSeen seen) :
    Adds f (f.checkId index l) (l.idProblems seen index) ∧
      (f.checkId index l).HasSeen (l.id :: seen) := by
  rw [checkId, LayoutConfig.idProblems]
  by_cases hblank : Text.isBlankText l.id = true
  · rw [if_pos ((Text.trim_eq_empty_iff l.id).mpr hblank), if_pos hblank]
    refine ⟨Adds.note f (.emptyLayoutId index), ?_⟩
    intro id hid
    have hne : id ≠ l.id := by
      rintro rfl
      simp [hblank] at hid
    rw [List.mem_cons, or_iff_right hne]
    exact hseen id hid
  · rw [if_neg ((Text.trim_eq_empty_iff l.id).not.mpr hblank), if_neg hblank]
    have hknown := hseen l.id (by simpa using hblank)
    by_cases hfound : l.id ∈ f.seen
    · rw [if_pos hfound, if_pos (hknown.mp hfound)]
      refine ⟨Adds.note f (.duplicateLayoutId l.id), ?_⟩
      intro id hid
      rw [List.mem_cons]
      refine ⟨fun h => .inr ((hseen id hid).mp h), ?_⟩
      rintro (rfl | h)
      · exact hfound
      · exact (hseen id hid).mpr h
    · rw [if_neg hfound, if_neg (hknown.not.mp hfound)]
      refine ⟨⟨by simp, by simp⟩, ?_⟩
      intro id hid
      rw [Finset.mem_insert, List.mem_cons, hseen id hid]

theorem adds_checkLayouts (hseen : f.HasSeen seen) (layouts : List LayoutConfig) :
    Adds f (f.checkLayouts index layouts) (layoutProblems seen index layouts) := by
  induction layouts generalizing f seen index with
  | nil => exact Adds.refl f
  | cons l rest ih =>
    obtain ⟨hid, hseen⟩ := adds_checkId index l hseen
    have hpattern := adds_checkPattern (f := f.checkId index l) l
    have hseen : ((f.checkId index l).checkPattern l).HasSeen (l.id :: seen) := by
      rwa [HasSeen, seen_checkPattern]
    exact (hid.trans hpattern).trans (ih (index + 1) hseen)

end Check

/-- Checking comes to the problems of a configuration, each of them reported. -/
theorem adds_ofConfig (config : Config) : Adds {} (ofConfig config) config.problems := by
  have hseen : ∀ f : Findings, f.seen = ∅ → f.HasSeen [] := by
    intro f hf id _
    simp [hf]
  by_cases hempty : config.layouts = []
  · rw [ofConfig, Config.problems, hempty]
    exact Adds.note {} .noLayouts
  · rw [ofConfig, Config.problems, if_neg hempty, if_neg (by simpa using hempty)]
    exact adds_checkLayouts 0 (hseen {} rfl) config.layouts

end Findings

section Layouts

variable {seen : List String} {index : Nat}

theorem problemsAt_eq_append {layouts : List LayoutConfig} {l : LayoutConfig}
    (hseen : l.id ∈ seen ↔ ∃ j < index, (layouts.map (·.id))[j]? = some l.id) :
    l.problemsAt layouts index = l.idProblems seen index ++ l.patternProblems := by
  rw [LayoutConfig.problemsAt, LayoutConfig.idProblems, LayoutConfig.patternProblems]
  simp only [hseen]

theorem layoutProblems_eq_flatMap (before : List LayoutConfig) {rest : List LayoutConfig}
    (hseen : ∀ id, id ∈ seen ↔ id ∈ before.map (·.id)) :
    layoutProblems seen before.length rest =
      (rest.zipIdx before.length).flatMap fun x => x.1.problemsAt (before ++ rest) x.2 := by
  -- The layouts before are those that the identifiers seen belong to.
  induction rest generalizing seen before with
  | nil => rfl
  | cons l rest ih =>
    have hfirst : l.id ∈ seen ↔
        ∃ j < before.length, ((before ++ l :: rest).map (·.id))[j]? = some l.id := by
      rw [hseen, List.mem_iff_getElem?]
      constructor
      · rintro ⟨j, hj⟩
        have hlt : j < before.length := by
          simpa using (List.getElem?_eq_some_iff.mp hj).1
        exact ⟨j, hlt, by rw [List.map_append, List.getElem?_append_left (by simpa), hj]⟩
      · rintro ⟨j, hlt, hj⟩
        rw [List.map_append, List.getElem?_append_left (by simpa)] at hj
        exact ⟨j, hj⟩
    have hknown : ∀ id, id ∈ l.id :: seen ↔ id ∈ (before ++ [l]).map (·.id) := by
      intro id
      simp [hseen, or_comm]
    have hrest := ih (before ++ [l]) hknown
    rw [List.length_append, List.length_singleton, List.append_assoc, List.singleton_append]
      at hrest
    rw [layoutProblems, hrest, List.zipIdx_cons, List.flatMap_cons, problemsAt_eq_append hfirst]

theorem count_layoutProblems_cons (p : Problem) (l : LayoutConfig) (rest : List LayoutConfig) :
    (layoutProblems seen index (l :: rest)).count p =
      (l.idProblems seen index).count p + l.patternProblems.count p +
        (layoutProblems (l.id :: seen) (index + 1) rest).count p := by
  rw [layoutProblems, List.count_append, List.count_append]

theorem count_patternProblems (p : Problem) (l : LayoutConfig) :
    l.patternProblems.count p = if .emptyPattern l.id = p ∧ l.pattern = "" then 1 else 0 := by
  rw [LayoutConfig.patternProblems]
  by_cases hpattern : l.pattern = "" <;> simp [hpattern, List.count_singleton]

theorem count_idProblems (p : Problem) (l : LayoutConfig) :
    (l.idProblems seen index).count p =
      if Text.isBlankText l.id = true then if .emptyLayoutId index = p then 1 else 0
      else if .duplicateLayoutId l.id = p ∧ l.id ∈ seen then 1 else 0 := by
  rw [LayoutConfig.idProblems]
  by_cases hblank : Text.isBlankText l.id = true
  · simp [hblank, List.count_singleton]
  · by_cases hseen : l.id ∈ seen <;> simp [hblank, hseen, List.count_singleton]

/-- All layouts with an identifier but the first are duplicates. -/
theorem count_duplicateLayoutId (layouts : List LayoutConfig) (id : String) :
    (layoutProblems seen index layouts).count (.duplicateLayoutId id) =
      if Text.isBlankText id = true then 0
      else (layouts.map (·.id)).count id - if id ∈ seen then 0 else 1 := by
  induction layouts generalizing seen index with
  | nil => simp [layoutProblems]
  | cons l rest ih =>
    rw [count_layoutProblems_cons, count_idProblems, count_patternProblems, ih]
    by_cases hid : l.id = id
    · subst hid
      by_cases hblank : Text.isBlankText l.id = true
      · simp [hblank]
      · by_cases hseen : l.id ∈ seen <;> simp [hblank, hseen, Nat.add_comm]
    · simp [hid, Ne.symm hid]

theorem count_emptyLayoutId (layouts : List LayoutConfig) (i : Nat) :
    (layoutProblems seen index layouts).count (.emptyLayoutId i) =
      if index ≤ i ∧ ∃ l ∈ layouts[i - index]?, Text.isBlankText l.id = true then 1 else 0 := by
  induction layouts generalizing seen index with
  | nil => simp [layoutProblems]
  | cons l rest ih =>
    rw [count_layoutProblems_cons, count_idProblems, count_patternProblems, ih]
    obtain hlt | rfl | hgt := Nat.lt_trichotomy i index
    · simp [Nat.not_le.mpr hlt, Nat.not_le.mpr (Nat.lt_succ_of_lt hlt), Nat.ne_of_gt hlt]
    · by_cases hblank : Text.isBlankText l.id = true <;> simp [hblank]
    · obtain ⟨k, rfl⟩ := Nat.exists_eq_add_of_lt hgt
      have hhere : index + k + 1 - index = k + 1 := by omega
      have hthere : index + k + 1 - (index + 1) = k := by omega
      have hle : index ≤ index + k + 1 := by omega
      have hle' : index + 1 ≤ index + k + 1 := by omega
      have hne : index ≠ index + k + 1 := by omega
      simp [hhere, hthere, hle, hle', hne]

theorem count_emptyPattern (layouts : List LayoutConfig) (id : String) :
    (layoutProblems seen index layouts).count (.emptyPattern id) =
      layouts.countP fun l => l.id = id ∧ l.pattern = "" := by
  induction layouts generalizing seen index with
  | nil => simp [layoutProblems]
  | cons l rest ih =>
    rw [count_layoutProblems_cons, count_idProblems, count_patternProblems, ih, List.countP_cons]
    simp [Nat.add_comm]

theorem layoutProblems_eq_nil_iff {layouts : List LayoutConfig} :
    layoutProblems seen index layouts = [] ↔
      (∀ l ∈ layouts, (∃ c ∈ l.id.toList, Text.isBlank c = false) ∧ l.id ∉ seen ∧
        l.pattern ≠ "") ∧ (layouts.map (·.id)).Nodup := by
  induction layouts generalizing seen index with
  | nil => simp [layoutProblems]
  | cons l rest ih =>
    have hid : l.idProblems seen index = [] ↔
        (∃ c ∈ l.id.toList, Text.isBlank c = false) ∧ l.id ∉ seen := by
      rw [LayoutConfig.idProblems, Text.isBlankText]
      split <;> simp_all
    have hpattern : l.patternProblems = [] ↔ l.pattern ≠ "" := by
      rw [LayoutConfig.patternProblems]
      split <;> simp_all
    rw [layoutProblems, List.append_eq_nil_iff, List.append_eq_nil_iff, hid, hpattern, ih,
      List.map_cons, List.nodup_cons, List.mem_map, List.forall_mem_cons]
    constructor
    · rintro ⟨⟨⟨hnamed, hunseen⟩, hwritten⟩, hrest, hnodup⟩
      refine ⟨⟨⟨hnamed, hunseen, hwritten⟩, ?_⟩, ?_, hnodup⟩
      · intro later hlater
        obtain ⟨hnamed, hunseen, hwritten⟩ := hrest later hlater
        exact ⟨hnamed, fun h => hunseen (List.mem_cons_of_mem _ h), hwritten⟩
      · rintro ⟨later, hlater, hsame⟩
        exact (hrest later hlater).2.1 (hsame ▸ List.mem_cons_self)
    · rintro ⟨⟨⟨hnamed, hunseen, hwritten⟩, hrest⟩, hfirst, hnodup⟩
      refine ⟨⟨⟨hnamed, hunseen⟩, hwritten⟩, ?_, hnodup⟩
      intro later hlater
      obtain ⟨hnamed, hunseen, hwritten⟩ := hrest later hlater
      refine ⟨hnamed, ?_, hwritten⟩
      rintro hseen
      obtain hsame | hseen := List.mem_cons.mp hseen
      · exact hfirst ⟨later, hlater, hsame⟩
      · exact hunseen hseen

end Layouts

namespace Config

theorem problems_eq (config : Config) :
    config.problems =
      if config.layouts = [] then [.noLayouts]
      else config.layouts.zipIdx.flatMap fun x => x.1.problemsAt config.layouts x.2 := by
  by_cases hempty : config.layouts = []
  · simp [problems, hempty]
  · rw [problems, if_neg (by simpa using hempty), if_neg hempty]
    exact layoutProblems_eq_flatMap [] (by simp)

theorem problems_eq_nil_iff (config : Config) : config.problems = [] ↔ config.IsSound := by
  by_cases hempty : config.layouts = []
  · refine ⟨fun h => ?_, fun h => absurd hempty h.nonempty⟩
    simp [problems, hempty] at h
  · rw [problems, if_neg (by simpa using hempty), layoutProblems_eq_nil_iff]
    constructor
    · rintro ⟨hlayouts, hdistinct⟩
      exact ⟨hempty, fun l hl => (hlayouts l hl).1, hdistinct, fun l hl => (hlayouts l hl).2.2⟩
    · rintro ⟨-, hnamed, hdistinct, hwritten⟩
      exact ⟨fun l hl => ⟨hnamed l hl, List.not_mem_nil, hwritten l hl⟩, hdistinct⟩

theorem count_problems (config : Config) {p : Problem} (hp : p ≠ .noLayouts) :
    config.problems.count p = (layoutProblems [] 0 config.layouts).count p := by
  by_cases hempty : config.layouts = []
  · simp [problems, hempty, layoutProblems, hp.symm]
  · rw [problems, if_neg (by simpa using hempty)]

theorem validate_eq_ok_iff (config : Config) : config.validate = .ok config ↔ config.IsSound := by
  rw [validate, ← problems_eq_nil_iff]
  by_cases hproblems : config.problems = [] <;> simp [hproblems]

/-- Checks a configuration, with a report of every problem. -/
def check (config : Config) : Except (List Problem) Config × List Diagnostic :=
  let f := Findings.ofConfig config
  (if f.problems.isEmpty then .ok config else .error f.problems, f.reports)

theorem check_eq (config : Config) :
    config.check = (config.validate, config.problems.map Problem.diagnostic) := by
  obtain ⟨hproblems, hreports⟩ := Findings.adds_ofConfig config
  rw [List.nil_append] at hproblems hreports
  rw [check, validate, hproblems, hreports]

theorem ofFileChecked_eq {config : Config} {path : String}
    {content : Except ReadFault (List UInt8)} (h : ofFile path content = .ok config) :
    ofFileChecked path content = (config.check.1.mapError .invalid, config.check.2) := by
  rw [check_eq]
  by_cases hproblems : config.problems = [] <;>
    simp [ofFileChecked, h, validate, hproblems, Except.mapError]

theorem diagnostic_injective : Function.Injective Problem.diagnostic := by
  intro p q h
  cases p <;> cases q <;> simp_all [Problem.diagnostic]

/-- A configuration passes when nothing is wrong with it. Otherwise all that is wrong is found,
layout by layout: a blank identifier, or one that an earlier layout has, and then an empty pattern.
So of the layouts with one identifier all but the first are duplicates, and every problem is found
once. A check that keeps a set of the identifiers it has seen finds the same, and makes a report of
each problem in the order in which they are found; a configuration from a file is checked so. -/
theorem validate_finds_every_problem (config : Config) :
    (config.validate = .ok config ↔ config.IsSound) ∧
    (¬ config.IsSound → config.validate = .error config.problems ∧
      config.problems =
        if config.layouts = [] then [.noLayouts]
        else config.layouts.zipIdx.flatMap fun x => x.1.problemsAt config.layouts x.2) ∧
    (∀ id, config.problems.count (.duplicateLayoutId id) =
      if Text.isBlankText id = true then 0 else (config.layouts.map (·.id)).count id - 1) ∧
    (∀ i, config.problems.count (.emptyLayoutId i) =
      if ∃ l ∈ config.layouts[i]?, Text.isBlankText l.id = true then 1 else 0) ∧
    (∀ id, config.problems.count (.emptyPattern id) =
      config.layouts.countP fun l => l.id = id ∧ l.pattern = "") ∧
    config.check = (config.validate, config.problems.map Problem.diagnostic) ∧
    Function.Injective Problem.diagnostic ∧
    ∀ path content, ofFile path content = .ok config →
      ofFileChecked path content = (config.check.1.mapError .invalid, config.check.2) := by
  refine ⟨validate_eq_ok_iff config, ?_, ?_, ?_, ?_, check_eq config, diagnostic_injective,
    fun path content => ofFileChecked_eq⟩
  · intro hsound
    rw [← problems_eq_nil_iff] at hsound
    exact ⟨by simp [validate, hsound], problems_eq config⟩
  · intro id
    rw [count_problems config (by simp), count_duplicateLayoutId]
    rfl
  · intro i
    rw [count_problems config (by simp), count_emptyLayoutId]
    simp
  · intro id
    rw [count_problems config (by simp), count_emptyPattern]

/-- Layouts that share an identifier, one of them without a pattern, and a blank identifier. -/
example : Config.problems ⟨[⟨"a", "%msg", none⟩, ⟨"a", "", none⟩, ⟨"\u2003", "%level", none⟩]⟩ =
    [.duplicateLayoutId "a", .emptyPattern "a", .emptyLayoutId 2] := by
  decide

end Config

end LogLayout
