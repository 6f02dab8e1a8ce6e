import LogLayout.Proofs.Layout.Store
import LogLayout.Proofs.Pattern.Values
import LogLayout.Workspace
import Mathlib.Data.List.Induction

namespace LogLayout

namespace Step

variable (id : String)

/-- Whether a step decides what is found under an identifier, by storing or by removing. -/
def decides : Step → Bool
  | .insertLayout other _ => other = id
  | .removeLayout other => other = id
  | .replaceLayouts _ => true
  | .clearLayouts => true
  | _ => false

/-- The pattern that a step stores under an identifier. Of the layouts of a configuration, the last
one with the identifier counts. -/
def pattern? : Step → Option String
  | .insertLayout other pattern => if other = id then some pattern else none
  | .replaceLayouts config => (config.layouts.reverse.find? (·.id = id)).map (·.pattern)
  | _ => none

theorem decides_of_pattern? {id pattern : String} {s : Step} (h : s.pattern? id = some pattern) :
    s.decides id = true := by
  cases s with
  | insertLayout other p =>
    simp only [pattern?] at h
    split at h
    · rename_i hid
      simp [decides, hid]
    · cases h
  | replaceLayouts config => rfl
  | _ => cases h

end Step

/-- Among some steps, `s` stores a pattern under an identifier, and no step behind it decides about
that identifier. -/
structure LastPut (id : String) (steps earlier : List Step) (s : Step) (pattern : String) :
    Prop where
  stores : s.pattern? id = some pattern
  stands : ∃ later, steps = earlier ++ s :: later ∧ ∀ t ∈ later, t.decides id = false

theorem LastPut.last {id pattern : String} {s : Step} (earlier : List Step)
    (h : s.pattern? id = some pattern) : LastPut id (earlier ++ [s]) earlier s pattern :=
  ⟨h, [], rfl, by simp⟩

theorem LastPut.concat {id pattern : String} {steps earlier : List Step} {s t : Step}
    (h : LastPut id steps earlier s pattern) (ht : t.decides id = false) :
    LastPut id (steps ++ [t]) earlier s pattern := by
  obtain ⟨hstores, later, rfl, hlater⟩ := h
  refine ⟨hstores, later ++ [t], by simp, ?_⟩
  intro u hu
  obtain hu | hu := List.mem_append.mp hu
  · exact hlater u hu
  · rwa [List.mem_singleton.mp hu]

namespace Workspace

/-- The state that steps lead to. -/
def after (w : Workspace) (steps : List Step) : Workspace :=
  steps.foldl (fun w s => (w.step s).1) w

/-- What the layout under an identifier makes of an event and a buffer, with the answer and the
records. -/
def formatted (w : Workspace) (id : String) (event : Event) (buffer : String) :
    String × Answer × List LogRecord :=
  let (next, outcome) := { w with event, buffer }.step (.format id)
  (next.buffer, outcome)

variable (w : Workspace) (id : String)

theorem after_append (steps more : List Step) :
    w.after (steps ++ more) = (w.after steps).after more :=
  List.foldl_append

theorem after_concat (steps : List Step) (s : Step) :
    w.after (steps ++ [s]) = ((w.after steps).step s).1 :=
  w.after_append steps [s]

/-- Steps that come later are done in the state that the earlier ones lead to. -/
theorem run_append (steps more : List Step) :
    w.run (steps ++ more) = ((w.run steps).1 ++ ((w.after steps).run more).1,
      (w.run steps).2 ++ ((w.after steps).run more).2) := by
  induction steps generalizing w with
  | nil => rfl
  | cons s steps ih =>
    simp only [List.cons_append, run, ih, List.append_assoc]
    rfl

/-- A step changes what is found under an identifier only if it decides about it, and then by what
it stores, compiled with the converters of that moment. -/
theorem get?_step (s : Step) :
    (w.step s).1.layouts.get? id =
      if s.decides id then
        (s.pattern? id).map fun pattern => ⟨id, (Pattern.compile w.registry pattern).chain⟩
      else w.layouts.get? id := by
  cases s with
  | insertLayout other pattern =>
    have hstored : ((w.step (.insertLayout other pattern)).1.layouts).get? id =
        if id = other then some ⟨other, (Pattern.compile w.registry pattern).chain⟩
        else w.layouts.get? id := Dictionary.get?_insert w.layouts other _ id
    rw [hstored]
    by_cases hid : other = id
    · simp [Step.decides, Step.pattern?, hid]
    · simp [Step.decides, hid, Ne.symm hid]
  | removeLayout other =>
    have hremoved : ((w.step (.removeLayout other)).1.layouts).get? id =
        if id = other then none else w.layouts.get? id := Dictionary.get?_erase w.layouts other id
    rw [hremoved]
    by_cases hid : other = id
    · simp [Step.decides, Step.pattern?, hid]
    · simp [Step.decides, hid, Ne.symm hid]
  | replaceLayouts config =>
    have hreplaced : ((w.step (.replaceLayouts config)).1.layouts).get? id =
        (config.layouts.reverse.find? (·.id = id)).map (·.layout w.registry) :=
      LayoutStore.get?_ofConfig w.registry config id
    rw [hreplaced, Step.decides, Step.pattern?, if_pos rfl, Option.map_map]
    apply Option.map_congr
    intro l hl
    have hid : l.id = id := by simpa using List.find?_some hl
    simp [LayoutConfig.layout, hid]
  | clearLayouts => rfl
  | create | findLayout | newEvent | format | formatFresh =>
    simp only [step]
    split <;> rfl
  | _ => rfl

/-- What is found under an identifier lasts as long as no step decides about it. -/
theorem get?_after_of_undecided {steps : List Step} (h : ∀ s ∈ steps, s.decides id = false) :
    (w.after steps).layouts.get? id = w.layouts.get? id := by
  induction steps using List.reverseRecOn with
  | nil => rfl
  | append_singleton steps s ih =>
    rw [after_concat, get?_step, if_neg (by simp [h s (by simp)])]
    exact ih fun t ht => h t (List.mem_append_left _ ht)

section LastPut

variable {w id} {steps earlier : List Step} {s : Step} {pattern : String}

theorem get?_of_lastPut (h : LastPut id steps earlier s pattern) :
    (w.after steps).layouts.get? id =
      some ⟨id, (Pattern.compile (w.after earlier).registry pattern).chain⟩ := by
  obtain ⟨hstores, later, rfl, hlater⟩ := h
  have hsplit : earlier ++ s :: later = (earlier ++ [s]) ++ later := by simp
  rw [hsplit, after_append, get?_after_of_undecided _ _ hlater, after_concat, get?_step,
    if_pos (Step.decides_of_pattern? hstores), hstores, Option.map_some]

/-- The induction is on the run from its end: either the last step decides, or what is found was
there before it. -/
theorem exists_lastPut_of_get? (hempty : w.layouts = .empty) {l : Layout}
    (h : (w.after steps).layouts.get? id = some l) :
    ∃ earlier s pattern, LastPut id steps earlier s pattern := by
  induction steps using List.reverseRecOn with
  | nil =>
    rw [after, List.foldl_nil, hempty, Dictionary.get?_empty] at h
    cases h
  | append_singleton steps s ih =>
    rw [after_concat, get?_step] at h
    cases hdecides : s.decides id with
    | true =>
      rw [hdecides, if_pos rfl, Option.map_eq_some_iff] at h
      obtain ⟨pattern, hstores, -⟩ := h
      exact ⟨steps, s, pattern, .last steps hstores⟩
    | false =>
      rw [hdecides] at h
      obtain ⟨earlier, t, pattern, hput⟩ := ih h
      exact ⟨earlier, t, pattern, hput.concat hdecides⟩

theorem get?_eq_some_iff_lastPut (hempty : w.layouts = .empty) (l : Layout) :
    (w.after steps).layouts.get? id = some l ↔ ∃ earlier s pattern,
      LastPut id steps earlier s pattern ∧
        l = ⟨id, (Pattern.compile (w.after earlier).registry pattern).chain⟩ := by
  constructor
  · intro hget
    obtain ⟨earlier, s, pattern, hput⟩ := exists_lastPut_of_get? hempty hget
    rw [get?_of_lastPut hput] at hget
    exact ⟨earlier, s, pattern, hput, (Option.some.inj hget).symm⟩
  · rintro ⟨earlier, s, pattern, hput, rfl⟩
    exact get?_of_lastPut hput

theorem get?_eq_none_iff_lastPut (hempty : w.layouts = .empty) :
    (w.after steps).layouts.get? id = none ↔
      ∀ earlier s pattern, ¬ LastPut id steps earlier s pattern := by
  rw [Option.eq_none_iff_forall_ne_some]
  constructor
  · intro hnone earlier s pattern hput
    exact hnone _ (get?_of_lastPut hput)
  · intro hno l hl
    obtain ⟨earlier, s, pattern, hput⟩ := exists_lastPut_of_get? hempty hl
    exact hno earlier s pattern hput

/-- A layout writes what its pattern writes with the converters with which it was compiled. -/
theorem formatted_of_get? {registry : Registry} (event : Event) (buffer : String)
    (h : w.layouts.get? id = some ⟨id, (Pattern.compile registry pattern).chain⟩) :
    (w.formatted id event buffer).1 = buffer ++ Pattern.render registry pattern event := by
  simp only [formatted, step, h, Layout.appendTo]
  rw [Chain.appendTo_eq_append, Pattern.render_eq_text]

theorem formatted_congr {w' : Workspace} (h : w.layouts.get? id = w'.layouts.get? id)
    (event : Event) (buffer : String) :
    w.formatted id event buffer = w'.formatted id event buffer := by
  simp only [formatted, step, h]
  cases w'.layouts.get? id <;> rfl

theorem formatted_of_lastPut (h : LastPut id steps earlier s pattern) (event : Event)
    (buffer : String) :
    (w.after steps).formatted id event buffer =
      (w.after (earlier ++ [s])).formatted id event buffer ∧
    ((w.after steps).formatted id event buffer).1 =
      buffer ++ Pattern.render (w.after earlier).registry pattern event := by
  have hnow := get?_of_lastPut (w := w) h
  have hthen := get?_of_lastPut (w := w) (LastPut.last earlier h.stores)
  refine ⟨?_, ?_⟩
  · exact formatted_congr (hnow.trans hthen.symm) event buffer
  · exact formatted_of_get? event buffer hnow

end LastPut

/-- What is stored after any steps from a workspace without layouts. Under an identifier stands what
the last step put there that no later step has overwritten, removed or replaced, and nothing if
there is no such step. It has that identifier, the store counts the identifiers under which there is
something, and whatever is registered later, a layout renders each event as it did right after the
step that stored it: by its pattern and the converters that were registered then. -/
theorem layouts_after_steps (w : Workspace) (steps : List Step) :
    let start : Workspace := { w with layouts := .empty }
    let layouts := (start.after steps).layouts
    (∀ more, (start.run (steps ++ more)).1 =
      (start.run steps).1 ++ ((start.after steps).run more).1) ∧
    (∀ id l, layouts.get? id = some l ↔ ∃ earlier s pattern,
      LastPut id steps earlier s pattern ∧
        l = ⟨id, (Pattern.compile (start.after earlier).registry pattern).chain⟩) ∧
    (∀ id, layouts.get? id = none ↔
      ∀ earlier s pattern, ¬ LastPut id steps earlier s pattern) ∧
    (∀ id l, layouts.get? id = some l → l.id = id) ∧
    (∀ id, layouts.contains id = true ↔ ∃ l, layouts.get? id = some l) ∧
    layouts.keys.Nodup ∧
    (∀ id, id ∈ layouts.keys ↔ ∃ l, layouts.get? id = some l) ∧
    layouts.size = layouts.keys.length ∧
    (layouts.isEmpty = true ↔ layouts.size = 0) ∧
    (∀ id earlier s pattern, LastPut id steps earlier s pattern → ∀ event buffer,
      (start.after steps).formatted id event buffer =
        (start.after (earlier ++ [s])).formatted id event buffer ∧
      ((start.after steps).formatted id event buffer).1 =
        buffer ++ Pattern.render (start.after earlier).registry pattern event) := by
  intro start layouts
  have hfound : ∀ id l, layouts.get? id = some l ↔ ∃ earlier s pattern,
      LastPut id steps earlier s pattern ∧
        l = ⟨id, (Pattern.compile (start.after earlier).registry pattern).chain⟩ :=
    fun _ l => get?_eq_some_iff_lastPut rfl l
  refine ⟨?_, hfound, fun _ => get?_eq_none_iff_lastPut rfl, ?_, ?_, Dictionary.nodup_keys _, ?_,
    (Dictionary.length_keys _).symm, Dictionary.isEmpty_iff_size_eq_zero _, ?_⟩
  · intro more
    rw [run_append]
  · intro id l hl
    obtain ⟨earlier, s, pattern, -, rfl⟩ := (hfound id l).mp hl
    rfl
  · intro id
    exact Option.isSome_iff_exists
  · intro id
    rw [Dictionary.mem_keys_iff, Option.isSome_iff_exists]
  · intro id earlier s pattern hput event buffer
    exact formatted_of_lastPut hput event buffer

/-- A layout of a configuration that names it twice, with a converter that is registered anew while
another layout is removed. -/
theorem layouts_after_steps_registered_anew :
    let later : List Step := [.register "who" .message, .removeLayout "b"]
    let config : Config := ⟨[⟨"a", "%p", none⟩, ⟨"b", "%m", none⟩, ⟨"a", "[%who]", none⟩]⟩
    let earlier : List Step := [.insertLayout "a" "%n", .register "who" .thread]
    let steps := earlier ++ .replaceLayouts config :: later
    LastPut "a" steps earlier (.replaceLayouts config) "[%who]" ∧
    ∀ event buffer, ((({} : Workspace).after steps).formatted "a" event buffer).1 =
      buffer ++ Pattern.render (Registry.builtins.insert "who" .thread) "[%who]" event := by
  intro later config earlier steps
  have hput : LastPut "a" steps earlier (.replaceLayouts config) "[%who]" :=
    ⟨rfl, later, rfl, by decide⟩
  obtain ⟨-, -, -, -, -, -, -, -, -, hrenders⟩ := layouts_after_steps {} steps
  exact ⟨hput, fun event buffer => (hrenders "a" earlier _ _ hput event buffer).2⟩

end Workspace

end LogLayout
