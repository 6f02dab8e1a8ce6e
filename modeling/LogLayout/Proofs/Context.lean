import LogLayout.Proofs.Dictionary
import LogLayout.Proofs.Rendering

namespace LogLayout

namespace Event

/-- The event with context entries set one after the other. -/
def withEntries (e : Event) (settings : List (String × String)) : Event :=
  settings.foldl (fun e setting => e.withContext setting.1 setting.2) e

/-- Nothing but the context is touched, and each setting is one insertion. -/
theorem withEntries_eq (e : Event) (settings : List (String × String)) :
    e.withEntries settings = { e with
      context := settings.foldl (fun d setting => d.insert setting.1 setting.2) e.context } := by
  induction settings generalizing e with
  | nil => rfl
  | cons setting settings ih =>
    have hstep : e.withEntries (setting :: settings) =
        (e.withContext setting.1 setting.2).withEntries settings := rfl
    rw [hstep, ih]
    rfl

theorem get?_context_withEntries (e : Event) (settings : List (String × String)) (key : String) :
    (e.withEntries settings).context.get? key =
      (Dictionary.last? settings key).or (e.context.get? key) := by
  rw [withEntries_eq, Dictionary.get?_foldl_insert]

/-- Settings that give every key the same last value make the same event. -/
theorem withEntries_eq_of_last? (e : Event) {settings others : List (String × String)}
    (h : ∀ key, Dictionary.last? settings key = Dictionary.last? others key) :
    e.withEntries settings = e.withEntries others := by
  rw [withEntries_eq e settings, withEntries_eq e others]
  congr 1
  apply Dictionary.ext_get?
  intro key
  rw [Dictionary.get?_foldl_insert, Dictionary.get?_foldl_insert, h]

end Event

/-- Context entries that are set on an event without any. The whole context is shown as the keys
that were given, each once and ascending by code points, with the value that each was given last. A
key alone is shown as that value, or as nothing if it was never given. So no layout tells two
sequences of settings apart that give every key the same last value. -/
theorem context_shows_last_given (e : Event) (he : e.context = .empty)
    (settings : List (String × String)) :
    (∃ entries : List (String × String),
      (entries.map (·.1)).Pairwise (· < ·) ∧
      (∀ key value, (key, value) ∈ entries ↔ Dictionary.last? settings key = some value) ∧
      ∀ options : List String, options.head?.getD "" = "" →
        ∃ c, ConverterKind.context.prepare options = .ok (.ready c) ∧
          ∀ buffer, c.appendTo (e.withEntries settings) buffer =
            buffer ++ ("\x7b" ++ ", ".intercalate (entries.map fun (k, v) => k ++ "=" ++ v) ++
              "\x7d")) ∧
    (∀ (key : String) (options : List String), key ≠ "" →
      ∃ c, ConverterKind.context.prepare (key :: options) = .ok (.ready c) ∧
        ∀ buffer, c.appendTo (e.withEntries settings) buffer =
          buffer ++ (Dictionary.last? settings key).getD "") ∧
    ∀ others : List (String × String),
      (∀ key, Dictionary.last? settings key = Dictionary.last? others key) →
        ∀ (l : Layout) (buffer : String),
          l.appendTo (e.withEntries settings) buffer =
            l.appendTo (e.withEntries others) buffer := by
  have hget : ∀ key, (e.withEntries settings).context.get? key = Dictionary.last? settings key := by
    intro key
    rw [Event.get?_context_withEntries, he, Dictionary.get?_empty, Option.or_none]
  refine ⟨⟨(e.withEntries settings).context.entries, ?_, ?_, ?_⟩, ?_, ?_⟩
  · exact Dictionary.pairwise_keys _
  · intro key value
    rw [Dictionary.mem_entries_iff, hget]
  · intro options hoptions
    have hkey : contextKey options = none := by
      cases options with
      | nil => rfl
      | cons option options => simpa [contextKey] using hoptions
    refine ⟨_, rfl, fun buffer => ?_⟩
    rw [hkey, Converter.appendTo_eq_append]
    rfl
  · intro key options hne
    have hkey : contextKey (key :: options) = some key := by simp [contextKey, hne]
    refine ⟨_, rfl, fun buffer => ?_⟩
    rw [hkey, Converter.appendTo, hget]
  · intro others hsame l buffer
    rw [Event.withEntries_eq_of_last? e hsame]

/-- A key behind the ASCII letters that is given twice, between the empty key and another one; then
the same last values in another order. -/
theorem context_shows_last_given_twice :
    let e : Event := { message := "m" }
    let settings := [("\u00e9", "1"), ("z", "x"), ("\u00e9", "2"), ("", "")]
    let others := [("", "y"), ("", ""), ("\u00e9", "2"), ("z", "x")]
    e.context = .empty ∧
    (∀ key, Dictionary.last? settings key = Dictionary.last? others key) ∧
    (∃ c, ConverterKind.context.prepare ["\u00e9"] = .ok (.ready c) ∧
      c.appendTo (e.withEntries settings) "> " = "> 2") ∧
    (∀ (l : Layout) (buffer : String),
      l.appendTo (e.withEntries settings) buffer = l.appendTo (e.withEntries others) buffer) ∧
    (Converter.context none).appendTo (e.withEntries others) "> " =
      "> \x7b=, z=x, \u00e9=2\x7d" := by
  intro e settings others
  have hlast : ∀ key, Dictionary.last? settings key = Dictionary.last? others key := by
    intro key
    by_cases haccent : key = "\u00e9"
    · subst haccent
      decide
    · by_cases hempty : key = ""
      · subst hempty
        decide
      · simp [settings, others, Dictionary.last?_cons, haccent, hempty]
  obtain ⟨-, hkey, hlayout⟩ := context_shows_last_given e rfl settings
  obtain ⟨c, hc, hshown⟩ := hkey "\u00e9" [] (by decide)
  refine ⟨rfl, hlast, ⟨c, hc, ?_⟩, hlayout others hlast, ?_⟩
  · rw [hshown]
    decide
  · decide +kernel

end LogLayout
