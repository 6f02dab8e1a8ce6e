import LogLayout.Proofs.Json
import LogLayout.Proofs.Stream.Transcript

namespace LogLayout.Stream

theorem dropReturn_cases (s : String) :
    (∃ t, s = t.push '\r' ∧ dropReturn s = t) ∨ dropReturn s = s := by
  induction s using String.push_induction with
  | empty => exact .inr rfl
  | push s c =>
    by_cases hc : c = '\r'
    · rw [hc]
      exact .inl ⟨s, rfl, dropReturn_push_return s⟩
    · exact .inr (by simp [dropReturn, hc])

theorem isBlankText_dropReturn (s : String) :
    Text.isBlankText (dropReturn s) = Text.isBlankText s := by
  obtain ⟨t, rfl, hdrop⟩ | hdrop := dropReturn_cases s
  · have hreturn : Text.isBlank '\r' = true := by decide
    simp [hdrop, Text.isBlankText, hreturn]
  · rw [hdrop]

theorem ofText?_dropReturn (s : String) : Event.ofText? (dropReturn s) = Event.ofText? s := by
  obtain ⟨t, rfl, hdrop⟩ | hdrop := dropReturn_cases s
  · rw [hdrop, Event.ofText?, Event.ofText?, Json.ofText?_push_space (by decide)]
  · rw [hdrop]

theorem Line.text_eq_dropReturn {line : List UInt8} {s : String} (h : Utf8.encode s = line) :
    Line.text ⟨line, true⟩ = .ok (dropReturn s) := by
  rw [Line.text_eq_ok_iff, ← withoutReturn_encode, h]
  rfl

theorem Line.exists_text_eq_error {line : List UInt8} (h : ∀ s, Utf8.encode s ≠ line) :
    ∃ fault, Line.text ⟨line, true⟩ = .error fault := by
  rw [Line.exists_text_eq_error_iff]
  intro s hs
  obtain ⟨t, ht, -⟩ := exists_dropReturn_eq_iff.mpr hs
  exact h t ht

section
variable {s : String} (h : Event.ofText? s = none)
include h

theorem event?_eq_none : event? s = none := by
  rw [event?, h, ite_self]

theorem isRefused_eq_not_isBlankText : isRefused s = !Text.isBlankText s := by
  rw [isRefused, h, Option.isNone_none, Bool.and_true]

/-- A text without an event between others leaves no trace in the output. -/
theorem written_insert (layouts : List Layout) (before rest : List String) :
    written layouts (before ++ s :: rest) = written layouts (before ++ rest) := by
  simp only [written, List.filterMap_append, List.filterMap_cons, event?_eq_none h]

theorem count_insert (before rest : List String) :
    count (before ++ s :: rest) = ⟨(count (before ++ rest)).rendered,
      (count (before ++ rest)).skipped + if Text.isBlankText s then 0 else 1⟩ := by
  simp only [count, List.filterMap_append, List.filterMap_cons, event?_eq_none h,
    List.filter_append, List.filter_cons, isRefused_eq_not_isBlankText h, List.length_append]
  cases Text.isBlankText s with
  | true => rfl
  | false => simp [Nat.add_assoc]

end

theorem lines_insert {before line : List UInt8} (hbefore : EndsLine before)
    (hline : lineFeed ∉ line) (rest : List UInt8) :
    lines (before ++ (line ++ lineFeed :: rest)) = lines before ++ ⟨line, true⟩ :: lines rest := by
  rw [lines_append hbefore, lines_line_append hline]

/-- A stream succeeds only if all of its lines are text. -/
theorem exists_texts_of_result_eq_ok {layouts : List Layout} {input : List UInt8}
    {summary : Summary} (h : (render layouts none input).result = .ok summary) :
    ∃ texts, (lines input).map Line.text = texts.map .ok ∧ summary = count texts ∧
      (render layouts none input).output = Utf8.encode (written layouts texts) := by
  obtain ⟨texts, hread, hrender⟩ | ⟨_, _, _, _, _, -, -, -, hrender⟩ :=
    renderLines_cases layouts 1 (lines input)
  · rw [render, hrender] at h ⊢
    rw [Outcome.result_afterLines_ok] at h
    exact ⟨texts, hread, (Except.ok.inj h).symm, List.append_nil _⟩
  · rw [render, hrender] at h
    cases h

/-- A line without an event between the lines of a stream that succeeds. If it is text, what is
written and rendered stays the same, and it is counted as left out unless it is blank. If it is not
text, the stream ends there with what the lines before it gave. -/
theorem render_insert_line (layouts : List Layout) {before line rest : List UInt8}
    {summary : Summary} (hbefore : EndsLine before) (hline : lineFeed ∉ line)
    (hevent : ∀ s, Utf8.encode s = line → Event.ofText? s = none)
    (hok : (render layouts none (before ++ rest)).result = .ok summary) :
    (∀ s, Utf8.encode s = line →
      (render layouts none (before ++ (line ++ lineFeed :: rest))).output =
        (render layouts none (before ++ rest)).output ∧
      (render layouts none (before ++ (line ++ lineFeed :: rest))).result =
        .ok ⟨summary.rendered, summary.skipped + if Text.isBlankText s then 0 else 1⟩) ∧
    ((∀ s, Utf8.encode s ≠ line) →
      (render layouts none (before ++ (line ++ lineFeed :: rest))).output =
        (render layouts none before).output ∧
      ∃ fault, (render layouts none (before ++ (line ++ lineFeed :: rest))).result =
        .error (.invalidText fault)) := by
  obtain ⟨texts, htexts, rfl, houtput⟩ := exists_texts_of_result_eq_ok hok
  rw [lines_append hbefore, List.map_append] at htexts
  -- The line stands behind the texts of whole lines, so none of them is read otherwise than before.
  obtain ⟨first, last, rfl, hfirst, hlast⟩ := List.map_eq_append_iff.mp htexts.symm
  constructor
  · intro s hs
    have hnone : Event.ofText? (dropReturn s) = none := by
      rw [ofText?_dropReturn]
      exact hevent s hs
    have hread : (lines (before ++ (line ++ lineFeed :: rest))).map Line.text =
        (first ++ dropReturn s :: last).map .ok := by
      rw [lines_insert hbefore hline, List.map_append, List.map_append, List.map_cons,
        List.map_cons, hfirst, hlast, Line.text_eq_dropReturn hs]
    rw [houtput, render, renderLines_eq_afterLines layouts hread]
    constructor
    · rw [← written_insert hnone]
      exact List.append_nil _
    · have hcount := count_insert hnone first last
      rw [isBlankText_dropReturn] at hcount
      rw [← hcount]
      exact Outcome.result_afterLines_ok layouts 1 _
  · intro hs
    obtain ⟨fault, hfault⟩ := Line.exists_text_eq_error hs
    have hinserted : render layouts none (before ++ (line ++ lineFeed :: rest)) =
        Outcome.afterLines layouts 1 first ⟨[], .error (.invalidText fault), []⟩ := by
      rw [render, lines_insert hbefore hline,
        renderLines_eq_afterLines_fault layouts hfirst.symm 1 hfault]
    have halone : render layouts none before =
        Outcome.afterLines layouts 1 first ⟨[], .ok {}, []⟩ := by
      rw [render, renderLines_eq_afterLines layouts hfirst.symm]
    rw [hinserted, halone]
    exact ⟨rfl, fault, rfl⟩

/-- The two events of the cases below, without a line between them. -/
theorem result_two_events :
    (render [⟨"text", ⟨"%msg", [⟨.message, {}⟩]⟩⟩] none
      (Utf8.encode "\x7b\"message\":\"a\"\x7d\n" ++
        Utf8.encode "\x7b\"message\":\"b\"\x7d")).result = .ok ⟨2, 0⟩ := by
  have htexts : splitLines (Utf8.encode "\x7b\"message\":\"a\"\x7d\n" ++
      Utf8.encode "\x7b\"message\":\"b\"\x7d") =
        ["\x7b\"message\":\"a\"\x7d", "\x7b\"message\":\"b\"\x7d"].map Utf8.encode := by
    decide +kernel
  have hcount : count ["\x7b\"message\":\"a\"\x7d", "\x7b\"message\":\"b\"\x7d"] = ⟨2, 0⟩ := by
    decide +kernel
  rw [render_eq_afterLines _ htexts, Outcome.result_afterLines_ok, hcount]

/-- A line that is no event and ends in a carriage return, between two events. -/
theorem render_insert_line_between :
    let layouts : List Layout := [⟨"text", ⟨"%msg", [⟨.message, {}⟩]⟩⟩]
    let before := Utf8.encode "\x7b\"message\":\"a\"\x7d\n"
    let rest := Utf8.encode "\x7b\"message\":\"b\"\x7d"
    let inserted := render layouts none (before ++ (Utf8.encode "no\r" ++ lineFeed :: rest))
    inserted.output = Utf8.encode "a\nb\n" ∧ inserted.result = .ok ⟨2, 1⟩ := by
  intro layouts before rest inserted
  have hevent : ∀ s, Utf8.encode s = Utf8.encode "no\r" → Event.ofText? s = none := by
    intro s hs
    rw [Utf8.encode_injective hs, ← Option.isNone_iff_eq_none]
    decide +kernel
  have hwithout : (render layouts none (before ++ rest)).output = Utf8.encode "a\nb\n" := by
    decide +kernel
  have hinsert := (render_insert_line layouts (.inr (by decide +kernel)) (by decide +kernel)
    hevent result_two_events).1 "no\r" rfl
  rw [hwithout] at hinsert
  exact hinsert

/-- A byte that no text has is no event either, but on a line of its own between two events it makes
a stream that succeeds fail, and the second event is lost. -/
theorem render_stops_at_line_without_text :
    let layouts : List Layout := [⟨"text", ⟨"%msg", [⟨.message, {}⟩]⟩⟩]
    let before := Utf8.encode "\x7b\"message\":\"a\"\x7d\n"
    let rest := Utf8.encode "\x7b\"message\":\"b\"\x7d"
    let without := render layouts none (before ++ rest)
    let inserted := render layouts none (before ++ ([0xFF] ++ lineFeed :: rest))
    EndsLine before ∧ lineFeed ∉ [0xFF] ∧
    (∀ s, Utf8.encode s = [0xFF] → Event.ofText? s = none) ∧
    without.result = .ok ⟨2, 0⟩ ∧ without.output = Utf8.encode "a\nb\n" ∧
    inserted.result = .error (.invalidText (.invalid 0 1)) ∧
    inserted.output = Utf8.encode "a\n" := by
  intro layouts before rest without inserted
  have hline : ∀ s, Utf8.encode s = [0xFF] → Event.ofText? s = none := by
    intro s hs
    rw [← Utf8.decode_eq_ok_iff] at hs
    cases hs
  have hbefore : (lines before).map Line.text = ["\x7b\"message\":\"a\"\x7d"].map .ok :=
    map_text_eq_iff.mpr (by decide +kernel)
  have hends : EndsLine before := .inr (by decide +kernel)
  have hinserted : inserted = Outcome.afterLines layouts 1 ["\x7b\"message\":\"a\"\x7d"]
      ⟨[], .error (.invalidText (.invalid 0 1)), []⟩ := by
    unfold inserted
    rw [render, lines_insert hends (by decide),
      renderLines_eq_afterLines_fault layouts hbefore 1 rfl]
  refine ⟨hends, by decide, hline, result_two_events, by decide +kernel, ?_, by decide +kernel⟩
  rw [hinserted]
  rfl

end LogLayout.Stream
