import LogLayout.Proofs.Stream.Insertion

namespace LogLayout.Stream

/-- Bytes with a carriage return put before every line feed. -/
def withReturns (input : List UInt8) : List UInt8 :=
  input.flatMap fun b => if b = lineFeed then [carriageReturn, lineFeed] else [b]

/-- A line with a carriage return before the line feed that ends it. -/
def Line.withReturn (line : Line) : Line :=
  if line.ended then { line with bytes := line.bytes ++ [carriageReturn] } else line

/-- What a line holds, unless it is not text. -/
def Line.content (line : Line) : Except Utf8.Fault Content :=
  line.text.map Content.ofText

theorem withReturns_lineFeed (rest : List UInt8) :
    withReturns (lineFeed :: rest) = carriageReturn :: lineFeed :: withReturns rest :=
  rfl

theorem withReturns_of_ne {b : UInt8} (hb : b ≠ lineFeed) (rest : List UInt8) :
    withReturns (b :: rest) = b :: withReturns rest := by
  rw [withReturns, List.flatMap_cons, if_neg hb]
  rfl

theorem lines_withReturns (input : List UInt8) :
    lines (withReturns input) = (lines input).map Line.withReturn := by
  induction input with
  | nil => rfl
  | cons b rest ih =>
    by_cases hb : b = lineFeed
    · have hreturn : carriageReturn ≠ lineFeed := by decide
      rw [hb, withReturns_lineFeed, lines, if_neg hreturn, lines, if_pos rfl, ih, lines,
        if_pos rfl]
      rfl
    · rw [withReturns_of_ne hb, lines, if_neg hb, lines, if_neg hb, ih]
      cases lines rest with
      | nil => rfl
      | cons line later =>
        obtain ⟨bytes, ended⟩ := line
        cases ended <;> rfl

/-- The lines of a text hold texts, since no other character has the byte of a line feed. -/
theorem exists_encode_eq_of_mem_lines {s : String} {line : Line}
    (h : line ∈ lines (Utf8.encode s)) : ∃ t, Utf8.encode t = line.bytes := by
  have hlines : ∀ cs : List Char, ∀ line ∈ lines (cs.flatMap String.utf8EncodeChar),
      ∃ t : List Char, t.flatMap String.utf8EncodeChar = line.bytes := by
    intro cs
    induction cs with
    | nil => simp [lines]
    | cons c cs ih =>
      rw [List.flatMap_cons]
      by_cases hc : c = '\n'
      · have hbytes : String.utf8EncodeChar c = [lineFeed] := by
          rw [hc]
          decide
        rw [hbytes, List.singleton_append, lines, if_pos rfl, List.forall_mem_cons]
        exact ⟨⟨[], rfl⟩, ih⟩
      · have hbytes : lineFeed ∉ String.utf8EncodeChar c := by
          rw [Utf8.mem_encodeChar_iff (by decide)]
          exact fun heq => hc (Char.toNat_inj.mp heq)
        rw [lines_append_of_notMem String.utf8EncodeChar_ne_nil hbytes]
        cases hrest : lines (cs.flatMap String.utf8EncodeChar) with
        | nil => simpa using ⟨[c], by simp⟩
        | cons first later =>
          obtain ⟨t, ht⟩ := ih first (by simp [hrest])
          rw [List.forall_mem_cons]
          refine ⟨⟨c :: t, by rw [List.flatMap_cons, ht]⟩, ?_⟩
          intro line hline
          exact ih line (by simp [hrest, hline])
  obtain ⟨t, ht⟩ := hlines s.toList line h
  exact ⟨String.ofList t, by rw [Utf8.encode, String.toList_ofList, ht]⟩

theorem Content.ofText_dropReturn (s : String) :
    Content.ofText (dropReturn s) = Content.ofText s := by
  rw [Content.ofText, Content.ofText, isBlankText_dropReturn, ofText?_dropReturn]

theorem Line.content_withReturn {line : Line} {t : String} (h : Utf8.encode t = line.bytes) :
    line.withReturn.content = line.content := by
  obtain ⟨bytes, ended⟩ := line
  cases ended with
  | false => rfl
  | true =>
    have hpushed : Utf8.encode (t.push '\r') = bytes ++ [carriageReturn] := by
      rw [Utf8.encode_push, h]
      rfl
    have hreturn : Line.withReturn ⟨bytes, true⟩ = ⟨bytes ++ [carriageReturn], true⟩ := rfl
    rw [hreturn, content, content, Line.text_eq_dropReturn hpushed, Line.text_eq_dropReturn h,
      dropReturn_push_return]
    exact congrArg Except.ok (Content.ofText_dropReturn t).symm

/-- Of a line only what it holds counts. -/
theorem renderLines_cons (layouts : List Layout) (number : Nat) (room : Option Nat) (line : Line)
    (rest : List Line) :
    renderLines layouts number room (line :: rest) =
      match line.content with
      | .error fault => ⟨[], .error (.invalidText fault), []⟩
      | .ok .blank => renderLines layouts (number + 1) room rest
      | .ok .notAnEvent =>
        ((renderLines layouts (number + 1) room rest).countSkipped).afterRecords
          [{ diagnostic := .eventDecodeFailed number "the line is not an event in JSON" }]
      | .ok (.event e) =>
        renderEvent (1 < layouts.length) e room
          (fun room => (renderLines layouts (number + 1) room rest).countRendered) layouts := by
  rw [renderLines, Line.content]
  cases line.text with
  | error fault => rfl
  | ok s => cases hcontent : Content.ofText s <;> simp [Except.map, hcontent]

theorem renderLines_congr (layouts : List Layout) {ls ls' : List Line}
    (h : ls.map Line.content = ls'.map Line.content) (number : Nat) (room : Option Nat) :
    renderLines layouts number room ls = renderLines layouts number room ls' := by
  induction ls generalizing ls' number room with
  | nil =>
    obtain rfl : ls' = [] := by simpa using h.symm
    rfl
  | cons line ls ih =>
    obtain ⟨line', ls', rfl, hline, hls⟩ := List.map_eq_cons_iff.mp h.symm
    simp only [renderLines_cons, hline, ih hls.symm]

theorem Line.exists_text_eq_ok {line : Line} {t : String} (h : Utf8.encode t = line.bytes) :
    ∃ s, line.text = .ok s :=
  ⟨_, by rw [Line.text, Utf8.decode_eq_ok_iff.mpr h]; rfl⟩

theorem exists_result_eq_ok (layouts : List Layout) (s : String) :
    ∃ summary, (render layouts none (Utf8.encode s)).result = .ok summary := by
  obtain ⟨texts, -, hrender⟩ | ⟨read, _, bad, later, fault, hlines, -, hfault, -⟩ :=
    renderLines_cases layouts 1 (lines (Utf8.encode s))
  · exact ⟨count texts, by rw [render, hrender, Outcome.result_afterLines_ok]⟩
  · have hbad : bad ∈ lines (Utf8.encode s) := by simp [hlines]
    obtain ⟨t, ht⟩ := exists_encode_eq_of_mem_lines hbad
    obtain ⟨text, htext⟩ := Line.exists_text_eq_ok ht
    rw [htext] at hfault
    cases hfault

/-- A carriage return before every line feed of an input that is text makes no difference: the
output, the counts and the reports with their line numbers are the same, whatever the output takes.
Without a bound they are those of a stream that succeeds. -/
theorem render_withReturns (layouts : List Layout) (s : String) :
    let input := Utf8.encode s
    (∃ summary, (render layouts none input).result = .ok summary ∧
      (render layouts none (withReturns input)).result = .ok summary) ∧
    ∀ capacity, render layouts capacity (withReturns input) = render layouts capacity input := by
  intro input
  have hcontent : (lines (withReturns input)).map Line.content =
      (lines input).map Line.content := by
    rw [lines_withReturns, List.map_map]
    apply List.map_congr_left
    intro line hline
    obtain ⟨t, ht⟩ := exists_encode_eq_of_mem_lines hline
    exact Line.content_withReturn ht
  have hrender : ∀ capacity,
      render layouts capacity (withReturns input) = render layouts capacity input :=
    renderLines_congr layouts hcontent 1
  obtain ⟨summary, hsummary⟩ := exists_result_eq_ok layouts s
  exact ⟨⟨summary, hsummary, by rw [hrender]; exact hsummary⟩, hrender⟩

end LogLayout.Stream
