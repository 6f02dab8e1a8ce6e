import LogLayout.Proofs.Rendering
import LogLayout.Proofs.Stream.Lines

namespace LogLayout.Stream

/-- The event that a line of text holds, if it is not blank. -/
def event? (s : String) : Option Event :=
  if Text.isBlankText s then none else Event.ofText? s

/-- Whether a line of text is left out with a report: it is neither blank nor an event. -/
def isRefused (s : String) : Bool :=
  !Text.isBlankText s && (Event.ofText? s).isNone

/-- What one of some layouts writes for an event, as a line with its line feed. -/
def block (layouts : List Layout) (e : Event) (l : Layout) : String :=
  let text := (if 2 ≤ layouts.length then l.id ++ ": " else "") ++ (l.format e).1
  if text.toList.getLast? = some '\n' then text else text.push '\n'

/-- What layouts write for lines of text, event by event and layout by layout. -/
def written (layouts : List Layout) (texts : List String) : String :=
  String.join ((texts.filterMap event?).flatMap fun e => layouts.map (block layouts e))

/-- What is reported for a line of text with a number. -/
def lineRecords (layouts : List Layout) (number : Nat) (s : String) : List LogRecord :=
  if isRefused s then
    [{ diagnostic := .eventDecodeFailed number "the line is not an event in JSON" }]
  else (event? s).toList.flatMap fun e => layouts.map fun l => (l.format e).2

/-- What is reported for lines of text, the first of them with a number. -/
def reported (layouts : List Layout) (number : Nat) (texts : List String) : List LogRecord :=
  (texts.zipIdx number).flatMap fun (s, n) => lineRecords layouts n s

/-- How many lines of text hold events, and how many are left out. -/
def count (texts : List String) : Summary where
  rendered := (texts.filterMap event?).length
  skipped := (texts.filter isRefused).length

/-- The outcome when lines of text come before, the first of them with a number. -/
def Outcome.afterLines (layouts : List Layout) (number : Nat) (texts : List String)
    (o : Outcome) : Outcome where
  output := Utf8.encode (written layouts texts) ++ o.output
  result := o.result.map fun s =>
    ⟨s.rendered + (count texts).rendered, s.skipped + (count texts).skipped⟩
  records := reported layouts number texts ++ o.records

theorem Content.ofText_cases (s : String) :
    (Text.isBlankText s = true ∧ Content.ofText s = .blank ∧ event? s = none ∧
      isRefused s = false) ∨
    (∃ e, Text.isBlankText s = false ∧ Content.ofText s = .event e ∧ event? s = some e ∧
      isRefused s = false) ∨
    (Text.isBlankText s = false ∧ Content.ofText s = .notAnEvent ∧ event? s = none ∧
      isRefused s = true) := by
  unfold Content.ofText event? isRefused
  cases hblank : Text.isBlankText s with
  | true => simp
  | false => cases Event.ofText? s <;> simp

theorem renderLine_eq (layouts : List Layout) (l : Layout) (e : Event) :
    renderLine (1 < layouts.length) l e = (block layouts e l, (l.format e).2) := by
  have hlabel : (if decide (1 < layouts.length) = true then l.id ++ ": " else "") =
      if 2 ≤ layouts.length then l.id ++ ": " else "" := by
    simp only [decide_eq_true_eq, Nat.lt_iff_add_one_le]
  have hsize : ∀ s t : String, (s ++ t).utf8ByteSize - s.utf8ByteSize = t.utf8ByteSize := by
    intro s t
    rw [String.utf8ByteSize_append, Nat.add_sub_cancel_left]
  simp only [renderLine, block, hlabel, Layout.format, Layout.appendTo, Chain.appendTo_eq_append,
    String.empty_append, hsize]
  rfl

theorem renderEvent_unbounded (layouts : List Layout) (e : Event) (next : Option Nat → Outcome)
    (ls : List Layout) :
    renderEvent (1 < layouts.length) e none next ls =
      ((next none).afterOutput (Utf8.encode (String.join (ls.map (block layouts e))))).afterRecords
        (ls.map fun l => (l.format e).2) := by
  induction ls with
  | nil => rfl
  | cons l ls ih =>
    rw [List.map_cons, List.map_cons, String.join_cons, Utf8.encode_append, renderEvent,
      renderLine_eq]
    simp only [write, ih, Outcome.afterOutput, Outcome.afterRecords, List.append_assoc,
      List.cons_append, List.nil_append]

theorem renderLines_cons_unbounded (layouts : List Layout) (number : Nat) {line : Line}
    {s : String} (htext : line.text = .ok s) (rest : List Line) :
    renderLines layouts number none (line :: rest) =
      (renderLines layouts (number + 1) none rest).afterLines layouts number [s] := by
  rw [renderLines, htext]
  obtain ⟨-, hcontent, hevent, hrefused⟩ | ⟨e, -, hcontent, hevent, hrefused⟩ |
    ⟨-, hcontent, hevent, hrefused⟩ := Content.ofText_cases s
  · -- A blank line gives nothing, but the lines behind it are numbered with it.
    have hwritten : written layouts [s] = "" := by simp [written, hevent]
    have hreported : reported layouts number [s] = [] := by
      simp [reported, lineRecords, hevent, hrefused]
    have hcount : count [s] = ⟨0, 0⟩ := by simp [count, hevent, hrefused]
    have hresult : ∀ r : Except Failure Summary, r.map (fun t => ⟨t.rendered, t.skipped⟩) = r := by
      rintro (failure | summary) <;> rfl
    simp only [hcontent, Outcome.afterLines, hwritten, hreported, hcount, Utf8.encode_empty,
      List.nil_append, Nat.add_zero, hresult]
  · have hwritten : written layouts [s] = String.join (layouts.map (block layouts e)) := by
      simp [written, hevent]
    have hreported : reported layouts number [s] = layouts.map fun l => (l.format e).2 := by
      simp [reported, lineRecords, hevent, hrefused]
    have hcount : count [s] = ⟨1, 0⟩ := by simp [count, hevent, hrefused]
    simp only [hcontent, renderEvent_unbounded, Outcome.afterLines, hwritten, hreported, hcount,
      Outcome.countRendered, Outcome.afterOutput, Outcome.afterRecords, Nat.add_zero]
  · have hwritten : written layouts [s] = "" := by simp [written, hevent]
    have hreported : reported layouts number [s] =
        [{ diagnostic := .eventDecodeFailed number "the line is not an event in JSON" }] := by
      simp [reported, lineRecords, hrefused]
    have hcount : count [s] = ⟨0, 1⟩ := by simp [count, hevent, hrefused]
    simp only [hcontent, Outcome.afterLines, hwritten, hreported, hcount, Outcome.countSkipped,
      Outcome.afterRecords, Utf8.encode_empty, List.nil_append, Nat.add_zero]

theorem written_append (layouts : List Layout) (texts later : List String) :
    written layouts (texts ++ later) = written layouts texts ++ written layouts later := by
  simp only [written, List.filterMap_append, List.flatMap_append, String.join_append]

theorem count_append (texts later : List String) :
    count (texts ++ later) = ⟨(count texts).rendered + (count later).rendered,
      (count texts).skipped + (count later).skipped⟩ := by
  simp only [count, List.filterMap_append, List.filter_append, List.length_append]

theorem reported_cons (layouts : List Layout) (number : Nat) (s : String) (texts : List String) :
    reported layouts number (s :: texts) =
      lineRecords layouts number s ++ reported layouts (number + 1) texts := by
  simp only [reported, List.zipIdx_cons, List.flatMap_cons]

theorem Outcome.afterLines_nil (layouts : List Layout) (number : Nat) (o : Outcome) :
    o.afterLines layouts number [] = o := by
  obtain ⟨output, result, records⟩ := o
  cases result <;> rfl

theorem Outcome.afterLines_cons (layouts : List Layout) (number : Nat) (s : String)
    (texts : List String) (o : Outcome) :
    o.afterLines layouts number (s :: texts) =
      (o.afterLines layouts (number + 1) texts).afterLines layouts number [s] := by
  have hwritten := written_append layouts [s] texts
  have hcount := count_append [s] texts
  have hreported := reported_cons layouts number s texts
  have hfirst : reported layouts number [s] = lineRecords layouts number s := by
    rw [reported_cons]
    exact List.append_nil _
  obtain ⟨output, result, records⟩ := o
  rw [List.singleton_append] at hwritten hcount
  simp only [Outcome.afterLines, hwritten, hcount, hreported, hfirst, Utf8.encode_append,
    List.append_assoc]
  cases result with
  | error failure => rfl
  | ok summary => simp only [Except.map, Nat.add_assoc, Nat.add_comm]

/-- Lines that can be read are worked through one after the other, and then the lines behind them,
as if these came first. -/
theorem renderLines_append (layouts : List Layout) {read : List Line} {texts : List String}
    (h : read.map Line.text = texts.map .ok) (number : Nat) (rest : List Line) :
    renderLines layouts number none (read ++ rest) =
      (renderLines layouts (number + texts.length) none rest).afterLines layouts number texts := by
  induction texts generalizing read number with
  | nil =>
    obtain rfl : read = [] := by simpa using h
    exact (Outcome.afterLines_nil layouts number _).symm
  | cons s texts ih =>
    obtain ⟨line, read, rfl, htext, hread⟩ := List.map_eq_cons_iff.mp h
    rw [List.cons_append, renderLines_cons_unbounded layouts number htext, ih hread,
      Outcome.afterLines_cons layouts number s texts, List.length_cons, Nat.add_right_comm,
      Nat.add_assoc]

theorem renderLines_eq_afterLines (layouts : List Layout) {ls : List Line} {texts : List String}
    (h : ls.map Line.text = texts.map .ok) (number : Nat) :
    renderLines layouts number none ls =
      Outcome.afterLines layouts number texts ⟨[], .ok {}, []⟩ := by
  have happend := renderLines_append layouts h number []
  rwa [List.append_nil] at happend

theorem renderLines_eq_afterLines_fault (layouts : List Layout) {read : List Line}
    {texts : List String} (h : read.map Line.text = texts.map .ok) (number : Nat) {bad : Line}
    {fault : Utf8.Fault} (hfault : bad.text = .error fault) (later : List Line) :
    renderLines layouts number none (read ++ bad :: later) =
      Outcome.afterLines layouts number texts ⟨[], .error (.invalidText fault), []⟩ := by
  rw [renderLines_append layouts h, renderLines, hfault]

/-- Without a bound, all lines are worked through, or those before the first that holds no text. -/
theorem renderLines_cases (layouts : List Layout) (number : Nat) (ls : List Line) :
    (∃ texts, ls.map Line.text = texts.map .ok ∧
      renderLines layouts number none ls =
        Outcome.afterLines layouts number texts ⟨[], .ok {}, []⟩) ∨
    (∃ read texts bad later fault, ls = read ++ bad :: later ∧
      read.map Line.text = texts.map .ok ∧ bad.text = .error fault ∧
      renderLines layouts number none ls =
        Outcome.afterLines layouts number texts ⟨[], .error (.invalidText fault), []⟩) := by
  obtain ⟨read, texts, rest, rfl, hread, rfl | ⟨bad, later, fault, rfl, hfault⟩⟩ := exists_read ls
  · rw [List.append_nil]
    exact .inl ⟨texts, hread, renderLines_eq_afterLines layouts hread number⟩
  · exact .inr ⟨read, texts, bad, later, fault, rfl, hread, hfault,
      renderLines_eq_afterLines_fault layouts hread number hfault later⟩

theorem render_eq_afterLines (layouts : List Layout) {input : List UInt8} {texts : List String}
    (h : splitLines input = texts.map Utf8.encode) :
    render layouts none input = Outcome.afterLines layouts 1 texts ⟨[], .ok {}, []⟩ :=
  renderLines_eq_afterLines layouts (map_text_eq_iff.mpr ((map_payload_lines input).trans h)) 1

theorem Outcome.result_afterLines_ok (layouts : List Layout) (number : Nat)
    (texts : List String) :
    (Outcome.afterLines layouts number texts ⟨[], .ok {}, []⟩).result = .ok (count texts) := by
  simp [Outcome.afterLines, Except.map]

theorem renderLines_unbounded_ne_outputFull (layouts : List Layout) (number : Nat)
    (ls : List Line) : (renderLines layouts number none ls).result ≠ .error .outputFull := by
  obtain ⟨texts, -, hrender⟩ | ⟨read, texts, bad, later, fault, -, -, -, hrender⟩ :=
    renderLines_cases layouts number ls
  all_goals
    rw [hrender]
    simp [Outcome.afterLines, Except.map]

/-- The number of the line that is reported as no event, if that is what is reported. -/
def failedLine? (r : LogRecord) : Option Nat :=
  match r.diagnostic with
  | .eventDecodeFailed number _ => some number
  | _ => none

/-- The numbers of the lines that are left out, when the first line has a number. -/
def refusedNumbers (number : Nat) (texts : List String) : List Nat :=
  ((texts.zipIdx number).filter fun line => isRefused line.1).map (·.2)

theorem refusedNumbers_cons (number : Nat) (s : String) (texts : List String) :
    refusedNumbers number (s :: texts) =
      (if isRefused s then [number] else []) ++ refusedNumbers (number + 1) texts := by
  rw [refusedNumbers, List.zipIdx_cons, List.filter_cons]
  split <;> rfl

/-- Every line that is left out is reported once, by its number and in order. -/
theorem filterMap_failedLine?_reported (layouts : List Layout) (number : Nat)
    (texts : List String) :
    (reported layouts number texts).filterMap failedLine? = refusedNumbers number texts := by
  induction texts generalizing number with
  | nil => rfl
  | cons s texts ih =>
    have hformatted : ∀ e : Event,
        (layouts.map fun l => (l.format e).2).filterMap failedLine? = [] := by
      intro e
      rw [List.filterMap_map]
      exact List.filterMap_eq_nil_iff.mpr fun l _ => rfl
    have hline : (lineRecords layouts number s).filterMap failedLine? =
        if isRefused s then [number] else [] := by
      unfold lineRecords
      split
      · rfl
      · cases event? s with
        | none => rfl
        | some e => simpa using hformatted e
    rw [reported_cons, List.filterMap_append, ih, hline, refusedNumbers_cons]

theorem count_add_blank (texts : List String) :
    (count texts).rendered + (count texts).skipped + (texts.filter Text.isBlankText).length =
      texts.length := by
  induction texts with
  | nil => rfl
  | cons s texts ih =>
    simp only [count] at ih ⊢
    obtain ⟨hblank, -, hevent, hrefused⟩ | ⟨e, hblank, -, hevent, hrefused⟩ |
      ⟨hblank, -, hevent, hrefused⟩ := Content.ofText_cases s
    all_goals
      simp only [List.filterMap_cons, List.filter_cons, hblank, hevent, hrefused, if_true,
        Bool.false_eq_true, if_false, List.length_cons]
      omega

/-- What an outcome says about the lines of text that were worked through. -/
structure Outcome.Transcribes (layouts : List Layout) (texts : List String) (o : Outcome) :
    Prop where
  output : o.output = Utf8.encode (written layouts texts)
  records : o.records = reported layouts 1 texts
  failedLines : o.records.filterMap failedLine? = refusedNumbers 1 texts

theorem Outcome.transcribes_afterLines (layouts : List Layout) (texts : List String) {o : Outcome}
    (houtput : o.output = []) (hrecords : o.records = []) :
    (o.afterLines layouts 1 texts).Transcribes layouts texts := by
  have hreported : (o.afterLines layouts 1 texts).records = reported layouts 1 texts := by
    rw [afterLines, hrecords, List.append_nil]
  refine ⟨?_, hreported, ?_⟩
  · rw [afterLines, houtput, List.append_nil]
  · rw [hreported, filterMap_failedLine?_reported]

/-- An output without a bound takes the blocks of all events, and the two counts and the reports
follow from the texts of the lines. A line that holds no text ends this, with what the lines before
it gave. -/
theorem render_unbounded (layouts : List Layout) (input : List UInt8) :
    (∀ texts : List String, splitLines input = texts.map Utf8.encode →
      (render layouts none input).Transcribes layouts texts ∧
      (render layouts none input).result = .ok (count texts) ∧
      (count texts).rendered + (count texts).skipped + (texts.filter Text.isBlankText).length =
        (splitLines input).length) ∧
    ((∃ bytes ∈ splitLines input, ∀ s, Utf8.encode s ≠ bytes) →
      ∃ texts bad later fault, splitLines input = texts.map Utf8.encode ++ bad :: later ∧
        (∀ s, Utf8.encode s ≠ bad) ∧
        (render layouts none input).Transcribes layouts texts ∧
        (render layouts none input).result = .error (.invalidText fault)) := by
  constructor
  · intro texts htexts
    rw [render_eq_afterLines layouts htexts]
    refine ⟨Outcome.transcribes_afterLines layouts texts rfl rfl,
      Outcome.result_afterLines_ok layouts 1 texts, ?_⟩
    rw [htexts, List.length_map, count_add_blank]
  · rintro ⟨bytes, hmem, hbytes⟩
    obtain ⟨texts, hread, -⟩ | ⟨read, texts, bad, later, fault, hlines, hread, hfault, hrender⟩ :=
      renderLines_cases layouts 1 (lines input)
    · rw [← map_payload_lines, map_text_eq_iff.mp hread] at hmem
      obtain ⟨s, -, rfl⟩ := List.mem_map.mp hmem
      exact (hbytes s rfl).elim
    · have hsplit : splitLines input =
          texts.map Utf8.encode ++ bad.payload :: later.map Line.payload := by
        rw [← map_payload_lines, hlines, List.map_append, map_text_eq_iff.mp hread, List.map_cons]
      refine ⟨texts, bad.payload, later.map Line.payload, fault, hsplit,
        Line.exists_text_eq_error_iff.mp ⟨fault, hfault⟩, ?_, ?_⟩
      · rw [render, hrender]
        exact Outcome.transcribes_afterLines layouts texts rfl rfl
      · rw [render, hrender]
        rfl

/-- Two layouts over an event, a blank line, a line that is no event, with a carriage return, and
an event that no line feed ends; then the same with a byte behind it that no text has. -/
theorem render_unbounded_mixed :
    let layouts : List Layout := [⟨"text", ⟨"%msg", [⟨.message, {}⟩]⟩⟩,
      ⟨"level", ⟨"%level%n", [⟨.level, {}⟩, ⟨.lineSeparator, {}⟩]⟩⟩]
    let texts := ["\x7b\"message\":\"a\"\x7d", " ", "no", "\x7b\"level\":\"WARN\"\x7d"]
    let input := Utf8.encode
      "\x7b\"message\":\"a\"\x7d\n \nno\r\n\x7b\"level\":\"WARN\"\x7d"
    splitLines input = texts.map Utf8.encode ∧
    (render layouts none input).output =
      Utf8.encode "text: a\nlevel: INFO\ntext: \nlevel: WARN\n" ∧
    (render layouts none input).result = .ok ⟨2, 1⟩ ∧
    (render layouts none input).records.filterMap failedLine? = [3] ∧
    ∃ fault, (render layouts none (input ++ [0xFF])).result = .error (.invalidText fault) := by
  intro layouts texts input
  have htexts : splitLines input = texts.map Utf8.encode := by decide +kernel
  have hcount : count texts = ⟨2, 1⟩ := by decide +kernel
  have hbad : ∃ bytes ∈ splitLines (input ++ [0xFF]), ∀ s, Utf8.encode s ≠ bytes := by
    refine ⟨Utf8.encode "\x7b\"level\":\"WARN\"\x7d" ++ [0xFF], by decide +kernel, ?_⟩
    intro s hs
    rw [← Utf8.decode_eq_ok_iff] at hs
    cases hs
  obtain ⟨htranscribes, hresult, -⟩ := (render_unbounded layouts input).1 texts htexts
  refine ⟨htexts, ?_, ?_, ?_, ?_⟩
  · rw [htranscribes.output]
    decide +kernel
  · rw [hresult, hcount]
  · rw [htranscribes.failedLines]
    decide +kernel
  · obtain ⟨_, _, _, fault, -, -, -, hfault⟩ :=
      (render_unbounded layouts (input ++ [0xFF])).2 hbad
    exact ⟨fault, hfault⟩

end LogLayout.Stream
