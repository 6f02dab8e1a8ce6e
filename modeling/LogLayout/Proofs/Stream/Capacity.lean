import LogLayout.Proofs.Stream.Transcript

namespace LogLayout.Stream

/-- An outcome that is another one as far as its output has room. -/
structure Outcome.CutTo (room : Nat) (whole o : Outcome) : Prop where
  output : o.output = whole.output.take room
  fits : whole.output.length ≤ room → o = whole
  stops : room < whole.output.length → o.result = .error .outputFull
  records : o.records <+: whole.records

section
variable {room : Nat} {whole o : Outcome}

theorem Outcome.cutTo_self (h : o.output = []) : o.CutTo room o where
  output := by rw [h, List.take_nil]
  fits _ := rfl
  stops hroom := by simp [h] at hroom
  records := List.prefix_rfl

theorem Outcome.CutTo.afterRecords (h : whole.CutTo room o) (records : List LogRecord) :
    (whole.afterRecords records).CutTo room (o.afterRecords records) where
  output := h.output
  fits hroom := by rw [h.fits hroom]
  stops := h.stops
  records := (List.prefix_append_right_inj records).mpr h.records

/-- What a result counts has no part in where the output stops. -/
theorem Outcome.CutTo.mapResult (h : whole.CutTo room o) (f : Summary → Summary) :
    CutTo room { whole with result := whole.result.map f }
      { o with result := o.result.map f } where
  output := h.output
  fits hroom := by rw [h.fits hroom]
  stops hroom := by
    rw [h.stops hroom]
    rfl
  records := h.records

/-- Bytes that fit leave less room for what comes after them. -/
theorem Outcome.CutTo.afterOutput {bytes : List UInt8} (hbytes : bytes.length ≤ room)
    (h : whole.CutTo (room - bytes.length) o) :
    (whole.afterOutput bytes).CutTo room (o.afterOutput bytes) where
  output := by
    rw [Outcome.afterOutput, Outcome.afterOutput, h.output, List.take_append,
      List.take_of_length_le hbytes]
  fits hroom := by
    rw [Outcome.afterOutput, List.length_append] at hroom
    rw [h.fits (by omega)]
  stops hroom := by
    rw [Outcome.afterOutput, List.length_append] at hroom
    exact h.stops (by omega)
  records := h.records

theorem Outcome.cutTo_of_lt {bytes : List UInt8} (hbytes : room < bytes.length)
    (record : LogRecord) :
    ((whole.afterOutput bytes).afterRecords [record]).CutTo room
      ⟨bytes.take room, .error .outputFull, [record]⟩ where
  output := (List.take_append_of_le_length (Nat.le_of_lt hbytes)).symm
  fits hroom := by
    rw [Outcome.afterRecords, Outcome.afterOutput, List.length_append] at hroom
    omega
  stops _ := rfl
  records := List.prefix_append [record] whole.records

end

/-- The layouts of one event stop where the room ends when all that comes after them does. -/
theorem renderEvent_cutTo (labelled : Bool) (e : Event) {next : Option Nat → Outcome}
    (hnext : ∀ room, (next none).CutTo room (next (some room))) (ls : List Layout) (room : Nat) :
    (renderEvent labelled e none next ls).CutTo room
      (renderEvent labelled e (some room) next ls) := by
  induction ls generalizing room with
  | nil => exact hnext room
  | cons l ls ih =>
    rw [renderEvent, renderEvent]
    obtain ⟨text, record⟩ := renderLine labelled l e
    -- What this layout leaves of the room is there for the next one, and then for `next`.
    by_cases hroom : (Utf8.encode text).length ≤ room
    · simp only [write, if_pos hroom]
      exact ((ih (room - (Utf8.encode text).length)).afterOutput hroom).afterRecords [record]
    · simp only [write, if_neg hroom]
      exact Outcome.cutTo_of_lt (Nat.lt_of_not_le hroom) record

theorem renderLines_cutTo (layouts : List Layout) (ls : List Line) (number room : Nat) :
    (renderLines layouts number none ls).CutTo room
      (renderLines layouts number (some room) ls) := by
  induction ls generalizing number room with
  | nil => exact Outcome.cutTo_self rfl
  | cons line ls ih =>
    rw [renderLines, renderLines]
    split
    · exact Outcome.cutTo_self rfl
    · split
      · exact ih (number + 1) room
      · exact ((ih (number + 1) room).mapResult _).afterRecords _
      · exact renderEvent_cutTo _ _ (fun room => (ih (number + 1) room).mapResult _) layouts room

/-- An output that takes `capacity` bytes gets the first ones of what an output without a bound
gets. The result is the same if that is all of them; if not, it is that the output was full,
whatever would have come later. -/
theorem render_capacity (layouts : List Layout) (capacity : Nat) (input : List UInt8) :
    let whole := render layouts none input
    let bounded := render layouts (some capacity) input
    bounded.output = whole.output.take (min capacity whole.output.length) ∧
    (whole.output.length ≤ capacity → bounded.result = whole.result) ∧
    (capacity < whole.output.length → bounded.result = .error .outputFull) ∧
    whole.result ≠ .error .outputFull ∧
    bounded.records <+: whole.records := by
  intro whole bounded
  have hcut : whole.CutTo capacity bounded := renderLines_cutTo layouts (lines input) 1 capacity
  refine ⟨?_, ?_, hcut.stops, renderLines_unbounded_ne_outputFull layouts 1 (lines input),
    hcut.records⟩
  · rw [hcut.output, List.take_eq_take_min]
  · intro hroom
    rw [hcut.fits hroom]

/-- A character that is cut in two, in front of a line that holds no text. -/
theorem render_capacity_inside_character :
    let layouts : List Layout := [⟨"text", ⟨"%msg", [⟨.message, {}⟩]⟩⟩]
    let input := Utf8.encode "\x7b\"message\":\"aé\"\x7d\n" ++ [0xFF]
    (render layouts none input).output = [0x61, 0xC3, 0xA9, 0x0A] ∧
    (render layouts (some 2) input).output = [0x61, 0xC3] ∧
    (render layouts (some 2) input).result = .error .outputFull ∧
    (render layouts (some 4) input).result = (render layouts none input).result := by
  intro layouts input
  have hwhole : (render layouts none input).output = [0x61, 0xC3, 0xA9, 0x0A] := by decide +kernel
  obtain ⟨houtput, -, hstops, -⟩ := render_capacity layouts 2 input
  obtain ⟨-, hfits, -⟩ := render_capacity layouts 4 input
  rw [hwhole] at houtput hstops hfits
  exact ⟨hwhole, houtput, hstops (by decide), hfits (by decide)⟩

end LogLayout.Stream
