import LogLayout.Proofs.Text.Utf8
import LogLayout.Stream

namespace LogLayout.Stream

/-- The byte that may stand before a line feed. -/
def carriageReturn : UInt8 := 0x0D

/-- Bytes without one carriage return at their end. -/
def withoutReturn (bytes : List UInt8) : List UInt8 :=
  if bytes.getLast? = some carriageReturn then bytes.dropLast else bytes

/-- The pieces of an input between its line feeds, each without one carriage return before the
line feed. The last piece, which no line feed ends, stays as it is and counts unless it is empty. -/
def splitLines (input : List UInt8) : List (List UInt8) :=
  let pieces := input.splitOn lineFeed
  let last := pieces.getLastD []
  pieces.dropLast.map withoutReturn ++ if last = [] then [] else [last]

/-- The bytes of a line as they are read. -/
def Line.payload (line : Line) : List UInt8 :=
  if line.ended then withoutReturn line.bytes else line.bytes

theorem lines_eq_splitOn (input : List UInt8) :
    lines input =
      (input.splitOn lineFeed).dropLast.map (⟨·, true⟩) ++
        if (input.splitOn lineFeed).getLastD [] = [] then []
        else [⟨(input.splitOn lineFeed).getLastD [], false⟩] := by
  induction input with
  | nil => simp [lines]
  | cons b rest ih =>
    rw [lines, ih, List.splitOn_cons_eq_if_modifyHead]
    cases hpieces : rest.splitOn lineFeed with
    | nil => exact (List.splitOn_ne_nil lineFeed rest hpieces).elim
    | cons piece pieces =>
      by_cases hb : b = lineFeed
      · simp [hb]
      · cases pieces with
        | nil => by_cases hpiece : piece = [] <;> simp [hb, hpiece]
        | cons next pieces => simp [hb]

theorem map_payload_lines (input : List UInt8) :
    (lines input).map Line.payload = splitLines input := by
  rw [lines_eq_splitOn, splitLines, List.map_append, List.map_map]
  split <;> rfl

theorem lines_ne_nil (b : UInt8) (rest : List UInt8) : lines (b :: rest) ≠ [] := by
  rw [lines]
  split
  · simp
  · split <;> simp

/-- Whether an input ends where a line ends, so that what is put behind it starts a line. -/
def EndsLine (input : List UInt8) : Prop := input = [] ∨ input.getLast? = some lineFeed

theorem lines_append {input added : List UInt8} (h : EndsLine input) :
    lines (input ++ added) = lines input ++ lines added := by
  induction input with
  | nil => rfl
  | cons b rest ih =>
    have hlast := h.resolve_left (by simp)
    cases rest with
    | nil =>
      obtain rfl : b = lineFeed := by simpa using hlast
      simp [lines]
    | cons next rest =>
      -- The rest still ends a line, so `b` stands in its first line or ends a line by itself.
      have hrest := ih (.inr (by simpa using hlast))
      rw [List.cons_append, lines, hrest, lines.eq_2 b]
      cases hlines : lines (next :: rest) with
      | nil => exact (lines_ne_nil next rest hlines).elim
      | cons line later => split <;> rfl

/-- Bytes without a line feed stand at the start of a line. -/
theorem lines_append_of_notMem {start rest : List UInt8} (hne : start ≠ [])
    (h : lineFeed ∉ start) :
    lines (start ++ rest) =
      match lines rest with
      | [] => [⟨start, false⟩]
      | line :: later => { line with bytes := start ++ line.bytes } :: later := by
  induction start with
  | nil => exact (hne rfl).elim
  | cons b start ih =>
    obtain ⟨hb, hstart⟩ := List.ne_and_not_mem_of_not_mem_cons h
    rw [List.cons_append, lines, if_neg hb.symm]
    cases start with
    | nil =>
      rw [List.nil_append]
      cases lines rest <;> rfl
    | cons next start =>
      rw [ih (by simp) hstart]
      cases lines rest <;> rfl

theorem lines_line_append {line rest : List UInt8} (h : lineFeed ∉ line) :
    lines (line ++ lineFeed :: rest) = ⟨line, true⟩ :: lines rest := by
  have hfeed : lines (lineFeed :: rest) = ⟨[], true⟩ :: lines rest := by rw [lines, if_pos rfl]
  by_cases hline : line = []
  · rw [hline, List.nil_append, hfeed]
  · simp [lines_append_of_notMem hline h, hfeed]

theorem dropReturn_push_return (s : String) : dropReturn (s.push '\r') = s := by
  simp [dropReturn]

theorem withoutReturn_encode (s : String) :
    withoutReturn (Utf8.encode s) = Utf8.encode (dropReturn s) := by
  induction s using String.push_induction with
  | empty => rfl
  | push s c =>
    have hlast : (Utf8.encode (s.push c)).getLast? = some carriageReturn ↔ c = '\r' := by
      rw [Utf8.getLast?_encode_push_eq_some_iff (by decide)]
      exact @Char.toNat_inj c '\r'
    by_cases hc : c = '\r'
    · rw [withoutReturn, if_pos (hlast.mpr hc), hc, dropReturn_push_return, Utf8.encode_push]
      exact List.dropLast_concat
    · rw [withoutReturn, if_neg (mt hlast.mp hc)]
      simp [dropReturn, hc]

theorem exists_dropReturn_eq_iff {bytes : List UInt8} {s : String} :
    (∃ t, Utf8.encode t = bytes ∧ dropReturn t = s) ↔ Utf8.encode s = withoutReturn bytes := by
  constructor
  · rintro ⟨t, rfl, rfl⟩
    exact (withoutReturn_encode t).symm
  · intro h
    by_cases hreturn : bytes.getLast? = some carriageReturn
    · rw [withoutReturn, if_pos hreturn] at h
      obtain ⟨start, rfl⟩ := List.getLast?_eq_some_iff.mp hreturn
      rw [List.dropLast_concat] at h
      refine ⟨s.push '\r', ?_, dropReturn_push_return s⟩
      rw [Utf8.encode_push, h]
      rfl
    · -- The text is the witness itself, which has no return that could be dropped.
      rw [withoutReturn, if_neg hreturn] at h
      have hsame := withoutReturn_encode s
      rw [h, withoutReturn, if_neg hreturn, ← h] at hsame
      exact ⟨s, h, (Utf8.encode_injective hsame).symm⟩

/-- A line is read as the text that its bytes are in UTF-8. -/
theorem Line.text_eq_ok_iff {line : Line} {s : String} :
    line.text = .ok s ↔ Utf8.encode s = line.payload := by
  obtain ⟨bytes, ended⟩ := line
  have hread : Line.text ⟨bytes, ended⟩ = .ok s ↔
      ∃ t, Utf8.encode t = bytes ∧ (if ended then dropReturn t else t) = s := by
    simp only [Line.text, ← Utf8.decode_eq_ok_iff]
    cases Utf8.decode bytes <;> simp [Except.map]
  rw [hread]
  cases ended with
  | false => simp [Line.payload]
  | true => simpa [Line.payload] using exists_dropReturn_eq_iff

theorem Line.exists_text_eq_error_iff {line : Line} :
    (∃ fault, line.text = .error fault) ↔ ∀ s, Utf8.encode s ≠ line.payload := by
  constructor
  · rintro ⟨fault, hfault⟩ s hs
    rw [Line.text_eq_ok_iff.mpr hs] at hfault
    cases hfault
  · intro h
    cases htext : line.text with
    | error fault => exact ⟨fault, rfl⟩
    | ok s => exact (h s (Line.text_eq_ok_iff.mp htext)).elim

theorem map_text_eq_iff {ls : List Line} {texts : List String} :
    ls.map Line.text = texts.map .ok ↔ ls.map Line.payload = texts.map Utf8.encode := by
  induction ls generalizing texts with
  | nil => cases texts <;> simp
  | cons line ls ih =>
    cases texts with
    | nil => simp
    | cons s texts =>
      rw [List.map_cons, List.map_cons, List.map_cons, List.map_cons, List.cons_eq_cons,
        List.cons_eq_cons, ih, Line.text_eq_ok_iff, eq_comm (a := Utf8.encode s)]

/-- Lines can be read up to the first that holds no text, or all of them. -/
theorem exists_read (ls : List Line) :
    ∃ (read : List Line) (texts : List String) (rest : List Line), ls = read ++ rest ∧
      read.map Line.text = texts.map .ok ∧
      (rest = [] ∨ ∃ bad later fault, rest = bad :: later ∧ bad.text = .error fault) := by
  induction ls with
  | nil => exact ⟨[], [], [], rfl, rfl, .inl rfl⟩
  | cons line ls ih =>
    cases htext : line.text with
    | error fault => exact ⟨[], [], _, rfl, rfl, .inr ⟨line, ls, fault, rfl, htext⟩⟩
    | ok s =>
      obtain ⟨read, texts, rest, rfl, hread, hrest⟩ := ih
      refine ⟨line :: read, s :: texts, rest, rfl, ?_, hrest⟩
      rw [List.map_cons, List.map_cons, htext, hread]

end LogLayout.Stream
