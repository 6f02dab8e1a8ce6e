import LogLayout.Proofs.Checked.Specifier
import LogLayout.Proofs.Pattern.Values

namespace LogLayout

/-- Makes a converter, with the patterns inside it compiled. -/
def Blueprint.build? (compile : String → Option Compiled) :
    Blueprint → Option (Converter × List Diagnostic)
  | .ready converter => return (converter, [])
  | .equals options => do
    let test ← compile options.test
    if hasMarker options.substitution then
      let substitution ← compile options.substitution
      return (.equals test.chain options.expected (.pattern substitution.chain),
        test.diagnostics ++ substitution.diagnostics)
    else
      return (.equals test.chain options.expected (.literal options.substitution),
        test.diagnostics)
  | .composed patterns make => do
    let compiled ← patterns.mapM compile
    return (make (compiled.map (·.chain)), compiled.flatMap (·.diagnostics))

namespace Pattern

/-- Makes the formatter of a specifier between a byte offset and the cursor. One that is refused
is cut out of the pattern again. -/
def Specifier.compile? (registry : Registry) (compile : String → Option Compiled) (start : Nat)
    (s : Specifier) (c : Cursor) : Option (Piece × List Diagnostic) := do
  match s.request registry start with
  | .error diagnostic =>
    return (.text (← Text.slice? c.source start c.position).toList, [diagnostic])
  | .ok request =>
    let (converter, reports) ← request.blueprint.build? compile
    return (.formatter ⟨converter, request.width⟩,
      reports ++ [.converterCreated s.key converter.name s.options.length])

/-- Compiles the token that starts with the character in front of the cursor. -/
def Token.compile? (registry : Registry) (compile : String → Option Compiled) (ch : Char)
    (c : Cursor) : Option ((Piece × List Diagnostic) × Cursor) := do
  if ch = marker then
    let start ← Text.sub? c.position ch.utf8Size
    match ← c.peek? with
    | none => return ((.text [marker], []), c)
    | some next =>
      if next = marker then
        let (_, c) ← c.bump?
        return ((.text [marker], []), c)
      else
        let (s, c) ← c.specifier? registry
        return (← s.compile? registry compile start c, c)
  else return ((.text [ch], []), c)

/-- How far the compiler has come in a pattern. -/
structure Progress where
  cursor : Cursor
  draft : Draft := {}
  diagnostics : List Diagnostic := []

/-- Compiles one token more if there is one. -/
def Progress.turn? (registry : Registry) (compile : String → Option Compiled) (p : Progress) :
    Option (Turn Progress Compiled) := do
  match ← p.cursor.bump? with
  | (none, c) => return .done ⟨⟨c.source, p.draft.flush.formatters⟩, p.diagnostics⟩
  | (some ch, c) =>
    let ((piece, reports), c) ← Token.compile? registry compile ch c
    return .again ⟨c, p.draft.add piece, p.diagnostics ++ reports⟩

/-- Compiles a pattern. The patterns inside it have to be shorter, as compiling them could go on
without end otherwise. -/
def compile? (registry : Registry) (pattern : String) : Option Compiled :=
  loop? (·.cursor.left)
    (Progress.turn? registry fun part =>
      if part.length < pattern.length then compile? registry part else none)
    { cursor := ⟨pattern, 0⟩ }
termination_by pattern.length

/-- What a pattern is compiled to in the end when some pieces still have to be added to a chain in
the making. -/
def Draft.finish (draft : Draft) (diagnostics : List Diagnostic) (source : String)
    (pieces : List (Piece × List Diagnostic)) : Compiled where
  chain := ⟨source, ((pieces.map (·.1)).foldl Draft.add draft).flush.formatters⟩
  diagnostics := diagnostics ++ pieces.flatMap (·.2)

theorem Draft.finish_nil (draft : Draft) (diagnostics : List Diagnostic) (source : String) :
    draft.finish diagnostics source [] = ⟨⟨source, draft.flush.formatters⟩, diagnostics⟩ := by
  rw [finish, List.flatMap_nil, List.append_nil]
  rfl

theorem Draft.finish_cons (draft : Draft) (diagnostics : List Diagnostic) (source : String)
    (piece : Piece × List Diagnostic) (pieces : List (Piece × List Diagnostic)) :
    draft.finish diagnostics source (piece :: pieces) =
      (draft.add piece.1).finish (diagnostics ++ piece.2) source pieces := by
  simp only [finish, List.map_cons, List.foldl_cons, List.flatMap_cons, List.append_assoc]

/-- The pieces of text that starts at a byte offset, with what is reported for them. -/
def pieces (registry : Registry) (offset : Nat) (cs : List Char) :
    List (Piece × List Diagnostic) :=
  (locate offset (tokens registry.isName cs)).map fun x =>
    x.2.compile registry x.1 fun p _ => compile registry p

theorem pieces_nil (registry : Registry) (offset : Nat) : pieces registry offset [] = [] := by
  rw [pieces, tokens]
  rfl

theorem pieces_cons (registry : Registry) (offset : Nat) (c : Char) (cs : List Char) :
    pieces registry offset (c :: cs) =
      (Token.read registry.isName c cs).1.compile registry offset (fun p _ => compile registry p) ::
        pieces registry (offset + Text.byteSize (Token.read registry.isName c cs).1.source)
          (Token.read registry.isName c cs).2 := by
  rw [pieces, tokens]
  rfl

theorem compile_eq_finish (registry : Registry) (pattern : String) :
    compile registry pattern =
      ({} : Draft).finish [] pattern (pieces registry 0 pattern.toList) := by
  rw [compile_eq]
  rfl

section Spec

variable {registry : Registry} {nested : String → Option Compiled}

theorem mapM_nested {patterns : List String}
    (h : ∀ p ∈ patterns, nested p = some (compile registry p)) :
    patterns.mapM nested = some (patterns.map (compile registry)) := by
  induction patterns with
  | nil => rfl
  | cons p patterns ih =>
    have hrest := ih fun q hq => h q (List.mem_cons_of_mem p hq)
    rw [List.mapM_cons, h p List.mem_cons_self, hrest]
    rfl

/-- A converter is made when the patterns inside it compile. -/
theorem build?_eq_some {b : Blueprint}
    (h : ∀ p ∈ b.patterns, nested p = some (compile registry p)) :
    b.build? nested = some (b.build fun p _ => compile registry p) := by
  cases b with
  | ready converter => rfl
  | equals options =>
    rw [Blueprint.patterns, EqualsOptions.patterns] at h
    by_cases hmarker : hasMarker options.substitution = true
    · rw [if_pos hmarker] at h
      have htest := h options.test (by simp)
      have hsubstitution := h options.substitution (by simp)
      simp [Blueprint.build?, Blueprint.build, EqualsOptions.build, Substitution.build, hmarker,
        htest, hsubstitution]
    · rw [if_neg hmarker] at h
      have htest := h options.test (by simp)
      simp [Blueprint.build?, Blueprint.build, EqualsOptions.build, Substitution.build, hmarker,
        htest]
  | composed patterns make =>
    have hpatterns : patterns.mapM nested = some (patterns.map (compile registry)) :=
      mapM_nested h
    have hattach : (patterns.attach.map fun p => compile registry p.1) =
        patterns.map (compile registry) := List.attach_map_val
    simp [Blueprint.build?, Blueprint.build, hpatterns]

/-- A specifier is made, or cut out of the pattern, when the patterns among its options compile. -/
theorem Specifier.compile?_between {s : Specifier} (before rest : List Char)
    (h : ∀ p ∈ s.options, nested p = some (Pattern.compile registry p)) :
    s.compile? registry nested (Text.byteSize before) (Cursor.between (before ++ s.source) rest) =
      some (s.compile registry (Text.byteSize before) fun p _ => Pattern.compile registry p) := by
  rw [Specifier.compile?]
  cases hrequest : s.request registry (Text.byteSize before) with
  | error diagnostic =>
    have hslice := Text.slice?_ofList before s.source rest
    rw [Specifier.compile_of_error _ hrequest]
    simp only [Cursor.between, hslice, Option.bind_eq_bind, Option.bind_some, Option.pure_def,
      String.toList_ofList]
  | ok request =>
    have hbuild := build?_eq_some fun p hp => h p (Specifier.mem_options_of_request hrequest hp)
    rw [Specifier.compile_of_ok _ hrequest]
    simp only [hbuild, Option.bind_eq_bind, Option.bind_some, Option.pure_def]

/-- The token that starts with a character is made when the patterns among its options compile,
and the cursor ends behind it. -/
theorem Token.compile?_between (before : List Char) (ch : Char) (rest : List Char)
    (h : ∀ p ∈ (Token.read registry.isName ch rest).1.options,
      nested p = some (Pattern.compile registry p)) :
    Token.compile? registry nested ch (Cursor.between (before ++ [ch]) rest) =
      some ((Token.read registry.isName ch rest).1.compile registry (Text.byteSize before)
          (fun p _ => Pattern.compile registry p),
        Cursor.between (before ++ (Token.read registry.isName ch rest).1.source)
          (Token.read registry.isName ch rest).2) := by
  by_cases hmarker : ch = marker
  · have hstart : Text.sub? (Cursor.between (before ++ [ch]) rest).position ch.utf8Size =
        some (Text.byteSize before) := by
      simp only [Cursor.between, Text.byteSize_append, Text.byteSize, Nat.add_zero,
        Text.sub?_add_right]
    subst hmarker
    rw [Token.compile?, if_pos rfl, hstart]
    simp only [Cursor.peek?_between, Option.bind_eq_bind, Option.bind_some]
    cases rest with
    | nil =>
      rw [Token.read_final]
      rfl
    | cons next rest =>
      by_cases hnext : next = marker
      · subst hnext
        rw [Token.read_doubled]
        simp [Cursor.bump?_between_cons, Token.compile, Token.source]
      · have hspecifier : ∃ d ∈ (next :: rest).head?, d ≠ marker := ⟨next, rfl, hnext⟩
        rw [Token.read_specifier _ hspecifier] at h ⊢
        generalize hread : Specifier.read registry.isName (next :: rest) = read at h ⊢
        obtain ⟨s, after⟩ := read
        have hsource : before ++ [marker] ++ s.body = before ++ s.source := by
          rw [s.source_eq_marker_cons, List.append_assoc, List.singleton_append]
        simp only [List.head?_cons, if_neg hnext, Cursor.specifier?_between, hread, hsource,
          Option.bind_some, Specifier.compile?_between before after h, Option.pure_def,
          Token.source]
        rfl
  · rw [Token.compile?, if_neg hmarker, Token.read_char _ hmarker]
    rfl

theorem turn?_between {compiled : Piece × List Diagnostic} {c : Cursor} (before : List Char)
    {ch : Char} (rest : List Char) (draft : Draft) (diagnostics : List Diagnostic)
    (h : Token.compile? registry nested ch (Cursor.between (before ++ [ch]) rest) =
      some (compiled, c)) :
    Progress.turn? registry nested ⟨Cursor.between before (ch :: rest), draft, diagnostics⟩ =
      some (.again ⟨c, draft.add compiled.1, diagnostics ++ compiled.2⟩) := by
  rw [Progress.turn?, Cursor.bump?_between_cons]
  simp only [Option.bind_eq_bind, Option.bind_some, h, Option.pure_def]

/-- The compiler adds the pieces of what stands behind the cursor one after the other. -/
theorem loop?_turn?_between (before rest : List Char) (draft : Draft)
    (diagnostics : List Diagnostic)
    (h : ∀ p : String, p.length < rest.length → nested p = some (compile registry p)) :
    loop? (·.cursor.left) (Progress.turn? registry nested)
        ⟨Cursor.between before rest, draft, diagnostics⟩ =
      some (draft.finish diagnostics (String.ofList (before ++ rest))
        (pieces registry (Text.byteSize before) rest)) := by
  -- The induction is on the characters that are left, a token of them at a time.
  fun_induction tokens registry.isName rest generalizing before draft diagnostics with
  | case1 =>
    apply loop?_of_done
    rw [Progress.turn?, Cursor.bump?_between_nil, pieces_nil, Draft.finish_nil]
    rfl
  | case2 ch rest ih =>
    have hlength := Token.length_rest_lt registry.isName ch rest
    have htoken := Token.compile?_between before ch rest fun p hp => h p (by
      have := Token.length_lt_of_mem_options hp
      rw [List.length_cons]
      omega)
    have hstep := ih (before ++ (Token.read registry.isName ch rest).1.source)
    rw [List.append_assoc, Token.source_append_rest, Text.byteSize_append] at hstep
    have hleft := Cursor.left_between_lt before (Token.read registry.isName ch rest).2
      (List.ne_nil_of_length_pos (Token.length_source_pos (Token.read registry.isName ch rest).1))
    rw [Token.source_append_rest] at hleft
    rw [loop?_of_again (turn?_between before rest draft diagnostics htoken) hleft, pieces_cons,
      Draft.finish_cons]
    exact hstep _ _ fun p hp => h p (hp.trans hlength)

end Spec

/-- Compiling a pattern by a cursor is defined throughout, and gives what compiling it token by
token does. -/
theorem compile?_eq_some (registry : Registry) (pattern : String) :
    compile? registry pattern = some (compile registry pattern) := by
  have hstart : (⟨pattern, 0⟩ : Cursor) = Cursor.between [] pattern.toList := by
    rw [Cursor.between, List.nil_append, String.ofList_toList, Text.byteSize]
  have hparts : ∀ part : String, part.length < pattern.toList.length →
      (if part.length < pattern.length then compile? registry part else none) =
        some (compile registry part) := by
    intro part hpart
    rw [String.length_toList] at hpart
    rw [if_pos hpart]
    exact compile?_eq_some registry part
  rw [compile?, hstart, loop?_turn?_between [] pattern.toList {} [] hparts, compile_eq_finish,
    List.nil_append, String.ofList_toList, Text.byteSize]
termination_by pattern.length

end Pattern

end LogLayout
