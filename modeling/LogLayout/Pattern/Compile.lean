import LogLayout.Diagnostic
import LogLayout.Pattern.Token
import LogLayout.Registry

namespace LogLayout

/-- A compiled pattern with what was reported on the way. -/
structure Compiled where
  chain : Chain
  diagnostics : List Diagnostic

/-- A substitution from its text, which is compiled when it holds a marker. -/
def Substitution.build (text : String) (compile : hasMarker text = true → Compiled) :
    Substitution × List Diagnostic :=
  if h : hasMarker text = true then (.pattern (compile h).chain, (compile h).diagnostics)
  else (.literal text, [])

/-- An `equals` converter from its options. The test is compiled before the substitution. -/
def EqualsOptions.build (o : EqualsOptions) (compile : (p : String) → p ∈ o.patterns → Compiled) :
    Converter × List Diagnostic :=
  let test := compile o.test (by unfold patterns; split <;> simp)
  let (substitution, diagnostics) :=
    Substitution.build o.substitution (fun h => compile o.substitution (by simp [patterns, h]))
  (.equals test.chain o.expected substitution, test.diagnostics ++ diagnostics)

/-- A converter from its blueprint. -/
def Blueprint.build : (b : Blueprint) → ((p : String) → p ∈ b.patterns → Compiled) →
    Converter × List Diagnostic
  | .ready converter, _ => (converter, [])
  | .equals options, compile => options.build compile
  | .composed patterns make, compile =>
    let compiled := patterns.attach.map fun p => compile p.1 p.2
    (make (compiled.map (·.chain)), compiled.flatMap (·.diagnostics))

namespace Pattern

/-- What a token stands for: text, or a formatter. -/
inductive Piece where
  | text (cs : List Char)
  | formatter (f : Formatter)

/-- A chain in the making: the formatters that are finished, and text that waits to be joined by
the text that follows it. -/
structure Draft where
  formatters : List Formatter := []
  pending : String := ""

namespace Draft

/-- Makes a literal of the text that waits, if there is any. -/
def flush (d : Draft) : Draft :=
  if d.pending = "" then d
  else { formatters := d.formatters ++ [⟨.literal d.pending, {}⟩] }

/-- Adds a piece. Text joins the text that waits; a formatter comes after it. -/
def add (d : Draft) : Piece → Draft
  | .text cs => { d with pending := d.pending ++ String.ofList cs }
  | .formatter f => { d.flush with formatters := d.flush.formatters ++ [f] }

end Draft

/-- The formatters of pieces. Text between two of them becomes one literal. -/
def formattersOf (pieces : List Piece) : List Formatter :=
  (pieces.foldl Draft.add {}).flush.formatters

/-- What a specifier asks for. -/
structure Request where
  width : FieldWidth
  blueprint : Blueprint

/-- What the specifier at a byte position asks for, or why it is refused. The width is looked at
before the name, and the name before the options. -/
def Specifier.request (registry : Registry) (position : Nat) (s : Specifier) :
    Except Diagnostic Request :=
  match s.width.fieldWidth with
  | .error err => .error (.converterCreationFailed s.key position err.message)
  | .ok width =>
    if s.name.isEmpty then .error (.unrecognizedSpecifier "" position)
    else
      match registry.prepare s.key s.options with
      | .error (.unknownConverter _) => .error (.unrecognizedSpecifier s.key position)
      | .error err => .error (.converterCreationFailed s.key position err.message)
      | .ok blueprint => .ok { width, blueprint }

/-- What has to be compiled for a specifier is among its options. -/
theorem Specifier.mem_options_of_request {registry : Registry} {position : Nat} {s : Specifier}
    {r : Request} (h : s.request registry position = .ok r) {p : String}
    (hp : p ∈ r.blueprint.patterns) : p ∈ s.options := by
  unfold request at h
  split at h
  · simp at h
  · split at h
    · simp at h
    · split at h
      · simp at h
      · simp at h
      · rename_i hprepare
        simp only [Except.ok.injEq] at h
        subst h
        exact Registry.mem_of_mem_patterns hprepare hp

/-- Makes the formatter of a specifier at a byte position. A specifier that is refused stays as
text, and nothing in it is compiled. -/
def Specifier.compile (registry : Registry) (position : Nat) (s : Specifier)
    (compile : (p : String) → p ∈ s.options → Compiled) : Piece × List Diagnostic :=
  match hrequest : s.request registry position with
  | .error diagnostic => (.text s.source, [diagnostic])
  | .ok request =>
    let (converter, diagnostics) := request.blueprint.build fun p hp =>
      compile p (mem_options_of_request hrequest hp)
    (.formatter ⟨converter, request.width⟩,
      diagnostics ++ [.converterCreated s.key converter.name s.options.length])

/-- What a token at a byte position stands for. -/
def Token.compile (registry : Registry) (position : Nat) (t : Token)
    (compile : (p : String) → p ∈ t.options → Compiled) : Piece × List Diagnostic :=
  match t with
  | .char c => (.text [c], [])
  | .doubledMarker | .finalMarker => (.text [marker], [])
  | .specifier s => s.compile registry position compile

/-- The chain of some pieces, with what was reported for them. -/
def assemble (source : String) (pieces : List (Piece × List Diagnostic)) : Compiled where
  chain := ⟨source, formattersOf (pieces.map (·.1))⟩
  diagnostics := pieces.flatMap (·.2)

/-- Compiles a pattern with the converters of a registry. Every pattern compiles: a specifier whose
converter cannot be made is reported and stays as the text that it is. -/
def compile (registry : Registry) (pattern : String) : Compiled :=
  assemble pattern <|
    (locate 0 (tokens registry.isName pattern.toList)).attach.map fun ⟨(position, token), _hmem⟩ =>
      token.compile registry position fun p _hp => compile registry p
termination_by pattern.length
decreasing_by
  have hlength := length_lt_of_mem_tokens (mem_of_mem_locate _hmem) _hp
  rwa [String.length_toList] at hlength

/-- A pattern is compiled token by token. -/
theorem compile_eq (registry : Registry) (pattern : String) :
    compile registry pattern =
      assemble pattern ((locate 0 (tokens registry.isName pattern.toList)).map fun x =>
        x.2.compile registry x.1 fun p _ => compile registry p) := by
  rw [compile]
  congr 1
  exact List.attach_map_val (f := fun x : Nat × Token =>
    x.2.compile registry x.1 fun p _ => compile registry p)

end Pattern

/-- Makes a converter of a kind. The patterns among its options are compiled with the registry
that the converter is made for. -/
def ConverterKind.create (kind : ConverterKind) (registry : Registry) (options : List String) :
    Except ConverterError (Converter × List Diagnostic) := do
  let blueprint ← kind.prepare options
  return blueprint.build fun p _ => Pattern.compile registry p

namespace Registry

/-- Makes the converter under a key. -/
def create (registry : Registry) (key : String) (options : List String) :
    Except ConverterError (Converter × List Diagnostic) :=
  match registry.get? key with
  | some kind => kind.create registry options
  | none => .error (.unknownConverter key)

end Registry

end LogLayout
