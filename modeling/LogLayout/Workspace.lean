import LogLayout.Layout.Store

namespace LogLayout

/-- The state that steps work on. A layout keeps the converters that it was compiled with, whatever
is registered after it. -/
structure Workspace where
  registry : Registry := .builtins
  layouts : LayoutStore := .empty
  event : Event := {}
  buffer : String := ""

/-- One step on a workspace. -/
inductive Step where
  | register (key : String) (kind : ConverterKind)
  | listKeys
  | hasKey (key : String)
  /-- Makes a converter and renders the event with it. -/
  | create (key : String) (options : List String)
  | insertLayout (id pattern : String)
  | replaceLayouts (config : Config)
  | clearLayouts
  | removeLayout (id : String)
  | findLayout (id : String)
  | hasLayout (id : String)
  | listLayouts
  | setEvent (event : Event)
  /-- Starts a new event from the name of its level. -/
  | newEvent (logger level message : String)
  | setThread (thread : String)
  | setContext (key value : String)
  | format (id : String)
  /-- Renders the event with a layout without touching the buffer. -/
  | formatFresh (id : String)
  /-- Compiles a pattern and renders the event with it. -/
  | render (pattern : String)
  | push (text : String)
  /-- Adds a field brought to a width. -/
  | pushField (width : FieldWidth) (field : String)
  | clearBuffer

/-- What a step answers. -/
inductive Answer where
  | number (n : Nat)
  | flag (b : Bool)
  | text (s : String)
  | nothing
  /-- The keys of a collection. -/
  | keys (keys : List String)
  | layout (l : Layout)
  | event (e : Event)
  /-- The converter was refused. -/
  | refused (error : ConverterError)
  /-- The text names no level. -/
  | unknownLevel (text : String)

namespace Workspace

/-- Does one step. A step that fails changes nothing. -/
def step (w : Workspace) : Step → Workspace × Answer × List LogRecord
  | .register key kind =>
    let registry := w.registry.insert key kind
    ({ w with registry }, .number registry.size, [])
  | .listKeys => (w, .keys w.registry.keys, [])
  | .hasKey key => (w, .flag (w.registry.contains key), [])
  | .create key options =>
    match w.registry.create key options with
    | .error error => (w, .refused error, [])
    | .ok (converter, diagnostics) =>
      ({ w with buffer := converter.appendTo w.event w.buffer }, .text converter.name,
        diagnostics.map ({ diagnostic := · }))
  | .insertLayout id pattern =>
    let (layout, records) := Layout.compile w.registry id pattern
    let layouts := LayoutStore.add w.layouts layout
    ({ w with layouts }, .number layouts.size, records)
  | .replaceLayouts config =>
    let (layouts, records) := LayoutStore.ofConfig w.registry config
    ({ w with layouts }, .number layouts.size, records)
  | .clearLayouts => ({ w with layouts := .empty }, .flag true, [])
  | .removeLayout id =>
    ({ w with layouts := w.layouts.erase id }, .flag (w.layouts.contains id), [])
  | .findLayout id =>
    match w.layouts.get? id with
    | some layout => (w, .layout layout, [])
    | none => (w, .nothing, [])
  | .hasLayout id => (w, .flag (w.layouts.contains id), [])
  | .listLayouts => (w, .keys w.layouts.keys, [])
  | .setEvent event => ({ w with event }, .event event, [])
  | .newEvent logger level message =>
    match Level.ofText? level with
    | some level =>
      let event := { logger, level, message }
      ({ w with event }, .event event, [])
    | none => (w, .unknownLevel level, [])
  | .setThread thread =>
    let event := w.event.withThread thread
    ({ w with event }, .event event, [])
  | .setContext key value =>
    let event := w.event.withContext key value
    ({ w with event }, .event event, [])
  | .format id =>
    match w.layouts.get? id with
    | some layout =>
      let (buffer, record) := layout.appendTo w.event w.buffer
      ({ w with buffer }, .number buffer.utf8ByteSize, [record])
    | none => (w, .nothing, [])
  | .formatFresh id =>
    match w.layouts.get? id with
    | some layout =>
      let (text, record) := layout.format w.event
      (w, .text text, [record])
    | none => (w, .nothing, [])
  | .render pattern =>
    let compiled := Pattern.compile w.registry pattern
    ({ w with buffer := compiled.chain.appendTo w.event w.buffer }, .number compiled.chain.length,
      compiled.diagnostics.map ({ diagnostic := · }))
  | .push text =>
    let buffer := w.buffer ++ text
    ({ w with buffer }, .number buffer.utf8ByteSize, [])
  | .pushField width field =>
    let start := w.buffer.utf8ByteSize
    let buffer := width.fitFrom start (w.buffer ++ field)
    ({ w with buffer }, .number (buffer.utf8ByteSize - start), [])
  | .clearBuffer => ({ w with buffer := "" }, .number 0, [])

/-- Does steps in order. Gives each step's answer with the buffer that it leaves. -/
def run (w : Workspace) : List Step → List (Answer × String) × List LogRecord
  | [] => ([], [])
  | s :: rest =>
    let (next, answer, records) := w.step s
    let (answers, later) := next.run rest
    ((answer, next.buffer) :: answers, records ++ later)

end Workspace

end LogLayout
