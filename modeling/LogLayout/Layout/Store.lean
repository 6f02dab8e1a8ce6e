import LogLayout.Config
import LogLayout.Layout

namespace LogLayout

/-- Layouts by identifier. -/
abbrev LayoutStore := Dictionary Layout

namespace LayoutStore

/-- Puts a layout under its own identifier. -/
def add (store : LayoutStore) (l : Layout) : LayoutStore :=
  store.insert l.id l

/-- Compiles configured layouts one after the other; the last of an identifier is kept. -/
def ofConfig (registry : Registry) (config : Config) : LayoutStore × List LogRecord :=
  let compiled := config.layouts.map fun l => Layout.compile registry l.id l.pattern
  ((compiled.map (·.1)).foldl add .empty, compiled.flatMap (·.2))

/-- The layouts of a configuration in its order, each looked up by its identifier. -/
def inOrder (store : LayoutStore) (config : Config) : List Layout :=
  config.layouts.filterMap fun l => store.get? l.id

end LayoutStore

end LogLayout
