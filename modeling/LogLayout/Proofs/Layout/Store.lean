import LogLayout.Layout.Store
import LogLayout.Proofs.Config.Validation
import LogLayout.Proofs.Dictionary
import Mathlib.Data.List.Dedup

namespace LogLayout

/-- A configured layout, compiled. -/
def LayoutConfig.layout (registry : Registry) (l : LayoutConfig) : Layout :=
  ⟨l.id, (Pattern.compile registry l.pattern).chain⟩

theorem Config.nodup_ids_of_validate {config : Config} (h : config.validate = .ok config) :
    (config.layouts.map (·.id)).Nodup :=
  ((validate_eq_ok_iff config).mp h).distinct

namespace LayoutStore

theorem get?_foldl_add (layouts : List Layout) (store : LayoutStore) (id : String) :
    (layouts.foldl add store).get? id =
      (layouts.reverse.find? (·.id = id)).or (store.get? id) := by
  have hentries : layouts.foldl add store =
      (layouts.map fun l => (l.id, l)).foldl (fun d e => d.insert e.1 e.2) store := by
    rw [List.foldl_map]
    rfl
  rw [hentries, Dictionary.get?_foldl_insert, Dictionary.last?, ← List.map_reverse, List.find?_map,
    Option.map_map]
  simp [Function.comp_def]

section Config

variable (registry : Registry) (config : Config)

/-- What is found under an identifier is the last layout that is configured with it. -/
theorem get?_ofConfig (id : String) :
    (ofConfig registry config).1.get? id =
      (config.layouts.reverse.find? (·.id = id)).map (·.layout registry) := by
  have hcompiled : (config.layouts.map fun l => Layout.compile registry l.id l.pattern).map (·.1) =
      config.layouts.map (·.layout registry) := by
    rw [List.map_map]
    rfl
  rw [ofConfig, hcompiled, get?_foldl_add, ← List.map_reverse, List.find?_map,
    Dictionary.get?_empty, Option.or_none]
  rfl

theorem isSome_get?_ofConfig_iff (id : String) :
    ((ofConfig registry config).1.get? id).isSome = true ↔ ∃ l ∈ config.layouts, l.id = id := by
  rw [get?_ofConfig, Option.isSome_map, List.find?_isSome]
  simp

theorem keys_ofConfig_perm :
    (ofConfig registry config).1.keys.Perm (config.layouts.map (·.id)).dedup := by
  rw [List.perm_ext_iff_of_nodup (Dictionary.nodup_keys _) (List.nodup_dedup _)]
  intro id
  rw [Dictionary.mem_keys_iff, isSome_get?_ofConfig_iff, List.mem_dedup, List.mem_map]

/-- There are as many layouts as there are identifiers. -/
theorem size_ofConfig :
    (ofConfig registry config).1.size = (config.layouts.map (·.id)).dedup.length := by
  rw [← (keys_ofConfig_perm registry config).length_eq, Dictionary.length_keys]

variable {config}

/-- Under a configured identifier stands a layout that is configured with it. -/
theorem exists_get?_ofConfig {l : LayoutConfig} (hl : l ∈ config.layouts) :
    ∃ last ∈ config.layouts, last.id = l.id ∧
      (ofConfig registry config).1.get? l.id = some (last.layout registry) := by
  have hsome := (isSome_get?_ofConfig_iff registry config l.id).mpr ⟨l, hl, rfl⟩
  rw [get?_ofConfig, Option.isSome_map] at hsome
  obtain ⟨last, hlast⟩ := Option.isSome_iff_exists.mp hsome
  have hid : last.id = l.id := by simpa using List.find?_some hlast
  have hmem : last ∈ config.layouts := by simpa using List.mem_of_find?_eq_some hlast
  exact ⟨last, hmem, hid, by rw [get?_ofConfig, hlast, Option.map_some]⟩

/-- The looked-up layouts have the configured identifiers, in order and without a gap. -/
theorem map_id_inOrder_ofConfig :
    ((ofConfig registry config).1.inOrder config).map (·.id) = config.layouts.map (·.id) := by
  rw [inOrder, List.map_filterMap, ← List.filterMap_eq_map]
  apply List.filterMap_congr
  intro l hl
  obtain ⟨last, -, hid, hget⟩ := exists_get?_ofConfig registry hl
  rw [hget]
  exact congrArg some hid

/-- With identifiers that differ, each layout is looked up as it is configured. -/
theorem inOrder_ofConfig_of_nodup (hids : (config.layouts.map (·.id)).Nodup) :
    (ofConfig registry config).1.inOrder config = config.layouts.map (·.layout registry) := by
  rw [inOrder, ← List.filterMap_eq_map]
  apply List.filterMap_congr
  intro l hl
  obtain ⟨last, hmem, hid, hget⟩ := exists_get?_ofConfig registry hl
  rw [hget, List.inj_on_of_nodup_map hids hmem hl hid]
  rfl

end Config

/-- A store that is filled from a configuration holds a layout for every configured identifier, the
last that is configured with it, so a look-up of all identifiers in order has no gaps. When nothing
is wrong with the configuration no layout takes the place of another: the store has all of them, and
the look-up gives them in order, each compiled from its own pattern. -/
theorem ofConfig_loses_no_layout (registry : Registry) (config : Config) :
    let store := (ofConfig registry config).1
    (config.validate = .ok config →
      store.size = config.layouts.length ∧
      store.inOrder config =
        config.layouts.map fun l => ⟨l.id, (Pattern.compile registry l.pattern).chain⟩) ∧
    store.size = (config.layouts.map (·.id)).dedup.length ∧
    (∀ id, (store.get? id).isSome = true ↔ ∃ l ∈ config.layouts, l.id = id) ∧
    (∀ id, store.get? id = (config.layouts.reverse.find? (·.id = id)).map fun l =>
      ⟨l.id, (Pattern.compile registry l.pattern).chain⟩) ∧
    (store.inOrder config).map (·.id) = config.layouts.map (·.id) := by
  intro store
  refine ⟨?_, size_ofConfig registry config, isSome_get?_ofConfig_iff registry config,
    get?_ofConfig registry config, map_id_inOrder_ofConfig registry⟩
  intro hvalid
  have hids := Config.nodup_ids_of_validate hvalid
  refine ⟨?_, inOrder_ofConfig_of_nodup registry hids⟩
  rw [size_ofConfig, hids.dedup, List.length_map]

/-- Two layouts whose identifiers are not in the order in which the store lists them. -/
theorem ofConfig_loses_no_layout_unsorted :
    let config : Config := ⟨[⟨"short", "%p", none⟩, ⟨"long", "%d %p", some "dated"⟩]⟩
    config.validate = .ok config ∧
    (ofConfig .builtins config).1.size = 2 ∧
    (ofConfig .builtins config).1.inOrder config =
      [⟨"short", (Pattern.compile .builtins "%p").chain⟩,
        ⟨"long", (Pattern.compile .builtins "%d %p").chain⟩] := by
  intro config
  have hvalid : config.validate = .ok config := by rfl
  obtain ⟨hlayouts, -⟩ := ofConfig_loses_no_layout .builtins config
  exact ⟨hvalid, hlayouts hvalid⟩

end LayoutStore

end LogLayout
