import LogLayout.Dictionary

namespace LogLayout

theorem charsBefore_eq_true_iff {as bs : List Char} : charsBefore as bs = true ↔ as < bs := by
  induction as generalizing bs with
  | nil => cases bs <;> simp [charsBefore]
  | cons a as ih =>
    cases bs with
    | nil => simp [charsBefore]
    | cons b bs =>
      have hless : a < b ↔ a.toNat < b.toNat := Iff.rfl
      rw [List.cons_lt_cons_iff, charsBefore, hless, ← Char.toNat_inj, ← ih]
      split
      · simp [*]
      · split <;> simp [*]

theorem keyBefore_eq_true_iff {a b : String} : keyBefore a b = true ↔ a < b := by
  rw [keyBefore, charsBefore_eq_true_iff, String.lt_iff]

namespace Dictionary

variable {α : Type}

theorem mem_keys_iff (d : Dictionary α) (key : String) :
    key ∈ d.keys ↔ (d.get? key).isSome = true := by
  have hlookup : ∀ entries : List (String × α),
      key ∈ entries.map (·.1) ↔ (lookup entries key).isSome = true := by
    intro entries
    induction entries with
    | nil => simp [lookup]
    | cons e rest ih =>
      obtain ⟨k, v⟩ := e
      by_cases hkey : key = k
      · simp [lookup, hkey]
      · simp [lookup, hkey, ← ih]
  exact hlookup d.entries

/-- The keys ascend by code points, so no key is listed twice. -/
theorem pairwise_keys (d : Dictionary α) : d.keys.Pairwise (· < ·) := by
  rw [keys, List.pairwise_map]
  exact d.ascending.imp keyBefore_eq_true_iff.mp

theorem mem_entries_iff (d : Dictionary α) (key : String) (value : α) :
    (key, value) ∈ d.entries ↔ d.get? key = some value := by
  obtain ⟨entries, hascending⟩ := d
  change (key, value) ∈ entries ↔ lookup entries key = some value
  induction entries with
  | nil => simp [lookup]
  | cons e rest ih =>
    obtain ⟨k, v⟩ := e
    obtain ⟨hfirst, hrest⟩ := List.pairwise_cons.mp hascending
    rw [List.mem_cons, ih hrest, lookup]
    by_cases hkey : key = k
    · subst hkey
      have hnone : lookup rest key = none := lookup_eq_none_of_before hfirst
      simp [hnone, eq_comm]
    · simp [hkey]

theorem nodup_keys (d : Dictionary α) : d.keys.Nodup := by
  apply d.pairwise_keys.imp
  intro a b hless
  exact String.ne_of_lt hless

theorem length_keys (d : Dictionary α) : d.keys.length = d.size := by
  rw [keys, List.length_map, size]

theorem isEmpty_iff_size_eq_zero (d : Dictionary α) : d.isEmpty = true ↔ d.size = 0 := by
  rw [isEmpty, List.isEmpty_iff, size, List.length_eq_zero_iff]

/-- The value of the last of some entries under a key. -/
def last? (entries : List (String × α)) (key : String) : Option α :=
  (entries.reverse.find? (·.1 = key)).map (·.2)

theorem last?_cons (key : String) (value : α) (entries : List (String × α)) (k : String) :
    last? ((key, value) :: entries) k =
      (last? entries k).or (if k = key then some value else none) := by
  rw [last?, List.reverse_cons, List.find?_append, Option.map_or]
  congr 1
  by_cases hk : k = key
  · simp [hk]
  · simp [hk, Ne.symm hk]

theorem mem_of_last? {entries : List (String × α)} {key : String} {value : α}
    (h : last? entries key = some value) : (key, value) ∈ entries := by
  obtain ⟨⟨k, v⟩, hfind, rfl⟩ := Option.map_eq_some_iff.mp h
  obtain rfl : k = key := by simpa using List.find?_some hfind
  simpa using List.mem_of_find?_eq_some hfind

theorem ne_of_last?_eq_none {entries : List (String × α)} {key : String}
    (h : last? entries key = none) {e : String × α} (he : e ∈ entries) : e.1 ≠ key := by
  have hnone := List.find?_eq_none.mp (Option.map_eq_none_iff.mp h) e (List.mem_reverse.mpr he)
  simpa using hnone

theorem get?_foldl_insert (entries : List (String × α)) (d : Dictionary α) (key : String) :
    (entries.foldl (fun d e => d.insert e.1 e.2) d).get? key =
      (last? entries key).or (d.get? key) := by
  induction entries generalizing d with
  | nil => rfl
  | cons e entries ih =>
    rw [List.foldl_cons, ih, last?_cons, get?_insert, Option.or_assoc]
    congr 1
    split <;> rfl

/-- The entries of a dictionary make it again, in whatever order they are put in. -/
theorem ofList_of_perm {d : Dictionary α} {entries : List (String × α)}
    (h : entries.Perm d.entries) : ofList entries = d := by
  apply ext_get?
  intro key
  have hget : (ofList entries).get? key = last? entries key := by
    rw [ofList, get?_foldl_insert, get?_empty, Option.or_none]
  rw [hget]
  cases hlast : last? entries key with
  | some value => exact ((mem_entries_iff d key value).mp (h.mem_iff.mp (mem_of_last? hlast))).symm
  | none =>
    cases hfound : d.get? key with
    | none => rfl
    | some value =>
      have hmem := h.mem_iff.mpr ((mem_entries_iff d key value).mpr hfound)
      exact (ne_of_last?_eq_none hlast hmem rfl).elim

end Dictionary

end LogLayout
