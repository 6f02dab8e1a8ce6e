namespace LogLayout

/-- Order of text by code points, first difference first. -/
def charsBefore : List Char → List Char → Bool
  | _, [] => false
  | [], _ :: _ => true
  | a :: as, b :: bs =>
    if a.toNat < b.toNat then true else if a.toNat = b.toNat then charsBefore as bs else false

/-- Whether key `a` is listed before key `b`. -/
def keyBefore (a b : String) : Bool :=
  charsBefore a.toList b.toList

theorem charsBefore_trans {as bs cs : List Char} (hab : charsBefore as bs = true)
    (hbc : charsBefore bs cs = true) : charsBefore as cs = true := by
  induction as generalizing bs cs with
  | nil =>
    cases cs with
    | nil => cases bs <;> simp [charsBefore] at hbc
    | cons c cs => rfl
  | cons a as ih =>
    cases bs with
    | nil => simp [charsBefore] at hab
    | cons b bs =>
      cases cs with
      | nil => simp [charsBefore] at hbc
      | cons c cs =>
        simp only [charsBefore] at hab hbc ⊢
        split at hab <;> split at hbc
        · rw [if_pos (by omega)]
        · split at hbc
          · rw [if_pos (by omega)]
          · simp at hbc
        · split at hab
          · rw [if_pos (by omega)]
          · simp at hab
        · split at hab
          · split at hbc
            · rw [if_neg (by omega), if_pos (by omega)]
              exact ih hab hbc
            · simp at hbc
          · simp at hab

theorem charsBefore_irrefl (cs : List Char) : charsBefore cs cs = false := by
  induction cs with
  | nil => rfl
  | cons c cs ih => simp [charsBefore, ih]

theorem charsBefore_total {as bs : List Char} (hne : as ≠ bs) (h : charsBefore as bs = false) :
    charsBefore bs as = true := by
  induction as generalizing bs with
  | nil =>
    cases bs with
    | nil => exact absurd rfl hne
    | cons b bs => simp [charsBefore] at h
  | cons a as ih =>
    cases bs with
    | nil => rfl
    | cons b bs =>
      simp only [charsBefore] at h ⊢
      split at h
      · simp at h
      · split at h
        · rename_i heq
          have hchar : a = b := Char.toNat_inj.mp heq
          rw [if_neg (by omega), if_pos heq.symm]
          exact ih (fun hrest => hne (by rw [hchar, hrest])) h
        · rw [if_pos (by omega)]

theorem keyBefore_trans {a b c : String} (hab : keyBefore a b = true)
    (hbc : keyBefore b c = true) : keyBefore a c = true :=
  charsBefore_trans hab hbc

theorem keyBefore_irrefl (a : String) : keyBefore a a = false :=
  charsBefore_irrefl _

theorem keyBefore_total {a b : String} (hne : a ≠ b) (h : keyBefore a b = false) :
    keyBefore b a = true :=
  charsBefore_total (fun heq => hne (String.toList_inj.mp heq)) h

/-- A map from text to `α`. -/
structure Dictionary (α : Type) where
  /-- Every key with its value, keys ascending. -/
  entries : List (String × α)
  ascending : entries.Pairwise (fun x y => keyBefore x.1 y.1 = true)

namespace Dictionary

variable {α : Type}

/-- The entries with `value` put under `key`, at its place in the order. -/
def insertEntry (key : String) (value : α) : List (String × α) → List (String × α)
  | [] => [(key, value)]
  | (k, v) :: rest =>
    if key = k then (key, value) :: rest
    else if keyBefore key k then (key, value) :: (k, v) :: rest
    else (k, v) :: insertEntry key value rest

theorem mem_insertEntry {key : String} {value : α} {entries : List (String × α)}
    {x : String × α} (h : x ∈ insertEntry key value entries) : x = (key, value) ∨ x ∈ entries := by
  induction entries with
  | nil => simpa [insertEntry] using h
  | cons e rest ih =>
    obtain ⟨k, v⟩ := e
    simp only [insertEntry] at h
    split at h
    · rcases List.mem_cons.mp h with h | h
      · exact .inl h
      · exact .inr (List.mem_cons_of_mem _ h)
    · split at h
      · rcases List.mem_cons.mp h with h | h
        · exact .inl h
        · exact .inr h
      · rcases List.mem_cons.mp h with h | h
        · exact .inr (h ▸ List.mem_cons_self)
        · rcases ih h with h | h
          · exact .inl h
          · exact .inr (List.mem_cons_of_mem _ h)

theorem pairwise_insertEntry (key : String) (value : α) {entries : List (String × α)}
    (h : entries.Pairwise (fun x y => keyBefore x.1 y.1 = true)) :
    (insertEntry key value entries).Pairwise (fun x y => keyBefore x.1 y.1 = true) := by
  induction entries with
  | nil => simp [insertEntry]
  | cons e rest ih =>
    obtain ⟨k, v⟩ := e
    obtain ⟨hhead, hrest⟩ := List.pairwise_cons.mp h
    simp only [insertEntry]
    split
    · rename_i heq
      exact List.pairwise_cons.mpr ⟨fun x hx => heq ▸ hhead x hx, hrest⟩
    · rename_i hne
      split
      · rename_i hbefore
        refine List.pairwise_cons.mpr ⟨fun x hx => ?_, h⟩
        rcases List.mem_cons.mp hx with rfl | hx
        · exact hbefore
        · exact keyBefore_trans hbefore (hhead x hx)
      · rename_i hbefore
        refine List.pairwise_cons.mpr ⟨fun x hx => ?_, ih hrest⟩
        rcases mem_insertEntry hx with rfl | hx
        · exact keyBefore_total hne (by simpa using hbefore)
        · exact hhead x hx

/-- The map without entries. -/
def empty : Dictionary α := ⟨[], .nil⟩

instance : Inhabited (Dictionary α) := ⟨empty⟩

instance : EmptyCollection (Dictionary α) := ⟨empty⟩

/-- Puts `value` under `key`, in place of what was there. -/
def insert (d : Dictionary α) (key : String) (value : α) : Dictionary α :=
  ⟨insertEntry key value d.entries, pairwise_insertEntry key value d.ascending⟩

/-- The entries under other keys than `key`. -/
def eraseEntry (key : String) (entries : List (String × α)) : List (String × α) :=
  entries.filter (fun e => e.1 ≠ key)

/-- Takes `key` out. -/
def erase (d : Dictionary α) (key : String) : Dictionary α :=
  ⟨eraseEntry key d.entries, d.ascending.filter _⟩

/-- The value of the first entry under `key`. -/
def lookup : List (String × α) → String → Option α
  | [], _ => none
  | (k, v) :: rest, key => if key = k then some v else lookup rest key

/-- The value under `key`. -/
def get? (d : Dictionary α) (key : String) : Option α :=
  lookup d.entries key

/-- Whether there is a value under `key`. -/
def contains (d : Dictionary α) (key : String) : Bool :=
  (d.get? key).isSome

/-- The number of entries. -/
def size (d : Dictionary α) : Nat := d.entries.length

/-- Whether there are no entries. -/
def isEmpty (d : Dictionary α) : Bool := d.entries.isEmpty

/-- The keys, ascending. -/
def keys (d : Dictionary α) : List String := d.entries.map (·.1)

/-- The map of a list of entries, in which the last entry of a key counts. -/
def ofList (entries : List (String × α)) : Dictionary α :=
  entries.foldl (fun d e => d.insert e.1 e.2) empty

theorem lookup_insertEntry (key : String) (value : α) (entries : List (String × α))
    (k : String) :
    lookup (insertEntry key value entries) k =
      if k = key then some value else lookup entries k := by
  induction entries with
  | nil => by_cases h : k = key <;> simp [insertEntry, lookup, h]
  | cons e rest ih =>
    obtain ⟨k', v'⟩ := e
    simp only [insertEntry]
    split
    · rename_i heq
      subst heq
      by_cases h : k = key <;> simp [lookup, h]
    · rename_i hne
      split
      · by_cases h : k = key <;> simp [lookup, h]
      · by_cases h : k = key
        · subst h
          simp [lookup, hne, ih]
        · simp [lookup, h, ih]

/-- A look-up after an insertion finds the new value under its key and the old ones elsewhere. -/
theorem get?_insert (d : Dictionary α) (key : String) (value : α) (k : String) :
    (d.insert key value).get? k = if k = key then some value else d.get? k :=
  lookup_insertEntry key value d.entries k

@[simp] theorem get?_empty (k : String) : (empty : Dictionary α).get? k = none := rfl

theorem lookup_eraseEntry (entries : List (String × α)) (key k : String) :
    lookup (eraseEntry key entries) k = if k = key then none else lookup entries k := by
  induction entries with
  | nil => simp [eraseEntry, lookup]
  | cons e rest ih =>
    obtain ⟨k', v'⟩ := e
    by_cases hgone : k' = key
    · subst hgone
      by_cases h : k = k' <;> simp_all [eraseEntry, lookup]
    · by_cases h : k = k'
      · subst h
        simp [eraseEntry, lookup, hgone]
      · simp_all [eraseEntry, lookup]

/-- A look-up after a removal finds nothing under the removed key and the old values elsewhere. -/
theorem get?_erase (d : Dictionary α) (key k : String) :
    (d.erase key).get? k = if k = key then none else d.get? k :=
  lookup_eraseEntry d.entries key k

/-- A key that comes before all others is not among them. -/
theorem lookup_eq_none_of_before {entries : List (String × α)} {key : String}
    (h : ∀ e ∈ entries, keyBefore key e.1 = true) : lookup entries key = none := by
  induction entries with
  | nil => rfl
  | cons e rest ih =>
    obtain ⟨k, v⟩ := e
    have hne : key ≠ k := by
      intro heq
      have hbefore := h (k, v) List.mem_cons_self
      rw [heq, keyBefore_irrefl] at hbefore
      exact absurd hbefore (by simp)
    rw [lookup, if_neg hne]
    exact ih fun e he => h e (List.mem_cons_of_mem _ he)

/-- What comes before the first key is not found. -/
theorem lookup_eq_none_of_before_head {key k : String} {v : α} {rest : List (String × α)}
    (hkey : keyBefore key k = true) (hrest : ∀ e ∈ rest, keyBefore k e.1 = true) :
    lookup ((k, v) :: rest) key = none := by
  refine lookup_eq_none_of_before fun e he => ?_
  rcases List.mem_cons.mp he with rfl | he
  · exact hkey
  · exact keyBefore_trans hkey (hrest e he)

theorem eq_of_lookup_eq {xs ys : List (String × α)}
    (hxs : xs.Pairwise (fun x y => keyBefore x.1 y.1 = true))
    (hys : ys.Pairwise (fun x y => keyBefore x.1 y.1 = true))
    (h : ∀ k, lookup xs k = lookup ys k) : xs = ys := by
  induction xs generalizing ys with
  | nil =>
    cases ys with
    | nil => rfl
    | cons y ys => simpa [lookup] using h y.1
  | cons x xs ih =>
    obtain ⟨hx, hxs⟩ := List.pairwise_cons.mp hxs
    cases ys with
    | nil => simpa [lookup] using h x.1
    | cons y ys =>
      obtain ⟨hy, hys⟩ := List.pairwise_cons.mp hys
      by_cases hkeys : x.1 = y.1
      · have hvalues : x.2 = y.2 := by simpa [lookup, hkeys] using h y.1
        have hrest : ∀ k, lookup xs k = lookup ys k := by
          intro k
          by_cases hk : k = x.1
          · rw [hk, lookup_eq_none_of_before hx, hkeys, lookup_eq_none_of_before hy]
          · have := h k
            rwa [lookup, if_neg hk, lookup, if_neg (hkeys ▸ hk)] at this
        rw [ih hxs hys hrest, Prod.ext hkeys hvalues]
      · cases hbefore : keyBefore x.1 y.1 with
        | true =>
          have hnone : lookup (y :: ys) x.1 = none := lookup_eq_none_of_before_head hbefore hy
          have hsome := h x.1
          rw [hnone] at hsome
          simp [lookup] at hsome
        | false =>
          have hnone : lookup (x :: xs) y.1 = none :=
            lookup_eq_none_of_before_head (keyBefore_total hkeys hbefore) hx
          have hsome := h y.1
          rw [hnone] at hsome
          simp [lookup] at hsome

/-- A map is known by its look-ups. -/
theorem ext_get? {d₁ d₂ : Dictionary α} (h : ∀ k, d₁.get? k = d₂.get? k) : d₁ = d₂ := by
  obtain ⟨xs, hxs⟩ := d₁
  obtain ⟨ys, hys⟩ := d₂
  have hentries : xs = ys := eq_of_lookup_eq hxs hys h
  subst hentries
  rfl

end Dictionary

end LogLayout
