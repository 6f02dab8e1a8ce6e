import LogLayout.Proofs.Json.Tokens

namespace LogLayout.Json

mutual

/-- The tokens of a value. -/
def tokens : Json → List Token
  | .null => [.scalar .null]
  | .bool b => [.scalar (.bool b)]
  | .number digits => [.scalar (.number digits)]
  | .string s => [.scalar (.string s)]
  | .array [] => [.openArray, .closeArray]
  | .array (v :: items) => .openArray :: (v.tokens ++ itemTokens items)
  | .object [] => [.openObject, .closeObject]
  | .object ((key, v) :: members) =>
    .openObject :: .scalar (.string key) :: .colon :: (v.tokens ++ memberTokens members)

/-- The tokens behind an item: more items, each behind a comma, and the end of the array. -/
def itemTokens : List Json → List Token
  | [] => [.closeArray]
  | v :: items => .comma :: (v.tokens ++ itemTokens items)

/-- The tokens behind a member: more members, each behind a comma, and the end of the object. -/
def memberTokens : List (JsonText × Json) → List Token
  | [] => [.closeObject]
  | (key, v) :: members =>
    .comma :: .scalar (.string key) :: .colon :: (v.tokens ++ memberTokens members)

end

/-- Text that a value is written as. -/
def WrittenAs (v : Json) (text : String) : Prop := Spaced v.tokens text.toList

theorem exists_tokens_eq_cons (v : Json) :
    ∃ first rest, v.tokens = first :: rest ∧ first ≠ .closeArray := by
  match v with
  | .null | .bool _ | .number _ | .string _ | .array [] | .array (_ :: _) | .object []
  | .object (_ :: _) => exact ⟨_, _, by rw [tokens], by simp⟩

/-- An array whose first item starts is read as one that holds no items yet. -/
theorem foldlM_tokens_firstItem (v : Json) (frames : List Frame) (ts : List Token) :
    (v.tokens ++ ts).foldlM Reader.step ⟨.firstItem, frames⟩ =
      (v.tokens ++ ts).foldlM Reader.step ⟨.value, .array [] :: frames⟩ := by
  obtain ⟨first, rest, htokens, hfirst⟩ := exists_tokens_eq_cons v
  have hstep : Reader.step ⟨.firstItem, frames⟩ first =
      Reader.step ⟨.value, .array [] :: frames⟩ first := by
    cases first with
    | closeArray => exact (hfirst rfl).elim
    | _ => rfl
  rw [htokens, List.cons_append, List.foldlM_cons, List.foldlM_cons, hstep]

mutual

/-- The tokens of a value are taken as that value, whatever is still open around it. -/
theorem foldlM_tokens (v : Json) (frames : List Frame) (ts : List Token) :
    (v.tokens ++ ts).foldlM Reader.step ⟨.value, frames⟩ =
      ts.foldlM Reader.step ⟨.afterValue v, frames⟩ := by
  match v with
  | .null | .bool _ | .number _ | .string _ | .array [] | .object [] => rw [tokens]; rfl
  | .array (first :: items) =>
    have hopen : Reader.step ⟨.value, frames⟩ .openArray = some ⟨.firstItem, frames⟩ := rfl
    rw [tokens, List.cons_append, List.foldlM_cons, hopen, Option.bind_eq_bind, Option.bind_some,
      List.append_assoc, foldlM_tokens_firstItem, foldlM_tokens first, foldlM_itemTokens items]
    rfl
  | .object ((key, first) :: members) =>
    rw [tokens]
    change ((first.tokens ++ memberTokens members) ++ ts).foldlM Reader.step
      ⟨.value, .object [] key :: frames⟩ = _
    rw [List.append_assoc, foldlM_tokens first, foldlM_memberTokens members]
    rfl

theorem foldlM_itemTokens (items : List Json) (v : Json) (before : List Json)
    (frames : List Frame) (ts : List Token) :
    (itemTokens items ++ ts).foldlM Reader.step ⟨.afterValue v, .array before :: frames⟩ =
      ts.foldlM Reader.step ⟨.afterValue (.array (before.reverse ++ v :: items)), frames⟩ := by
  match items with
  | [] =>
    rw [itemTokens, ← List.reverse_cons]
    rfl
  | next :: items =>
    rw [itemTokens]
    change ((next.tokens ++ itemTokens items) ++ ts).foldlM Reader.step
      ⟨.value, .array (v :: before) :: frames⟩ = _
    rw [List.append_assoc, foldlM_tokens next, foldlM_itemTokens items, List.reverse_cons,
      List.append_assoc]
    rfl

theorem foldlM_memberTokens (members : List (JsonText × Json)) (key : JsonText) (v : Json)
    (before : List (JsonText × Json)) (frames : List Frame) (ts : List Token) :
    (memberTokens members ++ ts).foldlM Reader.step
        ⟨.afterValue v, .object before key :: frames⟩ =
      ts.foldlM Reader.step
        ⟨.afterValue (.object (before.reverse ++ (key, v) :: members)), frames⟩ := by
  match members with
  | [] =>
    rw [memberTokens, ← List.reverse_cons]
    rfl
  | (next, w) :: members =>
    rw [memberTokens]
    change ((w.tokens ++ memberTokens members) ++ ts).foldlM Reader.step
      ⟨.value, .object ((key, v) :: before) next :: frames⟩ = _
    rw [List.append_assoc, foldlM_tokens w, foldlM_memberTokens members, List.reverse_cons,
      List.append_assoc]
    rfl

end

theorem isMark_head?_itemTokens (items : List Json) :
    ∀ t ∈ (itemTokens items).head?, t.isMark = true := by
  cases items with
  | nil => rw [itemTokens]; rintro t ⟨⟩; rfl
  | cons v items => rw [itemTokens]; rintro t ⟨⟩; rfl

theorem isMark_head?_memberTokens (members : List (JsonText × Json)) :
    ∀ t ∈ (memberTokens members).head?, t.isMark = true := by
  match members with
  | [] => rw [memberTokens]; rintro t ⟨⟩; rfl
  | (key, v) :: members => rw [memberTokens]; rintro t ⟨⟩; rfl

/-- Tokens in which a mark stands between any two values. -/
def Apart (ts : List Token) : Prop :=
  ts.IsChain fun s t => s.isMark = true ∨ t.isMark = true

theorem Apart.cons_mark {t : Token} {ts : List Token} (ht : t.isMark = true) (h : Apart ts) :
    Apart (t :: ts) :=
  List.isChain_cons.mpr ⟨fun _ _ => .inl ht, h⟩

theorem Apart.cons_of_head {t : Token} {ts : List Token} (h : Apart ts)
    (hhead : ∀ next ∈ ts.head?, next.isMark = true) : Apart (t :: ts) :=
  List.isChain_cons.mpr ⟨fun next hnext => .inr (hhead next hnext), h⟩

theorem Apart.cons_key {ts : List Token} (h : Apart ts) (key : JsonText) :
    Apart (.scalar (.string key) :: .colon :: ts) :=
  .cons_of_head (.cons_mark rfl h) (by rintro t ⟨⟩; rfl)

theorem Apart.append {ts later : List Token} (h : Apart ts) (hlater : Apart later)
    (hhead : ∀ next ∈ later.head?, next.isMark = true) : Apart (ts ++ later) :=
  List.isChain_append.mpr ⟨h, hlater, fun _ _ next hnext => .inr (hhead next hnext)⟩

mutual

theorem apart_tokens (v : Json) : Apart v.tokens := by
  match v with
  | .null | .bool _ | .number _ | .string _ => rw [tokens]; exact .singleton _
  | .array [] | .object [] => rw [tokens]; exact .cons_mark rfl (.singleton _)
  | .array (first :: items) =>
    rw [tokens]
    exact .cons_mark rfl ((apart_tokens first).append (apart_itemTokens items)
      (isMark_head?_itemTokens items))
  | .object ((key, first) :: members) =>
    rw [tokens]
    exact .cons_mark rfl (((apart_tokens first).append (apart_memberTokens members)
      (isMark_head?_memberTokens members)).cons_key key)

theorem apart_itemTokens (items : List Json) : Apart (itemTokens items) := by
  match items with
  | [] => rw [itemTokens]; exact .singleton _
  | v :: items =>
    rw [itemTokens]
    exact .cons_mark rfl ((apart_tokens v).append (apart_itemTokens items)
      (isMark_head?_itemTokens items))

theorem apart_memberTokens (members : List (JsonText × Json)) : Apart (memberTokens members) := by
  match members with
  | [] => rw [memberTokens]; exact .singleton _
  | (key, v) :: members =>
    rw [memberTokens]
    exact .cons_mark rfl (((apart_tokens v).append (apart_memberTokens members)
      (isMark_head?_memberTokens members)).cons_key key)

end

theorem ofTokens?_tokens (v : Json) : ofTokens? v.tokens = some v := by
  have hread := foldlM_tokens v [] []
  rw [List.append_nil] at hread
  rw [ofTokens?, Reader.start, hread]
  rfl

/-- Whatever a value is written as is read as that value. -/
theorem WrittenAs.ofText?_eq_some {v : Json} {text : String} (h : v.WrittenAs text) :
    ofText? text = some v := by
  rw [ofText?, Spaced.tokens?_eq_some h (apart_tokens v), Option.bind_some, ofTokens?_tokens]

/-- Whether each token of a value can be written. -/
def Writable (v : Json) : Prop := ∀ t ∈ v.tokens, ∃ cs, t.Spelling cs

theorem Writable.exists_writtenAs {v : Json} (h : v.Writable) : ∃ text, v.WrittenAs text := by
  obtain ⟨cs, hcs⟩ := exists_spaced h
  exact ⟨String.ofList cs, by rwa [WrittenAs, String.toList_ofList]⟩

theorem writable_string (s : String) : (string (some s)).Writable := by
  intro t ht
  rw [tokens, List.mem_singleton] at ht
  rw [ht]
  exact Token.exists_spelling_text s

/-- An object can be written when its keys are texts and its values can be written. -/
theorem writable_object {members : List (JsonText × Json)}
    (h : ∀ m ∈ members, m.1.isSome = true ∧ m.2.Writable) : (object members).Writable := by
  have hmember : ∀ m ∈ members, ∀ t ∈ .scalar (.string m.1) :: .colon :: m.2.tokens,
      ∃ cs, Token.Spelling t cs := by
    intro m hm
    obtain ⟨hkey, hvalue⟩ := h m hm
    obtain ⟨key, hkey⟩ := Option.isSome_iff_exists.mp hkey
    rw [List.forall_mem_cons, List.forall_mem_cons, hkey]
    exact ⟨Token.exists_spelling_text key, ⟨_, .colon⟩, hvalue⟩
  have hmembers : ∀ more ⊆ members, ∀ t ∈ memberTokens more, ∃ cs, t.Spelling cs := by
    intro more hmore
    induction more with
    | nil =>
      rw [memberTokens, List.forall_mem_singleton]
      exact ⟨_, .closeObject⟩
    | cons m more ih =>
      obtain ⟨hm, hmore⟩ := List.cons_subset.mp hmore
      rw [memberTokens, List.forall_mem_cons]
      refine ⟨⟨_, .comma⟩, ?_⟩
      rw [← List.cons_append, ← List.cons_append, List.forall_mem_append]
      exact ⟨hmember m hm, ih hmore⟩
  cases members with
  | nil =>
    rw [Writable, tokens]
    simpa using ⟨⟨_, Token.Spelling.openObject⟩, ⟨_, Token.Spelling.closeObject⟩⟩
  | cons m members =>
    rw [Writable, tokens, List.forall_mem_cons]
    refine ⟨⟨_, .openObject⟩, ?_⟩
    rw [← List.cons_append, ← List.cons_append, List.forall_mem_append]
    exact ⟨hmember m List.mem_cons_self, hmembers members (List.subset_cons_self m members)⟩

end LogLayout.Json
