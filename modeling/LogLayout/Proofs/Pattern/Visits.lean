import LogLayout.Proofs.Pattern.Calls
import Mathlib.Data.List.Pairwise

namespace LogLayout.Pattern

/-- A specifier at its byte position in the pattern that it is written in. -/
structure Spot where
  pattern : String
  position : Nat
  specifier : Specifier

/-- The specifiers of a pattern, those in its options left out. -/
def spots (registry : Registry) (pattern : String) : List Spot :=
  (locate 0 (tokens registry.isName pattern.toList)).filterMap fun x =>
    match x.2 with
    | .specifier s => some ⟨pattern, x.1, s⟩
    | _ => none

/-- What stands at a spot is at its byte position. -/
def Spot.InPlace (spot : Spot) : Prop :=
  ∃ before after, spot.pattern.toList = before ++ (spot.specifier.source ++ after) ∧
    Text.byteSize before = spot.position

variable {registry : Registry}

theorem exists_of_mem_locate {offset : Nat} {ts : List Token} {x : Nat × Token}
    (h : x ∈ locate offset ts) :
    ∃ before after, ts = before ++ x.2 :: after ∧
      x.1 = offset + Text.byteSize (before.flatMap Token.source) := by
  induction ts generalizing offset with
  | nil => cases h
  | cons t ts ih =>
    obtain rfl | h := List.mem_cons.mp h
    · exact ⟨[], ts, rfl, rfl⟩
    · obtain ⟨before, after, hts, hoffset⟩ := ih h
      refine ⟨t :: before, after, by rw [hts]; rfl, ?_⟩
      rw [hoffset, List.flatMap_cons, Text.byteSize_append]
      omega

theorem pairwise_locate (offset : Nat) (ts : List Token) :
    (locate offset ts).Pairwise fun x y => x.1 < y.1 := by
  induction ts generalizing offset with
  | nil => exact .nil
  | cons t ts ih =>
    refine .cons ?_ (ih _)
    intro x hx
    obtain ⟨before, -, -, hoffset⟩ := exists_of_mem_locate hx
    have hsource := Text.length_le_byteSize t.source
    have hpos := t.length_source_pos
    change offset < x.1
    omega

theorem mem_spots {pattern : String} {spot : Spot} (h : spot ∈ spots registry pattern) :
    spot.pattern = pattern ∧ (spot.position, .specifier spot.specifier) ∈
      locate 0 (tokens registry.isName pattern.toList) := by
  obtain ⟨⟨position, t⟩, hmem, hspot⟩ := List.mem_filterMap.mp h
  cases t with
  | specifier s =>
    cases hspot
    exact ⟨rfl, hmem⟩
  | _ => cases hspot

theorem inPlace_of_mem_spots {pattern : String} {spot : Spot}
    (h : spot ∈ spots registry pattern) : spot.InPlace := by
  obtain ⟨rfl, hmem⟩ := mem_spots h
  obtain ⟨before, after, htokens, hposition⟩ := exists_of_mem_locate hmem
  refine ⟨before.flatMap Token.source, after.flatMap Token.source, ?_, ?_⟩
  · rw [← flatMap_source_tokens registry.isName spot.pattern.toList, htokens,
      List.flatMap_append, List.flatMap_cons]
    rfl
  · exact (hposition.trans (Nat.zero_add _)).symm

theorem pairwise_spots (registry : Registry) (pattern : String) :
    (spots registry pattern).Pairwise fun x y => x.position < y.position := by
  refine (pairwise_locate 0 _).filterMap _ ?_
  rintro ⟨i, t⟩ ⟨j, u⟩ hlt x hx y hy
  cases t <;> cases u <;> simp_all
  obtain rfl := hx
  obtain rfl := hy
  exact hlt

/-- What only specifiers contribute to can be taken from the spots of a pattern. -/
theorem flatMap_spots {β : Type} {pattern : String} (f : Nat × Token → List β)
    (hf : ∀ position, (∀ c, f (position, .char c) = []) ∧ f (position, .doubledMarker) = [] ∧
      f (position, .finalMarker) = []) :
    (locate 0 (tokens registry.isName pattern.toList)).flatMap f =
      (spots registry pattern).flatMap fun spot =>
        f (spot.position, .specifier spot.specifier) := by
  rw [spots]
  generalize locate 0 (tokens registry.isName pattern.toList) = located
  induction located with
  | nil => rfl
  | cons x located ih =>
    obtain ⟨position, t⟩ := x
    obtain ⟨hchar, hdoubled, hfinal⟩ := hf position
    rw [List.flatMap_cons, List.filterMap_cons, ih]
    cases t with
    | specifier s => rfl
    | char c => rw [hchar, List.nil_append]
    | doubledMarker => rw [hdoubled, List.nil_append]
    | finalMarker => rw [hfinal, List.nil_append]

theorem handed_eq_flatMap_spots (registry : Registry) (pattern : String) :
    handed registry pattern =
      (spots registry pattern).flatMap fun spot => spot.specifier.handed registry := by
  have hlocated : handed registry pattern =
      (locate 0 (tokens registry.isName pattern.toList)).flatMap
        fun x => x.2.handed registry := by
    conv_lhs => rw [handed, ← map_snd_locate 0 (tokens registry.isName pattern.toList)]
    rw [List.flatMap_map]
  exact hlocated.trans (flatMap_spots _ fun _ => ⟨fun _ => rfl, rfl, rfl⟩)

/-- A specifier that is come to in some compilation. -/
structure Visit where
  /-- Which compilation it is: for every specifier around it, outermost first, its byte position
  and the number of the pattern that it has compiled. -/
  call : List (Nat × Nat)
  spot : Spot

/-- The specifiers that are come to while a pattern is compiled, in the order in which the compiler
is done with them: a specifier comes behind those in the patterns that are compiled for it. -/
def visits (registry : Registry) (call : List (Nat × Nat)) (pattern : String) : List Visit :=
  (spots registry pattern).attach.flatMap fun ⟨spot, _hspot⟩ =>
    (spot.specifier.handed registry).zipIdx.attach.flatMap (fun ⟨x, _hx⟩ =>
      visits registry (call ++ [(spot.position, x.2)]) x.1) ++ [⟨call, spot⟩]
termination_by pattern.utf8ByteSize
decreasing_by
  have hhanded : x.1 ∈ handed registry pattern := by
    rw [handed_eq_flatMap_spots]
    exact List.mem_flatMap.mpr ⟨spot, _hspot, List.fst_mem_of_mem_zipIdx _hx⟩
  have hbytes := utf8ByteSize_of_mem_handed hhanded
  omega

/-- What is come to for one spot: the specifiers in the patterns that it hands over, and itself. -/
def visitsAt (registry : Registry) (call : List (Nat × Nat)) (spot : Spot) : List Visit :=
  (spot.specifier.handed registry).zipIdx.flatMap (fun x =>
    visits registry (call ++ [(spot.position, x.2)]) x.1) ++ [⟨call, spot⟩]

theorem visits_eq (registry : Registry) (call : List (Nat × Nat)) (pattern : String) :
    visits registry call pattern = (spots registry pattern).flatMap (visitsAt registry call) := by
  have hattach : ∀ {α β : Type} (l : List α) (f : α → List β),
      (l.attach.flatMap fun x => f x.1) = l.flatMap f := by
    intro α β l f
    conv_rhs => rw [← List.attach_map_subtype_val l, List.flatMap_map]
  rw [visits, ← hattach (spots registry pattern)]
  apply List.flatMap_congr
  rintro ⟨spot, hspot⟩ -
  exact congrArg (· ++ [⟨call, spot⟩]) (hattach (spot.specifier.handed registry).zipIdx
    fun x => visits registry (call ++ [(spot.position, x.2)]) x.1)

/-- What holds of all visits of a pattern holds by what its own spots and the patterns that it
hands over contribute. -/
theorem visits_induction (registry : Registry) {motive : String → Prop}
    (step : ∀ pattern, (∀ spot ∈ spots registry pattern, ∀ p ∈ spot.specifier.handed registry,
      motive p) → motive pattern) (pattern : String) : motive pattern := by
  induction pattern using (wellFounded_handed registry).induction with
  | _ pattern ih =>
    apply step
    intro spot hspot p hp
    apply ih
    rw [handed_eq_flatMap_spots]
    exact List.mem_flatMap.mpr ⟨spot, hspot, hp⟩

theorem flatMap_zipIdx {α β : Type} (l : List α) (f : α → List β) :
    (l.zipIdx.flatMap fun x => f x.1) = l.flatMap f := by
  conv_rhs => rw [← List.zipIdx_map_fst 0 l, List.flatMap_map]

/-- Each specifier of a pattern, and of the patterns that are compiled for it, is come to once. -/
theorem map_spot_visits_perm (registry : Registry) (call : List (Nat × Nat)) (pattern : String) :
    ((visits registry call pattern).map (·.spot)).Perm
      ((pattern :: calls registry pattern).flatMap (spots registry)) := by
  induction pattern using visits_induction registry generalizing call with
  | step pattern ih =>
    have hcalls : (calls registry pattern).flatMap (spots registry) =
        (spots registry pattern).flatMap fun spot => (spot.specifier.handed registry).flatMap
          fun p => (p :: calls registry p).flatMap (spots registry) := by
      rw [calls_eq, handed_eq_flatMap_spots, List.flatMap_assoc, List.flatMap_assoc]
    -- A visit comes behind those inside it, while `calls` lists a pattern before those inside it.
    have hsplit := List.flatMap_append_perm (spots registry pattern) (fun spot => [spot])
      fun spot => (spot.specifier.handed registry).flatMap
        fun p => (p :: calls registry p).flatMap (spots registry)
    rw [List.flatMap_singleton'] at hsplit
    rw [visits_eq, List.map_flatMap, List.flatMap_cons, hcalls]
    refine .trans (.flatMap_left _ ?_) hsplit.symm
    intro spot hspot
    rw [visitsAt, List.map_append, List.map_flatMap,
      ← flatMap_zipIdx (spot.specifier.handed registry)]
    refine List.perm_append_comm.trans (.append_left _ (.flatMap_left _ ?_))
    intro x hx
    exact ih spot hspot x.1 (List.fst_mem_of_mem_zipIdx hx) _

theorem call_prefix_of_mem_visits {call : List (Nat × Nat)} {pattern : String} {v : Visit}
    (h : v ∈ visits registry call pattern) : call <+: v.call := by
  induction pattern using visits_induction registry generalizing call with
  | step pattern ih =>
    rw [visits_eq] at h
    obtain ⟨spot, hspot, h⟩ := List.mem_flatMap.mp h
    obtain h | h := List.mem_append.mp h
    · obtain ⟨x, hx, h⟩ := List.mem_flatMap.mp h
      have hinner := ih spot hspot x.1 (List.fst_mem_of_mem_zipIdx hx) h
      exact (List.prefix_append call _).trans hinner
    · rw [List.mem_singleton.mp h]

section Calls

variable {call : List (Nat × Nat)}

/-- Whatever is come to inside a specifier says so behind the call that the specifier is in. -/
theorem getElem?_call_of_mem_visits {step : Nat × Nat} {pattern : String} {v : Visit}
    (h : v ∈ visits registry (call ++ [step]) pattern) : v.call[call.length]? = some step := by
  obtain ⟨rest, hrest⟩ := call_prefix_of_mem_visits h
  rw [← hrest]
  simp

theorem mem_visitsAt_cases {spot : Spot} {v : Visit} (h : v ∈ visitsAt registry call spot) :
    v = ⟨call, spot⟩ ∨ ∃ i, v.call[call.length]? = some (spot.position, i) := by
  obtain h | h := List.mem_append.mp h
  · obtain ⟨x, -, h⟩ := List.mem_flatMap.mp h
    exact .inr ⟨x.2, getElem?_call_of_mem_visits h⟩
  · exact .inl (List.mem_singleton.mp h)

/-- Two visits of one compilation that are made for different spots are ordered as the spots are:
in a compilation inside this one the position of the spot stands in the call. -/
theorem position_lt_of_mem_visitsAt {x y : Spot} (hlt : x.position < y.position) {v w : Visit}
    (hv : v ∈ visitsAt registry call x) (hw : w ∈ visitsAt registry call y)
    (hcall : v.call = w.call) : v.spot.position < w.spot.position := by
  obtain rfl | ⟨i, hv⟩ := mem_visitsAt_cases hv
  · obtain rfl | ⟨j, hw⟩ := mem_visitsAt_cases hw
    · exact hlt
    · rw [← hcall, List.getElem?_eq_none (Nat.le_refl _)] at hw
      cases hw
  · obtain rfl | ⟨j, hw⟩ := mem_visitsAt_cases hw
    · rw [hcall, List.getElem?_eq_none (Nat.le_refl _)] at hv
      cases hv
    · rw [hcall, hw] at hv
      have hsame : y.position = x.position := (Prod.mk.inj (Option.some.inj hv)).1
      omega

/-- Two patterns that one specifier hands over are told apart by their numbers in the call. -/
theorem call_ne_of_mem_visits {position : Nat} {x y : String × Nat} (hne : x.2 ≠ y.2) {v w : Visit}
    (hv : v ∈ visits registry (call ++ [(position, x.2)]) x.1)
    (hw : w ∈ visits registry (call ++ [(position, y.2)]) y.1) : v.call ≠ w.call := by
  intro hcall
  have hv := getElem?_call_of_mem_visits hv
  rw [hcall, getElem?_call_of_mem_visits hw] at hv
  exact hne (Prod.mk.inj (Option.some.inj hv)).2.symm

/-- The specifiers that one compilation comes to are ordered by their positions. -/
theorem pairwise_visits (registry : Registry) (call : List (Nat × Nat)) (pattern : String) :
    (visits registry call pattern).Pairwise fun v w =>
      v.call = w.call → v.spot.position < w.spot.position := by
  induction pattern using visits_induction registry generalizing call with
  | step pattern ih =>
    rw [visits_eq, List.pairwise_flatMap]
    refine ⟨?_, ?_⟩
    · intro spot hspot
      rw [visitsAt, List.pairwise_append, List.pairwise_flatMap]
      refine ⟨⟨?_, ?_⟩, List.pairwise_singleton _ _, ?_⟩
      · intro x hx
        exact ih spot hspot x.1 (List.fst_mem_of_mem_zipIdx hx) _
      · have hnumbers : (spot.specifier.handed registry).zipIdx.Pairwise fun x y => x.2 < y.2 := by
          rw [← List.pairwise_map, List.zipIdx_map_snd]
          exact List.pairwise_lt_range'
        apply hnumbers.imp
        intro x y hlt v hv w hw hcall
        exact absurd hcall (call_ne_of_mem_visits (Nat.ne_of_lt hlt) hv hw)
      · intro v hv w hw hcall
        obtain ⟨x, -, hv⟩ := List.mem_flatMap.mp hv
        have hv := getElem?_call_of_mem_visits hv
        rw [hcall, List.mem_singleton.mp hw, List.getElem?_eq_none (Nat.le_refl _)] at hv
        cases hv
    · apply (pairwise_spots registry pattern).imp
      intro x y hlt v hv w hw hcall
      exact position_lt_of_mem_visitsAt hlt hv hw hcall

end Calls

end LogLayout.Pattern
