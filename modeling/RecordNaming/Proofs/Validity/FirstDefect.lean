/-
  RecordNaming.Proofs.Validity.FirstDefect — what validation accepts and what it reports.

  A place has a defect of its own (`defect?`): it is as many steps from the document as its
  path has, which may be too many, or else it has no name.
  - `validate_eq`: validation gives the first defect of the places in document order.
  - `validate_eq_ok_iff`: it gives none exactly for configurations that are `Sound`, where
    positions in a chain and the depth of conditions stand for the paths.

  `validate_reports_first_defect` puts them together with what paths lead to.
-/
import RecordNaming.Proofs.Validity.Places

namespace RecordNaming

/-! ## Defects -/

/-- What is wrong with a place itself; the depth comes before the name. -/
def Place.defect? (limit : Nat) (place : Place) : Option RuleError :=
  if limit < place.path.length then some (.depthExceeded limit place.path)
  else
    match place.part with
    | .rule r _ => if Text.allBlank r.field then some (.emptyFieldName place.path) else none
    | .condition (.compare field _ _) => if Text.allBlank field then some .emptyCondition else none
    | _ => none

/-- The first defect of places in order. -/
def firstDefect (limit : Nat) (places : List Place) : Except RuleError Unit :=
  match places.findSome? (·.defect? limit) with
  | some e => .error e
  | none => .ok ()

section

variable {limit : Nat}

theorem firstDefect_append (ps qs : List Place) :
    firstDefect limit (ps ++ qs) =
      match firstDefect limit ps with
      | .error e => .error e
      | .ok () => firstDefect limit qs := by
  unfold firstDefect
  rw [List.findSome?_append]
  cases ps.findSome? (·.defect? limit) <;> rfl

theorem firstDefect_cons (p : Place) (ps : List Place) :
    firstDefect limit (p :: ps) =
      match p.defect? limit with
      | some e => .error e
      | none => firstDefect limit ps := by
  unfold firstDefect
  rw [List.findSome?_cons]
  cases p.defect? limit <;> rfl

theorem firstDefect_eq_ok_iff (ps : List Place) :
    firstDefect limit ps = .ok () ↔ ∀ p ∈ ps, p.defect? limit = none := by
  unfold firstDefect
  rw [← List.findSome?_eq_none_iff]
  cases ps.findSome? (·.defect? limit) <;> simp

theorem firstDefect_eq_error_iff (ps : List Place) (e : RuleError) :
    firstDefect limit ps = .error e ↔ ∃ before p after, ps = before ++ p :: after ∧
      (∀ q ∈ before, q.defect? limit = none) ∧ p.defect? limit = some e := by
  unfold firstDefect
  constructor
  · intro h
    split at h
    · rename_i d hd
      cases h
      obtain ⟨before, p, after, hp, hs, hb⟩ := List.findSome?_eq_some_iff.mp hd
      exact ⟨before, p, after, hp, hb, hs⟩
    · cases h
  · rintro ⟨before, p, after, hp, hb, hs⟩
    have hd : ps.findSome? (·.defect? limit) = some e :=
      List.findSome?_eq_some_iff.mpr ⟨before, p, after, hp, hs, hb⟩
    rw [hd]

/-! ## Validation finds the first defect -/

mutual

-- the depth that is counted along the way is the length of the path
theorem Condition.check_eq (path : DefectPath) :
    ∀ c : Condition, c.check limit path path.length = firstDefect limit (c.places path)
  | .compare field operator operand => by
    rw [check, places, firstDefect_cons, Place.defect?]
    by_cases hd : limit < path.length
    · simp only [hd, if_true]
    · simp only [hd, if_false]
      split <;> rfl
  | .group g children => by
    rw [check, places, firstDefect_cons, Place.defect?, checkChildren_eq path g 0 children]
    by_cases hd : limit < path.length
    · simp only [hd, if_true]
    · simp only [hd, if_false]

theorem Condition.checkChildren_eq (path : DefectPath) (g : Group) :
    ∀ (index : Nat) (cs : List Condition), checkChildren limit path g index (path.length + 1) cs =
      firstDefect limit (childPlaces path g index cs)
  | index, [] => rfl
  | index, c :: rest => by
    have hc := check_eq (path ++ [.child g index]) c
    rw [List.length_append, List.length_singleton] at hc
    rw [checkChildren, childPlaces, firstDefect_append, hc]
    cases firstDefect limit (c.places (path ++ [.child g index])) with
    | error e => rfl
    | ok _ => exact checkChildren_eq path g (index + 1) rest

end

theorem FieldRule.check_eq (path : DefectPath) (r : FieldRule) (alternates : List FieldRule) :
    r.check limit path path.length = firstDefect limit (r.places path alternates) := by
  rw [check, places, firstDefect_cons, Place.defect?]
  by_cases hd : limit < path.length
  · simp only [hd, if_true]
  simp only [hd, if_false]
  by_cases hb : Text.allBlank r.field
  · simp only [hb, if_true]
  simp only [hb]
  cases r.includeIf with
  | none => rfl
  | some c =>
    have hc : c.check limit _ _ = _ := Condition.check_eq (path ++ [.includeIf]) c
    rw [List.length_append, List.length_singleton] at hc
    exact hc

theorem FieldRule.checkChain_eq (path : DefectPath) (rs : List FieldRule) :
    checkChain limit path path.length rs = firstDefect limit (chainPlaces path rs) := by
  induction rs generalizing path with
  | nil => rfl
  | cons r rest ih =>
    have hr := ih (path ++ [.alternate])
    rw [List.length_append, List.length_singleton] at hr
    rw [checkChain, chainPlaces, firstDefect_append, check_eq path r rest]
    cases firstDefect limit (r.places path rest) with
    | error e => rfl
    | ok _ => exact hr

theorem RuleChain.checkAll_eq (index : Nat) (chains : List RuleChain) :
    checkAll limit index chains = firstDefect limit (places index chains) := by
  induction chains generalizing index with
  | nil => rfl
  | cons chain rest ih =>
    have hc : FieldRule.checkChain limit _ _ _ = _ := FieldRule.checkChain_eq [.rule index] chain.rules
    rw [checkAll, places, firstDefect_append, ← hc]
    cases FieldRule.checkChain limit [.rule index] 1 chain.rules with
    | error e => rfl
    | ok _ => exact ih (index + 1)

theorem Configuration.validate_eq (c : Configuration) (limit : Nat) :
    c.validate limit = firstDefect limit c.places :=
  RuleChain.checkAll_eq 0 c.fields

end

/-! ## What is accepted -/

/-- A rule at a position of its chain has a name and is not too deep, and its condition has
named leaves and is not too deep behind it. -/
structure FieldRule.SoundAt (limit position : Nat) (r : FieldRule) : Prop where
  field : Text.allBlank r.field = false
  depth : position ≤ limit
  condition : ∀ c, r.includeIf = some c →
    position + c.depth ≤ limit ∧ ∀ f ∈ c.fields, Text.allBlank f = false

/-- All rules are sound at their positions; the first rule of a chain is at position 1. -/
def Configuration.Sound (c : Configuration) (limit : Nat) : Prop :=
  ∀ chain ∈ c.fields, ∀ (k : Nat) (r : FieldRule), chain.rules[k]? = some r → r.SoundAt limit (k + 1)

section

variable {limit : Nat}

theorem Place.defect?_eq_none_iff (path : DefectPath) (p : Part) :
    (⟨path, p⟩ : Place).defect? limit = none ↔ path.length ≤ limit ∧
      match p with
      | .rule r _ => Text.allBlank r.field = false
      | .condition (.compare field _ _) => Text.allBlank field = false
      | _ => True := by
  unfold Place.defect?
  by_cases hd : limit < path.length
  · simp only [hd, if_true]
    exact ⟨fun h => by (cases h), fun h => absurd h.1 (by omega)⟩
  · simp only [hd, if_false, Nat.le_of_not_lt hd, true_and]
    rcases p with _ | ⟨r, _⟩ | ⟨_, _⟩ | ⟨field, _, _⟩ <;> simp

mutual

theorem Condition.places_sound_iff (path : DefectPath) : ∀ c : Condition,
    (∀ p ∈ c.places path, p.defect? limit = none) ↔
      path.length + c.depth ≤ limit + 1 ∧ ∀ f ∈ c.fields, Text.allBlank f = false
  | .compare field operator operand => by
    simp [places, Place.defect?_eq_none_iff, depth, fields]
  | .group g children => by
    rw [places, List.forall_mem_cons, Place.defect?_eq_none_iff, depth, fields]
    constructor
    · rintro ⟨⟨hd, -⟩, h⟩
      obtain ⟨hc, hf⟩ := (childPlaces_sound_iff path g hd 0 children).mp h
      exact ⟨by omega, hf⟩
    · rintro ⟨hc, hf⟩
      have hd : path.length ≤ limit := by omega
      exact ⟨⟨hd, trivial⟩, (childPlaces_sound_iff path g hd 0 children).mpr ⟨by omega, hf⟩⟩

theorem Condition.childPlaces_sound_iff (path : DefectPath) (g : Group) (hd : path.length ≤ limit) :
    ∀ (index : Nat) (cs : List Condition), (∀ p ∈ childPlaces path g index cs, p.defect? limit = none) ↔
      path.length + deepest cs ≤ limit ∧ ∀ f ∈ fieldsOfAll cs, Text.allBlank f = false
  | index, [] => by simp [childPlaces, deepest, fieldsOfAll, hd]
  | index, c :: rest => by
    rw [childPlaces, List.forall_mem_append, places_sound_iff, childPlaces_sound_iff path g hd, deepest,
      fieldsOfAll, List.forall_mem_append, List.length_append, List.length_singleton]
    constructor
    · rintro ⟨⟨hc, hf⟩, hr, hg⟩
      exact ⟨by omega, hf, hg⟩
    · rintro ⟨hc, hf, hg⟩
      exact ⟨⟨by omega, hf⟩, by omega, hg⟩

end

theorem FieldRule.places_sound_iff (path : DefectPath) (r : FieldRule) (alternates : List FieldRule) :
    (∀ p ∈ r.places path alternates, p.defect? limit = none) ↔ r.SoundAt limit path.length := by
  rw [places, List.forall_mem_cons, Place.defect?_eq_none_iff]
  constructor
  · rintro ⟨⟨hd, hf⟩, h⟩
    refine ⟨hf, hd, fun c hc => ?_⟩
    rw [hc] at h
    obtain ⟨hl, hn⟩ := (Condition.places_sound_iff _ c).mp h
    rw [List.length_append, List.length_singleton] at hl
    exact ⟨by omega, hn⟩
  · rintro ⟨hf, hd, h⟩
    refine ⟨⟨hd, hf⟩, ?_⟩
    cases hc : r.includeIf with
    | none => simp
    | some c =>
      obtain ⟨hl, hn⟩ := h c hc
      refine (Condition.places_sound_iff _ c).mpr ⟨?_, hn⟩
      rw [List.length_append, List.length_singleton]
      omega

theorem FieldRule.chainPlaces_sound_iff (path : DefectPath) (rs : List FieldRule) :
    (∀ p ∈ chainPlaces path rs, p.defect? limit = none) ↔
      ∀ (k : Nat) (r : FieldRule), rs[k]? = some r → r.SoundAt limit (path.length + k) := by
  induction rs generalizing path with
  | nil => simp [chainPlaces]
  | cons r rest ih =>
    rw [chainPlaces, List.forall_mem_append, places_sound_iff, ih, List.length_append, List.length_singleton]
    constructor
    · rintro ⟨hr, hn⟩ k s hs
      cases k with
      | zero => cases hs; exact hr
      | succ k => rw [show path.length + (k + 1) = path.length + 1 + k by omega]; exact hn k s hs
    · intro h
      refine ⟨h 0 r rfl, fun k s hs => ?_⟩
      rw [show path.length + 1 + k = path.length + (k + 1) by omega]
      exact h (k + 1) s hs

theorem RuleChain.places_sound_iff (index : Nat) (chains : List RuleChain) :
    (∀ p ∈ places index chains, p.defect? limit = none) ↔ ∀ chain ∈ chains, ∀ (k : Nat) (r : FieldRule),
      chain.rules[k]? = some r → r.SoundAt limit (k + 1) := by
  induction chains generalizing index with
  | nil => simp [places]
  | cons chain rest ih =>
    rw [places, List.forall_mem_append, FieldRule.chainPlaces_sound_iff, ih, List.forall_mem_cons,
      List.length_singleton]
    simp only [Nat.add_comm 1]

end

theorem Configuration.validate_eq_ok_iff (c : Configuration) (limit : Nat) :
    c.validate limit = .ok () ↔ c.Sound limit := by
  rw [validate_eq, firstDefect_eq_ok_iff]
  exact RuleChain.places_sound_iff 0 c.fields

/-- Validation accepts exactly the sound configurations. Of the others it reports the defect of the
first place in document order that has one, and a path in a report leads from the document
to that place, also as it is written. -/
theorem validate_reports_first_defect (c : Configuration) (limit : Nat) :
    (c.validate limit = .ok () ↔ c.Sound limit) ∧
      (∀ e, c.validate limit = .error e ↔ ∃ before place after, c.places = before ++ place :: after ∧
        (∀ p ∈ before, p.defect? limit = none) ∧ place.defect? limit = some e) ∧
      (∀ place : Place, place ∈ c.places ↔
        place.path ≠ [] ∧ (Part.document c).follow place.path = some place.part) ∧
      ∀ p q : DefectPath, p.text = q.text → p = q := by
  refine ⟨c.validate_eq_ok_iff limit, fun e => ?_, c.mem_places_iff, fun p q => DefectPath.text_injective⟩
  rw [c.validate_eq limit]
  exact firstDefect_eq_error_iff c.places e

/-- The blank name in the condition comes before the blank name of the alternate. -/
example :
    let named : FieldRule := { field := "a", includeIf := some (.equals " " "b") }
    ({ fields := [⟨named, [{ field := "" }]⟩] } : Configuration).validate 2 = .error .emptyCondition ∧
      ({ fields := [⟨named, [{ field := "" }]⟩] } : Configuration).validate 1 =
        .error (.depthExceeded 1 [.rule 0, .includeIf]) := ⟨rfl, rfl⟩

end RecordNaming
