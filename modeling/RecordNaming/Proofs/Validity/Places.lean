/-
  RecordNaming.Proofs.Validity.Places — the rules and conditions of a configuration, each
  with the path to it.

  `places` lists them in document order: a rule, its condition with the conditions in
  that, its alternate. A path is followed from the document step by step (`follow`), and
  - `mem_places_iff`: the places are exactly what the paths from the document lead to;
  - `DefectPath.text_injective`: paths that are written alike are the same path, so the text
    of a path names one place too.
-/
import RecordNaming.Configuration.Validity

namespace RecordNaming

/-! ## Paths -/

/-- What a path can lead to. A rule comes with its alternates. -/
inductive Part where
  | document (c : Configuration)
  | rule (r : FieldRule) (alternates : List FieldRule)
  | condition (c : Condition)

namespace Part

/-- One step from a part to a part of it. -/
def step? : Part → PathStep → Option Part
  | document c, .rule index => c.fields[index]?.map fun chain => rule chain.first chain.alternates
  | rule _ (next :: rest), .alternate => some (rule next rest)
  | rule r _, .includeIf => r.includeIf.map condition
  | condition (.group g children), .child h index =>
      if g = h then children[index]?.map condition else none
  | _, _ => none

/-- The part at the end of a path. -/
def follow : Part → DefectPath → Option Part
  | p, [] => some p
  | p, s :: rest => (p.step? s).bind (follow · rest)

end Part

/-! ## Places -/

/-- A part and the path to it. -/
structure Place where
  path : DefectPath
  part : Part

mutual

/-- A condition and those within it, in document order. -/
def Condition.places (path : DefectPath) : Condition → List Place
  | .compare field operator operand => [⟨path, .condition (.compare field operator operand)⟩]
  | .group g children => ⟨path, .condition (.group g children)⟩ :: childPlaces path g 0 children

/-- The conditions of a group from an index on. -/
def Condition.childPlaces (path : DefectPath) (g : Group) (index : Nat) : List Condition → List Place
  | [] => []
  | c :: rest => Condition.places (path ++ [.child g index]) c ++ childPlaces path g (index + 1) rest

end

/-- A rule and its condition, its alternates aside. -/
def FieldRule.places (path : DefectPath) (r : FieldRule) (alternates : List FieldRule) : List Place :=
  ⟨path, .rule r alternates⟩ :: match r.includeIf with
    | some c => c.places (path ++ [.includeIf])
    | none => []

/-- Rules that stand in for one another. -/
def FieldRule.chainPlaces (path : DefectPath) : List FieldRule → List Place
  | [] => []
  | r :: rest => r.places path rest ++ chainPlaces (path ++ [.alternate]) rest

/-- The rules of a document from an index on. -/
def RuleChain.places (index : Nat) : List RuleChain → List Place
  | [] => []
  | chain :: rest => FieldRule.chainPlaces [.rule index] chain.rules ++ places (index + 1) rest

/-- All rules and conditions of a configuration, in document order. -/
def Configuration.places (c : Configuration) : List Place := RuleChain.places 0 c.fields

/-! ## Places are what paths lead to -/

/-- The path starts as this one and goes on from this part to its own. -/
def Place.IsFrom (path : DefectPath) (p : Part) (place : Place) : Prop :=
  ∃ steps, place.path = path ++ steps ∧ p.follow steps = some place.part

theorem Place.IsFrom.cons {path : DefectPath} {p q : Part} {s : PathStep} {place : Place}
    (h : place.IsFrom (path ++ [s]) q) (hs : p.step? s = some q) : place.IsFrom path p := by
  obtain ⟨steps, hp, hf⟩ := h
  exact ⟨s :: steps, by simp [hp], by rw [Part.follow, hs]; exact hf⟩

/-- A place is the start itself or lies behind one step. -/
theorem Place.isFrom_iff (path : DefectPath) (p : Part) (place : Place) :
    place.IsFrom path p ↔
      place = ⟨path, p⟩ ∨ ∃ s q, p.step? s = some q ∧ place.IsFrom (path ++ [s]) q := by
  constructor
  · rintro ⟨steps, hp, hf⟩
    cases steps with
    | nil =>
      obtain ⟨path', part'⟩ := place
      simp only [Part.follow, Option.some.injEq, List.append_nil] at hf hp
      exact .inl (by rw [hf, hp])
    | cons s rest =>
      obtain ⟨q, hs, hq⟩ := Option.bind_eq_some_iff.mp hf
      exact .inr ⟨s, q, hs, rest, by simp [hp], hq⟩
  · rintro (rfl | ⟨s, q, hs, h⟩)
    · exact ⟨[], by simp, rfl⟩
    · exact h.cons hs

mutual

theorem Condition.mem_places_iff (path : DefectPath) (place : Place) :
    ∀ c : Condition, place ∈ c.places path ↔ place.IsFrom path (.condition c)
  | .compare field operator operand => by
    rw [places, List.mem_singleton, Place.isFrom_iff]
    simp [Part.step?]
  | .group g children => by
    rw [places, List.mem_cons, mem_childPlaces_iff, Place.isFrom_iff]
    refine or_congr_right ⟨?_, ?_⟩
    · rintro ⟨k, c, hc, h⟩
      exact ⟨.child g k, .condition c, by simp [Part.step?, hc], by simpa using h⟩
    · rintro ⟨s, q, hs, h⟩
      cases s with
      | child h' index =>
        simp only [Part.step?] at hs
        split at hs
        · rename_i e
          obtain ⟨c, hc, rfl⟩ := Option.map_eq_some_iff.mp hs
          exact ⟨index, c, hc, by simpa [e] using h⟩
        · cases hs
      | _ => simp [Part.step?] at hs

theorem Condition.mem_childPlaces_iff (path : DefectPath) (g : Group) (place : Place) :
    ∀ (index : Nat) (cs : List Condition), place ∈ childPlaces path g index cs ↔
      ∃ k c, cs[k]? = some c ∧ place.IsFrom (path ++ [.child g (index + k)]) (.condition c)
  | index, [] => by simp [childPlaces]
  | index, c :: rest => by
    rw [childPlaces, List.mem_append, mem_places_iff, mem_childPlaces_iff]
    constructor
    · rintro (h | ⟨k, c', hc, h⟩)
      · exact ⟨0, c, rfl, h⟩
      · exact ⟨k + 1, c', hc, by rwa [show index + (k + 1) = index + 1 + k by omega]⟩
    · rintro ⟨k, c', hc, h⟩
      cases k with
      | zero => cases hc; exact .inl h
      | succ k => exact .inr ⟨k, c', hc, by rwa [show index + 1 + k = index + (k + 1) by omega]⟩

end

theorem FieldRule.mem_places_iff (path : DefectPath) (r : FieldRule) (alternates : List FieldRule)
    (place : Place) :
    place ∈ r.places path alternates ↔ place = ⟨path, .rule r alternates⟩ ∨
      ∃ c, r.includeIf = some c ∧ place.IsFrom (path ++ [.includeIf]) (.condition c) := by
  rw [places, List.mem_cons]
  cases r.includeIf with
  | none => simp
  | some c => simp [Condition.mem_places_iff]

theorem FieldRule.mem_chainPlaces_iff (place : Place) (alternates : List FieldRule) :
    ∀ (path : DefectPath) (r : FieldRule),
      place ∈ chainPlaces path (r :: alternates) ↔ place.IsFrom path (.rule r alternates) := by
  induction alternates with
  | nil =>
    intro path r
    rw [chainPlaces, chainPlaces, List.append_nil, mem_places_iff, Place.isFrom_iff]
    refine or_congr_right ⟨?_, ?_⟩
    · rintro ⟨c, hc, h⟩
      exact ⟨.includeIf, .condition c, by simp [Part.step?, hc], h⟩
    · rintro ⟨s, q, hs, h⟩
      cases s with
      | includeIf =>
        obtain ⟨c, hc, rfl⟩ := Option.map_eq_some_iff.mp hs
        exact ⟨c, hc, h⟩
      | _ => simp [Part.step?] at hs
  | cons next rest ih =>
    intro path r
    rw [chainPlaces, List.mem_append, mem_places_iff, ih, Place.isFrom_iff path, or_assoc]
    refine or_congr_right ⟨?_, ?_⟩
    · rintro (⟨c, hc, h⟩ | h)
      · exact ⟨.includeIf, .condition c, by simp [Part.step?, hc], h⟩
      · exact ⟨.alternate, .rule next rest, rfl, h⟩
    · rintro ⟨s, q, hs, h⟩
      cases s with
      | includeIf =>
        obtain ⟨c, hc, rfl⟩ := Option.map_eq_some_iff.mp hs
        exact .inl ⟨c, hc, h⟩
      | alternate => cases hs; exact .inr h
      | _ => simp [Part.step?] at hs

theorem RuleChain.mem_places_iff (place : Place) (chains : List RuleChain) (index : Nat) :
    place ∈ places index chains ↔ ∃ k chain, chains[k]? = some chain ∧
      place.IsFrom [.rule (index + k)] (.rule chain.first chain.alternates) := by
  induction chains generalizing index with
  | nil => simp [places]
  | cons chain rest ih =>
    rw [places, List.mem_append, rules, FieldRule.mem_chainPlaces_iff, ih]
    constructor
    · rintro (h | ⟨k, chain', hc, h⟩)
      · exact ⟨0, chain, rfl, h⟩
      · exact ⟨k + 1, chain', hc, by rwa [show index + (k + 1) = index + 1 + k by omega]⟩
    · rintro ⟨k, chain', hc, h⟩
      cases k with
      | zero => cases hc; exact .inl h
      | succ k => exact .inr ⟨k, chain', hc, by rwa [show index + 1 + k = index + (k + 1) by omega]⟩

/-- The places of a configuration are what the paths from the document lead to. -/
theorem Configuration.mem_places_iff (c : Configuration) (place : Place) :
    place ∈ c.places ↔ place.path ≠ [] ∧ (Part.document c).follow place.path = some place.part := by
  rw [places, RuleChain.mem_places_iff]
  constructor
  · rintro ⟨k, chain, hc, h⟩
    rw [Nat.zero_add] at h
    have hs : (Part.document c).step? (.rule k) = some (.rule chain.first chain.alternates) := by
      simp [Part.step?, hc]
    have hd : place.IsFrom [] (.document c) := h.cons hs
    obtain ⟨steps, hp, hf⟩ := hd
    rw [List.nil_append] at hp
    refine ⟨?_, by rw [hp, hf]⟩
    obtain ⟨rest, hr, _⟩ := h
    simp [hr]
  · rintro ⟨hne, hf⟩
    cases hp : place.path with
    | nil => exact absurd hp hne
    | cons s rest =>
      rw [hp] at hf
      obtain ⟨q, hs, hq⟩ := Option.bind_eq_some_iff.mp hf
      cases s with
      | rule k =>
        obtain ⟨chain, hc, rfl⟩ := Option.map_eq_some_iff.mp hs
        exact ⟨k, chain, hc, rest, by simp [hp], hq⟩
      | _ => cases hs

/-! ## The text of a path -/

theorem toDigits_injective {m n : Nat} (h : Nat.toDigits 10 m = Nat.toDigits 10 n) : m = n := by
  rw [← Nat.ofDigitChars_toDigits (b := 10) (n := m) (by decide) (by decide), h,
    Nat.ofDigitChars_toDigits (by decide) (by decide)]

theorem PathStep.text_ne_empty (s : PathStep) : s.text ≠ "" := by
  cases s <;> simp [text]

theorem PathStep.point_notMem_text (s : PathStep) : '.' ∉ s.text.toList := by
  have hd (n : Nat) : '.' ∉ Nat.toDigits 10 n := fun h => by
    simpa using Nat.isDigit_of_mem_toDigits (by decide) (by decide) h
  cases s with
  | rule index => simp [text, hd]
  | alternate => decide
  | includeIf => decide
  | child g index => cases g <;> simp [text, Group.name, hd]

theorem PathStep.text_injective {s t : PathStep} (h : s.text = t.text) : s = t := by
  have hl : s.text.toList = t.text.toList := congrArg String.toList h
  cases s with
  | rule i =>
    cases t with
    | rule j =>
      have hd : Nat.toDigits 10 i = Nat.toDigits 10 j := by simpa [text] using hl
      rw [toDigits_injective hd]
    | alternate => simp [text] at hl
    | includeIf => simp [text] at hl
    | child g j => cases g <;> simp [text, Group.name] at hl
  | alternate =>
    cases t with
    | alternate => rfl
    | child g j => cases g <;> simp [text, Group.name] at hl
    | _ => simp [text] at hl
  | includeIf =>
    cases t with
    | includeIf => rfl
    | child g j => cases g <;> simp [text, Group.name] at hl
    | _ => simp [text] at hl
  | child f i =>
    cases t with
    | child g j =>
      cases f <;> cases g <;> simp [text, Group.name] at hl ⊢ <;> exact toDigits_injective hl
    | _ => cases f <;> simp [text, Group.name] at hl

/-- A path that is not empty is split into its steps at the points. -/
theorem DefectPath.splitOn_text {p : DefectPath} (h : p ≠ []) :
    p.text.toList.splitOn '.' = p.map (·.text.toList) := by
  rw [text, String.toList_intercalate, List.map_map]
  refine List.splitOn_intercalate '.' (fun l hl => ?_) (by simpa using h)
  obtain ⟨s, _, rfl⟩ := List.mem_map.mp hl
  exact s.point_notMem_text

theorem DefectPath.text_eq_empty_iff {p : DefectPath} : p.text = "" ↔ p = [] := by
  refine ⟨fun h => ?_, fun h => by rw [h]; rfl⟩
  apply Classical.byContradiction
  intro hne
  have hs := splitOn_text hne
  rw [h, String.toList_empty, List.splitOn_nil] at hs
  cases p with
  | nil => exact hne rfl
  | cons s rest =>
    simp only [List.map_cons, List.cons.injEq] at hs
    exact s.text_ne_empty (String.toList_eq_nil_iff.mp hs.1.symm)

/-- Paths that are written alike are the same path. -/
theorem DefectPath.text_injective {p q : DefectPath} (h : p.text = q.text) : p = q := by
  by_cases hp : p = []
  · rw [hp, eq_comm, ← text_eq_empty_iff, ← h, text_eq_empty_iff, hp]
  · have hq : q ≠ [] := fun e => hp (text_eq_empty_iff.mp (h.trans (text_eq_empty_iff.mpr e)))
    have hs : p.map (·.text.toList) = q.map (·.text.toList) := by
      rw [← splitOn_text hp, ← splitOn_text hq, h]
    exact (List.map_inj_right fun s t e => PathStep.text_injective (String.toList_inj.mp e)).mp hs

end RecordNaming
