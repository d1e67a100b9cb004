/-
  RecordNaming.Proofs.Document.Forms — what a value has to be to be read.

  (1) Single values: which values are read as texts, truth values and bounded numbers, and as what
      (`readText_eq_ok_iff`, `readBool_eq_ok_iff`, `readUInt64_eq_ok_iff`). A null stands for an absent
      value (`readOptional_eq_ok_iff`).
  (2) Sequences: an array is read item by item (`readSequence_eq_ok_iff`), each at its own height
      (`readAll_eq_ok_iff`).
  (3) Structures: an array sets the parts in their order, as many as it has
      (`readStructure_array_iff`), as an object sets those that it names. Parts can be set together if
      each can (`exists_assign_iff`), and a part of the result is what is read of its own value
      (`IsPart.of_assign`), which is found by its name (`forall_known_iff`) or its place (`member?_zip`).
  (4) What the start has and every part set keeps, every structure read has
      (`readStructure_preserves`).
-/
import Mathlib.Data.List.Forall2
import RecordNaming.Proofs.Document.Levels
import RecordNaming.Proofs.Document.RoundTrip

namespace RecordNaming

/-- The value, unless it is null. -/
def Json.present? : Json → Option Json
  | .null => none
  | j => some j

/-- The value of the member of this name, unless it is null. -/
def Json.given? (j : Json) (name : String) : Option Json := (j.member? name).bind present?

namespace Document

/-! ## (1) Single values -/

section

variable {α : Type}

theorem readText_eq_ok_iff {j : Json} {s : String} : (Node.ofJson j).readText = .ok s ↔ j = .string s := by
  cases j <;> simp [Node.ofJson, Node.readText]

theorem readBool_eq_ok_iff {j : Json} {b : Bool} : (Node.ofJson j).readBool = .ok b ↔ j = .bool b := by
  cases j <;> simp [Node.ofJson, Node.readBool]

theorem readOptional_eq_ok_iff {read : Node → Except DocumentError α} {j : Json} {v : Option α} :
    (Node.ofJson j).readOptional read = .ok v ↔
      Option.Rel (fun j a => read (Node.ofJson j) = .ok a) j.present? v := by
  by_cases hj : j = .null
  · subst hj
    have hr : (Node.ofJson .null).readOptional read = .ok none := rfl
    rw [hr, Json.present?, Except.ok.injEq]
    cases v <;> simp
  · have hp : j.present? = some j := by
      cases j with
      | null => exact absurd rfl hj
      | _ => rfl
    rw [Node.readOptional, isNull_ofJson hj, isFalseNull_ofJson, hp]
    simp only [Bool.false_eq_true, if_false, map_eq_ok_iff]
    cases v <;> simp

/-- A whole number of 64 bits is read of the value that it is written as, and of no other. -/
theorem readUInt64_eq_ok_iff {j : Json} {n : UInt64} :
    (Node.ofJson j).readUInt64 = .ok n ↔ j = intJson n.toNat := by
  constructor
  · intro h
    obtain ⟨i, hi, rfl⟩ := map_eq_ok_iff.mp h
    cases j with
    | number x =>
      cases x with
      | integer k low high =>
        simp only [Node.ofJson, Node.readInt] at hi
        split at hi
        · rename_i hk
          cases hi
          have he : (UInt64.ofNat i.toNat).toNat = i.toNat := by
            rw [UInt64.toNat_ofNat']
            omega
          rw [he, Int.toNat_of_nonneg hk.1, intJson_eq low high]
        · cases hi
      | float x => simp [Node.ofJson, Node.readInt] at hi
    | _ => simp [Node.ofJson, Node.readInt] at hi
  · rintro rfl
    exact (readsBack_uint64 n).read_eq

end

/-! ## (2) Sequences -/

section

variable {ε α β : Type}

theorem mapM_eq_ok_iff {f : α → Except ε β} {as : List α} {bs : List β} :
    as.mapM f = .ok bs ↔ List.Forall₂ (fun a b => f a = .ok b) as bs := by
  induction as generalizing bs with
  | nil => simp [pure, Except.pure, eq_comm]
  | cons a as ih =>
    rw [List.mapM_cons, bind_eq_ok_iff, List.forall₂_cons_left_iff]
    simp only [bind_eq_ok_iff, ih, pure, Except.pure, Except.ok.injEq]
    constructor
    · rintro ⟨b, hb, bs', hbs, rfl⟩
      exact ⟨b, bs', hb, hbs, rfl⟩
    · rintro ⟨b, bs', hb, hbs, rfl⟩
      exact ⟨b, hb, bs', hbs, rfl⟩

/-- The value is an array of items that each mean one of these. -/
def ListOf (means : Json → α → Prop) (j : Json) (vs : List α) : Prop :=
  ∃ items, j = .array items ∧ List.Forall₂ means items vs

theorem exists_listOf_iff {means : Json → α → Prop} {j : Json} :
    (∃ vs, ListOf means j vs) ↔ ∃ items, j = .array items ∧ ∀ item ∈ items, ∃ v, means item v := by
  have hf (items : List Json) : (∃ vs, List.Forall₂ means items vs) ↔ ∀ item ∈ items, ∃ v, means item v := by
    induction items with
    | nil => simp
    | cons item rest ih =>
      rw [List.forall_mem_cons, ← ih]
      constructor
      · rintro ⟨_, h⟩
        obtain ⟨v, vs, hv, hvs, -⟩ := List.forall₂_cons_left_iff.mp h
        exact ⟨⟨v, hv⟩, vs, hvs⟩
      · rintro ⟨⟨v, hv⟩, vs, hvs⟩
        exact ⟨v :: vs, .cons hv hvs⟩
  unfold ListOf
  rw [exists_comm]
  refine exists_congr fun items => ?_
  rw [exists_and_left, hf]

theorem mapM_ofItems_eq_ok_iff {read : Node → Except DocumentError α} {items : List Json} {vs : List α} :
    (Node.ofItems items).mapM read = .ok vs ↔
      List.Forall₂ (fun item v => read (Node.ofJson item) = .ok v) items vs := by
  have he : Node.ofItems items = items.map Node.ofJson := by
    induction items with
    | nil => rfl
    | cons item rest ih => rw [Node.ofItems, ih, List.map_cons]
  rw [he, mapM_eq_ok_iff, List.forall₂_map_left_iff]

theorem readSequence_eq_ok_iff {read : Node → Except DocumentError α} {j : Json} {vs : List α} :
    readSequence read (Node.ofJson j) = .ok vs ↔
      ListOf (fun item v => read (Node.ofJson item) = .ok v) j vs := by
  unfold ListOf
  cases j with
  | array items =>
    rw [Node.ofJson, readSequence, mapM_ofItems_eq_ok_iff]
    simp
  | _ => simp [Node.ofJson, readSequence, Node.isBlank]

/-- Where it fits, a value is read as a list if it is an array of items that are each read at their
own height. -/
theorem readAll_eq_ok_iff {read : Nat → Node → Except DocumentError α}
    {readAll : Nat → Node → Except DocumentError (List α)}
    (zero : ∀ n, readAll 0 n = .error (n.tooDeep "a sequence"))
    (succ : ∀ levels n, readAll (levels + 1) n = readSequence (read levels) n)
    (agree : ∀ levels, AgreeUpTo levels (read (levels + 1)) (read levels)) {j : Json} {levels : Nat}
    (hl : height j ≤ levels) {vs : List α} :
    readAll levels (Node.ofJson j) = .ok vs ↔
      ListOf (fun item v => read (height item) (Node.ofJson item) = .ok v) j vs := by
  cases levels with
  | zero =>
    rw [zero]
    constructor
    · intro h
      cases h
    · rintro ⟨items, rfl, -⟩
      rw [height] at hl
      omega
  | succ levels =>
    rw [succ, readSequence_eq_ok_iff]
    refine exists_congr fun items => and_congr_right ?_
    rintro rfl
    -- the items are one level further in, where each is read as at its own height
    have hi : ∀ item ∈ items, height item ≤ levels := by
      rw [height, Nat.add_comm, Nat.add_le_add_iff_right, heightOfItems_le_iff] at hl
      exact hl
    clear hl
    induction items generalizing vs with
    | nil => simp
    | cons item rest ih =>
      rw [List.forall_mem_cons] at hi
      simp only [List.forall₂_cons_left_iff, read_eq_of_height_le agree hi.1, ih hi.2]

end

/-! ## (3) Structures -/

section

variable {σ τ : Type} {names : List String} {set : σ → String → Node → Except DocumentError σ}
  {s t : σ} {ms : List (String × Json)}

theorem setItems_eq_ok_iff {count : Nat} {items : List Json} :
    setItems set count s names (Node.ofItems items) = .ok t ↔
      items.length ≤ names.length ∧ assign set s (names.zip items) = .ok t := by
  induction items generalizing s names with
  | nil => cases names <;> simp [Node.ofItems, setItems, assign, pure, Except.pure]
  | cons item rest ih =>
    cases names with
    | nil => simp [Node.ofItems, setItems]
    | cons name names =>
      rw [Node.ofItems, setItems, bind_eq_ok_iff, List.zip_cons_cons, assign_cons_eq_ok_iff]
      simp only [ih, List.length_cons, Nat.add_le_add_iff_right]
      constructor
      · rintro ⟨u, hu, few, run⟩
        exact ⟨few, u, hu, run⟩
      · rintro ⟨few, u, hu, run⟩
        exact ⟨u, hu, few, run⟩

theorem readStructure_array_iff {expected : String} {items : List Json} :
    readStructure expected names set s (Node.ofJson (.array items)) = .ok t ↔
      items.length ≤ names.length ∧ assign set s (names.zip items) = .ok t := by
  rw [Node.ofJson, readStructure, setItems_eq_ok_iff]

/-- Parts can be set one after the other if each can, where what is set already does not matter. -/
theorem exists_assign_iff {settable : String → Node → Prop}
    (h : ∀ s name n, (∃ t, set s name n = .ok t) ↔ settable name n) :
    (∃ t, assign set s ms = .ok t) ↔ ∀ m ∈ ms, settable m.1 (Node.ofJson m.2) := by
  induction ms generalizing s with
  | nil => simp [assign, pure, Except.pure]
  | cons m rest ih =>
    -- the first part is set at the start, the others at what comes of it
    rw [List.forall_mem_cons, ← h s]
    simp only [assign_cons_eq_ok_iff]
    constructor
    · rintro ⟨t, u, hu, run⟩
      exact ⟨⟨u, hu⟩, ih.mp ⟨t, run⟩⟩
    · rintro ⟨⟨u, hu⟩, others⟩
      obtain ⟨t, run⟩ := ih.mpr others
      exact ⟨t, u, hu, run⟩

/-- A part of a structure: setting it reads its value, setting another leaves it as it is. -/
structure IsPart (set : σ → String → Node → Except DocumentError σ) (name : String) (get : σ → τ)
    (read : Node → Except DocumentError τ) : Prop where
  set_self : ∀ {s n t}, set s name n = .ok t → read n = .ok (get t)
  set_other : ∀ {s other n t}, other ≠ name → set s other n = .ok t → get t = get s

variable {name : String} {get : σ → τ} {read : Node → Except DocumentError τ}

theorem IsPart.of_map {update : σ → τ → σ} (hs : ∀ s n, set s name n = (read n).map (update s))
    (hu : ∀ s v, get (update s v) = v)
    (other : ∀ {s other n t}, other ≠ name → set s other n = .ok t → get t = get s) :
    IsPart set name get read where
  set_self h := by
    obtain ⟨v, hv, rfl⟩ := map_eq_ok_iff.mp ((hs _ _).symm.trans h)
    rw [hv, hu]
  set_other := other

theorem IsPart.of_assign_of_notMem (h : IsPart set name get read) (hn : name ∉ ms.map (·.1))
    (run : assign set s ms = .ok t) : get t = get s := by
  induction ms generalizing s with
  | nil =>
    cases run
    rfl
  | cons m rest ih =>
    rw [List.map_cons, List.mem_cons, not_or] at hn
    obtain ⟨u, hu, run⟩ := assign_cons_eq_ok_iff.mp run
    rw [ih hn.2 run, h.set_other (Ne.symm hn.1) hu]

/-- A part is what is read of the value under its name, or what it was. -/
theorem IsPart.of_assign (h : IsPart set name get read) (nodup : (ms.map (·.1)).Nodup)
    (run : assign set s ms = .ok t) :
    match (Json.object ms).member? name with
    | none => get t = get s
    | some j => read (Node.ofJson j) = .ok (get t) := by
  induction ms generalizing s with
  | nil =>
    cases run
    rfl
  | cons m rest ih =>
    rw [List.map_cons, List.nodup_cons] at nodup
    obtain ⟨u, hu, run⟩ := assign_cons_eq_ok_iff.mp run
    by_cases hm : m.1 = name
    · -- no later member has the name again, so the part stays as it is set here
      subst hm
      have hj : (Json.object (m :: rest)).member? m.1 = some m.2 := by simp [Json.member?]
      rw [hj]
      show read (Node.ofJson m.2) = .ok (get t)
      rw [h.of_assign_of_notMem nodup.1 run]
      exact h.set_self hu
    · have hj : (Json.object (m :: rest)).member? name = (Json.object rest).member? name := by
        simp [Json.member?, hm]
      rw [hj, ← h.set_other hm hu]
      exact ih nodup.2 run

/-- A part that may be absent is absent where no value is given, and else what is read of it. -/
theorem IsPart.optional_of_assign {α : Type} {get : σ → Option α} {read : Node → Except DocumentError α}
    (h : IsPart set name get (Node.readOptional read)) (absent : get s = none)
    (nodup : (ms.map (·.1)).Nodup) (run : assign set s ms = .ok t) :
    Option.Rel (fun j a => read (Node.ofJson j) = .ok a) ((Json.object ms).given? name) (get t) := by
  have ht := h.of_assign nodup run
  unfold Json.given?
  cases hj : (Json.object ms).member? name with
  | none =>
    rw [hj] at ht
    rw [show get t = none from ht.trans absent]
    exact .none
  | some j =>
    rw [hj] at ht
    exact readOptional_eq_ok_iff.mp ht

/-! ### Members by name -/

theorem member?_object (ms : List (String × Json)) (name : String) :
    (Json.object ms).member? name = (ms.find? (·.1 == name)).map (·.2) := rfl

theorem member?_known (hn : name ∈ names) :
    (Json.object (known names ms)).member? name = (Json.object ms).member? name := by
  rw [member?_object, member?_object, known, List.find?_filter]
  congr 2
  funext m
  by_cases hm : m.1 = name <;> simp [hm, hn]

theorem member?_eq_some_iff (nodup : (ms.map (·.1)).Nodup) {j : Json} :
    (Json.object ms).member? name = some j ↔ (name, j) ∈ ms := by
  rw [member?_object, Option.map_eq_some_iff]
  constructor
  · rintro ⟨m, hm, rfl⟩
    have hn : m.1 = name := by simpa using List.find?_some hm
    exact hn ▸ List.mem_of_find?_eq_some hm
  · intro hm
    refine ⟨(name, j), ?_, rfl⟩
    induction ms with
    | nil => cases hm
    | cons m rest ih =>
      rw [List.map_cons, List.nodup_cons] at nodup
      rcases List.mem_cons.mp hm with rfl | hm
      · simp
      · have hne : m.1 ≠ name := fun he => nodup.1 (he ▸ List.mem_map_of_mem hm)
        rw [List.find?_cons_of_neg (by simpa using hne)]
        exact ih nodup.2 hm

theorem given?_known (hn : name ∈ names) :
    (Json.object (known names ms)).given? name = (Json.object ms).given? name := by
  rw [Json.given?, Json.given?, member?_known hn]

theorem given?_eq_some_iff {j v : Json} :
    j.given? name = some v ↔ ∃ m, j.member? name = some m ∧ m.present? = some v :=
  Option.bind_eq_some_iff

theorem present?_eq_some_iff {j v : Json} : j.present? = some v ↔ j = v ∧ j ≠ .null := by
  cases j <;> simp [Json.present?]

theorem heightOfMembers_le_iff {n : Nat} : heightOfMembers ms ≤ n ↔ ∀ m ∈ ms, height m.2 ≤ n := by
  induction ms with
  | nil => simp [heightOfMembers]
  | cons m rest ih => rw [heightOfMembers, Nat.max_le, ih, List.forall_mem_cons]

theorem height_given?_le {v : Json} (h : (Json.object ms).given? name = some v) :
    height v ≤ heightOfMembers ms := by
  obtain ⟨j, hj, hv⟩ := given?_eq_some_iff.mp h
  obtain ⟨rfl, -⟩ := present?_eq_some_iff.mp hv
  rw [member?_object, Option.map_eq_some_iff] at hj
  obtain ⟨m, hm, rfl⟩ := hj
  exact heightOfMembers_le_iff.mp (Nat.le_refl _) m (List.mem_of_find?_eq_some hm)

theorem known_nodup (nodup : (ms.map (·.1)).Nodup) : ((known names ms).map (·.1)).Nodup :=
  nodup.sublist (List.filter_sublist.map _)

/-- What holds of each member that a structure looks at holds of what stands under each name. -/
theorem forall_known_iff (nodup : ((known names ms).map (·.1)).Nodup) {p : String → Json → Prop} :
    (∀ m ∈ known names ms, p m.1 m.2) ↔
      ∀ name ∈ names, ∀ j, (Json.object ms).member? name = some j → p name j := by
  constructor
  · intro h name hn j hj
    rw [← member?_known hn, member?_eq_some_iff nodup] at hj
    exact h _ hj
  · intro h m hm
    have hn : m.1 ∈ names := by simpa using (List.mem_filter.mp hm).2
    exact h m.1 hn m.2 (by rwa [← member?_known hn, member?_eq_some_iff nodup])

/-! ### Items by place -/

variable {items : List Json}

theorem names_zip_sublist : ((names.zip items).map (·.1)).Sublist names := by
  induction names generalizing items with
  | nil => simp
  | cons name names ih =>
    cases items with
    | nil => simp
    | cons item items => simpa using ih

theorem known_zip : known names (names.zip items) = names.zip items := by
  refine List.filter_eq_self.mpr fun m hm => ?_
  simpa using (List.of_mem_zip hm).1

/-- An item stands under the name at its place. -/
theorem member?_zip {k : Nat} (nodup : names.Nodup) (hk : names[k]? = some name) :
    (Json.object (names.zip items)).member? name = items[k]? := by
  induction names generalizing items k with
  | nil => simp at hk
  | cons first names ih =>
    cases items with
    | nil => simp [Json.member?]
    | cons item items =>
      cases k with
      | zero =>
        cases hk
        simp [Json.member?]
      | succ k =>
        rw [List.nodup_cons] at nodup
        have hne : first ≠ name := fun he => nodup.1 (he ▸ List.mem_of_getElem? hk)
        rw [member?_object, List.zip_cons_cons, List.find?_cons_of_neg (by simpa using hne)]
        exact ih nodup.2 hk

theorem given?_zip {k : Nat} (nodup : names.Nodup) (hk : names[k]? = some name) :
    (Json.object (names.zip items)).given? name = items[k]?.bind Json.present? := by
  rw [Json.given?, member?_zip nodup hk]

/-! ### Parts that may be absent -/

/-- A part that may be absent can be set to what stands under its name if what is given there is read. -/
theorem settable_optional_iff {α : Type} {read : Node → Except DocumentError α} {update : Option α → σ}
    (hs : ∀ n, set s name n = (n.readOptional read).map update) (o : Json) :
    (∀ j, o.member? name = some j → ∃ t, set s name (Node.ofJson j) = .ok t) ↔
      ∀ v, o.given? name = some v → ∃ a, read (Node.ofJson v) = .ok a := by
  have hj (j : Json) : (∃ t, set s name (Node.ofJson j) = .ok t) ↔
      ∀ v, j.present? = some v → ∃ a, read (Node.ofJson v) = .ok a := by
    rw [hs, exists_map_eq_ok_iff]
    simp only [readOptional_eq_ok_iff, exists_rel_iff]
  simp only [hj, given?_eq_some_iff]
  constructor
  · rintro h v ⟨j, hm, hp⟩
    exact h j hm v hp
  · intro h j hm v hp
    exact h v ⟨j, hm, hp⟩

end

/-! ## (4) What every structure has -/

section

variable {σ α : Type} {names : List String} {set : σ → String → Node → Except DocumentError σ} {p : σ → Prop}
  (keeps : ∀ {s name n t}, p s → set s name n = .ok t → p t)
include keeps

theorem setEntries_preserves {entries : List (Node × Node)} {seen : List String} {s t : σ} (hs : p s)
    (h : setEntries names set seen s entries = .ok t) : p t := by
  induction entries generalizing s seen with
  | nil =>
    cases h
    exact hs
  | cons entry rest ih =>
    obtain ⟨key, value⟩ := entry
    obtain ⟨name, -, h⟩ := bind_eq_ok_iff.mp h
    split at h
    · split at h
      · cases h
      · obtain ⟨u, hu, h⟩ := bind_eq_ok_iff.mp h
        exact ih (keeps hs hu) h
    · exact ih hs h

theorem setItems_preserves {items : List Node} {count : Nat} {s t : σ} (hs : p s)
    (h : setItems set count s names items = .ok t) : p t := by
  induction items generalizing s names with
  | nil =>
    cases names <;> cases h <;> exact hs
  | cons item rest ih =>
    cases names with
    | nil => cases h
    | cons name names =>
      obtain ⟨u, hu, h⟩ := bind_eq_ok_iff.mp h
      exact ih (keeps hs hu) h

theorem readStructure_preserves {expected : String} {n : Node} {s t : σ} (hs : p s)
    (h : readStructure expected names set s n = .ok t) : p t := by
  unfold readStructure at h
  split at h
  · exact setEntries_preserves keeps hs h
  · exact setItems_preserves keeps hs h
  · split at h
    · cases h
      exact hs
    · cases h

end

/-- What every item has that is read, all of them have. -/
theorem readSequence_forall {α : Type} {read : Node → Except DocumentError α} {p : α → Prop}
    (h : ∀ {n v}, read n = .ok v → p v) {n : Node} {vs : List α} (hs : readSequence read n = .ok vs) :
    ∀ v ∈ vs, p v := by
  unfold readSequence at hs
  split at hs
  · have hf := mapM_eq_ok_iff.mp hs
    clear hs
    induction hf with
    | nil => simp
    | cons hi _ ih => exact List.forall_mem_cons.mpr ⟨h hi, ih⟩
  · split at hs <;> cases hs
    simp

/-- What every value has that is read is had where one is given. -/
theorem readOptional_forall {α : Type} {read : Node → Except DocumentError α} {p : α → Prop}
    (h : ∀ {n v}, read n = .ok v → p v) {n : Node} {v : Option α} (hv : n.readOptional read = .ok v) :
    ∀ a, v = some a → p a := by
  unfold Node.readOptional at hv
  split at hv
  · cases hv
    simp
  · split at hv
    · cases hv
    · obtain ⟨a, ha, rfl⟩ := map_eq_ok_iff.mp hv
      intro b hb
      cases hb
      exact h ha

end Document

end RecordNaming
