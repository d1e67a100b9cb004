/-
  RecordNaming.Proofs.Document.Structure — reading the members of an object, and reading
  back those of a written one.

  An object sets the parts that its members name, in any order, if it names none twice
  (`readStructure_object_iff`).

  `Fills names set s members t`: setting the parts of a structure from these members takes
  one state to another, and the members are named in the order of `names`. Each written
  member that is read back is a step of it (`Fills.and_member`, `Fills.and_part`), and
  `readStructure_ofJson` reads the whole object.
-/
import RecordNaming.Document.Writing
import RecordNaming.Document.Configuration
import RecordNaming.Proofs.Json.Written
import RecordNaming.Proofs.Results

namespace RecordNaming.Document

/-! ## Values as documents -/

theorem isNull_ofJson {j : Json} (h : j ≠ .null) : (Node.ofJson j).isNull = false := by
  cases j with
  | null => exact absurd rfl h
  | _ => rfl

theorem isFalseNull_ofJson (j : Json) : (Node.ofJson j).isFalseNull = false := by cases j <;> rfl

section

variable {α σ : Type}

theorem mapM_ofItems {read : Node → Except DocumentError α} {toJson : α → Json} {vs : List α}
    (h : ∀ v ∈ vs, read (Node.ofJson (toJson v)) = .ok v) :
    (Node.ofItems (vs.map toJson)).mapM read = .ok vs := by
  induction vs with
  | nil => rfl
  | cons v vs ih =>
    rw [List.map_cons, Node.ofItems, List.mapM_cons, h v List.mem_cons_self,
      ih fun w hw => h w (List.mem_cons_of_mem v hw)]
    rfl

/-! ## Structures -/

variable {names names' : List String} {set : σ → String → Node → Except DocumentError σ} {s t u : σ}
  {ms : List (String × Json)}

/-- Sets parts one after the other. -/
def assign (set : σ → String → Node → Except DocumentError σ) (s : σ) (ms : List (String × Json)) :
    Except DocumentError σ :=
  ms.foldlM (fun s m => set s m.1 (Node.ofJson m.2)) s

theorem assign_cons_eq_ok_iff {m : String × Json} :
    assign set s (m :: ms) = .ok t ↔
      ∃ u, set s m.1 (Node.ofJson m.2) = .ok u ∧ assign set u ms = .ok t := by
  rw [assign, List.foldlM_cons, bind_eq_ok_iff]
  rfl

/-- The members that a structure with these parts looks at. -/
def known (names : List String) (ms : List (String × Json)) : List (String × Json) :=
  ms.filter fun m => names.contains m.1

/-- An entry is skipped, or is an error, or its part is set before the others are. -/
theorem setEntries_cons (names : List String) (seen : List String) (s : σ) (name : String) (value : Node)
    (rest : List (Node × Node)) :
    setEntries names set seen s ((.string name, value) :: rest) =
      if name ∉ names then setEntries names set seen s rest
      else if name ∈ seen then .error (.duplicateField name)
      else set s name value >>= fun u => setEntries names set (name :: seen) u rest := by
  by_cases hn : name ∈ names <;> by_cases hs : name ∈ seen <;>
    simp [setEntries, Node.keyName, hn, hs, bind, Except.bind]

theorem setEntries_eq_ok_iff {seen : List String} :
    setEntries names set seen s (Node.ofMembers ms) = .ok t ↔
      ((known names ms).map (·.1)).Nodup ∧ (∀ m ∈ known names ms, m.1 ∉ seen) ∧
        assign set s (known names ms) = .ok t := by
  induction ms generalizing s seen with
  | nil => simp [Node.ofMembers, setEntries, known, assign, pure, Except.pure]
  | cons m rest ih =>
    rw [Node.ofMembers, setEntries_cons]
    by_cases hn : m.1 ∈ names
    · have hk : known names (m :: rest) = m :: known names rest := by simp [known, hn]
      rw [hk, if_neg (not_not_intro hn), List.map_cons, List.nodup_cons, List.forall_mem_cons,
        assign_cons_eq_ok_iff]
      by_cases hs : m.1 ∈ seen
      · simp [hs]
      rw [if_neg hs, bind_eq_ok_iff]
      simp only [ih, List.mem_cons, not_or]
      constructor
      · rintro ⟨u, hu, nodup, apart, run⟩
        refine ⟨⟨fun hm => ?_, nodup⟩, ⟨hs, fun other ho => (apart other ho).2⟩, u, hu, run⟩
        obtain ⟨other, ho, he⟩ := List.mem_map.mp hm
        exact (apart other ho).1 he
      · rintro ⟨⟨hm, nodup⟩, ⟨-, apart⟩, u, hu, run⟩
        refine ⟨u, hu, nodup, fun other ho => ⟨fun he => hm ?_, apart other ho⟩, run⟩
        exact he ▸ List.mem_map_of_mem ho
    · have hk : known names (m :: rest) = known names rest := by simp [known, hn]
      rw [hk, if_pos hn, ih]

theorem readStructure_object_iff {expected : String} :
    readStructure expected names set s (Node.ofJson (.object ms)) = .ok t ↔
      ((known names ms).map (·.1)).Nodup ∧ assign set s (known names ms) = .ok t := by
  rw [Node.ofJson, readStructure, setEntries_eq_ok_iff]
  simp

/-! ## Written structures -/

/-- Setting parts from members takes a state to another; the members have some of the names, in
their order. -/
structure Fills (names : List String) (set : σ → String → Node → Except DocumentError σ) (s : σ)
    (members : List (String × Json)) (t : σ) : Prop where
  named : (members.map (·.1)).Sublist names
  run : members.foldlM (fun s m => set s m.1 (Node.ofJson m.2)) s = .ok t

theorem Fills.nil : Fills [] set s [] s := ⟨List.Sublist.refl _, rfl⟩

theorem Fills.of_sublist (h : Fills names set s ms t) (hn : names.Sublist names') : Fills names' set s ms t :=
  ⟨h.named.trans hn, h.run⟩

/-- A member is set behind the others. -/
theorem Fills.and_member (h : Fills names set s ms t) (name : String) (j : Json)
    (hs : set t name (Node.ofJson j) = .ok u) : Fills (names ++ [name]) set s (ms ++ [(name, j)]) u where
  named := by
    rw [List.map_append]
    exact h.named.append (List.Sublist.refl _)
  run := by
    have hj : [(name, j)].foldlM (fun s m => set s m.1 (Node.ofJson m.2)) t = .ok u := by
      rw [List.foldlM_cons, hs]
      rfl
    rw [List.foldlM_append, h.run]
    exact hj

/-- A value is written as something else than null and read back. -/
structure ReadsBack (read : Node → Except DocumentError α) (toJson : α → Json) (v : α) : Prop where
  present : toJson v ≠ .null
  read_eq : read (Node.ofJson (toJson v)) = .ok v

theorem ReadsBack.optional {read : Node → Except DocumentError α} {toJson : α → Json} {v : α}
    (h : ReadsBack read toJson v) : (Node.ofJson (toJson v)).readOptional read = .ok (some v) := by
  rw [Node.readOptional, isNull_ofJson h.present, isFalseNull_ofJson, h.read_eq]
  rfl

/-- A part that may be absent is set behind the others, or stays as it is. -/
theorem Fills.and_part (h : Fills names set s ms t) (name : String)
    (value : Option α) (toJson : α → Json) {read : Node → Except DocumentError α} {update : Option α → σ}
    (hs : ∀ n, set t name n = (n.readOptional read).map update) (absent : update none = t)
    (hr : ∀ v, value = some v → ReadsBack read toJson v) :
    Fills (names ++ [name]) set s (ms ++ part name value toJson) (update value) := by
  cases value with
  | none =>
    rw [absent, part, List.append_nil]
    exact h.of_sublist (List.sublist_append_left names [name])
  | some v =>
    refine h.and_member name (toJson v) ?_
    rw [hs, (hr v rfl).optional]
    rfl

/-- The object of members that fill a structure is read as the structure. -/
theorem readStructure_ofJson (nodup : names.Nodup) (h : Fills names set s ms t) (expected : String) :
    readStructure expected names set s (Node.ofJson (.object ms)) = .ok t := by
  have hk : known names ms = ms := List.filter_eq_self.mpr fun m hm => by
    simpa using h.named.subset (List.mem_map_of_mem hm)
  rw [readStructure_object_iff, hk]
  exact ⟨nodup.sublist h.named, h.run⟩

end

/-! ## Heights and numbers -/

section

variable {α : Type}

theorem heightOfMembers_append (ms ns : List (String × Json)) :
    heightOfMembers (ms ++ ns) = max (heightOfMembers ms) (heightOfMembers ns) := by
  induction ms with
  | nil => simp [heightOfMembers]
  | cons m ms ih => rw [List.cons_append, heightOfMembers, heightOfMembers, ih, Nat.max_assoc]

theorem heightOfMembers_part_le_iff (name : String) (value : Option α) (toJson : α → Json) (n : Nat) :
    heightOfMembers (part name value toJson) ≤ n ↔ ∀ v, value = some v → height (toJson v) ≤ n := by
  cases value <;> simp [part, heightOfMembers]

theorem heightOfItems_le_iff (items : List Json) (n : Nat) :
    heightOfItems items ≤ n ↔ ∀ item ∈ items, height item ≤ n := by
  induction items with
  | nil => simp [heightOfItems]
  | cons item rest ih => rw [heightOfItems, Nat.max_le, ih, List.forall_mem_cons]

theorem wholeMembers_append (ms ns : List (String × Json)) :
    Json.WholeMembers (ms ++ ns) ↔ Json.WholeMembers ms ∧ Json.WholeMembers ns := by
  induction ms with
  | nil => simp [Json.WholeMembers]
  | cons m ms ih => rw [List.cons_append, Json.WholeMembers, Json.WholeMembers, ih, and_assoc]

theorem wholeMembers_part_iff (name : String) (value : Option α) (toJson : α → Json) :
    Json.WholeMembers (part name value toJson) ↔ ∀ v, value = some v → Json.Whole (toJson v) := by
  cases value <;> simp [part, Json.WholeMembers]

theorem wholeItems_iff (items : List Json) :
    Json.WholeItems items ↔ ∀ item ∈ items, Json.Whole item := by
  induction items with
  | nil => simp [Json.WholeItems]
  | cons item rest ih => rw [Json.WholeItems, ih, List.forall_mem_cons]

end

end RecordNaming.Document
