/-
  RecordNaming.Proofs.Document.Generic — generic values as documents, and back.

  In a generic value the members of an object are in the order of their names, none twice
  (`Json.Ordered`): so they are put (`ordered_putMember`), and every value made of a document
  is like that (`ordered_of_toJson?`). A value as a document has a generic value wherever its
  arrays and objects may be open, which is the value itself if it is ordered
  (`exists_toJson?_ofJson`); so the compact text of an ordered value is parsed as the value
  (`parse?_compactText`).
-/
import RecordNaming.Proofs.Document.Structure

namespace RecordNaming

open Document

mutual

/-- The members of each object in a value are in strict order of their names. -/
def Json.Ordered : Json → Prop
  | .array items => OrderedItems items
  | .object members => (members.map (·.1)).Pairwise (· < ·) ∧ OrderedMembers members
  | _ => True

def Json.OrderedItems : List Json → Prop
  | [] => True
  | item :: rest => Ordered item ∧ OrderedItems rest

def Json.OrderedMembers : List (String × Json) → Prop
  | [] => True
  | (_, value) :: rest => Ordered value ∧ OrderedMembers rest

end

namespace Document

open Json (Ordered OrderedItems OrderedMembers)

/-! ## Members put in order -/

theorem mem_names_putMember {name other : String} {value : Json} {members : List (String × Json)}
    (h : other ∈ (putMember name value members).map (·.1)) : other = name ∨ other ∈ members.map (·.1) := by
  induction members with
  | nil => simpa [putMember] using h
  | cons m rest ih =>
    unfold putMember at h
    split at h
    · simpa using h
    · split at h
      · simp only [List.map_cons, List.mem_cons] at h ⊢
        exact h.imp_right .inr
      · simp only [List.map_cons, List.mem_cons] at h ⊢
        rcases h with h | h
        · exact .inr (.inl h)
        · exact (ih h).imp_right .inr

theorem pairwise_putMember (name : String) (value : Json) {members : List (String × Json)}
    (h : (members.map (·.1)).Pairwise (· < ·)) : ((putMember name value members).map (·.1)).Pairwise (· < ·) := by
  induction members with
  | nil => simp [putMember]
  | cons m rest ih =>
    simp only [List.map_cons, List.pairwise_cons] at h
    unfold putMember
    split
    · rename_i hl
      simp only [List.map_cons, List.pairwise_cons, List.mem_cons]
      exact ⟨fun other ho => ho.elim (· ▸ hl) fun ho => String.lt_trans hl (h.1 other ho), h⟩
    · rename_i hl
      split
      · rename_i he
        simp only [List.map_cons, List.pairwise_cons, he]
        exact h
      · rename_i he
        have hm : m.1 < name := (Std.lt_trichotomy m.1 name).elim id fun hr =>
          hr.elim (absurd · (Ne.symm he)) (absurd · hl)
        simp only [List.map_cons, List.pairwise_cons]
        refine ⟨fun other ho => ?_, ih h.2⟩
        rcases mem_names_putMember ho with rfl | ho
        · exact hm
        · exact h.1 other ho

theorem orderedMembers_putMember (name : String) {value : Json} (hv : Ordered value)
    {members : List (String × Json)} (h : OrderedMembers members) :
    OrderedMembers (putMember name value members) := by
  induction members with
  | nil => exact ⟨hv, trivial⟩
  | cons m rest ih =>
    unfold putMember
    split
    · exact ⟨hv, h⟩
    · split
      · exact ⟨hv, h.2⟩
      · exact ⟨h.1, ih h.2⟩

theorem ordered_putMember (name : String) {value : Json} (hv : Ordered value) {members : List (String × Json)}
    (h : Ordered (.object members)) : Ordered (.object (putMember name value members)) :=
  ⟨pairwise_putMember name value h.1, orderedMembers_putMember name hv h.2⟩

/-- A member whose name is behind all others is put last. -/
theorem putMember_of_last {name : String} (value : Json) {members : List (String × Json)}
    (h : ∀ other ∈ members.map (·.1), other < name) : putMember name value members = members ++ [(name, value)] := by
  induction members with
  | nil => rfl
  | cons m rest ih =>
    simp only [List.map_cons, List.forall_mem_cons] at h
    have hne : name ≠ m.1 := fun e => String.lt_irrefl m.1 (e ▸ h.1)
    rw [putMember, if_neg (String.lt_asymm h.1), if_neg hne, ih h.2]
    rfl

/-! ## Generic values of documents -/

-- on the levels; the items and entries of one document are read at the same level
/-- The generic value of a document is ordered. -/
theorem ordered_of_toJson? {levels : Nat} {n : Node} {j : Json} (h : n.toJson? levels = some j) : Ordered j := by
  induction levels generalizing n j with
  | zero => cases n <;> simp [Node.toJson?] at h <;> subst h <;> trivial
  | succ levels ih =>
    have items : ∀ (ns : List Node) (js : List Json), Node.toItems? levels ns = some js → OrderedItems js := by
      intro ns
      induction ns with
      | nil => simp [Node.toItems?, OrderedItems]
      | cons n rest hrest =>
        intro js hj
        simp only [Node.toItems?, Option.bind_eq_bind, Option.bind_eq_some_iff, Option.pure_def,
          Option.some.injEq] at hj
        obtain ⟨item, hi, others, ho, rfl⟩ := hj
        exact ⟨ih hi, hrest others ho⟩
    have members : ∀ (es : List (Node × Node)) (ms ms' : List (String × Json)), Ordered (.object ms) →
        Node.toMembers? levels ms es = some ms' → Ordered (.object ms') := by
      intro es
      induction es with
      | nil => simp [Node.toMembers?]
      | cons e rest hrest =>
        intro ms ms' ho hm
        obtain ⟨key, value⟩ := e
        cases key with
        | string name =>
          simp only [Node.toMembers?, Option.bind_eq_bind, Option.bind_eq_some_iff] at hm
          obtain ⟨v, hv, hm⟩ := hm
          exact hrest _ ms' (ordered_putMember name (ih hv) ho) hm
        | _ => simp [Node.toMembers?] at hm
    cases n with
    | sequence ns =>
      simp only [Node.toJson?, Option.map_eq_some_iff] at h
      obtain ⟨js, hj, rfl⟩ := h
      exact items ns js hj
    | mapping es =>
      simp only [Node.toJson?, Option.map_eq_some_iff] at h
      obtain ⟨ms, hm, rfl⟩ := h
      exact members es [] ms ⟨List.Pairwise.nil, trivial⟩ hm
    | _ => simp [Node.toJson?] at h <;> subst h <;> trivial

/-! ## Values as documents -/

mutual

/-- A value as a document has a generic value where its arrays and objects may be open: the value
itself, if it is ordered. -/
theorem exists_toJson?_ofJson : ∀ (j : Json) {levels : Nat}, height j ≤ levels →
    ∃ k, (Node.ofJson j).toJson? levels = some k ∧ (Ordered j → k = j)
  | .null, _, _ | .bool _, _, _ | .number _, _, _ | .string _, _, _ =>
    ⟨_, by simp only [Node.ofJson, Node.toJson?], fun _ => rfl⟩
  | .array items, 0, h | .object members, 0, h => by simp [height] at h
  | .array items, levels + 1, h => by
    have hl : heightOfItems items ≤ levels := by rw [height] at h; omega
    obtain ⟨ks, hk, he⟩ := exists_toItems?_ofItems items hl
    exact ⟨.array ks, by rw [Node.ofJson, Node.toJson?, hk]; rfl, fun ho => congrArg _ (he ho)⟩
  | .object members, levels + 1, h => by
    have hl : heightOfMembers members ≤ levels := by rw [height] at h; omega
    obtain ⟨ks, hk, he⟩ := exists_toMembers?_ofMembers members hl []
    exact ⟨.object ks, by rw [Node.ofJson, Node.toJson?, hk]; rfl, fun ho => congrArg _ (he ho.2 ho.1)⟩

theorem exists_toItems?_ofItems : ∀ (items : List Json) {levels : Nat}, heightOfItems items ≤ levels →
    ∃ ks, Node.toItems? levels (Node.ofItems items) = some ks ∧ (OrderedItems items → ks = items)
  | [], _, _ => ⟨[], rfl, fun _ => rfl⟩
  | item :: rest, levels, h => by
    rw [heightOfItems, Nat.max_le] at h
    obtain ⟨k, hk, he⟩ := exists_toJson?_ofJson item h.1
    obtain ⟨ks, hks, hes⟩ := exists_toItems?_ofItems rest h.2
    refine ⟨k :: ks, by simp [Node.ofItems, Node.toItems?, hk, hks], fun ho => ?_⟩
    rw [he ho.1, hes ho.2]

-- the members before are those already put; where all are in order, in front of those that follow
theorem exists_toMembers?_ofMembers : ∀ (members : List (String × Json)) {levels : Nat},
    heightOfMembers members ≤ levels → ∀ before : List (String × Json),
      ∃ ks, Node.toMembers? levels before (Node.ofMembers members) = some ks ∧
        (OrderedMembers members → ((before ++ members).map (·.1)).Pairwise (· < ·) → ks = before ++ members)
  | [], _, _, before => ⟨before, by simp [Node.ofMembers, Node.toMembers?], fun _ _ => (List.append_nil _).symm⟩
  | (name, value) :: rest, levels, h, before => by
    rw [heightOfMembers, Nat.max_le] at h
    obtain ⟨k, hk, he⟩ := exists_toJson?_ofJson value h.1
    obtain ⟨ks, hks, hes⟩ := exists_toMembers?_ofMembers rest h.2 (putMember name k before)
    refine ⟨ks, by simpa [Node.ofMembers, Node.toMembers?, hk] using hks, fun ho hp => ?_⟩
    have hl : ∀ other ∈ before.map (·.1), other < name := by
      rw [List.map_append, List.pairwise_append] at hp
      exact fun other hm => hp.2.2 other hm name (by simp)
    have hput : putMember name k before = before ++ [(name, value)] := by
      rw [putMember_of_last k hl, he ho.1]
    rw [hput, List.append_assoc] at hes
    exact hes ho.2 hp

end

theorem isSome_toJson?_ofJson {j : Json} {levels : Nat} (hl : height j ≤ levels) :
    ((Node.ofJson j).toJson? levels).isSome = true := by
  obtain ⟨k, hk, -⟩ := exists_toJson?_ofJson j hl
  rw [hk, Option.isSome_some]

theorem toJson?_ofJson {j : Json} {levels : Nat} (hl : height j ≤ levels) (ho : Ordered j) :
    (Node.ofJson j).toJson? levels = some j := by
  obtain ⟨k, hk, he⟩ := exists_toJson?_ofJson j hl
  rw [hk, he ho]

/-- The compact text of an ordered value of whole numbers is parsed as the value. -/
theorem parse?_compactText {j : Json} (hw : j.Whole) (ho : j.Ordered) (hl : height j ≤ Json.maxOpen) :
    Json.parse? j.compactText = some j := by
  rw [Json.parse?, Json.read?_compactText hw, Option.bind_some, toJson?_ofJson hl ho]

end Document

end RecordNaming
