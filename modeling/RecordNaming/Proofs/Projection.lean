/-
  RecordNaming.Proofs.Projection — a record holds what its document says, and nothing else.

  (1) One attribute is written (`get?_addProjected`, `label?_addProjected`), and distinct names do not disturb each
  other: what a record holds of a name is what was read of the member with this name (`addAttributes_of_mem`), names
  that are not among the members keep their state (`addAttributes_of_notMem`), and the attributes that are no null are
  counted (`size_addAttributes`).

  (2) Whole numbers keep their digits: those of 64 bits with a sign as they are, the others as decimals without places
  (`projectValue_whole`, `projectValue_large`).

  (3) The labels of an envelope are there before its attributes are read (`formattedLabel_start`), so the label of a
  tagged value stands over them.

  `projection_is_faithful` puts them together, and adds that an envelope of nothing but attributes is read as the
  attributes alone.
-/
import RecordNaming.Proofs.Absence
import RecordNaming.Proofs.Decimal.Reading
import RecordNaming.Proofs.Results

namespace RecordNaming

/-- A value other than null. -/
def Json.isGiven : Json → Bool
  | .null => false
  | _ => true

theorem Json.isGiven_iff {value : Json} : value.isGiven = true ↔ value ≠ .null := by
  cases value <;> simp [isGiven]

theorem Json.member?_eq_none_iff {members : List (String × Json)} {name : String} :
    (Json.object members).member? name = none ↔ name ∉ members.map Prod.fst := by
  refine ⟨fun h hn => ?_, Record.Frame.member?_eq_none⟩
  obtain ⟨m, hm, rfl⟩ := List.mem_map.mp hn
  simp only [member?, Option.map_eq_none_iff, List.find?_eq_none, beq_iff_eq] at h
  exact h m hm rfl

theorem Json.member?_eq_some_iff_mem {members : List (String × Json)} (hn : (members.map Prod.fst).Nodup)
    {name : String} {value : Json} : (Json.object members).member? name = some value ↔ (name, value) ∈ members := by
  induction members with
  | nil => simp [member?]
  | cons m rest ih =>
    obtain ⟨other, v⟩ := m
    simp only [List.map_cons, List.nodup_cons] at hn
    by_cases he : other = name
    · subst he
      have hrest : (other, value) ∉ rest := fun hm => hn.1 (List.mem_map_of_mem hm)
      simp [member?, hrest, eq_comm]
    · have hne : ¬ name = other := fun e => he e.symm
      have hskip : (Json.object ((other, v) :: rest)).member? name = (Json.object rest).member? name := by
        simp [member?, he]
      rw [hskip, ih hn.2]
      simp [hne]

namespace Record

/-! ## (1) Attributes in a row -/

/-- A tagged value carries a label. -/
def CarriesLabel (value : Json) (label : String) : Prop :=
  (value.member? "$type").isSome ∧ value.member? "label" = some (.string label)

section

variable {r s : Record} {members : List (String × Json)} {field other : String} {value : Json}

theorem get?_addProjected (p : Option (FieldValue × Option String)) :
    (r.addProjected field p).get? field = (p.map Prod.fst).or (r.get? field) := by
  rcases p with _ | ⟨v, _ | l⟩
  · rfl
  · exact get?_insert_self r field v
  · exact get?_insert_self (r.withLabel field l) field v

theorem label?_addProjected (p : Option (FieldValue × Option String)) : (r.addProjected field p).label? other =
    if other = field then (p.bind Prod.snd).or (r.label? other) else r.label? other := by
  rcases p with _ | ⟨v, _ | l⟩
  · exact (ite_self _).symm
  · exact (ite_self _).symm
  · exact label?_withLabel r field l other

theorem size_addProjected (p : Option (FieldValue × Option String)) (h : r.get? field = none) :
    (r.addProjected field p).size = r.size + (if p.isSome then 1 else 0) := by
  have hput (t : Record) (v : FieldValue) (ht : t.attributes = r.attributes) :
      (t.insert field v).size = r.size + 1 := by
    have hnone : (t.attributes.get? field).isSome = false := by
      rw [ht, show r.attributes.get? field = none from h]
      rfl
    rw [size, insert, Table.size_put, hnone, ht]
    rfl
  rcases p with _ | ⟨v, _ | l⟩
  · rfl
  · exact hput r v rfl
  · exact hput (r.withLabel field l) v rfl

/-- Names that are not among the members keep their value and their label. -/
theorem addAttributes_of_notMem (h : addAttributes r members = .ok s) (hf : field ∉ members.map Prod.fst) :
    s.get? field = r.get? field ∧ s.label? field = r.label? field := by
  induction members generalizing r with
  | nil =>
    cases h
    exact ⟨rfl, rfl⟩
  | cons m rest ih =>
    obtain ⟨other, v⟩ := m
    simp only [List.map_cons, List.mem_cons, not_or] at hf
    rw [addAttributes_cons] at h
    obtain ⟨p, -, hrest⟩ := bind_eq_ok_iff.mp h
    obtain ⟨hget, hlabel⟩ := ih hrest hf.2
    exact ⟨hget.trans (get?_addProjected_ne r hf.1 p), hlabel.trans (by rw [label?_addProjected, if_neg hf.1])⟩

/-- Of a name among the members a record holds what was read of its value. A label that the value carries stands over
the one before. -/
theorem addAttributes_of_mem (h : addAttributes r members = .ok s) (hn : (members.map Prod.fst).Nodup)
    (hm : (field, value) ∈ members) : ∃ p, projectValue field value = .ok p ∧
      s.get? field = (p.map Prod.fst).or (r.get? field) ∧
      s.label? field = (p.bind Prod.snd).or (r.label? field) := by
  induction members generalizing r with
  | nil => cases hm
  | cons m rest ih =>
    obtain ⟨other, v⟩ := m
    simp only [List.map_cons, List.nodup_cons] at hn
    rw [addAttributes_cons] at h
    obtain ⟨p, hp, hrest⟩ := bind_eq_ok_iff.mp h
    rcases List.mem_cons.mp hm with hfirst | hlater
    · cases hfirst
      obtain ⟨hget, hlabel⟩ := addAttributes_of_notMem hrest hn.1
      exact ⟨p, hp, hget.trans (get?_addProjected p), hlabel.trans (by rw [label?_addProjected, if_pos rfl])⟩
    · have hne : field ≠ other := fun e => hn.1 (e ▸ List.mem_map_of_mem (f := Prod.fst) hlater)
      obtain ⟨q, hq, hget, hlabel⟩ := ih hrest hn.2 hlater
      rw [get?_addProjected_ne r hne] at hget
      rw [label?_addProjected, if_neg hne] at hlabel
      exact ⟨q, hq, hget, hlabel⟩

/-- What reading a value can give: nothing of a null, and of anything else a value, with the label that it carries. -/
theorem projectValue_cases {p : Option (FieldValue × Option String)} (h : projectValue field value = .ok p) :
    (value = .null ∧ p = none) ∨
      value ≠ .null ∧ ∃ v l, p = some (v, l) ∧ ∀ label, l = some label ↔ CarriesLabel value label := by
  have unlabelled {value : Json} (hv : (value.member? "$type").isSome = false) (label : String) :
      none = some label ↔ CarriesLabel value label := iff_of_false nofun fun hc => by simp [CarriesLabel, hv] at hc
  unfold projectValue at h
  cases value with
  | null => exact .inl ⟨rfl, by cases h; rfl⟩
  | string s =>
    cases h
    exact .inr ⟨nofun, _, _, rfl, unlabelled rfl⟩
  | bool b =>
    cases h
    exact .inr ⟨nofun, _, _, rfl, unlabelled rfl⟩
  | array items => cases h
  | number n =>
    dsimp only at h
    repeat' split at h
    all_goals cases h
    all_goals exact .inr ⟨nofun, _, _, rfl, unlabelled rfl⟩
  | object members =>
    dsimp only at h
    repeat' split at h
    all_goals cases h
    rename_i htag _ _ _
    have htagged : ((Json.object members).member? "$type").isSome = true :=
      Option.isSome_iff_ne_none.mpr (by simpa using htag)
    refine .inr ⟨nofun, _, _, rfl, fun label => ?_⟩
    rw [CarriesLabel, and_iff_right htagged, Option.bind_eq_some_iff]
    constructor
    · rintro ⟨j, hj, hs⟩
      cases j with
      | string s =>
        cases hs
        exact hj
      | _ => cases hs
    · intro hj
      exact ⟨_, hj, rfl⟩

theorem size_addAttributes (h : addAttributes r members = .ok s) (hn : (members.map Prod.fst).Nodup)
    (hr : ∀ f ∈ members.map Prod.fst, r.get? f = none) :
    s.size = r.size + (members.filter (·.2.isGiven)).length := by
  induction members generalizing r with
  | nil =>
    cases h
    rfl
  | cons m rest ih =>
    obtain ⟨field, v⟩ := m
    simp only [List.map_cons, List.nodup_cons, List.forall_mem_cons] at hn hr
    rw [addAttributes_cons] at h
    obtain ⟨p, hp, hrest⟩ := bind_eq_ok_iff.mp h
    have hfresh : ∀ f ∈ rest.map Prod.fst, (r.addProjected field p).get? f = none := by
      intro f hf
      have hne : f ≠ field := fun e => hn.1 (e ▸ hf)
      rw [get?_addProjected_ne r hne, hr.2 f hf]
    rw [ih hrest hn.2 hfresh, size_addProjected p hr.1]
    rcases projectValue_cases hp with ⟨rfl, rfl⟩ | ⟨hv, x, l, rfl, -⟩
    · rfl
    · have hgiven : v.isGiven = true := Json.isGiven_iff.mpr hv
      simp only [List.filter_cons, hgiven, if_true, List.length_cons, Option.isSome_some]
      omega

end

/-! ## (2) Whole numbers -/

theorem decimalOf_number {n : Json.Number} {d : Decimal} (h : Decimal.readNumeral? n.digits = some d) :
    decimalOf (.number n) = .ok d := by
  rw [decimalOf, h]
  rfl

theorem decimalOf_string {text : String} {d : Decimal} (h : Decimal.readNumeral? (Text.trim text.toList) = some d) :
    decimalOf (.string text) = .ok d := by
  rw [decimalOf, h]
  rfl

section

variable {n : Int} {low : -9223372036854775808 ≤ n} {high : n ≤ 18446744073709551615}

/-- A whole number of 64 bits with a sign is kept as it is. -/
theorem projectValue_whole (field : String) (h : n ≤ 9223372036854775807) : ∃ w : Int64, w.toInt = n ∧
    projectValue field (.number (.integer n low high)) = .ok (some (.whole w, none)) := by
  refine ⟨Int64.ofInt n, Int64.toInt_ofInt_of_le low (by omega), ?_⟩
  have hint : (Json.Number.integer n low high).int64? = some (Int64.ofInt n) := if_pos h
  simp only [projectValue, hint]

/-- A larger one is a decimal with the same digits. -/
theorem projectValue_large (field : String) (h : 9223372036854775807 < n) : ∃ d : Decimal,
    d.value = n ∧ d.digits = (Json.Number.integer n low high).digits ∧
    projectValue field (.number (.integer n low high)) = .ok (some (.decimal d, none)) := by
  have hmax : n.natAbs ≤ Decimal.maxCoefficient := by
    have : (18446744073709551615 : Int) ≤ Decimal.maxCoefficient := by decide
    omega
  have hdigits : (Json.Number.integer n low high).digits = Text.natDigits n.natAbs := by
    have hnn : ¬ n < 0 := by omega
    rw [Json.Number.digits, Text.intDigits, if_neg hnn]
  have hcast : ((n.natAbs : Int) : ℚ) = n := by
    have hnat : (n.natAbs : Int) = n := by omega
    rw [hnat]
  refine ⟨⟨false, n.natAbs, 0, hmax, Nat.zero_le _⟩, ?_, ?_, ?_⟩
  · rw [Decimal.value_eq]
    simpa using hcast
  · rw [hdigits]
    simp [Decimal.digits, Decimal.integerDigits, tenPow_zero]
  · have hint : (Json.Number.integer n low high).int64? = none := if_neg (by omega)
    have hread : decimalOf (.number (.integer n low high)) = .ok ⟨false, n.natAbs, 0, hmax, Nat.zero_le _⟩ :=
      decimalOf_number (by rw [hdigits, Decimal.readNumeral?_natDigits hmax])
    simp only [projectValue, hint, hread]

end

/-! ## (3) Labels -/

/-- The label that the formatted value of a field stands for: a text is the label itself, null is none, any other value
is shown as its JSON text. -/
inductive FormattedLabel : Option Json → Option String → Prop
  | missing : FormattedLabel none none
  | null : FormattedLabel (some .null) none
  | text (label : String) : FormattedLabel (some (.string label)) (some label)
  | other {value : Json} : value ≠ .null → value.string? = none →
      FormattedLabel (some value) (some value.compactText)

theorem formattedLabel_bind (value : Option Json) : FormattedLabel value (value.bind labelOf?) := by
  rcases value with _ | _ | _ | _ | s | _ | _
  · exact .missing
  · exact .null
  · exact .other nofun rfl
  · exact .other nofun rfl
  · exact .text s
  · exact .other nofun rfl
  · exact .other nofun rfl

section

variable {r s : Record} {field : String}

theorem label?_addLabels {labels : List (String × Json)} (hn : (labels.map Prod.fst).Nodup) :
    (addLabels r labels).label? field =
      (((Json.object labels).member? field).bind labelOf?).or (r.label? field) := by
  induction labels generalizing r with
  | nil => rfl
  | cons m rest ih =>
    obtain ⟨other, v⟩ := m
    simp only [List.map_cons, List.nodup_cons] at hn
    by_cases he : field = other
    · subst he
      have hself : (Json.object ((field, v) :: rest)).member? field = some v := by simp [Json.member?]
      have hrest : (Json.object rest).member? field = none := Frame.member?_eq_none hn.1
      rw [addLabels, hself, Option.bind_some]
      cases labelOf? v with
      | none => rw [ih hn.2, hrest, Option.bind_none]
      | some l => rw [ih hn.2, hrest, Option.bind_none, Option.none_or, label?_withLabel, if_pos rfl, Option.some_or]
    · have hskip : (Json.object ((other, v) :: rest)).member? field = (Json.object rest).member? field := by
        simp [Json.member?, Ne.symm he]
      rw [addLabels, hskip]
      cases labelOf? v with
      | none => exact ih hn.2
      | some l => rw [ih hn.2, label?_withLabel, if_neg he]

theorem labels_readSymbol {symbol : Option Json} (h : r.readSymbol symbol = .ok s) : s.labels = r.labels := by
  unfold readSymbol at h
  split at h <;> cases h <;> rfl

/-- Before its attributes are read, an envelope has given its labels and no values. -/
theorem formattedLabel_start {formatted symbol : Option Json} (hl : readLabels {} formatted = .ok r)
    (hs : r.readSymbol symbol = .ok s)
    (hn : ∀ labels, formatted = some (.object labels) → (labels.map Prod.fst).Nodup) :
    s.attributes = .empty ∧ ∀ f, FormattedLabel (formatted.bind (·.member? f)) (s.label? f) := by
  refine ⟨by rw [Frame.attributes_readSymbol hs, Frame.attributes_readLabels hl], fun f => ?_⟩
  have hlabel : s.label? f = r.label? f := by rw [label?, labels_readSymbol hs, label?]
  rw [hlabel]
  unfold readLabels at hl
  split at hl
  · cases hl
    exact .missing
  · rename_i labels
    cases hl
    rw [label?_addLabels (hn labels rfl)]
    have hnone : ({} : Record).label? f = none := rfl
    rw [hnone, Option.or_none, Option.bind_some]
    exact formattedLabel_bind _
  · cases hl

end

/-! ## Documents -/

/-- A record holds what the attributes and the formatted values of an envelope say, and nothing else. -/
structure Projects (attributes : List (String × Json)) (formatted : Option Json) (r : Record) : Prop where
  /-- The fields with a value are the attributes that are no null. -/
  present : ∀ f, (r.get? f).isSome ↔ ∃ value, (Json.object attributes).member? f = some value ∧ value ≠ .null
  size : r.size = (attributes.filter (·.2.isGiven)).length
  whole : ∀ f n low high, (Json.object attributes).member? f = some (.number (.integer n low high)) →
    n ≤ 9223372036854775807 → ∃ w : Int64, r.get? f = some (.whole w) ∧ w.toInt = n
  large : ∀ f n low high, (Json.object attributes).member? f = some (.number (.integer n low high)) →
    9223372036854775807 < n → ∃ d : Decimal, r.get? f = some (.decimal d) ∧ d.value = n
  digits : ∀ f n low high, (Json.object attributes).member? f = some (.number (.integer n low high)) →
    (r.get? f).map FieldValue.defaultText = some (Json.Number.integer n low high).text
  /-- The label of a tagged value stands over the formatted value of its field. -/
  ownLabel : ∀ f value label, (Json.object attributes).member? f = some value → CarriesLabel value label →
    r.label? f = some label
  formattedLabel : ∀ f,
    (∀ value label, (Json.object attributes).member? f = some value → ¬ CarriesLabel value label) →
      FormattedLabel (formatted.bind (·.member? f)) (r.label? f)

section

variable {r s : Record} {attributes : List (String × Json)} {formatted : Option Json}
  (h : addAttributes r attributes = .ok s) (hn : (attributes.map Prod.fst).Nodup) (hr : r.attributes = .empty)

include h hr

/-- Of a name that is not among the attributes it holds no value. -/
theorem read_of_no_member {field : String} (hm : (Json.object attributes).member? field = none) :
    s.get? field = none ∧ s.label? field = r.label? field := by
  have hnot : field ∉ attributes.map Prod.fst := Json.member?_eq_none_iff.mp hm
  obtain ⟨hget, hlabel⟩ := addAttributes_of_notMem h hnot
  exact ⟨by rw [hget, get?, hr, Table.get?_empty], hlabel⟩

include hn

/-- A record without values holds, of a name among the attributes, what is read of its value. -/
theorem read_of_member {field : String} {value : Json}
    (hm : (Json.object attributes).member? field = some value) : ∃ p, projectValue field value = .ok p ∧
      s.get? field = p.map Prod.fst ∧ s.label? field = (p.bind Prod.snd).or (r.label? field) := by
  obtain ⟨p, hp, hget, hlabel⟩ := addAttributes_of_mem h hn ((Json.member?_eq_some_iff_mem hn).mp hm)
  have hnone : r.get? field = none := by rw [get?, hr, Table.get?_empty]
  exact ⟨p, hp, by rw [hget, hnone, Option.or_none], hlabel⟩

theorem projects_of_addAttributes (hl : ∀ f, FormattedLabel (formatted.bind (·.member? f)) (r.label? f)) :
    Projects attributes formatted s where
  present f := by
    cases hm : (Json.object attributes).member? f with
    | none => simp [(read_of_no_member h hr hm).1]
    | some value =>
      obtain ⟨p, hp, hget, -⟩ := read_of_member h hn hr hm
      rw [hget]
      rcases projectValue_cases hp with ⟨rfl, rfl⟩ | ⟨hv, x, l, rfl, -⟩
      · simp
      · simp [hv]
  size := by
    have hnone : ∀ f ∈ attributes.map Prod.fst, r.get? f = none := fun f _ => by rw [get?, hr, Table.get?_empty]
    have hzero : r.size = 0 := by
      rw [size, hr]
      rfl
    rw [size_addAttributes h hn hnone, hzero, Nat.zero_add]
  whole f n low high hm hle := by
    obtain ⟨p, hp, hget, -⟩ := read_of_member h hn hr hm
    obtain ⟨w, hw, hread⟩ := @projectValue_whole n low high f hle
    cases hread.symm.trans hp
    exact ⟨w, hget, hw⟩
  large f n low high hm hlt := by
    obtain ⟨p, hp, hget, -⟩ := read_of_member h hn hr hm
    obtain ⟨d, hd, -, hread⟩ := @projectValue_large n low high f hlt
    cases hread.symm.trans hp
    exact ⟨d, hget, hd⟩
  digits f n low high hm := by
    obtain ⟨p, hp, hget, -⟩ := read_of_member h hn hr hm
    rw [hget]
    by_cases hle : n ≤ 9223372036854775807
    · obtain ⟨w, hw, hread⟩ := @projectValue_whole n low high f hle
      cases hread.symm.trans hp
      simp [FieldValue.defaultText, FieldValue.intText, hw, Json.Number.text, Json.Number.digits]
    · obtain ⟨d, -, hd, hread⟩ := @projectValue_large n low high f (not_le.mp hle)
      cases hread.symm.trans hp
      simp [FieldValue.defaultText, Decimal.text, hd, Json.Number.text]
  ownLabel f value label hm hc := by
    obtain ⟨p, hp, -, hlabel⟩ := read_of_member h hn hr hm
    rcases projectValue_cases hp with ⟨rfl, -⟩ | ⟨-, x, l, rfl, hl'⟩
    · cases hc.1
    · rw [hlabel, Option.bind_some, (hl' label).mpr hc, Option.some_or]
  formattedLabel f hnone := by
    have hkeep : s.label? f = r.label? f := by
      cases hm : (Json.object attributes).member? f with
      | none => exact (read_of_no_member h hr hm).2
      | some value =>
        obtain ⟨p, hp, -, hlabel⟩ := read_of_member h hn hr hm
        rw [hlabel]
        rcases projectValue_cases hp with ⟨rfl, rfl⟩ | ⟨-, x, l, rfl, hl'⟩
        · rfl
        · have hnl : l = none := Option.eq_none_iff_forall_ne_some.mpr fun label e =>
            hnone value label hm ((hl' label).mp e)
          rw [hnl, Option.bind_some, Option.none_or]
    rw [hkeep]
    exact hl f

end

/-- The attributes alone as a document, and an envelope of nothing else. -/
theorem ofJson_bare {attributes : List (String × Json)} (h : (Json.object attributes).member? "attributes" = none) :
    ofJson (.object [("attributes", .object attributes)]) = ofJson (.object attributes) := by
  have hd := Frame.ofJson_document .bare attributes (Json.member?_eq_none_iff.mp h)
  have he := Frame.ofJson_document (.envelope [] []) attributes List.not_mem_nil
  exact he.trans hd.symm

end Record

/-- A record read from an envelope holds what its attributes and formatted values say, and nothing else. The names of
the members of one object are distinct. An envelope of attributes alone is read as the attributes are, to the same
record or the same defect. -/
theorem projection_is_faithful :
    (∀ (root attributes : List (String × Json)) (r : Record),
        (Json.object root).member? "attributes" = some (.object attributes) → (attributes.map Prod.fst).Nodup →
        (∀ labels, (Json.object root).member? "formattedValues" = some (.object labels) →
          (labels.map Prod.fst).Nodup) →
        Record.ofJson (.object root) = .ok r →
          Record.Projects attributes ((Json.object root).member? "formattedValues") r) ∧
      ∀ attributes : List (String × Json), (Json.object attributes).member? "attributes" = none →
        Record.ofJson (.object [("attributes", .object attributes)]) = Record.ofJson (.object attributes) := by
  refine ⟨fun root attributes r ha hn hl h => ?_, fun attributes => Record.ofJson_bare⟩
  simp only [Record.ofJson, ha] at h
  obtain ⟨labelled, hlabels, h⟩ := bind_eq_ok_iff.mp h
  obtain ⟨start, hsymbol, h⟩ := bind_eq_ok_iff.mp h
  obtain ⟨hempty, hstart⟩ := Record.formattedLabel_start hlabels hsymbol hl
  exact Record.projects_of_addAttributes h hn hempty hstart

/-- An invoice with a label for each amount, one of them in the tagged value itself, and a number that is too large for
64 bits with a sign. -/
theorem invoice_is_projected :
    let amount : Json := .object [("$type", .string "Money"), ("label", .string "one fifty"), ("value", .string "1.50")]
    let serial : Json := .number (.integer 18446744073709551615 (by decide) (by decide))
    let code : Json := .number (.integer (-7) (by decide) (by decide))
    let attributes := [("amount", amount), ("code", code), ("note", .null), ("serial", serial)]
    let labels := [("amount", .string "$1.50"), ("code", code), ("serial", .null)]
    let root := [("attributes", Json.object attributes), ("formattedValues", .object labels)]
    let total : Decimal := ⟨false, 150, 2, by decide, by decide⟩
    let large : Decimal := ⟨false, 18446744073709551615, 0, by decide, by decide⟩
    let labelled := (({} : Record).withLabel "amount" "$1.50").withLabel "code" "-7"
    let r := (((labelled.withLabel "amount" "one fifty").insert "amount" (.money total)).insert "code"
      (.whole (-7))).insert "serial" (.decimal large)
    (Json.object root).member? "attributes" = some (.object attributes) ∧ (attributes.map Prod.fst).Nodup ∧
      (labels.map Prod.fst).Nodup ∧ Record.ofJson (.object root) = .ok r ∧
      Record.Projects attributes (some (.object labels)) r ∧ r.size = 3 ∧ r.label? "amount" = some "one fifty" ∧
      Record.FormattedLabel (some code) (r.label? "code") ∧
      (r.get? "serial").map FieldValue.defaultText = some "18446744073709551615" ∧
      (Json.object attributes).member? "attributes" = none ∧
      Record.ofJson (.object [("attributes", .object attributes)]) = Record.ofJson (.object attributes) := by
  intro amount serial code attributes labels root total large labelled r
  have ha : (Json.object root).member? "attributes" = some (.object attributes) := rfl
  have hn : (attributes.map Prod.fst).Nodup := by decide
  have hl : (labels.map Prod.fst).Nodup := by decide
  have hnone : (Json.object attributes).member? "attributes" = none := rfl
  have hlabels : Record.readLabels {} ((Json.object root).member? "formattedValues") = .ok labelled := by
    have hmember : (Json.object root).member? "formattedValues" = some (.object labels) := rfl
    have hseven : Record.labelOf? code = some "-7" := by decide +kernel
    simp only [hmember, Record.readLabels, labels, Record.addLabels, hseven]
    rfl
  have hamount : Record.projectValue "amount" amount = .ok (some (.money total, some "one fifty")) := by
    have htag : Text.asciiLower (((amount.member? "$type").bind Json.string?).getD "") = "money" := by decide +kernel
    have hread : Record.decimalOf ((amount.member? "value").getD .null) = .ok total :=
      Record.decimalOf_string (by decide +kernel)
    have htagged : Record.taggedValue amount = .ok (.money total) := by
      rw [Record.taggedValue, htag, hread]
      rfl
    rw [Record.projectValue, htagged]
    rfl
  have hserial : Record.projectValue "serial" serial = .ok (some (.decimal large, none)) := by
    have hread : Record.decimalOf serial = .ok large := Record.decimalOf_number (by decide +kernel)
    rw [Record.projectValue, hread]
    rfl
  have hr : Record.ofJson (.object root) = .ok r := by
    have hsymbol : (Json.object root).member? "currencySymbol" = none := rfl
    rw [Record.ofJson, ha]
    dsimp only
    rw [hlabels, hsymbol]
    simp only [Record.readSymbol, bind, Except.bind, attributes, Record.addAttributes, hamount, hserial]
    rfl
  obtain ⟨hproject, hbare⟩ := projection_is_faithful
  have hp := hproject root attributes r ha hn (fun _ h => by cases h; exact hl) hr
  have hown := hp.ownLabel "amount" amount "one fifty" rfl ⟨rfl, rfl⟩
  have hcode := hp.formattedLabel "code" fun value label hm hc => by cases hm; cases hc.1
  exact ⟨ha, hn, hl, hr, hp, hp.size, hown, hcode, hp.digits "serial" _ _ _ rfl, hnone, hbare attributes hnone⟩

end RecordNaming
