/-
  RecordNaming.Proofs.Absence — an absent attribute, a null and an empty text are one.

  (1) Records that differ in empty texts only (`Alike`) have the same name under every
  rule set and symbol source; putting an empty text where no value was makes such a record
  (`alike_insert_empty`).

  (2) Reading attributes keeps records alike and meets the same defects
  (`addAttributes_alike`), so a null or an empty text among the attributes of a document
  changes nothing (`addAttributes_null`, `addAttributes_emptyText`), whether the document is
  the attributes or holds them (`Frame`).

  `absence_is_uniform` says both of every rule set.
-/
import RecordNaming.Proofs.Dependence

namespace RecordNaming

namespace Record

/-! ## (1) Records alike -/

/-- The records differ at most in attributes that are absent in one and an empty text in the
other. -/
structure Alike (r s : Record) : Prop where
  value : ∀ f, r.valueOrEmpty f = s.valueOrEmpty f
  label : ∀ f, r.label? f = s.label? f
  symbol : r.currencySymbol = s.currencySymbol

theorem Alike.agreeOn {r s : Record} (h : r.Alike s) : AgreeOn (fun _ => True) r s where
  value f _ := h.value f
  label f _ := h.label f
  symbol := h.symbol
  currency := by rw [currencyReference?_eq, currencyReference?_eq, h.value]

theorem Alike.evaluate {r s : Record} (h : r.Alike s) (rules : RuleSet) (source : SymbolSource) :
    rules.evaluate source r = rules.evaluate source s :=
  rules.evaluate_congr h.agreeOn source fun _ _ _ _ => trivial

theorem valueOrEmpty_insert (r : Record) (field other : String) (value : FieldValue) :
    (r.insert field value).valueOrEmpty other = if other = field then value else r.valueOrEmpty other := by
  by_cases e : other = field
  · subst e
    rw [if_pos rfl, valueOrEmpty, get?_insert_self, Option.getD_some]
  · rw [if_neg e, valueOrEmpty, valueOrEmpty, get?_insert_ne r value e]

theorem alike_insert_empty {r : Record} {field : String} (h : r.get? field = none) :
    r.Alike (r.insert field (.text "")) where
  value f := by
    rw [valueOrEmpty_insert]
    split
    · rename_i e
      rw [e, valueOrEmpty_of_none h]
    · rfl
  label _ := rfl
  symbol := rfl

theorem Alike.insert {r s : Record} (h : r.Alike s) (field : String) (value : FieldValue) :
    (r.insert field value).Alike (s.insert field value) where
  value f := by rw [valueOrEmpty_insert, valueOrEmpty_insert, h.value]
  label := h.label
  symbol := h.symbol

theorem Alike.withLabel {r s : Record} (h : r.Alike s) (field label : String) :
    (r.withLabel field label).Alike (s.withLabel field label) where
  value := h.value
  label f := by rw [label?_withLabel, label?_withLabel, h.label]
  symbol := h.symbol

/-! ## (2) Reading attributes -/

/-- The record with a projected attribute and its label. -/
def addProjected (r : Record) (field : String) : Option (FieldValue × Option String) → Record
  | none => r
  | some (value, none) => r.insert field value
  | some (value, some label) => (r.withLabel field label).insert field value

theorem addAttributes_cons (r : Record) (field : String) (value : Json) (rest : List (String × Json)) :
    addAttributes r ((field, value) :: rest) =
      (projectValue field value).bind fun p => addAttributes (r.addProjected field p) rest := by
  rw [addAttributes]
  rcases projectValue field value with d | _ | ⟨v, _ | l⟩ <;> rfl

theorem get?_addProjected_ne (r : Record) {field other : String} (h : other ≠ field)
    (p : Option (FieldValue × Option String)) : (r.addProjected field p).get? other = r.get? other := by
  rcases p with _ | ⟨v, _ | l⟩
  · rfl
  · exact get?_insert_ne r v h
  · exact get?_insert_ne (r.withLabel field l) v h

theorem Alike.addProjected {r s : Record} (h : r.Alike s) (field : String)
    (p : Option (FieldValue × Option String)) : (r.addProjected field p).Alike (s.addProjected field p) := by
  rcases p with _ | ⟨v, _ | l⟩
  · exact h
  · exact h.insert field v
  · exact (h.withLabel field l).insert field v

/-- The same defect, or records alike. -/
inductive ReadAlike : Except RecordDefect Record → Except RecordDefect Record → Prop
  | defect (d : RecordDefect) : ReadAlike (.error d) (.error d)
  | read {r s : Record} : r.Alike s → ReadAlike (.ok r) (.ok s)

theorem ReadAlike.evaluate {a b : Except RecordDefect Record} (h : ReadAlike a b) (rules : RuleSet)
    (source : SymbolSource) : a.map (rules.evaluate source) = b.map (rules.evaluate source) := by
  cases h with
  | defect d => rfl
  | read h => exact congrArg Except.ok (h.evaluate rules source)

theorem addAttributes_alike {r s : Record} (h : r.Alike s) (members : List (String × Json)) :
    ReadAlike (addAttributes r members) (addAttributes s members) := by
  induction members generalizing r s with
  | nil => exact .read h
  | cons m rest ih =>
    obtain ⟨field, value⟩ := m
    rw [addAttributes_cons, addAttributes_cons]
    cases projectValue field value with
    | error d => exact .defect d
    | ok p => exact ih (h.addProjected field p)

theorem addAttributes_null (r : Record) (field : String) (before after : List (String × Json)) :
    addAttributes r (before ++ (field, .null) :: after) = addAttributes r (before ++ after) := by
  induction before generalizing r with
  | nil => rfl
  | cons m rest ih =>
    obtain ⟨other, value⟩ := m
    simp only [List.cons_append, addAttributes_cons, ih]

theorem addAttributes_emptyText {r : Record} {field : String} (before after : List (String × Json))
    (h : r.get? field = none) (hf : field ∉ before.map Prod.fst) :
    ReadAlike (addAttributes r (before ++ after)) (addAttributes r (before ++ (field, .string "") :: after)) := by
  -- both readings make the same record before the empty text, and the field has no value in it
  induction before generalizing r with
  | nil => exact addAttributes_alike (alike_insert_empty h) after
  | cons m rest ih =>
    obtain ⟨other, value⟩ := m
    simp only [List.map_cons, List.mem_cons, not_or] at hf
    rw [List.cons_append, List.cons_append, addAttributes_cons, addAttributes_cons]
    cases projectValue other value with
    | error d => exact .defect d
    | ok p => exact ih (by rw [get?_addProjected_ne r hf.1, h]) hf.2

/-! ## Documents -/

/-- What is around the attributes of a record in its document. -/
inductive Frame where
  /-- The document is the attributes. -/
  | bare
  /-- The attributes are one member of the document. -/
  | envelope (before after : List (String × Json))

namespace Frame

/-- The document with these attributes. -/
def document : Frame → List (String × Json) → Json
  | bare, attributes => .object attributes
  | envelope before after, attributes => .object (before ++ ("attributes", .object attributes) :: after)

/-- Attributes of these names are the attributes of the document: no other member is named so. -/
def Holds : Frame → List String → Prop
  | bare, names => "attributes" ∉ names
  | envelope before _, _ => "attributes" ∉ before.map Prod.fst

theorem Holds.subset {frame : Frame} {names some : List String} (h : frame.Holds names)
    (hs : some ⊆ names) : frame.Holds some := by
  cases frame with
  | bare => exact fun hm => h (hs hm)
  | envelope _ _ => exact h

/-- The record that a document gives its attributes to. -/
def start : Frame → Except RecordDefect Record
  | bare => .ok {}
  | envelope before after => do
    let rest := Json.object (before ++ after)
    readSymbol (← readLabels {} (rest.member? "formattedValues")) (rest.member? "currencySymbol")

theorem member?_document_ne (before after attributes : List (String × Json)) (name : String)
    (h : name ≠ "attributes") :
    ((envelope before after).document attributes).member? name =
      (Json.object (before ++ after)).member? name := by
  have hn : (("attributes" : String) == name) = false := beq_false_of_ne (Ne.symm h)
  simp only [document, Json.member?, List.find?_append, List.find?_cons, hn]

theorem member?_eq_none {members : List (String × Json)} {name : String}
    (h : name ∉ members.map Prod.fst) : (Json.object members).member? name = none := by
  simp only [Json.member?, Option.map_eq_none_iff, List.find?_eq_none, beq_iff_eq]
  exact fun m hm e => h (e ▸ List.mem_map_of_mem hm)

theorem ofJson_document (frame : Frame) (attributes : List (String × Json))
    (h : frame.Holds (attributes.map Prod.fst)) :
    ofJson (frame.document attributes) = frame.start.bind (addAttributes · attributes) := by
  cases frame with
  | bare =>
    simp only [document, ofJson, member?_eq_none h]
    rfl
  | envelope before after =>
    have ha : ((envelope before after).document attributes).member? "attributes" = some (.object attributes) := by
      have hb : before.find? (fun m => m.1 == "attributes") = none := by
        simpa [Json.member?] using member?_eq_none h
      simp [document, Json.member?, List.find?_append, hb]
    have hl := member?_document_ne before after attributes "formattedValues" (by decide)
    have hs := member?_document_ne before after attributes "currencySymbol" (by decide)
    have hd : (envelope before after).document attributes =
        .object (before ++ ("attributes", .object attributes) :: after) := rfl
    simp only [ofJson, hd] at ha hl hs ⊢
    rw [ha, hl, hs]
    simp only [start, bind, Except.bind]
    cases readLabels {} ((Json.object (before ++ after)).member? "formattedValues") <;> rfl

theorem attributes_addLabels (r : Record) (labels : List (String × Json)) :
    (addLabels r labels).attributes = r.attributes := by
  induction labels generalizing r with
  | nil => rfl
  | cons m rest ih =>
    obtain ⟨field, value⟩ := m
    rw [addLabels]
    split <;> rw [ih]
    rfl

theorem attributes_readLabels {r s : Record} {labels : Option Json} (h : r.readLabels labels = .ok s) :
    s.attributes = r.attributes := by
  unfold readLabels at h
  split at h
  · cases h; rfl
  · cases h; exact attributes_addLabels r _
  · cases h

theorem attributes_readSymbol {r s : Record} {symbol : Option Json} (h : r.readSymbol symbol = .ok s) :
    s.attributes = r.attributes := by
  unfold readSymbol at h
  split at h <;> cases h <;> rfl

theorem get?_start {frame : Frame} {r : Record} (h : frame.start = .ok r) (field : String) :
    r.get? field = none := by
  have ha : r.attributes = .empty := by
    cases frame with
    | bare => cases h; rfl
    | envelope before after =>
      simp only [start, bind, Except.bind] at h
      split at h
      · cases h
      · rename_i labelled hl
        rw [attributes_readSymbol h, attributes_readLabels hl]
  rw [get?, ha, Table.get?_empty]

end Frame

end Record

/-- An absent attribute, a null and an empty text cannot be told apart by any name: putting the
empty text where a record has no value changes nothing in the outcome, and neither does a null or
an empty text among the attributes of a record's document, defects of the record included. -/
theorem absence_is_uniform (rules : RuleSet) (source : SymbolSource) (field : String) :
    (∀ r : Record, r.get? field = none →
        rules.evaluate source (r.insert field (.text "")) = rules.evaluate source r) ∧
      ∀ (frame : Record.Frame) (before after : List (String × Json)),
        field ∉ (before ++ after).map Prod.fst → frame.Holds (field :: (before ++ after).map Prod.fst) →
        (Record.ofJson (frame.document (before ++ (field, .null) :: after))).map (rules.evaluate source) =
            (Record.ofJson (frame.document (before ++ after))).map (rules.evaluate source) ∧
          (Record.ofJson (frame.document (before ++ (field, .string "") :: after))).map
              (rules.evaluate source) =
            (Record.ofJson (frame.document (before ++ after))).map (rules.evaluate source) := by
  refine ⟨fun r h => ((Record.alike_insert_empty h).evaluate rules source).symm, ?_⟩
  intro frame before after hf hh
  have hv (value : Json) : frame.Holds ((before ++ (field, value) :: after).map Prod.fst) :=
    hh.subset (List.perm_middle.map Prod.fst).subset
  rw [frame.ofJson_document _ (hv .null), frame.ofJson_document _ (hv (.string "")),
    frame.ofJson_document _ (hh.subset (List.subset_cons_self ..))]
  cases hs : frame.start with
  | error d => exact ⟨rfl, rfl⟩
  | ok r =>
    have hb : field ∉ before.map Prod.fst := fun hm => hf (by simp [hm])
    refine ⟨congrArg _ (r.addAttributes_null field before after), ?_⟩
    have he := Record.addAttributes_emptyText before after (Record.Frame.get?_start hs field) hb
    exact (he.evaluate rules source).symm

/-- Rules that read the reference to the currency in a condition, as an alternate and for the
symbol of an amount. -/
def currencyRules : RuleSet where
  configuration :=
    { fields := [⟨{ field := "amount", type := some .currency, includeIf := some (.group .allOf
                      [.compare Record.currencyField .isEmpty "", .compare "code" .lessThan "1"]) },
                  [{ field := Record.currencyField, default := some "none" }]⟩] }
  maxDepth := 32
  valid := by rfl

/-- The reference to the currency missing, with a label all the same. -/
theorem absence_of_currency_reference :
    let r : Record := (({} : Record).insert "amount" (.money .one)).withLabel Record.currencyField "Euro"
    let frame : Record.Frame := .envelope [] [("currencySymbol", .string "$")]
    let members : List (String × Json) := [("amount", .string "1")]
    r.get? Record.currencyField = none ∧
      currencyRules.evaluate .none (r.insert Record.currencyField (.text "")) =
        currencyRules.evaluate .none r ∧
      Record.currencyField ∉ members.map Prod.fst ∧
      frame.Holds (Record.currencyField :: members.map Prod.fst) ∧
      (Record.ofJson (frame.document ((Record.currencyField, .null) :: members))).map
          (currencyRules.evaluate .none) =
        (Record.ofJson (frame.document members)).map (currencyRules.evaluate .none) := by
  intro r frame members
  have hr : r.get? Record.currencyField = none := by decide
  have hm : Record.currencyField ∉ members.map Prod.fst := by decide
  have hf : frame.Holds (Record.currencyField :: members.map Prod.fst) := List.not_mem_nil
  obtain ⟨h1, h2⟩ := absence_is_uniform currencyRules .none Record.currencyField
  exact ⟨hr, h1 r hr, hm, hf, (h2 frame [] members hm hf).1⟩

end RecordNaming
