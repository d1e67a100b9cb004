/-
  RecordNaming.Proofs.Instant.Conditions — conditions on an instant, with the round-trip text of another one.

  (1) Texts without small letters are equal regardless of case only if they are equal (`eqIgnoringCase_iff`): each
  character can be had back from its lower case.

  (2) A field that holds an instant is compared by the instant and by its round-trip text. Both are given back by
  that text, if they are whole tenths of a microsecond. So the texts are equal if the instants are
  (`Plain.roundTripText_inj`), and `Comparand.order` is the order of the instants (`order_roundTripText`).

  `instants_survive_their_texts` puts this together with what is read back and with the order of time.
-/
import RecordNaming.Condition.Evaluation
import RecordNaming.Proofs.Instant.Texts
import RecordNaming.Proofs.Text.AsciiCase

namespace RecordNaming

/-! ## (1) Texts regardless of case -/

namespace Text

/-- The ASCII characters that are no small letters. -/
def isAsciiNotSmall (c : Char) : Bool := c.toNat < 128 && !(97 ≤ c.toNat && c.toNat ≤ 122)

theorem isSimpleNotSmall_of_ascii {c : Char} (h : isAsciiNotSmall c = true) : isSimpleNotSmall c = true := by
  rw [isAsciiNotSmall, Bool.and_eq_true] at h
  rw [isSimpleNotSmall, isSimple, h.1, h.2]
  rfl

theorem eqIgnoringCase_iff {a b : String} (ha : ∀ c ∈ a.toList, isAsciiNotSmall c = true)
    (hb : ∀ c ∈ b.toList, isAsciiNotSmall c = true) : eqIgnoringCase a b = true ↔ a = b := by
  have all {s : String} (h : ∀ c ∈ s.toList, isAsciiNotSmall c = true) : s.toList.all isSimpleNotSmall = true :=
    List.all_eq_true.mpr fun c hc => isSimpleNotSmall_of_ascii (h c hc)
  have simple {s : String} (h : ∀ c ∈ s.toList, isAsciiNotSmall c = true) : ∀ c ∈ s.toList, isSimple c = true :=
    fun c hc => (isSimpleNotSmall_iff.mp (isSimpleNotSmall_of_ascii (h c hc))).1
  rw [eqIgnoringCase, lower_eq_asciiLower (simple ha), lower_eq_asciiLower (simple hb), asciiLower, asciiLower,
    beq_iff_eq, String.ofList_inj]
  constructor
  · intro h
    exact String.toList_inj.mp (map_toLower_inj (all ha) (all hb) h)
  · rintro rfl
    rfl

end Text

/-! ## (2) Instants and their round-trip texts -/

/-- The comparison that holds in an order. -/
def Operator.ofOrdering : Ordering → Operator
  | .lt => .lessThan
  | .eq => .equals
  | .gt => .greaterThan

namespace Instant

variable {t u : Instant}

theorem isAsciiNotSmall_of_isDigit {c : Char} (h : c.isDigit = true) : Text.isAsciiNotSmall c = true := by
  obtain ⟨hl, hu⟩ := Text.toNat_of_isDigit h
  simp only [Text.isAsciiNotSmall, Bool.and_eq_true, decide_eq_true_eq, Bool.not_eq_true', Bool.and_eq_false_iff,
    decide_eq_false_iff_not]
  omega

/-- The round-trip text has digits, marks and a capital letter. -/
theorem Plain.isAsciiNotSmall (h : t.Plain) {c : Char} (hc : c ∈ t.roundTripText.toList) :
    Text.isAsciiNotSmall c = true := by
  have hdigit {k n : Nat} (hd : c ∈ Text.lastDigits k n) : Text.isAsciiNotSmall c = true :=
    isAsciiNotSmall_of_isDigit (Text.charIsDigit_of_mem_lastDigits hd)
  rw [h.roundTripText_eq, String.toList_ofList] at hc
  simp only [isoDateText, clockText, List.mem_append, List.mem_cons] at hc
  rcases hc with h | rfl | h | rfl | h | rfl | h | rfl | h | rfl | h | rfl | h <;> first | exact hdigit h | rfl

theorem cutTo_of_dvd {unit : Nat} (h : unit ∣ t.nanosecond) : t.cutTo unit = t := by
  cases t
  simp only [cutTo, Nat.div_mul_cancel h]

theorem Plain.parse?_of_ticks (h : t.Plain) (ht : 100 ∣ t.nanosecond) : parse? t.roundTripText = some t := by
  rw [h.parse?_roundTripText, cutTo_of_dvd ht]

theorem Plain.roundTripText_inj (ht : t.Plain) (hu : u.Plain) (htt : 100 ∣ t.nanosecond) (hut : 100 ∣ u.nanosecond) :
    t.roundTripText = u.roundTripText ↔ t = u := by
  constructor
  · intro h
    have hparse := ht.parse?_of_ticks htt
    rw [h, hu.parse?_of_ticks hut] at hparse
    exact (Option.some.inj hparse).symm
  · rintro rfl
    rfl

section

variable {r : Record} {field : String} (hfield : r.get? field = some (.timestamp t)) (hu : u.Plain)
  (hut : 100 ∣ u.nanosecond)

include hfield

theorem ofField_timestamp : Comparand.ofField r field = ⟨true, none, some t, [t.roundTripText]⟩ := by
  rw [Comparand.ofField, hfield]
  rfl

include hu hut

theorem order_roundTripText : (Comparand.ofField r field).order u.roundTripText = t.cmp u := by
  rw [ofField_timestamp hfield, Comparand.order, hu.parse?_of_ticks hut]

theorem holds_equals (ht : t.Plain) (htt : 100 ∣ t.nanosecond) :
    (Condition.equals field u.roundTripText).holds r = true ↔ t.cmp u = .eq := by
  have hc : (Condition.equals field u.roundTripText).holds r =
      Text.eqIgnoringCase t.roundTripText u.roundTripText := by
    rw [Condition.equals, Condition.holds, ofField_timestamp hfield]
    simp [Comparand.satisfies, Comparand.anyCandidate]
  rw [hc, Text.eqIgnoringCase_iff (fun _ => ht.isAsciiNotSmall) (fun _ => hu.isAsciiNotSmall),
    ht.roundTripText_inj hu htt hut, cmp_eq_eq_iff]

end

/-- An instant of four-digit years other than a leap second is read back from its texts: to a tenth of a microsecond
from the round-trip text, to a second from the default text. A field that holds it is greater than, less than or equal
to the round-trip text of another one as the time of the one is to the time of the other, and only one of the three. -/
theorem instants_survive_their_texts (ht : t.Plain) :
    parse? t.roundTripText = some (t.cutTo 100) ∧ parse? t.defaultText = some (t.cutTo 1000000000) ∧
      ∀ (u : Instant) (r : Record) (field : String), u.Plain → 100 ∣ t.nanosecond → 100 ∣ u.nanosecond →
        r.get? field = some (.timestamp t) →
        ∀ operator ∈ [Operator.greaterThan, Operator.lessThan, Operator.equals],
          ((Condition.compare field operator u.roundTripText).holds r = true ↔
            operator = Operator.ofOrdering (compare t.elapsed u.elapsed)) := by
  refine ⟨ht.parse?_roundTripText, ht.parse?_defaultText, fun u r field hu htt hut hfield operator ho => ?_⟩
  rw [← cmp_eq ht.nanosecond_lt hu.nanosecond_lt]
  have horder := order_roundTripText hfield hu hut
  have hequals := holds_equals hfield hu hut ht htt
  simp only [List.mem_cons, List.not_mem_nil, or_false] at ho
  rcases ho with rfl | rfl | rfl
  · rw [Condition.holds, Comparand.satisfies, horder, beq_iff_eq]
    cases t.cmp u <;> simp [Operator.ofOrdering]
  · rw [Condition.holds, Comparand.satisfies, horder, beq_iff_eq]
    cases t.cmp u <;> simp [Operator.ofOrdering]
  · rw [Condition.equals] at hequals
    rw [hequals]
    cases t.cmp u <;> simp [Operator.ofOrdering]

/-- The last tick of a leap day, and the midnight behind it. -/
theorem leap_day_is_before_march :
    let t : Instant := ⟨⟨2024, 2, 29, by decide⟩, 23, 59, 59, 999999900, by decide⟩
    let u : Instant := ⟨⟨2024, 3, 1, by decide⟩, 0, 0, 0, 0, by decide⟩
    let r : Record := ({} : Record).insert "createdon" (.timestamp t)
    t.Plain ∧ u.Plain ∧ 100 ∣ t.nanosecond ∧ 100 ∣ u.nanosecond ∧ r.get? "createdon" = some (.timestamp t) ∧
      t.roundTripText = "2024-02-29T23:59:59.9999999" ∧ t.defaultText = "02/29/2024 23:59:59" ∧
      parse? t.roundTripText = some (t.cutTo 100) ∧ parse? t.defaultText = some (t.cutTo 1000000000) ∧
      compare t.elapsed u.elapsed = .lt ∧
      ∀ operator ∈ [Operator.greaterThan, Operator.lessThan, Operator.equals],
        ((Condition.compare "createdon" operator u.roundTripText).holds r = true ↔ operator = .lessThan) := by
  intro t u r
  have ht : t.Plain := ⟨by decide, by decide, by decide⟩
  have hu : u.Plain := ⟨by decide, by decide, by decide⟩
  have htt : 100 ∣ t.nanosecond := by decide
  have hut : 100 ∣ u.nanosecond := by decide
  have hfield : r.get? "createdon" = some (.timestamp t) := Record.get?_insert_self _ _ _
  have hbefore : compare t.elapsed u.elapsed = .lt := by decide
  obtain ⟨hround, hdefault, hconditions⟩ := instants_survive_their_texts ht
  have hholds := hconditions u r "createdon" hu htt hut hfield
  rw [hbefore] at hholds
  exact ⟨ht, hu, htt, hut, hfield, by decide, by decide, hround, hdefault, hbefore, hholds⟩

end Instant

end RecordNaming
