/-
  RecordNaming.Proofs.Access — where the operations that need not have a result have one.

  (1) Each has the one its name says if its arguments allow one (`minus_eq`, `item_eq`, `slice_eq`, `width_eq`). An
  array is read as its list (`cell_eq`). A search finds an index of the list if any (`findIdx?_cases`), and where all
  characters take one byte every cut falls between two (`bytesUpTo_eq`).

  (2) A computation by these operations that comes to the result of one without them (`lift`) has no fault. What
  stands in for the text of a format that fails does not stand in for a fault (`orDefault`).
-/
import RecordNaming.Access
import RecordNaming.Proofs.Results
import RecordNaming.Proofs.Text.Digits

namespace RecordNaming

namespace Access

/-! ## (1) Operations -/

section

variable {α : Type}

/-- The number of bytes of a text. -/
def byteLength : List Char → Nat
  | [] => 0
  | c :: rest => c.utf8Size + byteLength rest

theorem minus_eq {a b : Nat} (h : b ≤ a) : minus a b = .ok (a - b) := if_pos h

theorem cell_eq (xs : Array α) (i : Nat) : cell xs i = item xs.toList i := rfl

theorem item_eq {xs : List α} {i : Nat} (h : i < xs.length) : item xs i = .ok xs[i] := dif_pos h

theorem item_getD {xs : List α} {i : Nat} (h : i < xs.length) (default : α) :
    item xs i = .ok (xs.getD i default) ∧ xs.getD i default ∈ xs := by
  rw [item_eq h, List.getD_eq_getElem?_getD, List.getElem?_eq_getElem h, Option.getD_some]
  exact ⟨rfl, List.getElem_mem h⟩

/-- What comes first from an index on is the element there. -/
theorem item_of_drop {xs rest : List α} {i : Nat} {x : α} (h : xs.drop i = x :: rest) : item xs i = .ok x := by
  have hi : i < xs.length := by
    refine Nat.lt_of_not_le fun hn => ?_
    rw [List.drop_eq_nil_of_le hn] at h
    cases h
  rw [List.drop_eq_getElem_cons hi] at h
  rw [item_eq hi, (List.cons.inj h).1]

theorem upTo_eq {xs : List α} {i : Nat} (h : i ≤ xs.length) : upTo xs i = .ok (xs.take i) := if_pos h

theorem dropFrom_eq {xs : List α} {i : Nat} (h : i ≤ xs.length) : dropFrom xs i = .ok (xs.drop i) := if_pos h

theorem slice_eq {xs : List α} {i n : Nat} (h : i + n ≤ xs.length) :
    slice xs i (i + n) = .ok ((xs.drop i).take n) := by
  rw [slice, if_pos ⟨Nat.le_add_right i n, h⟩, Nat.add_sub_cancel_left]

/-- The first element with a property stands behind those without it. -/
theorem findIdx?_cases {p q : α → Bool} (hq : ∀ x, q x = !p x) (xs : List α) :
    (xs.findIdx? p = none ∧ xs.takeWhile q = xs ∧ xs.dropWhile q = []) ∨
      ∃ i < xs.length, xs.findIdx? p = some i ∧ xs.takeWhile q = xs.take i ∧ xs.dropWhile q = xs.drop i := by
  have hnot : (fun x => !q x) = p := by
    funext x
    rw [hq, Bool.not_not]
  rw [List.takeWhile_eq_take_findIdx_not, List.dropWhile_eq_drop_findIdx_not, hnot]
  cases hi : xs.findIdx? p with
  | none =>
    rw [List.findIdx_eq_length.mpr (List.findIdx?_eq_none_iff.mp hi)]
    exact .inl ⟨rfl, List.take_length, List.drop_length⟩
  | some i =>
    obtain ⟨hlt, hfind⟩ := List.findIdx?_eq_some_iff_findIdx_eq.mp hi
    rw [hfind]
    exact .inr ⟨i, hlt, rfl, rfl, rfl⟩

/-- A text is cut between any two parts of it. -/
theorem splitBytes_append (a b : List Char) : splitBytes (a ++ b) (byteLength a) = .ok (a, b) := by
  induction a with
  | nil => cases b <;> rfl
  | cons c a ih =>
    have hlength : byteLength (c :: a) = c.utf8Size + byteLength a := rfl
    have hpos := c.utf8Size_pos
    obtain ⟨n, hn⟩ : ∃ n, byteLength (c :: a) = n + 1 := ⟨byteLength (c :: a) - 1, by omega⟩
    have hle : c.utf8Size ≤ n + 1 := by omega
    have hleft : n + 1 - c.utf8Size = byteLength a := by omega
    rw [hn, List.cons_append, splitBytes, if_pos hle, hleft, ih]
    rfl

/-- Inside of a character there is no cut. -/
example : splitBytes ['é', 'K'] 1 = .error .outOfRange := rfl

theorem byteLength_eq_length {text : List Char} (h : ∀ c ∈ text, c.utf8Size = 1) :
    byteLength text = text.length := by
  induction text with
  | nil => rfl
  | cons c rest ih =>
    rw [List.forall_mem_cons] at h
    rw [byteLength, h.1, ih h.2, List.length_cons, Nat.add_comm]

theorem byteLength_append (a b : List Char) : byteLength (a ++ b) = byteLength a + byteLength b := by
  induction a with
  | nil => exact (Nat.zero_add _).symm
  | cons c rest ih => rw [List.cons_append, byteLength, byteLength, ih, Nat.add_assoc]

/-- Where each character takes one byte, every cut falls between two of them. -/
theorem bytesUpTo_eq {text : List Char} (h : ∀ c ∈ text, c.utf8Size = 1) {n : Nat} (hn : n ≤ text.length) :
    bytesUpTo text n = .ok (text.take n) := by
  have hlength : byteLength (text.take n) = n := by
    rw [byteLength_eq_length fun c hc => h c (List.mem_of_mem_take hc), List.length_take, Nat.min_eq_left hn]
  have hsplit := splitBytes_append (text.take n) (text.drop n)
  rw [List.take_append_drop, hlength] at hsplit
  rw [bytesUpTo, hsplit]
  rfl

theorem width_eq {n : Nat} (h : n ≤ widest) : width n = .ok n := if_pos h

theorem width_of_lt {n : Nat} (h : widest < n) : width n = .error .tooWide := if_neg (Nat.not_le_of_lt h)

theorem utf8Size_of_isDigit {c : Char} (h : c.isDigit = true) : c.utf8Size = 1 := by
  have hle : c.toNat ≤ 57 := (Text.toNat_of_isDigit h).2
  rw [Char.utf8Size_eq_one_iff, UInt32.le_iff_toNat_le]
  exact Nat.le_trans hle (by decide)

end

/-! ## (2) Results -/

section

variable {α β : Type}

@[simp] theorem lift_ok (a : α) : lift (.ok a) = .ok a := rfl

theorem ok_bind (a : α) (f : α → Except Stop β) : (Except.ok a >>= f) = f a := rfl

theorem lift_map (r : Except FormatError α) (f : α → β) : lift (r.map f) = (lift r).map f := by
  cases r <;> rfl

theorem orDefault_lift (default : α) (r : Except FormatError α) :
    orDefault default (lift r) = .ok (match r with | .ok a => a | .error _ => default) := by
  cases r <;> rfl

end

end Access

end RecordNaming
