/-
  RecordNaming.Table — finite maps as lists of entries with distinct keys, in the order in
  which the keys were first put.

  `get?_put_self` and `get?_put_ne` say what a put does to the view, `get?_erase` and
  `get?_filter` what stays of it; `size` counts keys (`size_put`).
-/

namespace RecordNaming

/-- Puts an entry into a list of entries: in place of the one with its key, else at the end. -/
def Table.putEntry {κ α : Type} [DecidableEq κ] (key : κ) (value : α) : List (κ × α) → List (κ × α)
  | [] => [(key, value)]
  | entry :: rest =>
      if entry.1 = key then (key, value) :: rest
      else entry :: putEntry key value rest

theorem Table.mem_keys_putEntry {κ α : Type} [DecidableEq κ] {key : κ} {value : α} {k : κ}
    {entries : List (κ × α)} (h : k ∈ (putEntry key value entries).map Prod.fst) :
    k = key ∨ k ∈ entries.map Prod.fst := by
  induction entries with
  | nil => simpa [putEntry] using h
  | cons entry rest ih =>
    unfold putEntry at h
    split at h
    · simp only [List.map_cons, List.mem_cons] at h ⊢
      rcases h with h | h
      · exact .inl h
      · exact .inr (.inr h)
    · simp only [List.map_cons, List.mem_cons] at h ⊢
      rcases h with h | h
      · exact .inr (.inl h)
      · rcases ih h with h | h
        · exact .inl h
        · exact .inr (.inr h)

theorem Table.nodup_putEntry {κ α : Type} [DecidableEq κ] (key : κ) (value : α)
    {entries : List (κ × α)} (h : (entries.map Prod.fst).Nodup) :
    ((putEntry key value entries).map Prod.fst).Nodup := by
  induction entries with
  | nil => simp [putEntry]
  | cons entry rest ih =>
    simp only [List.map_cons, List.nodup_cons] at h
    unfold putEntry
    split
    · rename_i he
      simp only [List.map_cons, List.nodup_cons]
      exact ⟨he ▸ h.1, h.2⟩
    · rename_i he
      simp only [List.map_cons, List.nodup_cons]
      refine ⟨fun hm => ?_, ih h.2⟩
      rcases mem_keys_putEntry hm with hk | hk
      · exact he hk
      · exact h.1 hk

/-- A finite map. -/
structure Table (κ α : Type) where
  entries : List (κ × α)
  nodup : (entries.map Prod.fst).Nodup

namespace Table

variable {κ α : Type}

def empty : Table κ α := ⟨[], by simp⟩

def size (t : Table κ α) : Nat := t.entries.length

variable [DecidableEq κ]

def get? (t : Table κ α) (key : κ) : Option α := (t.entries.find? (·.1 = key)).map Prod.snd

def put (t : Table κ α) (key : κ) (value : α) : Table κ α :=
  ⟨putEntry key value t.entries, nodup_putEntry key value t.nodup⟩

def erase (t : Table κ α) (key : κ) : Table κ α :=
  ⟨t.entries.filter (·.1 ≠ key), (List.filter_sublist.map _).nodup t.nodup⟩

/-- The entries whose keys pass a test. -/
def filter (t : Table κ α) (test : κ → Bool) : Table κ α :=
  ⟨t.entries.filter fun entry => test entry.1, (List.filter_sublist.map _).nodup t.nodup⟩

@[simp] theorem get?_empty (key : κ) : (empty : Table κ α).get? key = none := rfl

@[simp] theorem get?_put_self (t : Table κ α) (key : κ) (value : α) :
    (t.put key value).get? key = some value := by
  obtain ⟨entries, h⟩ := t
  simp only [get?, put]
  clear h
  induction entries with
  | nil => simp [putEntry]
  | cons entry rest ih =>
    unfold putEntry
    split
    · simp
    · rename_i he
      rw [List.find?_cons_of_neg (by simpa using he)]
      exact ih

theorem get?_put_ne (t : Table κ α) {key other : κ} (value : α) (hne : other ≠ key) :
    (t.put key value).get? other = t.get? other := by
  obtain ⟨entries, h⟩ := t
  simp only [get?, put]
  clear h
  induction entries with
  | nil => simp [putEntry, Ne.symm hne]
  | cons entry rest ih =>
    unfold putEntry
    split
    · rename_i he
      rw [List.find?_cons_of_neg (by simpa using Ne.symm hne),
        List.find?_cons_of_neg (by simpa [he] using Ne.symm hne)]
    · by_cases ho : entry.1 = other
      · rw [List.find?_cons_of_pos (by simpa using ho), List.find?_cons_of_pos (by simpa using ho)]
      · rw [List.find?_cons_of_neg (by simpa using ho), List.find?_cons_of_neg (by simpa using ho)]
        exact ih

theorem get?_filter (t : Table κ α) (test : κ → Bool) (key : κ) :
    (t.filter test).get? key = if test key then t.get? key else none := by
  by_cases h : test key = true
  · have hp : (fun entry : κ × α => decide (test entry.1 = true ∧ decide (entry.1 = key) = true)) =
        fun entry => decide (entry.1 = key) := by
      funext entry
      by_cases e : entry.1 = key <;> simp [e, h]
    rw [get?, get?, filter, List.find?_filter, hp, if_pos h]
  · have hn : (t.filter test).entries.find? (·.1 = key) = none := by
      refine List.find?_eq_none.mpr fun entry he => ?_
      have ht : test entry.1 = true := (List.mem_filter.mp he).2
      simp only [decide_eq_true_eq]
      rintro rfl
      exact h ht
    rw [get?, hn, if_neg h]
    rfl

theorem get?_erase (t : Table κ α) (key other : κ) :
    (t.erase key).get? other = if other = key then none else t.get? other := by
  have h := t.get?_filter (fun k => decide (k ≠ key)) other
  by_cases e : other = key
  · rw [if_pos e]
    rwa [if_neg (by simpa using e)] at h
  · rw [if_neg e]
    rwa [if_pos (by simpa using e)] at h

theorem isSome_get?_iff (t : Table κ α) (key : κ) :
    (t.get? key).isSome = true ↔ key ∈ t.entries.map Prod.fst := by
  simp only [get?, Option.isSome_map, List.find?_isSome, decide_eq_true_eq, List.mem_map]

theorem length_putEntry (key : κ) (value : α) (entries : List (κ × α)) :
    (putEntry key value entries).length =
      if (entries.find? (·.1 = key)).isSome then entries.length else entries.length + 1 := by
  induction entries with
  | nil => rfl
  | cons entry rest ih =>
    unfold putEntry
    by_cases he : entry.1 = key
    · simp [he]
    · rw [if_neg he, List.find?_cons_of_neg (by simpa using he), List.length_cons, ih]
      split <;> rfl

theorem size_put (t : Table κ α) (key : κ) (value : α) :
    (t.put key value).size = if (t.get? key).isSome then t.size else t.size + 1 := by
  rw [get?, Option.isSome_map]
  exact length_putEntry key value t.entries

end Table

end RecordNaming
