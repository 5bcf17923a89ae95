import Mathlib.Data.List.Nodup

/-!
# UsbPassthrough.PyDict

Python's `dict` with `str` keys, as both peers' device registries and the `devices` payload of a
snapshot use it: entries in insertion order, each key at most once (`PyDict.nodup`).

* `set`: `d[k] = v`, in place when `k` is present, appended otherwise;
* `erase`: `del d[k]`;
* `get?`: `d.get(k)`, and `contains` is `k in d`.
-/

namespace UsbPassthrough

section Entries

variable {α : Type}

/-- `d.get(k)` on the entry list. -/
def getEntry (k : String) : List (String × α) → Option α
  | [] => none
  | e :: es => if e.1 = k then some e.2 else getEntry k es

/-- `d[k] = v` on the entry list: the value is replaced in place, or a new entry appended. -/
def setEntry (k : String) (v : α) : List (String × α) → List (String × α)
  | [] => [(k, v)]
  | e :: es => if e.1 = k then (k, v) :: es else e :: setEntry k v es

theorem getEntry_setEntry (k k' : String) (v : α) (es : List (String × α)) :
    getEntry k' (setEntry k v es) = if k = k' then some v else getEntry k' es := by
  induction es with
  | nil => simp [setEntry, getEntry]
  | cons e es ih =>
    by_cases he : e.1 = k
    · subst he; by_cases h : e.1 = k' <;> simp [setEntry, getEntry, h]
    · simp only [setEntry, he, if_false, getEntry, ih]
      by_cases h : e.1 = k' <;> by_cases h' : k = k' <;> simp_all

theorem keys_setEntry (k : String) (v : α) (es : List (String × α)) :
    (setEntry k v es).map Prod.fst =
      if k ∈ es.map Prod.fst then es.map Prod.fst else es.map Prod.fst ++ [k] := by
  induction es with
  | nil => simp [setEntry]
  | cons e es ih =>
    by_cases he : e.1 = k
    · simp [setEntry, he]
    · have : ¬k = e.1 := fun h => he h.symm
      by_cases hk : k ∈ es.map Prod.fst <;> simp_all [setEntry]

theorem setEntry_of_not_mem {k : String} (v : α) {es : List (String × α)}
    (h : k ∉ es.map Prod.fst) : setEntry k v es = es ++ [(k, v)] := by
  induction es with
  | nil => rfl
  | cons e es ih =>
    simp only [List.map_cons, List.mem_cons, not_or] at h
    simp [setEntry, Ne.symm h.1, ih h.2]

theorem getEntry_eq_none {k : String} {es : List (String × α)} :
    getEntry k es = none ↔ k ∉ es.map Prod.fst := by
  induction es with
  | nil => simp [getEntry]
  | cons e es ih => by_cases h : e.1 = k <;> simp_all [getEntry, eq_comm]

theorem getEntry_filter_ne (k k' : String) (es : List (String × α)) :
    getEntry k' (es.filter (fun e => e.1 != k)) = if k = k' then none else getEntry k' es := by
  induction es with
  | nil => simp [getEntry]
  | cons e es ih =>
    by_cases he : e.1 = k
    · subst he; by_cases h : e.1 = k' <;> simp_all [getEntry]
    · by_cases h : e.1 = k'
      · subst h; simp [getEntry, List.filter_cons, he, Ne.symm he]
      · simp [getEntry, List.filter_cons, he, h, ih]

theorem getEntry_of_mem {es : List (String × α)} (hd : (es.map Prod.fst).Nodup) {k : String}
    {v : α} (h : (k, v) ∈ es) : getEntry k es = some v := by
  induction es with
  | nil => cases h
  | cons e es ih =>
    simp only [List.map_cons, List.nodup_cons] at hd
    rcases List.mem_cons.mp h with rfl | h'
    · simp [getEntry]
    · have hk : e.1 ≠ k := fun he => hd.1 (he ▸ List.mem_map_of_mem Prod.fst h')
      simp [getEntry, hk, ih hd.2 h']

end Entries

/-- A Python `dict` with `str` keys. -/
structure PyDict (α : Type) where
  entries : List (String × α)
  nodup : (entries.map Prod.fst).Nodup

namespace PyDict

variable {α β : Type}

def empty : PyDict α := ⟨[], List.nodup_nil⟩

def get? (d : PyDict α) (k : String) : Option α := getEntry k d.entries

/-- `k in d`. -/
def contains (d : PyDict α) (k : String) : Bool := (d.get? k).isSome

def set (d : PyDict α) (k : String) (v : α) : PyDict α :=
  ⟨setEntry k v d.entries, by
    rw [keys_setEntry]
    split
    · exact d.nodup
    · exact d.nodup.append (List.nodup_singleton k) (List.disjoint_singleton.mpr ‹_›)⟩

/-- `del d[k]`; keys are unique, so dropping every entry with key `k` drops the one entry. -/
def erase (d : PyDict α) (k : String) : PyDict α :=
  ⟨d.entries.filter (fun e => e.1 != k), by
    exact d.nodup.sublist ((List.filter_sublist _).map _)⟩

/-- The same keys, in the same order, with `f` applied to each value. -/
def map (f : α → β) (d : PyDict α) : PyDict β :=
  ⟨d.entries.map (fun e => (e.1, f e.2)), by simpa [Function.comp_def] using d.nodup⟩

@[simp] theorem get?_empty (k : String) : (empty : PyDict α).get? k = none := rfl

@[simp] theorem get?_set (d : PyDict α) (k k' : String) (v : α) :
    (d.set k v).get? k' = if k = k' then some v else d.get? k' :=
  getEntry_setEntry k k' v d.entries

@[simp] theorem get?_erase (d : PyDict α) (k k' : String) :
    (d.erase k).get? k' = if k = k' then none else d.get? k' :=
  getEntry_filter_ne k k' d.entries

@[simp] theorem get?_map (f : α → β) (d : PyDict α) (k : String) :
    (d.map f).get? k = (d.get? k).map f := by
  simp only [get?, map]
  induction d.entries with
  | nil => rfl
  | cons e es ih => by_cases h : e.1 = k <;> simp_all [getEntry]

theorem get?_of_mem (d : PyDict α) {k : String} {v : α} (h : (k, v) ∈ d.entries) :
    d.get? k = some v :=
  getEntry_of_mem d.nodup h

theorem contains_iff (d : PyDict α) (k : String) : d.contains k = true ↔ ∃ v, d.get? k = some v :=
  Option.isSome_iff_exists

theorem contains_eq_false (d : PyDict α) (k : String) : d.contains k = false ↔ d.get? k = none := by
  simp [contains, Option.isSome_iff_ne_none]

@[simp] theorem contains_set (d : PyDict α) (k k' : String) (v : α) :
    (d.set k v).contains k' = (k == k' || d.contains k') := by
  by_cases h : k = k' <;> simp [contains, h]

@[simp] theorem contains_erase (d : PyDict α) (k k' : String) :
    (d.erase k).contains k' = (k != k' && d.contains k') := by
  by_cases h : k = k' <;> simp [contains, h]

end PyDict

end UsbPassthrough
