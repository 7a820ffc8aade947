import Mathlib.Data.List.Nodup
import LiveShader.Data.Table

/-! # Tables by their values

What counts in a table is the value at each key. The order of its entries does not. -/

namespace LiveShader.Table

variable {Key Value : Type} {table other : Table Key Value} {key : Key} {value : Value}

/-- Whether no key has two entries. -/
def IsMap (table : Table Key Value) : Prop :=
  (table.map Prod.fst).Nodup

theorem isMap_nil : IsMap ([] : Table Key Value) :=
  List.nodup_nil

theorem IsMap.of_perm (map : table.IsMap) (reordered : other.Perm table) : other.IsMap :=
  (reordered.map Prod.fst).nodup_iff.mpr map

variable [DecidableEq Key]

/-! ## Single entries -/

/-- What is found behind an insertion is what was inserted, or was there before. -/
theorem find?_insert_cases {known : Key} {found : Value}
    (lookup : find? (insert table key value) known = some found) :
    key = known ∧ found = value ∨ key ≠ known ∧ find? table known = some found := by
  rw [find?_insert] at lookup
  split at lookup
  case isTrue same => exact .inl ⟨same, (Option.some.inj lookup).symm⟩
  case isFalse different => exact .inr ⟨different, lookup⟩

theorem find?_append (table other : Table Key Value) (key : Key) :
    find? (table ++ other) key = (find? table key).or (find? other key) := by
  induction table with
  | nil => rfl
  | cons entry rest induction =>
      rw [List.cons_append, find?_cons, find?_cons, induction]
      split <;> rfl

theorem find?_erase (table : Table Key Value) (key other : Key) :
    find? (erase table key) other = if key = other then none else find? table other := by
  induction table with
  | nil => simp [erase]
  | cons entry rest induction =>
      rw [erase] at induction ⊢
      by_cases same : entry.1 = key
      · rw [List.filter_cons_of_neg (by simpa using same), induction, find?_cons, same]
        split <;> rfl
      · rw [List.filter_cons_of_pos (by simpa using same), find?_cons, induction, find?_cons]
        by_cases found : entry.1 = other
        · rw [if_pos found, if_pos found, if_neg fun equal => same (found.trans equal.symm)]
        · rw [if_neg found, if_neg found]

theorem find?_modify (table : Table Key Value) (key other : Key) (change : Value → Value) :
    find? (modify table key change) other =
      if key = other then (find? table other).map change else find? table other := by
  induction table with
  | nil => simp [modify]
  | cons entry rest induction =>
      rw [modify] at induction ⊢
      rw [List.map_cons, find?_cons, induction, find?_cons]
      by_cases same : entry.1 = key
      · rw [if_pos same, same]
        by_cases found : key = other <;> simp [found]
      · rw [if_neg same]
        by_cases found : entry.1 = other
        · rw [if_pos found, if_pos found, if_neg fun equal => same (found.trans equal.symm)]
        · rw [if_neg found, if_neg found]

theorem find?_map {Other : Type} (table : Table Key Value) (change : Key → Value → Other)
    (key : Key) :
    find? (table.map fun entry => (entry.1, change entry.1 entry.2)) key =
      (find? table key).map (change key) := by
  induction table with
  | nil => rfl
  | cons entry rest induction =>
      rw [List.map_cons, find?_cons, induction, find?_cons]
      by_cases same : entry.1 = key
      · simp [same]
      · simp [same]

theorem mem_of_find? (found : find? table key = some value) : (key, value) ∈ table := by
  induction table with
  | nil => cases found
  | cons entry rest induction =>
      rw [find?_cons] at found
      split at found
      case isTrue same =>
        cases found
        rw [← same]
        exact .head _
      case isFalse => exact .tail _ (induction found)

theorem isSome_find?_iff : (find? table key).isSome ↔ key ∈ table.map Prod.fst := by
  induction table with
  | nil => simp
  | cons entry rest induction =>
      rw [find?_cons, List.map_cons, List.mem_cons]
      by_cases same : entry.1 = key
      · simp [same]
      · rw [if_neg same, induction, or_iff_right (Ne.symm same)]

/-! ## Keys -/

theorem IsMap.insert (map : table.IsMap) (key : Key) (value : Value) :
    (table.insert key value).IsMap := by
  induction table with
  | nil => exact List.nodup_singleton key
  | cons entry rest induction =>
      rcases List.nodup_cons.mp map with ⟨fresh, later⟩
      rw [Table.insert]
      split
      case isTrue same =>
        rw [same] at fresh
        exact List.nodup_cons.mpr ⟨fresh, later⟩
      case isFalse different =>
        refine List.nodup_cons.mpr ⟨?_, induction later⟩
        rw [← isSome_find?_iff, find?_insert, if_neg (Ne.symm different), isSome_find?_iff]
        exact fresh

theorem IsMap.find?_iff_mem (map : table.IsMap) :
    find? table key = some value ↔ (key, value) ∈ table := by
  refine ⟨mem_of_find?, fun member => ?_⟩
  induction table with
  | nil => cases member
  | cons entry rest induction =>
      rcases List.nodup_cons.mp map with ⟨fresh, later⟩
      rw [find?_cons]
      rcases List.mem_cons.mp member with rfl | among
      · exact if_pos rfl
      · have listed : key ∈ rest.map Prod.fst := List.mem_map_of_mem among
        have different : entry.1 ≠ key := fun same => fresh (same.symm ▸ listed)
        rw [if_neg different]
        exact induction later among

theorem IsMap.find?_of_perm (map : table.IsMap) (reordered : other.Perm table) (key : Key) :
    find? other key = find? table key := by
  ext value
  rw [(map.of_perm reordered).find?_iff_mem, map.find?_iff_mem, reordered.mem_iff]

/-- Tables with the same values are reorderings of each other. -/
theorem IsMap.perm_of_find? (map : table.IsMap) (otherMap : other.IsMap)
    (same : ∀ key, find? other key = find? table key) : other.Perm table := by
  refine (List.perm_ext_iff_of_nodup (.of_map _ otherMap) (.of_map _ map)).mpr fun entry => ?_
  rw [← otherMap.find?_iff_mem, same, map.find?_iff_mem]

theorem keys_insert_of_fresh (fresh : key ∉ table.map Prod.fst) (value : Value) :
    (table.insert key value).map Prod.fst = table.map Prod.fst ++ [key] := by
  induction table with
  | nil => rfl
  | cons entry rest induction =>
      rw [List.map_cons, List.mem_cons, not_or] at fresh
      rw [Table.insert, if_neg (Ne.symm fresh.1), List.map_cons, induction fresh.2]
      rfl

theorem keys_insert_of_known (known : key ∈ table.map Prod.fst) (value : Value) :
    (table.insert key value).map Prod.fst = table.map Prod.fst := by
  induction table with
  | nil => cases known
  | cons entry rest induction =>
      rw [Table.insert]
      split
      case isTrue same => rw [List.map_cons, List.map_cons, same]
      case isFalse different =>
        have later := (List.mem_cons.mp known).resolve_left (Ne.symm different)
        rw [List.map_cons, List.map_cons, induction later]

theorem keys_erase (table : Table Key Value) (key : Key) :
    (table.erase key).map Prod.fst = (table.map Prod.fst).filter (· ≠ key) := by
  rw [erase, List.filter_map]
  rfl

theorem keys_modify (table : Table Key Value) (key : Key) (change : Value → Value) :
    (table.modify key change).map Prod.fst = table.map Prod.fst := by
  rw [modify, List.map_map]
  apply List.map_congr_left
  intro entry _
  simp only [Function.comp_apply]
  split
  case isTrue same => exact same.symm
  case isFalse => rfl

/-! ## Many entries -/

/-- Sets the values at some keys, one after the other. -/
def insertAll (table : Table Key Value) (entries : List (Key × Value)) : Table Key Value :=
  entries.foldl (fun table entry => table.insert entry.1 entry.2) table

theorem insertAll_append (table : Table Key Value) (entries others : List (Key × Value)) :
    table.insertAll (entries ++ others) = (table.insertAll entries).insertAll others :=
  List.foldl_append

/-- Of the values that are set at one key, the last one counts. -/
theorem find?_insertAll (table : Table Key Value) (entries : List (Key × Value)) (key : Key) :
    find? (table.insertAll entries) key = (find? entries.reverse key).or (find? table key) := by
  induction entries generalizing table with
  | nil => rfl
  | cons entry rest induction =>
      have later := induction (table.insert entry.1 entry.2)
      rw [find?_insert] at later
      rw [List.reverse_cons, find?_append, Option.or_assoc]
      refine later.trans (congrArg _ ?_)
      rw [find?_cons]
      split <;> rfl

theorem IsMap.insertAll (map : table.IsMap) (entries : List (Key × Value)) :
    (table.insertAll entries).IsMap := by
  induction entries generalizing table with
  | nil => exact map
  | cons entry rest induction => exact induction (map.insert entry.1 entry.2)

end LiveShader.Table
