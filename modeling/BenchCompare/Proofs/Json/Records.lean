import BenchCompare.Json.Record
import Mathlib.Data.List.Nodup

/-!
# Records are read back

A record is written from a table of its fields: each has a value or is left out.  The members that
are present are then just the fields that are read (`fields?_present`), and under each name there is
what the table says (`lookup_present`).  A value that was left out is found to be missing
(`optional?_eq_some`).
-/

namespace BenchCompare.Json

/-! ### Fields -/

/-- The names of members are distinct if no name occurs twice. -/
theorem distinctNames_iff {members : List (String × Json)} :
    distinctNames members = true ↔ (members.map Prod.fst).Nodup := by
  induction members with
  | nil => simp [distinctNames]
  | cons member members ih =>
    obtain ⟨name, value⟩ := member
    rw [distinctNames, Bool.and_eq_true, ih, List.map_cons, List.nodup_cons]
    refine and_congr_left fun _ => ?_
    simp only [List.all_eq_true, decide_eq_true_eq, List.mem_map, not_exists, not_and]

/-- Members whose names are fields in their order are the fields. -/
theorem fields?_object {names : List String} (hnames : names.Nodup)
    {members : List (String × Json)} (h : (members.map Prod.fst).Sublist names) :
    fields? names (.object members) = some members := by
  have hknown : members.filter (fun member => names.contains member.1) = members := by
    rw [List.filter_eq_self]
    intro member hmember
    exact List.contains_iff_mem.mpr (h.subset (List.mem_map_of_mem hmember))
  have hdistinct : distinctNames members = true := distinctNames_iff.mpr (hnames.sublist h)
  rw [fields?]
  simp only [hknown, hdistinct, if_true]

/-- The members of an object with the given names, as far as there are values for them. -/
def present (table : List (String × Option Json)) : List (String × Json) :=
  table.flatMap fun (name, value) => optionalMember name value

/-- The members that are present have their names in the order of the table. -/
theorem map_fst_present_sublist (table : List (String × Option Json)) :
    ((present table).map Prod.fst).Sublist (table.map Prod.fst) := by
  induction table with
  | nil => exact List.Sublist.refl []
  | cons entry table ih =>
    obtain ⟨name, value⟩ := entry
    rw [present, List.flatMap_cons, ← present, List.map_append, List.map_cons]
    cases value with
    | none => exact ih.cons name
    | some v => exact ih.cons_cons name

/-- A table in the order of the fields of a record gives just these fields. -/
theorem fields?_present {table : List (String × Option Json)}
    (h : (table.map Prod.fst).Nodup) :
    fields? (table.map Prod.fst) (.object (present table)) = some (present table) :=
  fields?_object h (map_fst_present_sublist table)

/-- The value that a table has for a name is found among the members that are present. -/
theorem lookup_present {table : List (String × Option Json)} (h : (table.map Prod.fst).Nodup)
    {name : String} {value : Option Json} (hlookup : table.lookup name = some value) :
    (present table).lookup name = value := by
  induction table with
  | nil => cases hlookup
  | cons entry table ih =>
    obtain ⟨first, firstValue⟩ := entry
    rw [List.map_cons, List.nodup_cons] at h
    rw [present, List.flatMap_cons, ← present, List.lookup_append]
    by_cases hname : name = first
    · subst hname
      have hlater : (present table).lookup name = none := by
        rw [List.lookup_eq_none_iff]
        rintro ⟨other, v⟩ hmem
        have hother := (map_fst_present_sublist table).subset (List.mem_map_of_mem hmem)
        exact bne_iff_ne.mpr fun e => h.1 (e ▸ hother)
      rw [List.lookup_cons_self, Option.some.injEq] at hlookup
      subst hlookup
      rw [hlater, Option.or_none]
      cases firstValue <;> simp [optionalMember]
    · have hfirst : (optionalMember first firstValue).lookup name = none := by
        cases firstValue <;> simp [optionalMember, hname]
      rw [List.lookup_cons, beq_eq_false_iff_ne.mpr hname] at hlookup
      rw [hfirst, Option.none_or, ih h.2 hlookup]

/-- What holds of the values in a table holds of the members that are present. -/
theorem forall_mem_present {P : Json → Prop} {table : List (String × Option Json)}
    (h : ∀ entry ∈ table, ∀ v ∈ entry.2, P v) : ∀ member ∈ present table, P member.2 := by
  rintro ⟨name, v⟩ hmem
  obtain ⟨⟨first, value⟩, hentry, hmember⟩ := List.mem_flatMap.mp hmem
  cases value with
  | none => cases hmember
  | some w =>
    obtain ⟨rfl, rfl⟩ := Prod.mk.inj (List.mem_singleton.mp hmember)
    exact h _ hentry _ rfl

/-! ### Values of fields -/

section Fields

variable {α : Type} {read? : Json → Option α} {name : String} {fields : List (String × Json)}

/-- A field that has to be there is read from the value under its name. -/
theorem required?_eq_some {value : Json} {a : α} (hlookup : fields.lookup name = some value)
    (hread : read? value = some a) : required? read? name fields = some a := by
  rw [required?, hlookup]
  exact hread

/-- A field with a default is read from the value under its name. -/
theorem defaulted?_eq_some {default : α} {value : Json} {a : α}
    (hlookup : fields.lookup name = some value) (hread : read? value = some a) :
    defaulted? read? default name fields = some a := by
  rw [defaulted?, hlookup]
  exact hread

/-- A value that is written if it is there, and left out otherwise, is read back. -/
theorem optional?_eq_some {write : α → Json} (hnull : ∀ a, write a ≠ .null) {value : Option α}
    (hlookup : fields.lookup name = value.map write)
    (hread : ∀ a ∈ value, read? (write a) = some a) :
    optional? read? name fields = some value := by
  rw [optional?, defaulted?, hlookup]
  cases value with
  | none => rfl
  | some a =>
    have hnullable : nullable? read? (write a) = (read? (write a)).map some := by
      rw [nullable?]
      exact hnull a
    rw [Option.map_some, hread a rfl] at *
    exact hnullable

/-- A record is read step by step: the first field, and with its value the rest. -/
theorem bind_eq_some {β : Type} {field : Option α} {rest : α → Option β} {a : α} {b : β}
    (hfield : field = some a) (hrest : rest a = some b) : (field >>= rest) = some b := by
  rw [hfield]
  exact hrest

end Fields

/-- A natural number within the bound is read back. -/
theorem asNatural?_natCast {limit n : Nat} (h : n ≤ limit) :
    asNatural? limit (.whole n) = some n := by
  have hbounds : 0 ≤ (n : Int) ∧ (n : Int) ≤ limit :=
    ⟨Int.natCast_nonneg n, Int.ofNat_le.mpr h⟩
  rw [asNatural?, if_pos hbounds, Int.toNat_natCast]

/-- A count of 32 bits is read back. -/
theorem asCount32?_count32 (n : UInt32) : asCount32? (count32 n) = some n := by
  have hle : n.toNat ≤ UInt32.size - 1 := Nat.le_pred_of_lt n.toNat_lt_size
  rw [asCount32?, count32, asNatural?_natCast hle, Option.map_some, UInt32.ofNat_toNat]

/-- A count of 64 bits is read back. -/
theorem asCount64?_count64 (n : UInt64) : asCount64? (count64 n) = some n := by
  have hle : n.toNat ≤ UInt64.size - 1 := Nat.le_pred_of_lt n.toNat_lt_size
  rw [asCount64?, count64, asNatural?_natCast hle, Option.map_some, UInt64.ofNat_toNat]

/-- An array of values that are read back is read back. -/
theorem asList?_array {α : Type} {read? : Json → Option α} {write : α → Json} {as : List α}
    (h : ∀ a ∈ as, read? (write a) = some a) : asList? read? (.array (as.map write)) = some as := by
  rw [asList?]
  induction as with
  | nil => rfl
  | cons a as ih =>
    rw [List.forall_mem_cons] at h
    rw [List.map_cons, List.mapM_cons, h.1, ih h.2]
    rfl

end BenchCompare.Json
