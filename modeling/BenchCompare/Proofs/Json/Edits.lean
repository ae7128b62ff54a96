import BenchCompare.Proofs.Json.Records
import Mathlib.Data.List.Perm.Basic
import Mathlib.Logic.Relation

/-!
# Edits that readers do not notice

Two kinds of edits leave the meaning of saved data alone: the members of an object are put in another
order, and a member is added to an object under a name that nobody knows.  Both may happen at any
depth (`Json.Edit`).

A reader of values is *indifferent* if it reads the same before and after an edit
(`Json.IsIndifferent`).  Readers of simple values are so because no edit touches these; a reader of a
record is so if the readers of its fields are and if all its fields are known
(`Json.bind_fields?_eq`), since the fields that it finds are the same up to an edit within one of them
(`Json.rel_fields?_of_edit`).
-/

namespace BenchCompare.Json

/-! ### Edits -/

/-- One edit of a value: the members of an object in another order, or one more member under a name
that is not known, in the value itself or in a value inside it. -/
inductive Edit (known : List String) : Json → Json → Prop
  | permute {members others : List (String × Json)} (h : members.Perm others) :
    Edit known (.object members) (.object others)
  | add {name : String} (h : name ∉ known) (value : Json) (members : List (String × Json)) :
    Edit known (.object members) (.object ((name, value) :: members))
  | item (before after : List Json) {v w : Json} (h : Edit known v w) :
    Edit known (.array (before ++ v :: after)) (.array (before ++ w :: after))
  | member (before after : List (String × Json)) (name : String) {v w : Json}
    (h : Edit known v w) :
    Edit known (.object (before ++ (name, v) :: after)) (.object (before ++ (name, w) :: after))

/-- Under every name two lists of fields have the same value, or one that was edited, or none. -/
def SameFields (known : List String) (fields others : List (String × Json)) : Prop :=
  ∀ name, fields.lookup name = others.lookup name
    ∨ ∃ v w, fields.lookup name = some v ∧ others.lookup name = some w ∧ Edit known v w

/-- A reader that reads the same before and after an edit. -/
def IsIndifferent {α : Type} (known : List String) (read? : Json → Option α) : Prop :=
  ∀ ⦃v w : Json⦄, Edit known v w → read? v = read? w

variable {known names : List String} {v w : Json}

/-! ### The fields of a record -/

/-- The same fields are the same up to an edit. -/
theorem sameFields_refl (fields : List (String × Json)) : SameFields known fields fields :=
  fun _ => .inl rfl

/-- Fields of which one was edited are the same up to an edit. -/
theorem sameFields_replace (h : Edit known v w) (before after : List (String × Json))
    (name : String) :
    SameFields known (before ++ (name, v) :: after) (before ++ (name, w) :: after) := by
  intro other
  rw [List.lookup_append, List.lookup_append, List.lookup_cons, List.lookup_cons]
  cases before.lookup other with
  | some value => exact .inl rfl
  | none =>
    cases other == name with
    | true => exact .inr ⟨v, w, rfl, rfl, h⟩
    | false => exact .inl rfl

/-- Under distinct names the order of the members does not matter. -/
theorem lookup_eq_of_perm {members others : List (String × Json)} (h : members.Perm others)
    (hnames : (members.map Prod.fst).Nodup) (name : String) :
    members.lookup name = others.lookup name := by
  induction h with
  | nil => rfl
  | cons member _ ih =>
    obtain ⟨other, value⟩ := member
    rw [List.map_cons, List.nodup_cons] at hnames
    rw [List.lookup_cons, List.lookup_cons, ih hnames.2]
  | swap first second members =>
    obtain ⟨a, x⟩ := first
    obtain ⟨b, y⟩ := second
    have hne : b ≠ a := by
      rintro rfl
      simp at hnames
    simp only [List.lookup_cons]
    by_cases ha : name = a
    · have hb : (name == b) = false := beq_eq_false_iff_ne.mpr fun e => hne (e.symm.trans ha)
      rw [hb]
    · rw [beq_eq_false_iff_ne.mpr ha]
  | trans h _ ih ih' =>
    exact (ih hnames).trans (ih' ((h.map Prod.fst).nodup_iff.mp hnames))

/-- Names and items in pairs, where one item was edited, are the same or differ in one pair. -/
theorem zip_replace (names : List String) (before after : List Json) (v w : Json) :
    names.zip (before ++ v :: after) = names.zip (before ++ w :: after)
      ∨ ∃ front name back, names.zip (before ++ v :: after) = front ++ (name, v) :: back
        ∧ names.zip (before ++ w :: after) = front ++ (name, w) :: back := by
  induction before generalizing names with
  | nil =>
    cases names with
    | nil => exact .inl rfl
    | cons name names => exact .inr ⟨[], name, names.zip after, rfl, rfl⟩
  | cons item before ih =>
    cases names with
    | nil => exact .inl rfl
    | cons name names =>
      simp only [List.cons_append, List.zip_cons_cons]
      rcases ih names with h | ⟨front, other, back, hv, hw⟩
      · exact .inl (by rw [h])
      · exact .inr ⟨(name, item) :: front, other, back, by rw [hv]; rfl, by rw [hw]; rfl⟩

/-- The members of an object that have one of the names. -/
def named (names : List String) (members : List (String × Json)) : List (String × Json) :=
  members.filter fun member => names.contains member.1

theorem named_append (members others : List (String × Json)) :
    named names (members ++ others) = named names members ++ named names others :=
  List.filter_append ..

/-- A member with one of the names counts. -/
theorem named_cons_of_mem {name : String} (h : name ∈ names) (value : Json)
    (members : List (String × Json)) :
    named names ((name, value) :: members) = (name, value) :: named names members :=
  List.filter_cons_of_pos (List.contains_iff_mem.mpr h)

/-- A member with another name does not count. -/
theorem named_cons_of_not_mem {name : String} (h : name ∉ names) (value : Json)
    (members : List (String × Json)) :
    named names ((name, value) :: members) = named names members :=
  List.filter_cons_of_neg (mt List.contains_iff_mem.mp h)

/-- Two objects have the same fields if their members with the names of fields are the same up to an
edit, and have distinct names in both or in none. -/
theorem rel_fields?_object {members others : List (String × Json)}
    (hdistinct : distinctNames (named names members) = distinctNames (named names others))
    (hsame : distinctNames (named names members) = true →
      SameFields known (named names members) (named names others)) :
    Option.Rel (SameFields known) ((Json.object members).fields? names)
      ((Json.object others).fields? names) := by
  unfold fields?
  change Option.Rel _ (if distinctNames (named names members) = true then _ else _)
    (if distinctNames (named names others) = true then _ else _)
  rw [← hdistinct]
  by_cases h : distinctNames (named names members) = true
  · rw [if_pos h, if_pos h]
    exact .some (hsame h)
  · rw [if_neg h, if_neg h]
    exact .none

/-- An edit keeps the fields of a record the same up to an edit, if all of them are known. -/
theorem rel_fields?_of_edit (hnames : ∀ name ∈ names, name ∈ known) (h : Edit known v w) :
    Option.Rel (SameFields known) (v.fields? names) (w.fields? names) := by
  cases h with
  | @permute members others h =>
    have hnamed : (named names members).Perm (named names others) := h.filter _
    apply rel_fields?_object
    · rw [Bool.eq_iff_iff, distinctNames_iff, distinctNames_iff]
      exact (hnamed.map Prod.fst).nodup_iff
    · intro hdistinct name
      exact .inl (lookup_eq_of_perm hnamed (distinctNames_iff.mp hdistinct) name)
  | @add name h value members =>
    have hnamed : named names ((name, value) :: members) = named names members :=
      named_cons_of_not_mem (mt (hnames name) h) value members
    apply rel_fields?_object
    · rw [hnamed]
    · intro _
      rw [hnamed]
      exact sameFields_refl _
  | @item before after v w h =>
    have hlength : (before ++ w :: after).length = (before ++ v :: after).length := by simp
    simp only [fields?, hlength]
    split_ifs with hle
    · apply Option.Rel.some
      rcases zip_replace names before after v w with heq | ⟨front, name, back, hv, hw⟩
      · rw [heq]
        exact sameFields_refl _
      · rw [hv, hw]
        exact sameFields_replace h front back name
    · exact .none
  | @member before after name v w h =>
    by_cases hname : name ∈ names
    · have hnamed : ∀ value, named names (before ++ (name, value) :: after) =
          named names before ++ (name, value) :: named names after := by
        intro value
        rw [named_append, named_cons_of_mem hname]
      apply rel_fields?_object
      · rw [Bool.eq_iff_iff, distinctNames_iff, distinctNames_iff, hnamed, hnamed, List.map_append,
          List.map_append]
        rfl
      · intro _
        rw [hnamed, hnamed]
        exact sameFields_replace h _ _ name
    · have hnamed : named names (before ++ (name, v) :: after) =
          named names (before ++ (name, w) :: after) := by
        rw [named_append, named_append, named_cons_of_not_mem hname, named_cons_of_not_mem hname]
      apply rel_fields?_object
      · rw [hnamed]
      · intro _
        rw [hnamed]
        exact sameFields_refl _

/-! ### Readers -/

section Readers

variable {α β : Type} {read? : Json → Option α}

/-- A reader that takes neither arrays nor objects is indifferent. -/
theorem IsIndifferent.of_simple (harray : ∀ items, read? (.array items) = none)
    (hobject : ∀ members, read? (.object members) = none) : IsIndifferent known read? := by
  intro v w h
  cases h with
  | permute => rw [hobject, hobject]
  | add => rw [hobject, hobject]
  | item => rw [harray, harray]
  | member => rw [hobject, hobject]

/-- An indifferent reader reads the same after any number of edits. -/
theorem IsIndifferent.eq_of_edits (hread : IsIndifferent known read?)
    (h : Relation.ReflTransGen (Edit known) v w) : read? v = read? w := by
  induction h with
  | refl => rfl
  | tail _ hedit ih => exact ih.trans (hread hedit)

/-- An indifferent reader stays so if `null` is allowed as well. -/
theorem IsIndifferent.nullable? (hread : IsIndifferent known read?) :
    IsIndifferent known (nullable? read?) := by
  intro v w h
  have hmap : (read? v).map some = (read? w).map some := by rw [hread h]
  cases h with
  | permute => exact hmap
  | add => exact hmap
  | item => exact hmap
  | member => exact hmap

/-- A reader of lists is indifferent if the reader of the items is. -/
theorem IsIndifferent.asList? (hread : IsIndifferent known read?) :
    IsIndifferent known (asList? read?) := by
  intro v w h
  cases h with
  | permute => rfl
  | add => rfl
  | item before after h =>
    simp only [Json.asList?, List.mapM_append, List.mapM_cons, hread h]
  | member => rfl

/-- A field that has to be there is read in the same way from the same fields. -/
theorem IsIndifferent.required?_eq (hread : IsIndifferent known read?)
    {fields others : List (String × Json)} (h : SameFields known fields others) (name : String) :
    required? read? name fields = required? read? name others := by
  unfold required?
  rcases h name with heq | ⟨v, w, hv, hw, hedit⟩
  · rw [heq]
  · rw [hv, hw]
    exact hread hedit

/-- A field with a default is read in the same way from the same fields. -/
theorem IsIndifferent.defaulted?_eq (hread : IsIndifferent known read?)
    {fields others : List (String × Json)} (h : SameFields known fields others) (default : α)
    (name : String) :
    defaulted? read? default name fields = defaulted? read? default name others := by
  unfold defaulted?
  rcases h name with heq | ⟨v, w, hv, hw, hedit⟩
  · rw [heq]
  · rw [hv, hw]
    exact hread hedit

/-- A field that may be missing or `null` is read in the same way from the same fields. -/
theorem IsIndifferent.optional?_eq (hread : IsIndifferent known read?)
    {fields others : List (String × Json)} (h : SameFields known fields others) (name : String) :
    optional? read? name fields = optional? read? name others :=
  hread.nullable?.defaulted?_eq h none name

/-- A record of known fields is read in the same way before and after an edit. -/
theorem bind_fields?_eq (hnames : ∀ name ∈ names, name ∈ known)
    {build : List (String × Json) → Option β}
    (hbuild : ∀ {fields others}, SameFields known fields others → build fields = build others)
    (h : Edit known v w) : (v.fields? names >>= build) = (w.fields? names >>= build) := by
  have hfields := rel_fields?_of_edit hnames h
  generalize v.fields? names = fields, w.fields? names = others at hfields ⊢
  cases hfields with
  | none => rfl
  | some hsame => exact hbuild hsame

end Readers

end BenchCompare.Json
