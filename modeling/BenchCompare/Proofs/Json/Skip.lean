import BenchCompare.Json.Skip
import BenchCompare.Proofs.Json.RoundTrip

/-!
# Passing over values

A value that nobody wants is passed over instead of being read: nothing is built, and the bounds are
others.  Where both succeed, they leave the same rest of the text (`Json.skipValue?_rest_eq`), so the
members after an unwanted one are found where they are.

Items between brackets are read in two steps, and what was read is an induction of its own
(`Json.ReadsItems`), which has no bound any more.
-/

namespace BenchCompare.Json

/-! ### What was read -/

/-- What was found keeps its rest when its value is changed. -/
theorem exists_of_map_eq_some {α β : Type} {found : Option (α × List Char)} {f : α → β} {b : β}
    {rest : List Char} (h : found.map (fun found => (f found.1, found.2)) = some (b, rest)) :
    ∃ a, found = some (a, rest) ∧ f a = b := by
  obtain ⟨⟨a, after⟩, rfl, heq⟩ := Option.map_eq_some_iff.mp h
  cases heq
  exact ⟨a, rfl, rfl⟩

/-- A text that is one value begins with it. -/
theorem exists_rest_of_parse? {text : String} {value : Json} (h : parse? text = some value) :
    ∃ rest, value? nestingLimit text.toList = some (value, rest) := by
  unfold parse? at h
  split at h
  · next found hread =>
    cases h
    obtain ⟨⟨_, rest⟩, hvalue, heq⟩ := Option.map_eq_some_iff.mp hread
    obtain ⟨rfl, -⟩ := Prod.mk.inj heq
    exact ⟨rest, hvalue⟩
  · cases h

/-- What begins with a quote is a text. -/
theorem value?_of_quote {room : Nat} {cs body : List Char} (h : skipSpace cs = '"' :: body) :
    value? room cs =
      (textBody? body).map fun (front, rest) => (.text (String.ofList front), rest) := by
  rw [value?.eq_def, h]
  rfl

/-- What begins with a bracket is an array. -/
theorem exists_items_of_value? {room : Nat} {cs later rest : List Char} {value : Json}
    (hspace : skipSpace cs = '[' :: later) (h : value? room cs = some (value, rest)) :
    ∃ items, value = .array items := by
  rw [value?.eq_def, hspace] at h
  obtain _ | inner := room
  · cases h
  · obtain ⟨items, -, rfl⟩ := exists_of_map_eq_some (f := Json.array) h
    exact ⟨items, rfl⟩

/-- What begins with a brace is an object. -/
theorem exists_members_of_value? {room : Nat} {cs later rest : List Char} {value : Json}
    (hspace : skipSpace cs = '\x7b' :: later) (h : value? room cs = some (value, rest)) :
    ∃ inner members, value = .object members
      ∧ itemsUntil? (memberWith? (value? inner)) '\x7d' later = some (members, rest) := by
  rw [value?.eq_def, hspace] at h
  obtain _ | inner := room
  · cases h
  · obtain ⟨members, hmembers, rfl⟩ := exists_of_map_eq_some (f := Json.object) h
    exact ⟨inner, members, rfl, hmembers⟩

/-! ### Texts -/

theorem exists_of_push?_eq_some {c : Char} {found : Option (List Char × List Char)}
    {body rest : List Char} (h : push? c found = some (body, rest)) :
    ∃ inner, found = some (inner, rest) := by
  obtain _ | ⟨inner, after⟩ := found
  · cases h
  · cases h
    exact ⟨inner, rfl⟩

/-- A character after a backslash is passed over if it stands for one. -/
theorem skipTextBody?_escaped {e plain : Char} (hu : e ≠ 'u') (h : escaped? e = some plain)
    (cs : List Char) : skipTextBody? ('\\' :: e :: cs) = skipTextBody? cs := by
  rw [skipTextBody?.eq_def]
  simp [hu, h]

/-- An escaped unit is passed over, whether it is half of a pair or not. -/
theorem skipTextBody?_unit {h₁ h₂ h₃ h₄ : Char} {unit : Nat}
    (h : hexUnit? h₁ h₂ h₃ h₄ = some unit) (cs : List Char) :
    skipTextBody? ('\\' :: 'u' :: h₁ :: h₂ :: h₃ :: h₄ :: cs) = skipTextBody? cs := by
  rw [skipTextBody?.eq_def]
  simp [h]

/-- The body of a text that can be read can be passed over, up to the same quote. -/
theorem skipTextBody?_of_textBody? {cs body rest : List Char} (h : textBody? cs = some (body, rest)) :
    skipTextBody? cs = some rest := by
  fun_induction textBody? cs generalizing body rest with
  | case2 cs =>
    cases h
    rw [skipTextBody?.eq_def]
    rfl
  | case4 c cs hquote hcontrol hback ih =>
    obtain ⟨inner, hinner⟩ := exists_of_push?_eq_some h
    rw [skipTextBody?.eq_def]
    simp [hquote, hcontrol, hback, ih hinner]
  | case6 c hquote hcontrol hback e cs hu plain hplain ih =>
    obtain rfl := not_not.mp hback
    obtain ⟨inner, hinner⟩ := exists_of_push?_eq_some h
    rw [skipTextBody?_escaped hu hplain, ih hinner]
  | case10 c hquote hcontrol hback e hu h₁ h₂ h₃ h₄ cs unit hlow hhigh hunit ih =>
    obtain rfl := not_not.mp hback
    obtain rfl := not_not.mp hu
    obtain ⟨inner, hinner⟩ := exists_of_push?_eq_some h
    rw [skipTextBody?_unit (by assumption), ih hinner]
  | case12 c hquote hcontrol hback e hu h₁ h₂ h₃ h₄ unit hlow hhigh hunit l₁ l₂ l₃ l₄ cs low hpair =>
    rename_i ih
    obtain rfl := not_not.mp hback
    obtain rfl := not_not.mp hu
    obtain ⟨inner, hinner⟩ := exists_of_push?_eq_some h
    rw [skipTextBody?_unit (by assumption), skipTextBody?_unit (by assumption), ih hinner]
  | _ => cases h

/-! ### Items -/

section Items

variable {α β : Type} {item? : List Char → Option (α × List Char)}
  {skip? : List Char → Option (β × List Char)} {closing : Char}

/-- Items are read one after the other, with commas between them, up to the closing bracket; the text
after it is the rest. -/
inductive ReadsItems (item? : List Char → Option (α × List Char)) (closing : Char) :
    List Char → List α → List Char → Prop
  | last {cs after rest : List Char} {a : α} (hitem : item? cs = some (a, after))
    (hend : skipSpace after = closing :: rest) : ReadsItems item? closing cs [a] rest
  | more {cs after later rest : List Char} {a : α} {others : List α}
    (hitem : item? cs = some (a, after)) (hcomma : skipSpace after = ',' :: later)
    (hothers : ReadsItems item? closing later others rest) :
    ReadsItems item? closing cs (a :: others) rest

/-- What is read within a bound is read so. -/
theorem ReadsItems.of_itemsThen? {fuel : Nat} {cs rest : List Char} {items : List α}
    (h : itemsThen? item? closing fuel cs = some (items, rest)) :
    ReadsItems item? closing cs items rest := by
  fun_induction itemsThen? item? closing fuel cs generalizing items rest with
  | case4 fuel cs a after hitem later hspace =>
    cases h
    exact .last hitem hspace
  | case5 fuel cs a after hitem later others last hothers hspace hne ih =>
    cases h
    exact .more hitem hspace (ih hothers)
  | _ => cases h

/-- Two readers leave the same rest of a text where both succeed. -/
structure LeaveSameRest (item? : List Char → Option (α × List Char))
    (skip? : List Char → Option (β × List Char)) : Prop where
  rest_eq {cs rest rest' : List Char} {a : α} {b : β} :
    item? cs = some (a, rest) → skip? cs = some (b, rest') → rest' = rest

/-- Where two readers leave the same rest after an item, they do so after items. -/
theorem ReadsItems.rest_eq (h : LeaveSameRest item? skip?) (hclosing : closing ≠ ',')
    {cs rest rest' : List Char} {as : List α} {bs : List β}
    (hread : ReadsItems item? closing cs as rest) (hskip : ReadsItems skip? closing cs bs rest') :
    rest' = rest := by
  induction hread generalizing bs with
  | last hitem hend =>
    cases hskip with
    | last hskipped hend' =>
      rw [h.rest_eq hitem hskipped, hend] at hend'
      exact (List.cons.inj hend').2.symm
    | more hskipped hcomma _ =>
      rw [h.rest_eq hitem hskipped, hend] at hcomma
      exact absurd (List.cons.inj hcomma).1 hclosing
  | more hitem hcomma _ ih =>
    cases hskip with
    | last hskipped hend =>
      rw [h.rest_eq hitem hskipped, hcomma] at hend
      exact absurd (List.cons.inj hend).1.symm hclosing
    | more hskipped hcomma' hothers =>
      rw [h.rest_eq hitem hskipped, hcomma] at hcomma'
      obtain rfl := (List.cons.inj hcomma').2
      exact ih hothers

/-- Up to the closing bracket there are no items, or there are some in front of it. -/
theorem itemsUntil?_cases {cs rest : List Char} {items : List α}
    (h : itemsUntil? item? closing cs = some (items, rest)) :
    (skipSpace cs = closing :: rest ∧ items = [])
      ∨ ((skipSpace cs).head? ≠ some closing
        ∧ ReadsItems item? closing (skipSpace cs) items rest) := by
  unfold itemsUntil? at h
  cases hspace : skipSpace cs with
  | nil =>
    rw [hspace] at h
    cases h
  | cons c later =>
    simp only [hspace] at h
    by_cases hend : c = closing
    · rw [if_pos hend] at h
      cases h
      exact .inl ⟨by rw [hend], rfl⟩
    · rw [if_neg hend] at h
      exact .inr ⟨fun hhead => hend (Option.some.inj hhead), .of_itemsThen? h⟩

theorem LeaveSameRest.itemsUntil? (h : LeaveSameRest item? skip?) (hclosing : closing ≠ ',') :
    LeaveSameRest (itemsUntil? item? closing) (itemsUntil? skip? closing) := by
  refine ⟨fun {cs rest rest' as bs} hread hskip => ?_⟩
  rcases itemsUntil?_cases hread with ⟨hend, -⟩ | ⟨hhead, hitems⟩
  · rcases itemsUntil?_cases hskip with ⟨hend', -⟩ | ⟨hhead, -⟩
    · rw [hend] at hend'
      exact (List.cons.inj hend').2.symm
    · exact absurd (congrArg List.head? hend) hhead
  · rcases itemsUntil?_cases hskip with ⟨hend, -⟩ | ⟨-, hskipped⟩
    · exact absurd (congrArg List.head? hend) hhead
    · exact ReadsItems.rest_eq h hclosing hitems hskipped

end Items

/-! ### Values -/

/-- What a member of an object is read from. -/
theorem exists_of_memberWith?_eq_some {value? : List Char → Option (Json × List Char)}
    {cs rest : List Char} {name : String} {value : Json}
    (h : memberWith? value? cs = some ((name, value), rest)) :
    ∃ body after front later, skipSpace cs = '"' :: body ∧ textBody? body = some (front, after)
      ∧ String.ofList front = name ∧ skipSpace after = ':' :: later
      ∧ value? later = some (value, rest) := by
  unfold memberWith? at h
  split at h
  · next body hspace =>
    split at h
    · cases h
    · next front after hbody =>
      split at h
      · next later hcolon =>
        obtain ⟨⟨found, last⟩, hvalue, heq⟩ := Option.map_eq_some_iff.mp h
        cases heq
        exact ⟨body, after, front, later, hspace, hbody, rfl, hcolon, hvalue⟩
      · cases h
  · cases h

theorem LeaveSameRest.member {value? : List Char → Option (Json × List Char)}
    {skip? : List Char → Option (Unit × List Char)} (h : LeaveSameRest value? skip?) :
    LeaveSameRest (memberWith? value?) (skipMember? skip?) := by
  refine ⟨fun {cs rest rest' member _} hread hskip => ?_⟩
  obtain ⟨body, after, front, later, hspace, hbody, -, hcolon, hvalue⟩ :=
    exists_of_memberWith?_eq_some hread
  have hname : skipText? cs = some ((), after) := by
    rw [skipText?, hspace]
    simp only [skipTextBody?_of_textBody? hbody, Option.map_some]
  simp only [skipMember?, hname, hcolon] at hskip
  exact h.rest_eq hvalue hskip

/-- A word is passed over as it is read. -/
theorem rest_eq_of_afterWord? {α β : Type} {word : String} {cs rest rest' : List Char} {a a' : α}
    {b b' : β} (hread : (afterWord? word cs).map (fun rest => (a, rest)) = some (a', rest))
    (hskip : (afterWord? word cs).map (fun rest => (b, rest)) = some (b', rest')) :
    rest' = rest := by
  obtain ⟨after, hword, heq⟩ := Option.map_eq_some_iff.mp hread
  rw [hword] at hskip
  cases heq
  cases hskip
  rfl

/-- A number is passed over as it is read. -/
theorem writtenNumber?_of_number? {cs rest : List Char} {value : Json}
    (h : number? cs = some (value, rest)) : ∃ n, writtenNumber? cs = some (n, rest) := by
  unfold number? at h
  split at h
  · next n after hwritten =>
    obtain ⟨found, -, heq⟩ := Option.map_eq_some_iff.mp h
    cases heq
    exact ⟨n, hwritten⟩
  · cases h

/-- **Values are passed over as they are read**, whatever the bounds of both are. -/
theorem leaveSameRest_skipNested? (room room' : Nat) :
    LeaveSameRest (value? room) (skipNested? room') := by
  induction room using Nat.strongRecOn generalizing room' with
  | ind room ih =>
    refine ⟨fun {cs rest rest' value _} hread hskip => ?_⟩
    unfold value? at hread
    unfold skipNested? at hskip
    cases hspace : skipSpace cs with
    | nil =>
      rw [hspace] at hread
      cases hread
    | cons c later =>
      simp only [hspace] at hread hskip
      split_ifs at hread hskip with hquote hbracket hbrace hnull htrue hfalse
      · obtain ⟨⟨front, after⟩, hbody, heq⟩ := Option.map_eq_some_iff.mp hread
        cases heq
        subst hquote
        simp only [skipText?, skipSpace_cons (show isSpace '"' = false by decide),
          skipTextBody?_of_textBody? hbody, Option.map_some] at hskip
        cases hskip
        rfl
      · obtain _ | room := room
        · cases hread
        obtain _ | room' := room'
        · cases hskip
        have hitems : LeaveSameRest (itemsUntil? (value? room) ']')
            (itemsUntil? (skipNested? room') ']') :=
          (ih room (Nat.lt_succ_self room) room').itemsUntil? (by decide)
        obtain ⟨items, hread, -⟩ := exists_of_map_eq_some hread
        obtain ⟨skipped, hskip, -⟩ := exists_of_map_eq_some (f := fun _ => ()) hskip
        exact hitems.rest_eq hread hskip
      · obtain _ | room := room
        · cases hread
        obtain _ | room' := room'
        · cases hskip
        have hmembers : LeaveSameRest (itemsUntil? (memberWith? (value? room)) '\x7d')
            (itemsUntil? (skipMember? (skipNested? room')) '\x7d') :=
          (ih room (Nat.lt_succ_self room) room').member.itemsUntil? (by decide)
        obtain ⟨members, hread, -⟩ := exists_of_map_eq_some hread
        obtain ⟨skipped, hskip, -⟩ := exists_of_map_eq_some (f := fun _ => ()) hskip
        exact hmembers.rest_eq hread hskip
      · exact rest_eq_of_afterWord? hread hskip
      · exact rest_eq_of_afterWord? hread hskip
      · exact rest_eq_of_afterWord? hread hskip
      · obtain ⟨n, hwritten⟩ := writtenNumber?_of_number? hread
        rw [hwritten] at hskip
        cases hskip
        rfl

/-- What is left after a value that nobody wants is what is left after reading it. -/
theorem skipValue?_rest_eq {room : Nat} {cs rest rest' : List Char} {value : Json}
    (hread : value? room cs = some (value, rest)) (hskip : skipValue? cs = some rest') :
    rest' = rest := by
  obtain ⟨⟨_, last⟩, hskipped, rfl⟩ := Option.map_eq_some_iff.mp hskip
  exact (leaveSameRest_skipNested? room cs.length).rest_eq hread hskipped

end BenchCompare.Json
