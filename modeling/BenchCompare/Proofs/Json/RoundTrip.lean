import BenchCompare.Json.Reader
import BenchCompare.Proofs.Json.Numbers

/-!
# JSON values are read back

The text of a value, in either layout, is read back as that value (`read?_render`).  The values for
which this holds are the *readable* ones (`IsReadable`): their brackets are nested no deeper than
the reader goes, their whole numbers are counts of 64 bits, and their other numbers are read back
alone.  Texts may have any characters, for those that need it are escaped (`textBody?_written`).

The proof goes along the value.  What follows an item or a member is a comma, a line break or a
closing bracket, and none of these goes on with a number.
-/

namespace BenchCompare.Json

/-! ### Texts -/

/-- A control character is read back from its four hexadecimal digits. -/
theorem hexUnit?_control {n : Nat} (h : n < 32) :
    hexUnit? '0' '0' (hexDigit (n / 16)) (hexDigit n) = some n := by
  have htable : ∀ n < 32, hexUnit? '0' '0' (hexDigit (n / 16)) (hexDigit n) = some n := by decide
  exact htable n h

/-- A character that is no quote, no backslash and no control character stands for itself. -/
theorem textBody?_cons_of_plain {c : Char} (hquote : c ≠ '"') (hcontrol : ¬ c.toNat < 32)
    (hbackslash : c ≠ '\\') (cs : List Char) : textBody? (c :: cs) = push? c (textBody? cs) := by
  rw [textBody?.eq_def]
  simp only [if_neg hquote, if_neg hcontrol, if_pos hbackslash]

/-- A letter after a backslash stands for its character. -/
theorem textBody?_backslash_cons {e plain : Char} (hunit : e ≠ 'u') (h : escaped? e = some plain)
    (cs : List Char) : textBody? ('\\' :: e :: cs) = push? plain (textBody? cs) := by
  rw [textBody?.eq_def]
  simp [hunit, h]

/-- A control character is read back from its unit. -/
theorem textBody?_backslash_unit {c : Char} (h : c.toNat < 32) (cs : List Char) :
    textBody? ('\\' :: 'u' :: '0' :: '0' :: hexDigit (c.toNat / 16) :: hexDigit c.toNat :: cs) =
      push? c (textBody? cs) := by
  have hhigh : isHighHalf c.toNat = false := by simp [isHighHalf]; omega
  have hlow : isLowHalf c.toNat = false := by simp [isLowHalf]; omega
  rw [textBody?.eq_def]
  simp [hexUnit?_control h, hhigh, hlow]

/-- A character is read back, whether it is escaped or not. -/
theorem textBody?_writtenChar_append (c : Char) (cs : List Char) :
    textBody? (writtenChar c ++ cs) = push? c (textBody? cs) := by
  rw [writtenChar]
  split_ifs with hquote hbackslash hnewline hreturn htab hback hfeed hcontrol
  · subst hquote
    exact textBody?_backslash_cons (by decide) rfl cs
  · subst hbackslash
    exact textBody?_backslash_cons (by decide) rfl cs
  · subst hnewline
    exact textBody?_backslash_cons (by decide) rfl cs
  · subst hreturn
    exact textBody?_backslash_cons (by decide) rfl cs
  · subst htab
    exact textBody?_backslash_cons (by decide) rfl cs
  · subst hback
    exact textBody?_backslash_cons (by decide) rfl cs
  · subst hfeed
    exact textBody?_backslash_cons (by decide) rfl cs
  · exact textBody?_backslash_unit hcontrol cs
  · exact textBody?_cons_of_plain hquote hcontrol hbackslash cs

/-- The body of a text is read back up to the closing quote. -/
theorem textBody?_written (cs rest : List Char) :
    textBody? (cs.flatMap writtenChar ++ '"' :: rest) = some (cs, rest) := by
  induction cs with
  | nil =>
    rw [List.flatMap_nil, List.nil_append, textBody?.eq_def]
    rfl
  | cons c cs ih =>
    rw [List.flatMap_cons, List.append_assoc, textBody?_writtenChar_append, ih]
    rfl

/-! ### Parts between brackets -/

/-- Blanks that may stand between the parts of a value. -/
def IsSpaces (cs : List Char) : Prop :=
  ∀ c ∈ cs, isSpace c = true

theorem isSpaces_nil : IsSpaces [] := nofun

/-- Blanks in front of a text are skipped. -/
theorem skipSpace_append {bs : List Char} (h : IsSpaces bs) (cs : List Char) :
    skipSpace (bs ++ cs) = skipSpace cs := by
  rw [skipSpace, List.dropWhile_append, List.dropWhile_eq_nil_iff.mpr h]
  rfl

/-- A text that begins with no blank is not skipped. -/
theorem skipSpace_cons {c : Char} (hc : isSpace c = false) (cs : List Char) :
    skipSpace (c :: cs) = c :: cs := by
  simp [skipSpace, hc]

/-- The beginning of a line is made of blanks. -/
theorem isSpaces_newLine (layout : Layout) (depth : Nat) : IsSpaces (layout.newLine depth) := by
  cases layout with
  | compact => nofun
  | indented =>
    intro c hc
    rcases List.mem_cons.mp hc with rfl | hc
    · decide
    · rw [List.eq_of_mem_replicate hc]
      decide

/-- A new line and a mark end a number. -/
theorem endsNumber_newLine_append (layout : Layout) (depth : Nat) {c : Char}
    (hc : c.isDigit = false ∧ c ≠ '.' ∧ c ≠ 'e' ∧ c ≠ 'E') (cs : List Char) :
    EndsNumber (layout.newLine depth ++ c :: cs) := by
  cases layout with
  | compact => exact endsNumber_cons hc cs
  | indented => exact endsNumber_cons (by decide) _

/-- A part reads as a value: it begins with no blank and no closing bracket, and in front of any
text that ends a number the reader takes it, blanks before it included. -/
structure Reads {α : Type} (item? : List Char → Option (α × List Char)) (part : List Char)
    (value : α) : Prop where
  head : ∃ c cs, part = c :: cs ∧ isSpace c = false ∧ c ≠ ']' ∧ c ≠ '\x7d'
  read : ∀ {bs more : List Char}, IsSpaces bs → EndsNumber more →
    item? (bs ++ (part ++ more)) = some (value, more)

/-- Parts after the first one, each after a comma at the beginning of a line. -/
def Layout.separatedAfter (layout : Layout) (depth : Nat) : List (List Char) → List Char
  | [] => []
  | part :: parts =>
    ',' :: (layout.newLine depth ++ (part ++ layout.separatedAfter depth parts))

/-- Separated parts are the first one and the parts after it. -/
theorem Layout.separated_cons (layout : Layout) (depth : Nat) (part : List Char)
    (parts : List (List Char)) : layout.separated depth (part :: parts) =
      layout.newLine depth ++ (part ++ layout.separatedAfter depth parts) := by
  induction parts generalizing part with
  | nil => simp [separated, separatedAfter]
  | cons next parts ih => simp [separated, separatedAfter, ih]

/-- There are at least as many characters after the first part as there are parts. -/
theorem Layout.length_le_length_separatedAfter (layout : Layout) (depth : Nat)
    (parts : List (List Char)) : parts.length ≤ (layout.separatedAfter depth parts).length := by
  induction parts with
  | nil => exact Nat.zero_le _
  | cons part parts ih =>
    simp only [separatedAfter, List.length_cons, List.length_append]
    omega

section Items

variable {α : Type} {item? : List Char → Option (α × List Char)} {closing : Char}

/-- A closing bracket. -/
def IsClosing (c : Char) : Prop :=
  c = ']' ∨ c = '\x7d'

/-- A closing bracket is no blank and no comma, and it ends a number. -/
theorem IsClosing.spec (h : IsClosing closing) :
    isSpace closing = false ∧ closing ≠ ','
      ∧ closing.isDigit = false ∧ closing ≠ '.' ∧ closing ≠ 'e' ∧ closing ≠ 'E' := by
  rcases h with rfl | rfl <;> decide

/-- Items that are read one by one are read up to the closing bracket, if the number of items is
within the bound. -/
theorem itemsThen?_separatedAfter (hclosing : IsClosing closing) (layout : Layout)
    (depth inner : Nat) (rest : List Char) {parts : List (List Char)} {values : List α}
    (hparts : List.Forall₂ (Reads item?) parts values) {part : List Char} {value : α}
    (hpart : Reads item? part value) {bs : List Char} (hbs : IsSpaces bs) {fuel : Nat}
    (hfuel : parts.length < fuel) :
    itemsThen? item? closing fuel (bs ++ (part ++ (layout.separatedAfter inner parts
      ++ (layout.newLine depth ++ closing :: rest)))) = some (value :: values, rest) := by
  obtain ⟨hspace, hcomma, hends⟩ := hclosing.spec
  induction hparts generalizing part value bs fuel with
  | nil =>
    obtain ⟨fuel, rfl⟩ := Nat.exists_eq_succ_of_ne_zero (Nat.ne_of_gt hfuel)
    have hread := hpart.read hbs (endsNumber_newLine_append layout depth hends rest)
    have hskip : skipSpace (layout.newLine depth ++ closing :: rest) = closing :: rest := by
      rw [skipSpace_append (isSpaces_newLine layout depth), skipSpace_cons hspace]
    simp only [Layout.separatedAfter, List.nil_append, itemsThen?, hread, hskip, if_true]
  | @cons next nextValue parts values hnext _ ih =>
    obtain ⟨fuel, rfl⟩ := Nat.exists_eq_succ_of_ne_zero (Nat.ne_of_gt (Nat.zero_lt_of_lt hfuel))
    have hread := hpart.read hbs (endsNumber_cons (c := ',') (by decide)
      (layout.newLine inner ++ (next ++ (layout.separatedAfter inner parts
        ++ (layout.newLine depth ++ closing :: rest)))))
    have hlater := ih hnext (isSpaces_newLine layout inner) (Nat.lt_of_succ_lt_succ hfuel)
    simp only [Layout.separatedAfter, List.cons_append, List.append_assoc, itemsThen?, hread,
      skipSpace_cons (show isSpace ',' = false by decide), if_neg hcomma.symm, if_true, hlater]

/-- Parts in brackets are read back one by one. -/
theorem exists_enclosed_eq_cons (hclosing : IsClosing closing) (layout : Layout) (depth : Nat)
    (opening : Char) {parts : List (List Char)} {values : List α}
    (h : List.Forall₂ (Reads item?) parts values) :
    ∃ cs, layout.enclosed depth opening closing parts = opening :: cs
      ∧ ∀ more, itemsUntil? item? closing (cs ++ more) = some (values, more) := by
  obtain ⟨hspace, -⟩ := hclosing.spec
  cases h with
  | nil =>
    refine ⟨[closing], rfl, fun more => ?_⟩
    simp [itemsUntil?, skipSpace_cons hspace]
  | @cons part value parts values hpart hparts =>
    refine ⟨_, rfl, fun more => ?_⟩
    obtain ⟨c, cs, hcs, hc, hbracket, hbrace⟩ := hpart.head
    have hne : c ≠ closing := by
      rintro rfl
      exact hclosing.elim hbracket hbrace
    have htext : layout.separated (depth + 1) (part :: parts) ++ layout.newLine depth ++ [closing]
        ++ more = layout.newLine (depth + 1) ++ (c :: (cs
          ++ (layout.separatedAfter (depth + 1) parts
            ++ (layout.newLine depth ++ closing :: more)))) := by
      simp [Layout.separated_cons, hcs]
    have hlength : parts.length < (cs ++ (layout.separatedAfter (depth + 1) parts
        ++ (layout.newLine depth ++ closing :: more))).length + 1 := by
      have hle := layout.length_le_length_separatedAfter (depth + 1) parts
      simp only [List.length_append]
      omega
    have hitems := itemsThen?_separatedAfter hclosing layout depth (depth + 1) more hparts hpart
      isSpaces_nil hlength
    rw [htext, itemsUntil?, skipSpace_append (isSpaces_newLine layout _), skipSpace_cons hc]
    simpa only [if_neg hne, hcs, List.nil_append, List.cons_append] using hitems

end Items

/-! ### Values -/

/-- A value that is read back if as many levels of brackets may be nested as a number says. -/
inductive IsReadable : Nat → Json → Prop
  | null {room : Nat} : IsReadable room .null
  | boolean {room : Nat} (value : Bool) : IsReadable room (.boolean value)
  | whole {room n : Nat} (h : n < UInt64.size) : IsReadable room (.whole n)
  | number {room : Nat} {x : Binary64} (h : ReadsBack x) : IsReadable room (.number x)
  | text {room : Nat} (s : String) : IsReadable room (.text s)
  | array {room : Nat} {items : List Json} (h : ∀ item ∈ items, IsReadable room item) :
    IsReadable (room + 1) (.array items)
  | object {room : Nat} {members : List (String × Json)}
    (h : ∀ member ∈ members, IsReadable room member.2) : IsReadable (room + 1) (.object members)

/-- Blanks in front of a value are passed over. -/
theorem value?_append {bs : List Char} (h : IsSpaces bs) (room : Nat) (cs : List Char) :
    value? room (bs ++ cs) = value? room cs := by
  rw [value?.eq_def, value?.eq_def room cs, skipSpace_append h]

/-- A part reads as a value if it does so without blanks in front of it. -/
theorem reads_value? {room : Nat} {c : Char} {cs : List Char} {value : Json}
    (hc : isSpace c = false ∧ c ≠ ']' ∧ c ≠ '\x7d')
    (h : ∀ {more : List Char}, EndsNumber more →
      value? room (c :: (cs ++ more)) = some (value, more)) :
    Reads (value? room) (c :: cs) value where
  head := ⟨c, cs, rfl, hc⟩
  read hbs hmore := by
    rw [value?_append hbs, List.cons_append]
    exact h hmore

/-- A minus sign or a digit is none of the characters that begin other values. -/
theorem ne_of_minus_or_isDigit {c d : Char} (hc : c = '-' ∨ c.isDigit = true)
    (hd : d ≠ '-' ∧ d.isDigit = false) : c ≠ d := by
  rintro rfl
  rcases hc with hc | hc
  · exact hd.1 hc
  · rw [hc] at hd
    cases hd.2

/-- A minus sign or a digit is no blank. -/
theorem isSpace_of_minus_or_isDigit {c : Char} (hc : c = '-' ∨ c.isDigit = true) :
    isSpace c = false := by
  have hne := fun d => @ne_of_minus_or_isDigit c d hc
  simp [isSpace, hne ' ' (by decide), hne '\n' (by decide), hne '\t' (by decide),
    hne '\r' (by decide)]

/-- A value that begins with a minus sign or a digit is a number. -/
theorem value?_eq_number? {c : Char} (hc : c = '-' ∨ c.isDigit = true) (room : Nat)
    (cs : List Char) : value? room (c :: cs) = number? (c :: cs) := by
  have hne := fun d => @ne_of_minus_or_isDigit c d hc
  rw [value?.eq_def, skipSpace_cons (isSpace_of_minus_or_isDigit hc)]
  simp [hne '"' (by decide), hne '[' (by decide), hne '\x7b' (by decide), hne 'n' (by decide),
    hne 't' (by decide), hne 'f' (by decide)]

/-- A part that is read as a number reads as a value. -/
theorem reads_of_number? {part : List Char} {value : Json}
    (h : ∀ {more : List Char}, EndsNumber more → number? (part ++ more) = some (value, more))
    (room : Nat) : Reads (value? room) part value := by
  obtain ⟨c, cs, hcs, hc⟩ := exists_cons_of_number? (h endsNumber_nil)
  rw [List.append_nil] at hcs
  subst hcs
  have hfirst : isSpace c = false ∧ c ≠ ']' ∧ c ≠ '\x7d' :=
    ⟨isSpace_of_minus_or_isDigit hc, ne_of_minus_or_isDigit hc (by decide),
      ne_of_minus_or_isDigit hc (by decide)⟩
  refine reads_value? hfirst fun hmore => ?_
  rw [value?_eq_number? hc]
  exact h hmore

/-- A value that is written as a word is read by its first character and the rest of the word. -/
theorem reads_word {room : Nat} (c : Char) (word : String) {value : Json}
    (hc : isSpace c = false ∧ c ≠ ']' ∧ c ≠ '\x7d')
    (h : ∀ rest, value? room (c :: rest) = (afterWord? word rest).map fun rest => (value, rest)) :
    Reads (value? room) (c :: word.toList) value := by
  refine reads_value? hc fun {more} _ => ?_
  have hword : afterWord? word (word.toList ++ more) = some more := by simp [afterWord?]
  rw [h, hword]
  rfl

/-- A text in quotes reads as a value. -/
theorem reads_writtenText (room : Nat) (s : String) :
    Reads (value? room) (writtenText s) (.text s) := by
  refine reads_value? (by decide) fun {more} _ => ?_
  have hbody : textBody? (s.toList.flatMap writtenChar ++ ['"'] ++ more) =
      some (s.toList, more) := by
    rw [List.append_assoc, List.singleton_append, textBody?_written]
  rw [value?.eq_def, skipSpace_cons (by decide)]
  simp [hbody, -List.append_assoc]

/-- A member whose value reads as a value reads as a member. -/
theorem reads_member {room : Nat} {part : List Char} {value : Json}
    (h : Reads (value? room) part value) (layout : Layout) (name : String) :
    Reads (memberWith? (value? room)) (writtenText name ++ layout.afterName ++ part)
      (name, value) where
  head := ⟨'"', _, rfl, by decide⟩
  read {bs more} hbs hmore := by
    have hvalue : ∃ spaces, IsSpaces spaces ∧ layout.afterName = ':' :: spaces := by
      cases layout with
      | compact => exact ⟨[], isSpaces_nil, rfl⟩
      | indented => exact ⟨[' '], by simp [IsSpaces, isSpace], rfl⟩
    obtain ⟨spaces, hspaces, hafter⟩ := hvalue
    have htext : writtenText name ++ layout.afterName ++ part ++ more =
        '"' :: (name.toList.flatMap writtenChar ++ '"' :: ':' :: (spaces ++ (part ++ more))) := by
      simp [writtenText, hafter]
    have hread := h.read hspaces hmore
    rw [htext, memberWith?, skipSpace_append hbs, skipSpace_cons (by decide)]
    simp only [textBody?_written, skipSpace_cons (show isSpace ':' = false by decide), hread,
      Option.map_some, String.ofList_toList]

/-- Written items read as the items. -/
theorem forall₂_reads_items {room : Nat} (layout : Layout) (depth : Nat) {items : List Json}
    (h : ∀ item ∈ items, Reads (value? room) (written layout depth item) item) :
    List.Forall₂ (Reads (value? room)) (writtenItems layout depth items) items := by
  induction items with
  | nil => exact .nil
  | cons item items ih =>
    rw [List.forall_mem_cons] at h
    rw [writtenItems]
    exact .cons h.1 (ih h.2)

/-- Written members read as the members. -/
theorem forall₂_reads_members {room : Nat} (layout : Layout) (depth : Nat)
    {members : List (String × Json)}
    (h : ∀ member ∈ members, Reads (value? room) (written layout depth member.2) member.2) :
    List.Forall₂ (Reads (memberWith? (value? room))) (writtenMembers layout depth members)
      members := by
  induction members with
  | nil => exact .nil
  | cons member members ih =>
    obtain ⟨name, value⟩ := member
    rw [List.forall_mem_cons] at h
    rw [writtenMembers]
    exact .cons (reads_member h.1 layout name) (ih h.2)

/-- A readable value is read back from its text in a layout, inside any number of brackets. -/
theorem IsReadable.reads {room : Nat} {value : Json} (h : IsReadable room value) (layout : Layout)
    (depth : Nat) : Reads (value? room) (written layout depth value) value := by
  induction h generalizing depth with
  | null => exact reads_word 'n' "ull" (by decide) fun rest => by rw [value?.eq_def]; rfl
  | boolean value =>
    cases value with
    | true => exact reads_word 't' "rue" (by decide) fun rest => by rw [value?.eq_def]; rfl
    | false => exact reads_word 'f' "alse" (by decide) fun rest => by rw [value?.eq_def]; rfl
  | @whole room n h =>
    have htext : written layout depth (.whole n) = Numeral.digits n := by
      have hneg : ¬ (n : Int) < 0 := Int.not_lt.mpr (Int.natCast_nonneg n)
      simp [written, Numeral.integerText, Numeral.text, hneg]
    rw [htext]
    exact reads_of_number? (number?_digits_append h) room
  | @number room x h =>
    rw [written]
    exact reads_of_number? h.number?_append room
  | @text room s =>
    rw [written]
    exact reads_writtenText room s
  | @array room items _ ih =>
    obtain ⟨cs, hcs, hread⟩ := exists_enclosed_eq_cons (Or.inl rfl) layout depth '['
      (forall₂_reads_items layout (depth + 1) fun item hitem => ih item hitem (depth + 1))
    rw [written, hcs]
    refine reads_value? (by decide) fun {more} _ => ?_
    rw [value?.eq_def, skipSpace_cons (by decide)]
    simp [hread]
  | @object room members _ ih =>
    obtain ⟨cs, hcs, hread⟩ := exists_enclosed_eq_cons (Or.inr rfl) layout depth '\x7b'
      (forall₂_reads_members layout (depth + 1) fun member hmember => ih member hmember (depth + 1))
    rw [written, hcs]
    refine reads_value? (by decide) fun {more} _ => ?_
    rw [value?.eq_def, skipSpace_cons (by decide)]
    simp [hread]

/-- **A readable value is read back.**  The text of a value in a layout is one value, the same. -/
theorem read?_render {value : Json} (h : IsReadable nestingLimit value) (layout : Layout) :
    read? (value.render layout) = some (value, []) := by
  have hread := (h.reads layout 0).read isSpaces_nil endsNumber_nil
  rw [List.nil_append, List.append_nil] at hread
  rw [read?, render, String.toList_ofList, hread]
  rfl

/-- The text of a readable value is this value. -/
theorem parse?_render {value : Json} (h : IsReadable nestingLimit value) (layout : Layout) :
    parse? (value.render layout) = some value := by
  rw [parse?, read?_render h layout]

end BenchCompare.Json
