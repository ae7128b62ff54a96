import BenchCompare.Proofs.Json.Records
import BenchCompare.Proofs.Json.RoundTrip
import BenchCompare.Settings.Json

/-!
# Settings in JSON are read back

Settings are written as an object with a member for each of them, and read while the object is read:
each member sets one setting (`FileSettings.SetsMembers`).  So the members of an object are read as
one setting after the other (`FileSettings.readMembers_of_setsMembers`), and in the end all settings
are given (`FileSettings.ofJson_toJson`).
-/

namespace BenchCompare

/-- All settings, as a file gives them. -/
def Config.toFile (config : Config) : FileSettings where
  title := some config.title
  output := some config.output
  width := some config.width
  height := some config.height
  metrics := some config.metrics
  format := some config.format

namespace Json

/-! ### Values -/

/-- A reader takes a part for a value, blanks in front of it included, if nothing follows with which a
number could go on. -/
structure Takes {α : Type} (read : List Char → Except JsonFault (α × List Char)) (part : List Char)
    (value : α) : Prop where
  read_append {bs more : List Char} (hbs : IsSpaces bs) (hmore : EndsNumber more) :
    read (bs ++ (part ++ more)) = .ok (value, more)

/-- A text is read back. -/
theorem takes_readText (s : String) : Takes readText (writtenText s) s := by
  refine ⟨fun {bs more} hbs _ => ?_⟩
  have htext : writtenText s ++ more = '"' :: (s.toList.flatMap writtenChar ++ '"' :: more) := by
    simp [writtenText]
  rw [readText, skipSpace_append hbs, htext, skipSpace_cons (by decide)]
  simp only [textBody?_written, orMalformed, Option.map_some, String.ofList_toList]

/-- A count is read back from its digits. -/
theorem takes_readCount32 (n : UInt32) : Takes readCount32 (Numeral.digits n.toNat) n := by
  refine ⟨fun {bs more} hbs hmore => ?_⟩
  have hlt : n.toNat < UInt64.size := Nat.lt_trans n.toNat_lt_size (by decide)
  have hread := number?_digits_append hlt hmore
  obtain ⟨c, cs, hcs, hc⟩ := Numeral.exists_digits_cons n.toNat
  have hskip : skipSpace (Numeral.digits n.toNat ++ more) = Numeral.digits n.toNat ++ more := by
    rw [hcs]
    exact skipSpace_cons (isSpace_of_minus_or_isDigit (Or.inr hc)) _
  have hdigit : ((Numeral.digits n.toNat ++ more).head?.any fun c => c == '-' || c.isDigit) =
      true := by
    rw [hcs]
    simp [hc]
  have hcount := asCount32?_count32 n
  rw [count32] at hcount
  rw [readCount32, skipSpace_append hbs, hskip]
  simp only [hdigit, if_true, hread, hcount]

/-- A choice of metrics is read back from its name. -/
theorem takes_readSelection (selection : Selection) :
    Takes readSelection (writtenText selection.key) selection := by
  refine ⟨fun {bs more} hbs hmore => ?_⟩
  have hkey : Selection.ofKey? selection.key = some selection := by
    cases selection <;> rfl
  have htext := (takes_readText selection.key).read_append isSpaces_nil hmore
  rw [List.nil_append] at htext
  have hquote : writtenText selection.key ++ more =
      '"' :: (selection.key.toList.flatMap writtenChar ++ '"' :: more) := by
    simp [writtenText]
  rw [hquote] at htext ⊢
  rw [readSelection, skipSpace_append hbs, skipSpace_cons (by decide)]
  simp only [readSelectionName, htext, hkey]

/-- A count is written in its digits. -/
theorem written_count32 (layout : Layout) (depth : Nat) (n : UInt32) :
    written layout depth (.count32 n) = Numeral.digits n.toNat := by
  have hneg : ¬ (n.toNat : Int) < 0 := Int.not_lt.mpr (Int.natCast_nonneg _)
  simp [count32, written, Numeral.integerText, Numeral.text, hneg]

end Json

namespace FileSettings

open Json

/-! ### Members -/

/-- Members set one setting after the other: what was read before a member goes over into what has
been read after it. -/
inductive SetsMembers : FileSettings → List (List Char) → FileSettings → Prop
  | nil {s : FileSettings} : SetsMembers s [] s
  | cons {s s' s'' : FileSettings} {part : List Char} {parts : List (List Char)}
    (hpart : Takes (readMember s) part s') (hparts : SetsMembers s' parts s'') :
    SetsMembers s (part :: parts) s''

/-- A setting that is not given yet is set by a member with its name and its value. -/
theorem takes_readMember {α : Type} {s : FileSettings} {name : String}
    {read : List Char → Except JsonFault (α × List Char)} {set : α → FileSettings}
    {part : List Char} {value : α} (layout : Layout) (hgiven : s.isGiven name = false)
    (hstore : s.readValue name = store read set) (h : Takes read part value) :
    Takes (readMember s) (writtenText name ++ layout.afterName ++ part) (set value) := by
  refine ⟨fun {bs more} hbs hmore => ?_⟩
  obtain ⟨spaces, hspaces, hafter⟩ :
      ∃ spaces, IsSpaces spaces ∧ layout.afterName = ':' :: spaces := by
    cases layout with
    | compact => exact ⟨[], isSpaces_nil, rfl⟩
    | indented => exact ⟨[' '], by simp [IsSpaces, isSpace], rfl⟩
  have htext : writtenText name ++ layout.afterName ++ part ++ more =
      '"' :: (name.toList.flatMap writtenChar ++ '"' :: ':' :: (spaces ++ (part ++ more))) := by
    simp [writtenText, hafter]
  have hmark : afterMark ':' (':' :: (spaces ++ (part ++ more))) =
      .ok (spaces ++ (part ++ more)) := by
    rw [afterMark, skipSpace_cons (by decide)]
    rfl
  have hread : s.readValue name (spaces ++ (part ++ more)) = .ok (set value, more) := by
    rw [hstore, store, h.read_append hspaces hmore]
    rfl
  rw [htext, readMember, skipSpace_append hbs, skipSpace_cons (by decide)]
  simp only [textBody?_written, orMalformed, bind, Except.bind, String.ofList_toList, hgiven,
    Bool.false_eq_true, if_false, hmark, hread]

/-- Members are read one by one up to the end of the object, if their number is within the bound. -/
theorem readMembers_of_setsMembers (layout : Layout) (depth inner : Nat) (rest : List Char)
    {s s' s'' : FileSettings} {part : List Char} {parts : List (List Char)}
    (hpart : Takes (readMember s) part s') (hparts : SetsMembers s' parts s'') {bs : List Char}
    (hbs : IsSpaces bs) {fuel : Nat} (hfuel : parts.length < fuel) :
    readMembers fuel s (bs ++ (part ++ (layout.separatedAfter inner parts
      ++ (layout.newLine depth ++ '\x7d' :: rest)))) = .ok (s'', rest) := by
  induction hparts generalizing s part bs fuel with
  | nil =>
    obtain ⟨fuel, rfl⟩ := Nat.exists_eq_succ_of_ne_zero (Nat.ne_of_gt hfuel)
    have hread := hpart.read_append hbs
      (endsNumber_newLine_append layout depth (c := '\x7d') (by decide) rest)
    have hskip : skipSpace (layout.newLine depth ++ '\x7d' :: rest) = '\x7d' :: rest := by
      rw [skipSpace_append (isSpaces_newLine layout depth), skipSpace_cons (by decide)]
    simp only [Layout.separatedAfter, List.nil_append, readMembers, hread, bind, Except.bind, hskip]
    rfl
  | @cons s' next _ nextPart parts hnext _ ih =>
    obtain ⟨fuel, rfl⟩ := Nat.exists_eq_succ_of_ne_zero (Nat.ne_of_gt (Nat.zero_lt_of_lt hfuel))
    have hread := hpart.read_append hbs (endsNumber_cons (c := ',') (by decide)
      (layout.newLine inner ++ (nextPart ++ (layout.separatedAfter inner parts
        ++ (layout.newLine depth ++ '\x7d' :: rest)))))
    have hlater := ih hnext (isSpaces_newLine layout inner) (Nat.lt_of_succ_lt_succ hfuel)
    simp only [Layout.separatedAfter, List.cons_append, List.append_assoc, readMembers, hread, bind,
      Except.bind, skipSpace_cons (show isSpace ',' = false by decide), hlater]

/-- An object is read member by member. -/
theorem readFront_enclosed (layout : Layout) (depth : Nat) {cs : List Char}
    {parts : List (List Char)} {s : FileSettings} (h : SetsMembers {} (('"' :: cs) :: parts) s) :
    readFront (layout.enclosed depth '\x7b' '\x7d' (('"' :: cs) :: parts)) = .ok (s, []) := by
  have htext : layout.enclosed depth '\x7b' '\x7d' (('"' :: cs) :: parts) =
      '\x7b' :: (layout.newLine (depth + 1) ++ ('"' :: (cs
        ++ (layout.separatedAfter (depth + 1) parts ++ (layout.newLine depth ++ ['\x7d']))))) := by
    simp [Layout.enclosed, Layout.separated_cons]
  have hlength : parts.length < ('"' :: (cs ++ (layout.separatedAfter (depth + 1) parts
      ++ (layout.newLine depth ++ ['\x7d'])))).length + 1 := by
    have hle := layout.length_le_length_separatedAfter (depth + 1) parts
    simp only [List.length_cons, List.length_append]
    omega
  rw [htext, readFront, skipSpace_cons (by decide)]
  simp only [skipSpace_append (isSpaces_newLine layout (depth + 1)),
    skipSpace_cons (show isSpace '"' = false by decide)]
  cases h with
  | cons hpart hparts =>
    exact readMembers_of_setsMembers layout depth (depth + 1) [] hpart hparts isSpaces_nil hlength

/-! ### All settings -/

/-- Each setting is stored when its value is read. -/
theorem readValue_eq (s : FileSettings) :
    s.readValue "title" = store readText (fun x => { s with title := some x })
      ∧ s.readValue "output" = store readText (fun x => { s with output := some ⟨x⟩ })
      ∧ s.readValue "width" = store readCount32 (fun n => { s with width := some n })
      ∧ s.readValue "height" = store readCount32 (fun n => { s with height := some n })
      ∧ s.readValue "metric" = store readSelection (fun x => { s with metrics := some x })
      ∧ s.readValue "format" = store readText (fun x => { s with format := some x }) :=
  ⟨rfl, rfl, rfl, rfl, rfl, rfl⟩

/-- **Settings are read back from JSON**, in either layout. -/
theorem ofJson_toJson (config : Config) (layout : Layout) :
    ofJson (config.toJson.render layout) = .ok config.toFile := by
  have hmembers : SetsMembers {}
      (writtenMembers layout 1 [("title", .text config.title), ("output", .text config.output.text),
        ("width", .count32 config.width), ("height", .count32 config.height),
        ("metric", .text config.metrics.key), ("format", .text config.format)]) config.toFile := by
    simp only [writtenMembers, written_count32]
    simp only [written]
    refine .cons (takes_readMember layout rfl (readValue_eq _).1 (takes_readText _)) ?_
    refine .cons (takes_readMember layout rfl (readValue_eq _).2.1 (takes_readText _)) ?_
    refine .cons (takes_readMember layout rfl (readValue_eq _).2.2.1 (takes_readCount32 _)) ?_
    refine .cons (takes_readMember layout rfl (readValue_eq _).2.2.2.1 (takes_readCount32 _)) ?_
    refine .cons (takes_readMember layout rfl (readValue_eq _).2.2.2.2.1 (takes_readSelection _)) ?_
    refine .cons (takes_readMember layout rfl (readValue_eq _).2.2.2.2.2 (takes_readText _)) ?_
    exact .nil
  have hread : readFront (written layout 0 config.toJson) = .ok (config.toFile, []) := by
    rw [Config.toJson, written]
    exact readFront_enclosed layout 0 hmembers
  rw [ofJson, Json.render, String.toList_ofList, hread]
  rfl

end FileSettings

end BenchCompare
