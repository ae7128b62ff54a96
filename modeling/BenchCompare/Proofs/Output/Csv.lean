import BenchCompare.Output.Format
import BenchCompare.Proofs.Numeral.Digits
import Mathlib.Data.List.Forall2

/-!
# Comma-separated values are read back

A reader of comma-separated values goes through a text character by character (`Reading.step?`).
Outside of quotes a comma ends a field and a line feed ends a record; between quotes every character
counts as such, and a quote is written twice.  The reader is strict: it refuses a quote or a carriage
return in a field without quotes, text behind closing quotes, and quotes that are never closed.

It reads back whatever records are written, with any characters in their fields
(`read?_flatMap_record`).  For runs this means that there is a record with the names of the columns,
and then one record for each run, which has the label, the target and the counts of the run under
these names (`describes_render`).
-/

namespace BenchCompare

/-! ### Sums of counts -/

/-- The sum of two counts is their sum as numbers, up to the greatest count. -/
theorem toNat_addCounts (m n : UInt64) :
    (addCounts m n).toNat = min (m.toNat + n.toNat) (UInt64.size - 1) := by
  have hlt : min (m.toNat + n.toNat) (UInt64.size - 1) < UInt64.size :=
    Nat.lt_of_le_of_lt (Nat.min_le_right _ _) (by decide)
  unfold addCounts
  exact UInt64.toNat_ofNat_of_lt' hlt

/-- The number of all socket errors is the sum of the four counts, up to the greatest count. -/
theorem SocketErrors.toNat_total (e : SocketErrors) :
    e.total.toNat =
      min (e.connect.toNat + e.read.toNat + e.write.toNat + e.timeout.toNat)
        (UInt64.size - 1) := by
  unfold SocketErrors.total
  rw [toNat_addCounts, toNat_addCounts, toNat_addCounts]
  omega

namespace Output.Csv

/-! ### Reading -/

/-- Where in a field a reader is. -/
inductive FieldPlace where
  /-- In front of a field. -/
  | front
  /-- Within a field without quotes. -/
  | bare
  /-- Between quotes. -/
  | quoted
  /-- Behind a quote between quotes, which is the closing one unless another quote follows. -/
  | closed
  deriving DecidableEq

/-- What was read so far: whole records, whole fields of the record after them, and a part of the
field after these. -/
structure Reading where
  records : List (List (List Char)) := []
  fields : List (List Char) := []
  field : List Char := []
  place : FieldPlace := .front

namespace Reading

/-- One more character of the field. -/
def push (s : Reading) (c : Char) (place : FieldPlace) : Reading :=
  { s with field := s.field ++ [c], place }

/-- The end of the field. -/
def endField (s : Reading) : Reading :=
  { s with fields := s.fields ++ [s.field], field := [], place := .front }

/-- The end of the field and of the record. -/
def endRecord (s : Reading) : Reading where
  records := s.records ++ [s.fields ++ [s.field]]

/-- Reads a comma or a line feed behind a field. -/
def separate? (s : Reading) (c : Char) : Option Reading :=
  if c = ',' then some s.endField else if c = '\n' then some s.endRecord else none

/-- Reads a character outside of quotes. -/
def bare? (s : Reading) (c : Char) : Option Reading :=
  if c = '"' ∨ c = '\r' then none else (s.separate? c).or (some (s.push c .bare))

/-- Reads a character. -/
def step? (s : Reading) (c : Char) : Option Reading :=
  match s.place with
  | .front => if c = '"' then some { s with place := .quoted } else s.bare? c
  | .bare => s.bare? c
  | .quoted => if c = '"' then some { s with place := .closed } else some (s.push c .quoted)
  | .closed => if c = '"' then some (s.push c .quoted) else s.separate? c

/-- The records at the end of the text; the last one need not have a line feed. -/
def finish? (s : Reading) : Option (List (List (List Char))) :=
  if s.place = .quoted then none
  else if s.place = .front ∧ s.fields = [] then some s.records
  else some s.endRecord.records

end Reading

/-- Reads a text of records. -/
def read? (text : String) : Option (List (List (List Char))) :=
  (text.toList.foldlM Reading.step? {}).bind Reading.finish?

/-! ### Written records -/

namespace Reading

variable {records : List (List (List Char))} {fields : List (List Char)} {front : List Char}

/-- A text is read by reading its first character and then the others. -/
theorem foldlM_step?_cons {s t : Reading} {c : Char} (h : s.step? c = some t) (cs : List Char) :
    (c :: cs).foldlM step? s = cs.foldlM step? t := by
  rw [List.foldlM_cons, h]
  rfl

/-- A text is read by reading a part at its front and then the others. -/
theorem foldlM_step?_append {s t : Reading} {cs : List Char} (h : cs.foldlM step? s = some t)
    (ds : List Char) : (cs ++ ds).foldlM step? s = ds.foldlM step? t := by
  rw [List.foldlM_append, h]
  rfl

/-- A character that forces no quotes is a character of a field without quotes. -/
theorem bare?_eq_push {c : Char} (hc : forcesQuotes c = false) (s : Reading) :
    s.bare? c = some (s.push c .bare) := by
  unfold forcesQuotes at hc
  simp only [Bool.or_eq_false_iff, beq_eq_false_iff_ne] at hc
  obtain ⟨⟨⟨hcomma, hquote⟩, hnewline⟩, hreturn⟩ := hc
  simp [bare?, separate?, hcomma, hquote, hnewline, hreturn]

/-- Characters that force no quotes are read as they stand. -/
theorem foldlM_step?_bare {cs : List Char} (hcs : ∀ c ∈ cs, forcesQuotes c = false) :
    cs.foldlM step? ⟨records, fields, front, .bare⟩ =
      some ⟨records, fields, front ++ cs, .bare⟩ := by
  induction cs generalizing front with
  | nil => simp
  | cons c cs ih =>
    rw [List.forall_mem_cons] at hcs
    have hstep : step? ⟨records, fields, front, .bare⟩ c =
        some ⟨records, fields, front ++ [c], .bare⟩ := bare?_eq_push hcs.1 _
    rw [foldlM_step?_cons hstep, ih hcs.2, List.append_assoc, List.singleton_append]

/-- A character between quotes is read back, whether it is doubled or not. -/
theorem foldlM_step?_quotedChar (c : Char) :
    (quotedChar c).foldlM step? ⟨records, fields, front, .quoted⟩ =
      some ⟨records, fields, front ++ [c], .quoted⟩ := by
  unfold quotedChar
  by_cases hc : c = '"'
  · subst hc
    rfl
  · simp [step?, push, hc]

/-- Characters between quotes are read back. -/
theorem foldlM_step?_quoted (cs : List Char) :
    (cs.flatMap quotedChar).foldlM step? ⟨records, fields, front, .quoted⟩ =
      some ⟨records, fields, front ++ cs, .quoted⟩ := by
  induction cs generalizing front with
  | nil => simp
  | cons c cs ih =>
    rw [List.flatMap_cons, foldlM_step?_append (foldlM_step?_quotedChar c), ih, List.append_assoc,
      List.singleton_append]

/-- A written field is read back, and may end behind its last character. -/
theorem exists_foldlM_step?_field (records : List (List (List Char))) (fields : List (List Char))
    (value : List Char) :
    ∃ place, place ≠ .quoted ∧ (Csv.field value).foldlM step? ⟨records, fields, [], .front⟩ =
      some ⟨records, fields, value, place⟩ := by
  unfold Csv.field
  by_cases hvalue : value.any forcesQuotes = true
  · refine ⟨.closed, nofun, ?_⟩
    have hopen : step? ⟨records, fields, [], .front⟩ '"' =
        some ⟨records, fields, [], .quoted⟩ := rfl
    rw [if_pos hvalue, foldlM_step?_cons hopen, foldlM_step?_append (foldlM_step?_quoted value)]
    rfl
  · rw [if_neg hvalue]
    have hbare : ∀ c ∈ value, forcesQuotes c = false := by
      simpa using hvalue
    cases value with
    | nil => exact ⟨.front, nofun, rfl⟩
    | cons c cs =>
      rw [List.forall_mem_cons] at hbare
      refine ⟨.bare, nofun, ?_⟩
      have hquote : c ≠ '"' := by
        rintro rfl
        exact absurd hbare.1 (by decide)
      have hstep : step? ⟨records, fields, [], .front⟩ c =
          some ⟨records, fields, [c], .bare⟩ := by
        unfold step?
        simp only [if_neg hquote]
        exact bare?_eq_push hbare.1 _
      rw [foldlM_step?_cons hstep]
      exact foldlM_step?_bare hbare.2

/-- Outside of quotes a comma ends a field. -/
theorem step?_comma {s : Reading} (h : s.place ≠ .quoted) : s.step? ',' = some s.endField := by
  unfold step?
  cases hplace : s.place with
  | quoted => exact absurd hplace h
  | front => rfl
  | bare => rfl
  | closed => rfl

/-- Outside of quotes a line feed ends a record. -/
theorem step?_newline {s : Reading} (h : s.place ≠ .quoted) : s.step? '\n' = some s.endRecord := by
  unfold step?
  cases hplace : s.place with
  | quoted => exact absurd hplace h
  | front => rfl
  | bare => rfl
  | closed => rfl

/-- A written record with at least one field is read back behind other fields. -/
theorem foldlM_step?_record {values : List (List Char)} (h : values ≠ []) :
    (record values).foldlM step? ⟨records, fields, [], .front⟩ =
      some { records := records ++ [fields ++ values] } := by
  unfold record
  induction values generalizing fields with
  | nil => exact absurd rfl h
  | cons value values ih =>
    obtain ⟨place, hplace, hfield⟩ := exists_foldlM_step?_field records fields value
    cases values with
    | nil =>
      rw [List.map_singleton, List.intercalate_singleton, foldlM_step?_append hfield]
      exact foldlM_step?_cons (step?_newline hplace) []
    | cons next values =>
      have hcomma : step? ⟨records, fields, value, place⟩ ',' =
          some ⟨records, fields ++ [value], [], .front⟩ := step?_comma hplace
      rw [List.map_cons, List.map_cons, List.intercalate_cons_cons, List.append_assoc,
        List.append_assoc, foldlM_step?_append hfield, List.singleton_append,
        foldlM_step?_cons hcomma, ← List.map_cons, ih (by simp), List.append_assoc,
        List.singleton_append]

end Reading

/-- **Written records are read back**, whatever characters their fields have. -/
theorem read?_flatMap_record {records : List (List (List Char))}
    (h : ∀ fields ∈ records, fields ≠ []) :
    read? (String.ofList (records.flatMap record)) = some records := by
  have hread : ∀ earlier : List (List (List Char)),
      (records.flatMap record).foldlM Reading.step? { records := earlier } =
        some { records := earlier ++ records } := by
    induction records with
    | nil => simp
    | cons fields records ih =>
      intro earlier
      rw [List.forall_mem_cons] at h
      rw [List.flatMap_cons, Reading.foldlM_step?_append (Reading.foldlM_step?_record h.1)]
      rw [List.nil_append, ih h.2, List.append_assoc, List.singleton_append]
  unfold read?
  rw [String.toList_ofList, hread]
  rfl

/-! ### Runs -/

/-- The field of a record under a name of the header. -/
def fieldUnder? (header record : List (List Char)) (name : String) : Option (List Char) :=
  (header.zip record).lookup name.toList

/-- A field holds a count that may be missing: it is empty exactly if the count is missing, and reads
as the count otherwise. -/
def HoldsCount {α : Type} (read : List Char → Except NumeralFault α) (field : Option (List Char))
    (count : Option α) : Prop :=
  ∃ text, field = some text ∧ (text = [] ↔ count = none) ∧ ∀ n ∈ count, read text = .ok n

/-- A record has what a run says, each value under the name of its column. -/
structure Describes (header record : List (List Char)) (run : Run) : Prop where
  length_eq : record.length = header.length
  label : fieldUnder? header record "label" = some run.label.toList
  target : fieldUnder? header record "target" = some (run.target.getD "").toList
  threads : HoldsCount Numeral.word32 (fieldUnder? header record "threads") run.threads
  connections : HoldsCount Numeral.word32 (fieldUnder? header record "connections") run.connections
  requests : HoldsCount Numeral.word64 (fieldUnder? header record "total_requests") run.requests
  transferRate :
    HoldsCount Numeral.word64 (fieldUnder? header record "transfer_per_second") run.transferRate
  socketErrors : ∃ total : UInt64,
    total.toNat = min (run.socketErrors.connect.toNat + run.socketErrors.read.toNat
      + run.socketErrors.write.toNat + run.socketErrors.timeout.toNat) (UInt64.size - 1)
    ∧ HoldsCount Numeral.word64 (fieldUnder? header record "socket_errors") (some total)
  failedResponses :
    HoldsCount Numeral.word64 (fieldUnder? header record "non_2xx_3xx") (some run.failedResponses)

/-- The digits of a count, or nothing for a missing one, hold the count. -/
theorem holdsCount_optionalField {α : Type} {read : List Char → Except NumeralFault α}
    {size : α → Nat} (hread : ∀ n, read (Numeral.digits (size n)) = .ok n) (count : Option α) :
    HoldsCount read (some (optionalField (fun n => Numeral.digits (size n)) count)) count := by
  refine ⟨_, rfl, ?_, ?_⟩
  · cases count with
    | none => exact iff_of_true rfl rfl
    | some n => exact iff_of_false (Numeral.digits_ne_nil _) nofun
  · rintro n ⟨⟩
    exact hread n

/-- The values of a run describe it. -/
theorem describes_values (run : Run) :
    Describes (columnNames.map String.toList) (values run) run := by
  have hcount32 := fun count => holdsCount_optionalField Numeral.word32_digits count
  have hcount64 := fun count => holdsCount_optionalField Numeral.word64_digits count
  have htarget : optionalField String.toList run.target = (run.target.getD "").toList := by
    cases run.target <;> rfl
  constructor
  case length_eq =>
    rw [List.length_map]
    rfl
  case label => rfl
  case target => exact congrArg some htarget
  case threads => exact hcount32 run.threads
  case connections => exact hcount32 run.connections
  case requests => exact hcount64 run.requests
  case transferRate => exact hcount64 run.transferRate
  case socketErrors =>
    exact ⟨run.socketErrors.total, run.socketErrors.toNat_total, hcount64 (some _)⟩
  case failedResponses => exact hcount64 (some run.failedResponses)

/-- **Runs are read back from comma-separated values.**  The text of at least one run is a header of
thirteen names and one record for each run, in order, with the values of the run under these names. -/
theorem describes_render (generatedAt : String) {runs : List Run} (h : runs ≠ []) :
    ∃ header records,
      read? (OutputFormat.csv.render generatedAt runs) = some (header :: records)
        ∧ header = columnNames.map String.toList ∧ header.length = 13 ∧ header.Nodup
        ∧ List.Forall₂ (Describes header) records runs := by
  have hrender : OutputFormat.csv.render generatedAt runs =
      String.ofList ((columnNames.map String.toList :: runs.map values).flatMap record) := by
    change Csv.render runs = _
    unfold Csv.render
    rw [if_neg (by simpa using h)]
  have hfields : ∀ fields ∈ columnNames.map String.toList :: runs.map values, fields ≠ [] := by
    rw [List.forall_mem_cons, List.forall_mem_map]
    exact ⟨nofun, fun _ _ => nofun⟩
  refine ⟨columnNames.map String.toList, runs.map values, ?_, rfl, rfl, by decide, ?_⟩
  · rw [hrender, read?_flatMap_record hfields]
  · rw [List.forall₂_map_left_iff, List.forall₂_same]
    exact fun run _ => describes_values run

/-- A run whose label and target need quotes, with counts at their bounds. -/
def quotedRun : Run where
  label := "a,b \"c\"\r\nd"
  target := some ","
  threads := some 4294967295
  rate := .ofNat 10
  latency := ⟨⟨1500000⟩, ⟨0⟩, ⟨8000000⟩, .ofNat 90⟩
  requests := some 0
  socketErrors := { connect := 18446744073709551615, timeout := 2 }

/-- A run with quotes in its label and a run without a target are read back. -/
theorem describes_quotedRun :
    [quotedRun, { quotedRun with target := none }] ≠ []
      ∧ ∃ header records,
        read? (OutputFormat.csv.render "" [quotedRun, { quotedRun with target := none }]) =
            some (header :: records)
          ∧ header = columnNames.map String.toList ∧ header.length = 13 ∧ header.Nodup
          ∧ List.Forall₂ (Describes header) records [quotedRun, { quotedRun with target := none }] :=
  ⟨nofun, describes_render "" nofun⟩

end Output.Csv

end BenchCompare
