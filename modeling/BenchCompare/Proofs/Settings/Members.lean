import BenchCompare.Proofs.Json.Skip
import BenchCompare.Settings.Json

/-!
# The members of a settings file

Settings in JSON are read while the text is read, without building a value.  Where the text is an
object, this is the same as adding its members to the settings one after the other
(`FileSettings.foldlM_withMember?_of_ofJson`).

Each reader finds in the text what is read from the value that stands there, and leaves the same rest
(`Json.ReadsAs`); what is passed over leaves the same rest, too.
-/

namespace BenchCompare

namespace Json

/-! ### Values -/

/-- A choice of metrics: its name, or an object with that name for a key and no value. -/
def asSelection? : Json → Option Selection
  | .text key => Selection.ofKey? key
  | .object [(key, .null)] => Selection.ofKey? key
  | _ => none

/-- A step that succeeds is followed by the rest. -/
theorem exists_of_bind_eq_ok {ε α β : Type} {first : Except ε α} {rest : α → Except ε β} {b : β}
    (h : first >>= rest = .ok b) : ∃ a, first = .ok a ∧ rest a = .ok b := by
  cases first with
  | error fault => cases h
  | ok a => exact ⟨a, rfl, h⟩

/-- Where a text has a value, a reader finds what `read?` makes of it, and leaves the same rest. -/
structure ReadsAs {α : Type} (read : List Char → Except JsonFault (α × List Char))
    (read? : Json → Option α) : Prop where
  read_eq {room : Nat} {cs rest rest' : List Char} {value : Json} {a : α} :
    value? room cs = some (value, rest) → read cs = .ok (a, rest') →
      read? value = some a ∧ rest' = rest

/-- A text begins with a quote. -/
theorem exists_of_readText_eq_ok {cs rest : List Char} {s : String}
    (h : readText cs = .ok (s, rest)) :
    ∃ body front, skipSpace cs = '"' :: body ∧ textBody? body = some (front, rest)
      ∧ String.ofList front = s := by
  unfold readText at h
  split at h
  · next body hspace =>
    cases hbody : textBody? body with
    | none =>
      rw [hbody] at h
      cases h
    | some found =>
      rw [hbody] at h
      cases h
      exact ⟨body, found.1, hspace, hbody, rfl⟩
  · cases h

theorem readsAs_readText : ReadsAs readText asText? := by
  refine ⟨fun {room cs rest rest' value s} hvalue hread => ?_⟩
  obtain ⟨body, front, hspace, hbody, rfl⟩ := exists_of_readText_eq_ok hread
  rw [value?_of_quote hspace, hbody] at hvalue
  cases hvalue
  exact ⟨rfl, rfl⟩

theorem readsAs_readCount32 : ReadsAs readCount32 asCount32? := by
  refine ⟨fun {room cs rest rest' value n} hvalue hread => ?_⟩
  unfold readCount32 at hread
  simp only at hread
  split at hread
  · next hfirst =>
    cases hspace : skipSpace cs with
    | nil =>
      rw [hspace] at hfirst
      cases hfirst
    | cons c later =>
      have hc : c = '-' ∨ c.isDigit = true := by
        simpa [hspace] using hfirst
      have hnumber : value? room cs = number? (c :: later) := by
        rw [← value?_eq_number? hc room, value?.eq_def, value?.eq_def room (c :: later), hspace,
          skipSpace_cons (isSpace_of_minus_or_isDigit hc)]
      rw [hspace, ← hnumber, hvalue] at hread
      cases hcount : value.asCount32? with
      | none =>
        simp only [hcount] at hread
        cases hread
      | some n =>
        simp only [hcount] at hread
        cases hread
        exact ⟨rfl, rfl⟩
  · cases hread

/-- The name of a choice of metrics is a text. -/
theorem exists_of_readSelectionName_eq_ok {cs rest : List Char} {selection : Selection}
    (h : readSelectionName cs = .ok (selection, rest)) :
    ∃ key, readText cs = .ok (key, rest) ∧ Selection.ofKey? key = some selection := by
  unfold readSelectionName at h
  cases htext : readText cs with
  | error fault =>
    rw [htext] at h
    cases h
  | ok found =>
    obtain ⟨key, after⟩ := found
    simp only [htext] at h
    cases hkey : Selection.ofKey? key with
    | none =>
      simp only [hkey] at h
      cases h
    | some found =>
      simp only [hkey] at h
      cases h
      exact ⟨key, rfl, hkey⟩

/-- A mark is found after blanks. -/
theorem skipSpace_of_afterMark {mark : Char} {cs rest : List Char}
    (h : afterMark mark cs = .ok rest) : skipSpace cs = mark :: rest := by
  unfold afterMark at h
  split at h
  · cases h
  · next c later hspace =>
    split at h
    · next hmark =>
      cases h
      rw [hspace, hmark]
    · cases h

/-- A null is read as one. -/
theorem value?_of_readNull {room : Nat} {cs rest : List Char} (h : readNull cs = .ok rest) :
    value? room cs = some (.null, rest) := by
  unfold readNull at h
  simp only at h
  split at h
  · next hfirst =>
    cases hspace : skipSpace cs with
    | nil =>
      rw [hspace] at hfirst
      cases hfirst
    | cons c later =>
      rw [hspace] at h hfirst
      obtain rfl : c = 'n' := by simpa using hfirst
      have hword : afterWord? "null" ('n' :: later) = afterWord? "ull" later := rfl
      have hvalue : value? room cs = (afterWord? "ull" later).map fun rest => (.null, rest) := by
        rw [value?.eq_def, hspace]
        rfl
      cases hull : afterWord? "ull" later with
      | none =>
        rw [hword, hull] at h
        cases h
      | some after =>
        rw [hword, hull] at h
        cases h
        rw [hvalue, hull]
        rfl
  · cases h

theorem readsAs_readSelection : ReadsAs readSelection asSelection? := by
  refine ⟨fun {room cs rest rest' value selection} hvalue hread => ?_⟩
  unfold readSelection at hread
  split at hread
  · next body hspace =>
    obtain ⟨key, htext, hkey⟩ := exists_of_readSelectionName_eq_ok hread
    obtain ⟨body', front, hbody, hfront, rfl⟩ := exists_of_readText_eq_ok htext
    rw [skipSpace_cons (by decide)] at hbody
    cases hbody
    rw [value?_of_quote hspace, hfront] at hvalue
    cases hvalue
    exact ⟨hkey, rfl⟩
  · next later hspace =>
    obtain ⟨⟨found, afterName⟩, hname, hread⟩ := exists_of_bind_eq_ok hread
    obtain ⟨key, htext, hkey⟩ := exists_of_readSelectionName_eq_ok hname
    obtain ⟨body, front, hbody, hfront, rfl⟩ := exists_of_readText_eq_ok htext
    obtain ⟨afterColon, hcolon, hread⟩ := exists_of_bind_eq_ok hread
    obtain ⟨afterNull, hnull, hread⟩ := exists_of_bind_eq_ok hread
    obtain ⟨last, hend, hread⟩ := exists_of_bind_eq_ok hread
    cases hread
    obtain ⟨inner, members, rfl, hmembers⟩ := exists_members_of_value? hspace hvalue
    have hmember : memberWith? (value? inner) (skipSpace later) =
        some ((String.ofList front, .null), afterNull) := by
      simp only [memberWith?, hbody, skipSpace_cons (show isSpace '"' = false by decide), hfront,
        skipSpace_of_afterMark hcolon, value?_of_readNull hnull, Option.map_some]
    rcases itemsUntil?_cases hmembers with ⟨hnone, -⟩ | ⟨-, hitems⟩
    · rw [hbody] at hnone
      cases hnone
    · cases hitems with
      | last hitem hlast =>
        rw [hmember] at hitem
        cases hitem
        rw [skipSpace_of_afterMark hend] at hlast
        cases hlast
        exact ⟨hkey, rfl⟩
      | more hitem hcomma _ =>
        rw [hmember] at hitem
        cases hitem
        rw [skipSpace_of_afterMark hend] at hcomma
        cases hcomma
  · cases hread

end Json

namespace FileSettings

open Json

/-! ### Members -/

/-- The settings with the member of an object; `none` if the setting is given already, or if its value
cannot be read.  Members that name no setting change nothing. -/
def withMember? (s : FileSettings) (member : String × Json) : Option FileSettings :=
  if s.isGiven member.1 then none
  else
    match member.1 with
    | "title" => member.2.asText?.map fun x => { s with title := some x }
    | "output" => member.2.asText?.map fun x => { s with output := some ⟨x⟩ }
    | "width" => member.2.asCount32?.map fun n => { s with width := some n }
    | "height" => member.2.asCount32?.map fun n => { s with height := some n }
    | "metric" => member.2.asSelection?.map fun x => { s with metrics := some x }
    | "format" => member.2.asText?.map fun x => { s with format := some x }
    | _ => some s

/-- A value that is stored is the one that is read from it. -/
theorem eq_of_store {α : Type} {read : List Char → Except JsonFault (α × List Char)}
    {read? : Json → Option α} (hreads : ReadsAs read read?) {set : α → FileSettings} {room : Nat}
    {cs rest rest' : List Char} {value : Json} {s : FileSettings}
    (hvalue : value? room cs = some (value, rest)) (h : store read set cs = .ok (s, rest')) :
    (read? value).map set = some s ∧ rest' = rest := by
  unfold store at h
  cases hread : read cs with
  | error fault =>
    rw [hread] at h
    cases h
  | ok found =>
    rw [hread] at h
    cases h
    obtain ⟨hvalue, hrest⟩ := hreads.read_eq hvalue hread
    exact ⟨by rw [hvalue, Option.map_some], hrest⟩

/-- Reading a member of an object adds it to the settings. -/
theorem withMember?_of_readValue {room : Nat} {cs rest rest' : List Char} {name : String}
    {value : Json} {s s' : FileSettings} (hgiven : s.isGiven name = false)
    (hvalue : value? room cs = some (value, rest)) (h : s.readValue name cs = .ok (s', rest')) :
    s.withMember? (name, value) = some s' ∧ rest' = rest := by
  unfold readValue at h
  unfold withMember?
  rw [if_neg (Bool.not_eq_true _ ▸ hgiven)]
  split at h
  · exact eq_of_store readsAs_readText hvalue h
  · exact eq_of_store readsAs_readText hvalue h
  · exact eq_of_store readsAs_readCount32 hvalue h
  · exact eq_of_store readsAs_readCount32 hvalue h
  · exact eq_of_store readsAs_readSelection hvalue h
  · exact eq_of_store readsAs_readText hvalue h
  · next htitle houtput hwidth hheight hmetric hformat =>
    cases hskip : skipValue? cs with
    | none =>
      rw [hskip] at h
      cases h
    | some after =>
      rw [hskip] at h
      cases h
      refine ⟨?_, skipValue?_rest_eq hvalue hskip⟩
      simp only

theorem withMember?_of_readMember {room : Nat} {cs rest rest' : List Char} {member : String × Json}
    {s s' : FileSettings} (hmember : memberWith? (value? room) cs = some (member, rest))
    (h : s.readMember cs = .ok (s', rest')) :
    s.withMember? member = some s' ∧ rest' = rest := by
  obtain ⟨name, value⟩ := member
  obtain ⟨body, after, front, later, hspace, hbody, rfl, hcolon, hvalue⟩ :=
    exists_of_memberWith?_eq_some hmember
  unfold readMember at h
  simp only [hspace] at h
  obtain ⟨⟨found, afterName⟩, hfound, h⟩ := exists_of_bind_eq_ok h
  rw [hbody] at hfound
  cases hfound
  simp only at h
  split at h
  · cases h
  · next hgiven =>
    obtain ⟨afterColon, hmark, h⟩ := exists_of_bind_eq_ok h
    rw [skipSpace_of_afterMark hmark] at hcolon
    cases hcolon
    exact withMember?_of_readValue (Bool.eq_false_iff.mpr hgiven) hvalue h

/-- Reading the members of an object adds one after the other to the settings. -/
theorem foldlM_withMember?_of_readMembers {room : Nat} {cs rest rest' : List Char}
    {members : List (String × Json)}
    (hmembers : ReadsItems (memberWith? (value? room)) '\x7d' cs members rest) {fuel : Nat}
    {s s' : FileSettings} (h : readMembers fuel s cs = .ok (s', rest')) :
    members.foldlM withMember? s = some s' ∧ rest' = rest := by
  induction hmembers generalizing fuel s with
  | @last cs after rest member hmember hend =>
    obtain _ | fuel := fuel
    · cases h
    obtain ⟨⟨next, afterMember⟩, hread, h⟩ := exists_of_bind_eq_ok h
    obtain ⟨hnext, rfl⟩ := withMember?_of_readMember hmember hread
    simp only [hend] at h
    cases h
    exact ⟨by simp [hnext], rfl⟩
  | @more cs after later rest member others hmember hcomma _ ih =>
    obtain _ | fuel := fuel
    · cases h
    obtain ⟨⟨next, afterMember⟩, hread, h⟩ := exists_of_bind_eq_ok h
    obtain ⟨hnext, rfl⟩ := withMember?_of_readMember hmember hread
    simp only [hcomma] at h
    obtain ⟨hothers, hrest⟩ := ih h
    exact ⟨by rw [List.foldlM_cons, hnext]; exact hothers, hrest⟩

/-- The settings in an object are those of its members. -/
theorem foldlM_withMember?_of_ofJson {text : String} {members : List (String × Json)}
    {s : FileSettings} (hvalue : Json.parse? text = some (.object members))
    (h : ofJson text = .ok s) : members.foldlM withMember? {} = some s := by
  obtain ⟨rest, hvalue⟩ := exists_rest_of_parse? hvalue
  obtain ⟨⟨found, last⟩, hread, h⟩ := exists_of_bind_eq_ok h
  have hfound : found = s := by
    simp only at h
    split at h
    · cases h
      rfl
    · cases h
  subst hfound
  unfold readFront at hread
  split at hread
  · next later hspace =>
    obtain ⟨inner, members', heq, hmembers⟩ := exists_members_of_value? hspace hvalue
    cases heq
    rcases itemsUntil?_cases hmembers with ⟨hnone, rfl⟩ | ⟨hhead, hitems⟩
    · simp only [hnone] at hread
      cases hread
      rfl
    · split at hread
      · next hend => exact absurd (congrArg List.head? hend) hhead
      · exact (foldlM_withMember?_of_readMembers hitems hread).1
  · next later hspace =>
    obtain ⟨items, heq⟩ := exists_items_of_value? hspace hvalue
    cases heq
  · cases hread

end FileSettings

end BenchCompare
