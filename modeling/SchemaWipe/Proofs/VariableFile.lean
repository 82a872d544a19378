import SchemaWipe.Proofs.Assignment
import SchemaWipe.Proofs.Names

/-! Files that set variables, as they can be written: lines that set one, among comments and blank
lines, each ended in whatever way. A file is read back to what its lines were written for, and the
last line that sets a name decides. -/
namespace SchemaWipe.Text

/-- A text within one line. -/
def Unbroken (cs : List Char) : Prop :=
  ∀ c ∈ cs, isLineBoundary c = false

instance (cs : List Char) : Decidable (Unbroken cs) :=
  List.decidableBAll (isLineBoundary · = false) cs

/-- What a line of a file may end in. -/
inductive LineEnd : List Char → Prop where
  | lf : LineEnd ['\n']
  | crlf : LineEnd ['\r', '\n']
  | cr : LineEnd ['\r']

theorem LineEnd.blank {ending : List Char} (ended : LineEnd ending) : Blank ending := by
  cases ended <;> decide

variable {cs line : List Char} {c : Char}

/-- A boundary ends a line by itself, unless it is a carriage return before a line feed. -/
theorem lines_boundary (boundary : isLineBoundary c = true)
    (single : ∀ rest, c = '\r' → cs = '\n' :: rest → False) :
    lines (c :: cs) = [] :: lines cs := by
  rw [lines.eq_3 c cs single, if_pos boundary]

theorem lines_inner (inner : isLineBoundary c = false) :
    lines (c :: cs) = (c :: (lines cs).headD []) :: (lines cs).tail := by
  rw [lines.eq_3 c cs (by rintro rest rfl; cases inner), if_neg (by simp [inner])]
  cases lines cs <;> rfl

/-- Unifying the newlines of a text leaves its lines as they are. -/
theorem lines_unifyNewlines (cs : List Char) : lines (unifyNewlines cs) = lines cs := by
  induction cs using unifyNewlines.induct with
  | case1 => rfl
  | case2 rest ih => exact congrArg ([] :: ·) ih
  | case3 rest single ih =>
    rw [unifyNewlines.eq_3 rest single, lines_boundary rfl (by rintro _ ⟨⟩), ih,
      lines_boundary rfl fun more _ => single more]
  | case4 c rest pair single ih =>
    have other (more : List Char) (cs : List Char) (ret : c = '\r') : cs = '\n' :: more → False :=
      fun _ => single ret
    rw [unifyNewlines.eq_4 c rest pair single]
    cases kind : isLineBoundary c with
    | true => rw [lines_boundary kind (other · _), lines_boundary kind pair, ih]
    | false => rw [lines_inner kind, lines_inner kind, ih]

/-- A text within one line is put in front of the first line of what follows it. -/
theorem lines_append (unbroken : Unbroken line) {first : List Char} {more : List (List Char)}
    (behind : lines cs = first :: more) : lines (line ++ cs) = (line ++ first) :: more := by
  induction line with
  | nil => exact behind
  | cons c rest ih =>
    have tail := ih fun d member => unbroken d (List.mem_cons_of_mem c member)
    rw [List.cons_append, lines_inner (unbroken c List.mem_cons_self), tail]
    rfl

/-- A text within one line is one line, unless nothing is in it. -/
theorem lines_unbroken (unbroken : Unbroken line) (filled : line ≠ []) : lines line = [line] := by
  obtain ⟨letters, last, rfl⟩ := (List.eq_nil_or_concat line).resolve_left filled
  rw [List.concat_eq_append] at unbroken ⊢
  have inner : isLineBoundary last = false := unbroken last (by simp)
  exact lines_append (fun c member => unbroken c (List.mem_append_left _ member))
    (lines_inner inner)

end SchemaWipe.Text

namespace SchemaWipe

namespace Settings.Variables
open Text (Blank Unbroken LineEnd)

/-- A line of a file, and the settings that it makes: one or none. -/
inductive Line : List Char → Named String → Prop where
  | setting {raw : List Char} {key value : String} (assigns : Assigns raw key value)
      (unbroken : Unbroken raw) : Line raw [(key, value)]
  | comment {before text : List Char} (blank : Blank before)
      (unbroken : Unbroken (before ++ '#' :: text)) : Line (before ++ '#' :: text) []
  /-- Blanks set nothing, whether or not they break the line. -/
  | blank {raw : List Char} (blank : Blank raw) : Line raw []

/-- The text of a file, and the settings that its lines make in order. Every line but the last one
has an end, each of any kind. -/
inductive Spells : List Char → Named String → Prop where
  | last {raw : List Char} {settings : Named String} (line : Line raw settings) :
      Spells raw settings
  | line {raw ending text : List Char} {made settings : Named String} (line : Line raw made)
      (ended : LineEnd ending) (rest : Spells text settings) :
      Spells (raw ++ (ending ++ text)) (made ++ settings)

/-- The settings of a text, in the order of its lines. -/
def settings (text : List Char) : Named String :=
  (Text.lines text).filterMap ofLine?

variable {raw text ending gap : List Char} {c : Char}

theorem ofLine?_congr {first second : List Char} (alike : Text.trim first = Text.trim second) :
    ofLine? first = ofLine? second := by
  unfold ofLine?
  rw [alike]

theorem ofLine?_blank (blank : Blank gap) : ofLine? gap = none := by
  have empty : Text.trim gap = Text.trim [] := by
    rw [← List.append_nil gap, Text.trim_blank_append blank]
  exact ofLine?_congr empty

theorem ofLine?_comment (blank : Blank gap) (text : List Char) :
    ofLine? (gap ++ '#' :: text) = none := by
  have trimmed : Text.trim (gap ++ ([] ++ '#' :: text)) = [] ++ '#' :: Text.trimEnd text :=
    Text.trim_append_cons blank (by rintro d ⟨⟩; rfl) rfl text
  rw [List.nil_append, List.nil_append] at trimmed
  unfold ofLine?
  rw [trimmed]
  rfl

/-- A blank in front of a text makes no difference, whether it belongs to the first line or ends a
line of its own. -/
theorem settings_blank_cons (blank : Text.isBlank c = true) (text : List Char) :
    settings (c :: text) = settings text := by
  have alone : Blank [c] := by
    intro d member
    rwa [List.mem_singleton.mp member]
  unfold settings
  cases kind : Text.isLineBoundary c with
  | false =>
    rw [Text.lines_inner kind]
    cases Text.lines text with
    | nil => exact List.filterMap_cons_none (ofLine?_blank alone)
    | cons first more =>
      have same : ofLine? (c :: first) = ofLine? first :=
        ofLine?_congr (Text.trim_blank_append alone first)
      exact (List.filterMap_cons ..).trans (same ▸ (List.filterMap_cons ..).symm)
  | true =>
    by_cases pair : ∃ rest, c = '\r' ∧ text = '\n' :: rest
    · obtain ⟨rest, rfl, rfl⟩ := pair
      rfl
    · rw [Text.lines_boundary kind fun rest ret feed => pair ⟨rest, ret, feed⟩]
      exact List.filterMap_cons_none rfl

theorem settings_blank_append (blank : Blank gap) (text : List Char) :
    settings (gap ++ text) = settings text := by
  induction gap with
  | nil => rfl
  | cons c rest ih =>
    rw [List.cons_append, settings_blank_cons (blank c List.mem_cons_self)]
    exact ih fun d member => blank d (List.mem_cons_of_mem c member)

/-- A boundary opens the lines behind it. A carriage return takes a line feed that follows with it,
but the line that goes missing sets nothing. -/
theorem lines_behind (boundary : Text.isLineBoundary c = true) (text : List Char) :
    ∃ more, Text.lines (c :: text) = [] :: more ∧ more.filterMap ofLine? = settings text := by
  by_cases pair : ∃ rest, c = '\r' ∧ text = '\n' :: rest
  · obtain ⟨rest, rfl, rfl⟩ := pair
    exact ⟨Text.lines rest, rfl, (settings_blank_cons rfl rest).symm⟩
  · have apart := Text.lines_boundary boundary fun rest ret feed => pair ⟨rest, ret, feed⟩
    exact ⟨Text.lines text, apart, rfl⟩

theorem lines_end (ended : LineEnd ending) (text : List Char) :
    ∃ more, Text.lines (ending ++ text) = [] :: more ∧ more.filterMap ofLine? = settings text := by
  cases ended with
  | lf => exact lines_behind rfl text
  | crlf => exact ⟨Text.lines text, rfl, rfl⟩
  | cr => exact lines_behind rfl text

/-- A line within which nothing breaks is read on its own, and the lines opened behind it follow. -/
theorem settings_opened (unbroken : Unbroken raw) {behind : List Char} {more : List (List Char)}
    (opened : Text.lines behind = [] :: more) :
    settings (raw ++ behind) = (ofLine? raw).toList ++ more.filterMap ofLine? := by
  unfold settings
  rw [Text.lines_append unbroken opened, List.append_nil, List.filterMap_cons]
  cases ofLine? raw <;> rfl

theorem settings_append (unbroken : Unbroken raw) (ended : LineEnd ending) (text : List Char) :
    settings (raw ++ (ending ++ text)) = (ofLine? raw).toList ++ settings text := by
  obtain ⟨more, opened, rest⟩ := lines_end ended text
  rw [settings_opened unbroken opened, rest]

theorem settings_unbroken (unbroken : Unbroken raw) : settings raw = (ofLine? raw).toList := by
  by_cases empty : raw = []
  · subst empty
    rfl
  · unfold settings
    rw [Text.lines_unbroken unbroken empty, List.filterMap_cons]
    cases ofLine? raw <;> rfl

/-- A line makes its settings before those of the text behind it. -/
theorem settings_line {made : Named String} (line : Line raw made) (ended : LineEnd ending)
    (text : List Char) : settings (raw ++ (ending ++ text)) = made ++ settings text := by
  cases line with
  | setting assigns unbroken => rw [settings_append unbroken ended, ofLine?_assigns assigns]; rfl
  | comment blank unbroken => rw [settings_append unbroken ended, ofLine?_comment blank]; rfl
  | blank blank =>
    rw [settings_blank_append blank, settings_blank_append ended.blank, List.nil_append]

theorem settings_last {made : Named String} (line : Line raw made) : settings raw = made := by
  cases line with
  | setting assigns unbroken => rw [settings_unbroken unbroken, ofLine?_assigns assigns]; rfl
  | comment blank unbroken => rw [settings_unbroken unbroken, ofLine?_comment blank]; rfl
  | blank blank =>
    have gone := settings_blank_append blank []
    rwa [List.append_nil] at gone

/-- The settings of a file are read back in order. -/
theorem settings_spelled {made : Named String} (spells : Spells text made) :
    settings text = made := by
  induction spells with
  | last line => exact settings_last line
  | line line ended rest ih => rw [settings_line line ended, ih]

/-- A text is stored as octets that it is read from again, but for its newlines. -/
theorem decodeFile?_toUTF8 (s : String) :
    Text.decodeFile? s.toUTF8 = some (String.ofList (Text.unifyNewlines s.toList)) := by
  have valid : s.toUTF8.IsValidUTF8 := s.isValidUTF8
  have read : String.fromUTF8? s.toUTF8 = some s := by
    rw [String.fromUTF8?, dif_pos valid]
    rfl
  rw [Text.decodeFile?, read, Option.map_some]

/-- What a text sets is found by name, the last setting first. -/
theorem ofText_unified (text : List Char) :
    ofText (Text.unifyNewlines text) = Named.override [] (settings text) := by
  rw [ofText, Text.lines_unifyNewlines]
  rfl

/-- Lines that are written for a name and a value are read back to them. A file of such lines,
among comments and blank lines and with ends of any kind, gives each name the value of the last
line that sets it, and no value to any other name. -/
theorem written_variables_are_read_back :
    (∀ raw key value, Assigns raw key value → ofLine? raw = some (key, value)) ∧
    ∀ (files : Files) path text made, Spells text made →
      files.content? (Path.ofText path) = some (String.ofList text).toUTF8 →
      ∃ env, ofFile files path = .ok env ∧
        ∀ name, env.get? name = Named.get? name made.reverse := by
  refine ⟨fun _ _ _ => ofLine?_assigns, ?_⟩
  intro files path text made spells stored
  refine ⟨Named.override [] made, ?_, fun name => Named.get?_override_nil name made⟩
  rw [ofFile, stored]
  simp only [decodeFile?_toUTF8, String.toList_ofList, ofText_unified, settings_spelled spells]

/-- A name is set as it is and then, behind a comment and with the mark, between quotes. The lines
end in two ways, and the second value would open a comment if it stood at the start of a line. -/
theorem last_of_two_settings_is_read :
    ∃ env, ofFile (({} : Files).write ".env" (String.ofList
        (['A', '=', 'b'] ++ (['\r', '\n'] ++ (['#'] ++ (['\r'] ++
          (exportMark ++ ['A', ' ', '=', '\'', '#', '\'', ' '])))))).toUTF8) ".env" = .ok env ∧
      env.get? "A" = some "#" := by
  have named : IsName "A".toList :=
    ⟨by decide, ⟨by rintro c ⟨⟩; rfl, by rintro c ⟨⟩; rfl⟩, by decide, by decide, by decide⟩
  have unquoted (mark : Char) (inner : List Char) (_ : IsQuote mark) :
      ['b'] ≠ mark :: (inner ++ [mark]) := by simp
  have plain : Assigns ['A', '=', 'b'] "A" "b" :=
    @Assigns.intro "A" "b" [] [] [] [] ['b'] [] named
      (.plain ⟨by rintro c ⟨⟩; rfl, by rintro c ⟨⟩; rfl⟩ unquoted) .unmarked (by decide)
  have quoted : Assigns (exportMark ++ ['A', ' ', '=', '\'', '#', '\'', ' ']) "A" "#" :=
    @Assigns.intro "A" "#" [] _ [' '] [] ['\'', '#', '\''] [' '] named
      (.quoted (.inl rfl) ['#']) (@Marked.marked [] (by decide))
      (by decide)
  have spells := Spells.line (.setting plain (by decide)) .crlf
    (.line (@Line.comment [] [] (by decide) (by decide)) .cr
      (.last (.setting quoted (by decide))))
  have stored (content : ByteArray) :
      (({} : Files).write ".env" content).content? (Path.ofText ".env") = some content := rfl
  obtain ⟨env, read, found⟩ := written_variables_are_read_back.2 _ ".env" _ _ spells (stored _)
  exact ⟨env, read, found "A"⟩

end Settings.Variables
end SchemaWipe
