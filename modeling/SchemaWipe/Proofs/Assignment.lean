import SchemaWipe.Proofs.Trimming
import SchemaWipe.Settings.Variables

/-! Lines that set variables, as they can be written. There are two ways to write a value, between
quotes and as it is; a line is read back to the name and the value it was written for, whatever
blanks stand where they may. -/
namespace SchemaWipe.Settings.Variables
open Text (Bare Blank)

/-- A mark that a value can stand between. -/
def IsQuote (mark : Char) : Prop :=
  mark = '\'' ∨ mark = '"'

/-- The word that marks a line, if a space follows it. -/
def exportWord : List Char := exportMark.dropLast

/-- A name that a line can set. -/
structure IsName (key : List Char) : Prop where
  filled : key ≠ []
  bare : Bare key
  unsigned : '=' ∉ key
  uncommented : key.head? ≠ some '#'
  /-- It neither is the word that marks a line nor starts with that word and a space. -/
  unmarked : key ≠ exportWord ∧ ¬ exportMark <+: key

/-- The ways to write a value. -/
inductive Written : List Char → List Char → Prop where
  | quoted {mark : Char} (quote : IsQuote mark) (value : List Char) :
      Written (mark :: (value ++ [mark])) value
  /-- A value with blanks at an end, or one that looks like a quoted one, needs the quotes. -/
  | plain {value : List Char} (bare : Bare value)
      (unquoted : ∀ mark inner, IsQuote mark → value ≠ mark :: (inner ++ [mark])) :
      Written value value

/-- What can stand in front of a name: nothing, or the mark and any blanks. -/
inductive Marked : List Char → Prop where
  | unmarked : Marked []
  | marked {gap : List Char} (blank : Blank gap) : Marked (exportMark ++ gap)

/-- A line sets a name to a value. Blanks may stand at its ends and on both sides of the sign. -/
inductive Assigns : List Char → String → String → Prop where
  | intro {key value : String} {before mark left right body after : List Char}
      (named : IsName key.toList) (written : Written body value.toList) (marked : Marked mark)
      (blank : ∀ gap ∈ [before, left, right, after], Blank gap) :
      Assigns (before ++ (mark ++ key.toList ++ left ++ '=' :: (right ++ body ++ after))) key value

variable {key value body before left tail : List Char} {c : Char}

theorem IsQuote.visible (quote : IsQuote c) : Text.isBlank c = false := by
  obtain rfl | rfl := quote <;> rfl

theorem unquote_quoted (quote : IsQuote c) (value : List Char) :
    unquote (c :: (value ++ [c])) = value := by
  cases value with
  | nil => exact if_pos ⟨quote, rfl⟩
  | cons second rest =>
    have last : (second :: rest ++ [c]).getLast? = some c := List.getLast?_concat
    have inner : (second :: rest ++ [c]).dropLast = second :: rest := List.dropLast_concat
    exact (if_pos ⟨quote, last⟩).trans inner

theorem unquote_plain (unquoted : ∀ mark inner, IsQuote mark → value ≠ mark :: (inner ++ [mark])) :
    unquote value = value := by
  unfold unquote
  split
  · rename_i first second rest
    rw [if_neg]
    rintro ⟨quote, closed⟩
    obtain ⟨inner, same⟩ := List.getLast?_eq_some_iff.mp closed
    exact unquoted first inner quote (congrArg (first :: ·) same)
  · rfl

/-- A written value is read back. -/
theorem unquote_written (written : Written body value) : unquote body = value := by
  cases written with
  | quoted quote => exact unquote_quoted quote value
  | plain bare unquoted => exact unquote_plain unquoted

theorem Written.bare (written : Written body value) : Bare body := by
  cases written with
  | plain bare unquoted => exact bare
  | @quoted mark quote =>
    constructor
    · intro d first
      cases first
      exact quote.visible
    · intro d last
      rw [← List.cons_append, List.getLast?_concat] at last
      cases last
      exact quote.visible

theorem IsName.start (named : IsName key) (left : List Char) :
    ∀ d, (key ++ left ++ ['=']).head? = some d → Text.isBlank d = false := by
  intro d head
  obtain ⟨first, rest, spelled⟩ := List.exists_cons_of_ne_nil named.filled
  exact named.bare.start d (by rwa [spelled] at head ⊢)

theorem exportWord_visible (member : c ∈ exportWord) : Text.isBlank c = false ∧ c ≠ '=' := by
  have all : exportWord.all (fun c => !Text.isBlank c && c != '=') = true := rfl
  simpa using List.all_eq_true.mp all c member

/-- A name and the blanks behind it do not look like a mark. -/
theorem name_lacks_mark (named : IsName key) (blank : Blank left) (tail : List Char) :
    ¬ exportMark <+: key ++ left ++ '=' :: tail := by
  intro starts
  rw [List.append_assoc] at starts
  rcases List.prefix_or_prefix_of_prefix starts (List.prefix_append key _) with inside | part
  · exact named.unmarked.2 inside
  · obtain ⟨more, whole⟩ := part
    rcases List.eq_nil_or_concat more with rfl | ⟨letters, last, rfl⟩
    · rw [List.append_nil] at whole
      exact named.unmarked.2 (whole ▸ List.prefix_rfl)
    · rw [List.concat_eq_append] at whole
      have spelled : (key ++ letters) ++ [last] = exportWord ++ [' '] :=
        (List.append_assoc ..).trans whole
      have word : key ++ letters = exportWord := (List.append_inj' spelled rfl).1
      rw [← whole, List.prefix_append_right_inj] at starts
      -- What follows the name in the mark is a letter, and what follows it in the line is none.
      cases letters with
      | nil => exact named.unmarked.1 ((List.append_nil key).symm.trans word)
      | cons letter rest =>
        obtain ⟨visible, unlike⟩ := exportWord_visible (c := letter) (word ▸ by simp)
        cases left with
        | nil => exact unlike (List.cons_prefix_cons.mp starts).1
        | cons gap others =>
          have same := (List.cons_prefix_cons.mp starts).1
          rw [same, blank gap List.mem_cons_self] at visible
          cases visible

/-- Behind a name and a sign the value is read, whatever blanks are around them. -/
theorem ofLine?_of_assignment {raw : List Char} (named : IsName key) (blank : Blank left)
    (begins : (Text.trim raw).head? = some c) (uncommented : c ≠ '#')
    (assignment : dropExport (Text.trim raw) = key ++ left ++ '=' :: tail) :
    ofLine? raw = some (String.ofList key, String.ofList (unquote (Text.trim tail))) := by
  have unsigned : ∀ c ∈ key ++ left, (c != '=') = true := by
    intro c member
    rcases List.mem_append.mp member with inside | gap
    · exact bne_iff_ne.mpr (ne_of_mem_of_not_mem inside named.unsigned)
    · have seen := blank c gap
      refine bne_iff_ne.mpr ?_
      rintro rfl
      cases seen
  have name : Text.trim (key ++ left) = key := by
    rw [Text.trim_append_blank blank, Text.trim_bare named.bare]
  have read : ((Text.trim raw).isEmpty || (Text.trim raw).head? = some '#') = false := by
    obtain ⟨rest, trimmed⟩ := List.head?_eq_some_iff.mp begins
    simp [trimmed, uncommented]
  unfold ofLine?
  simp only [read, assignment, List.dropWhile_append_of_pos unsigned,
    List.takeWhile_append_of_pos unsigned]
  simp [name, named.filled]

/-- A text that begins with a name is left as it is when the mark is looked for. -/
theorem dropExport_unmarked (named : IsName key) (blank : Blank left) (tail : List Char) :
    dropExport (key ++ left ++ '=' :: tail) = key ++ left ++ '=' :: tail :=
  if_neg (mt List.isPrefixOf_iff_prefix.mp (name_lacks_mark named blank tail))

/-- Behind the mark the text is trimmed once more. -/
theorem dropExport_marked (cs : List Char) : dropExport (exportMark ++ cs) = Text.trim cs := by
  have found : exportMark.isPrefixOf (exportMark ++ cs) = true :=
    List.isPrefixOf_iff_prefix.mpr (List.prefix_append ..)
  unfold dropExport
  rw [if_pos found, List.drop_left]

/-- A line without the mark, whatever blanks are in front of its name. -/
theorem ofLine?_unmarked (named : IsName key) (leading : Blank before) (blank : Blank left)
    (tail : List Char) :
    ofLine? (before ++ (key ++ left ++ '=' :: tail)) =
      some (String.ofList key, String.ofList (unquote (Text.trim tail))) := by
  obtain ⟨first, rest, spelled⟩ := List.exists_cons_of_ne_nil named.filled
  have trimmed := Text.trim_append_cons leading (named.start left) rfl tail
  have begins : (Text.trim (before ++ (key ++ left ++ '=' :: tail))).head? = some first := by
    rw [trimmed, spelled]
    rfl
  have uncommented : first ≠ '#' := by
    rintro rfl
    exact named.uncommented (congrArg List.head? spelled)
  have assignment := (congrArg dropExport trimmed).trans (dropExport_unmarked named blank _)
  rw [ofLine?_of_assignment named blank begins uncommented assignment, Text.trim_trimEnd]

/-- A line with the mark, whatever blanks are in front of it and behind it. -/
theorem ofLine?_marked {gap : List Char} (named : IsName key) (leading : Blank before)
    (wide : Blank gap) (blank : Blank left) (tail : List Char) :
    ofLine? (before ++ (exportMark ++ (gap ++ (key ++ left ++ '=' :: tail)))) =
      some (String.ofList key, String.ofList (unquote (Text.trim tail))) := by
  have shape (cs : List Char) : exportMark ++ (gap ++ (key ++ left ++ '=' :: cs)) =
      exportMark ++ gap ++ key ++ left ++ '=' :: cs := by
    simp only [List.append_assoc]
  have start : ∀ d, (exportMark ++ gap ++ key ++ left ++ ['=']).head? = some d →
      Text.isBlank d = false := by
    intro d head
    cases head
    rfl
  have trimmed : Text.trim (before ++ (exportMark ++ (gap ++ (key ++ left ++ '=' :: tail)))) =
      exportMark ++ (gap ++ (key ++ left ++ '=' :: Text.trimEnd tail)) := by
    rw [shape, Text.trim_append_cons leading start rfl, shape]
  have begins : (Text.trim (before ++
      (exportMark ++ (gap ++ (key ++ left ++ '=' :: tail))))).head? = some 'e' := by
    rw [trimmed]
    rfl
  -- The end of the line is trimmed with the mark, and once more without it.
  have assignment := calc
    dropExport (Text.trim (before ++ (exportMark ++ (gap ++ (key ++ left ++ '=' :: tail)))))
    _ = Text.trim (gap ++ (key ++ left ++ '=' :: Text.trimEnd tail)) := by
      rw [trimmed, dropExport_marked]
    _ = key ++ left ++ '=' :: Text.trimEnd (Text.trimEnd tail) :=
      Text.trim_append_cons wide (named.start left) rfl _
  rw [ofLine?_of_assignment named blank begins (by decide) assignment, Text.trim_trimEnd,
    Text.trim_trimEnd]

/-- A line is read back to the name and the value that it was written for. -/
theorem ofLine?_assigns {raw : List Char} {key value : String} (assigns : Assigns raw key value) :
    ofLine? raw = some (key, value) := by
  cases assigns with
  | @intro _ _ before mark left right body after named written marked blank =>
    simp only [List.forall_mem_cons, List.not_mem_nil, false_imp_iff, implies_true, and_true]
      at blank
    obtain ⟨leading, between, ahead, behind⟩ := blank
    have read : unquote (Text.trim (right ++ body ++ after)) = value.toList := by
      rw [Text.trim_surrounded ahead written.bare behind, unquote_written written]
    cases marked with
    | unmarked =>
      rw [List.nil_append, ofLine?_unmarked named leading between, read, String.ofList_toList,
        String.ofList_toList]
    | marked wide =>
      have line := ofLine?_marked named leading wide between (right ++ body ++ after)
      rw [read, String.ofList_toList, String.ofList_toList] at line
      simpa only [List.append_assoc] using line

end SchemaWipe.Settings.Variables
