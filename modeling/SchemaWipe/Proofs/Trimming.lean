import SchemaWipe.Text.Blank

/-! What trimming leaves of a text. Blanks go from either end up to the first character that is not
one, so a text that has none at its ends is found again whatever blanks are put around it. -/
namespace SchemaWipe.Text

/-- A text of blanks alone, possibly empty. -/
def Blank (cs : List Char) : Prop :=
  ∀ c ∈ cs, isBlank c = true

instance (cs : List Char) : Decidable (Blank cs) :=
  List.decidableBAll (isBlank · = true) cs

/-- A text with no blank at either end. -/
structure Bare (cs : List Char) : Prop where
  start : ∀ c, cs.head? = some c → isBlank c = false
  finish : ∀ c, cs.getLast? = some c → isBlank c = false

/-- A text without the blanks at its end. -/
def trimEnd (cs : List Char) : List Char :=
  (cs.reverse.dropWhile isBlank).reverse

variable {cs before after core : List Char} {c : Char} {outer : Char → Bool}

theorem dropWhile_of_start (start : ∀ c, cs.head? = some c → outer c = false) :
    cs.dropWhile outer = cs := by
  cases cs with
  | nil => rfl
  | cons c rest => rw [List.dropWhile_cons_of_neg (by simp [start c rfl])]

theorem dropWhile_of_all (all : ∀ c ∈ cs, outer c = true) : cs.dropWhile outer = [] := by
  have gone : (cs ++ []).dropWhile outer = [].dropWhile outer := List.dropWhile_append_of_pos all
  rwa [List.append_nil, List.dropWhile_nil] at gone

/-- What is dropped at the end of a text belongs to the class. -/
theorem dropWhile_reverse_split (outer : Char → Bool) (cs : List Char) :
    ∃ after, (∀ c ∈ after, outer c = true) ∧
      cs = (cs.reverse.dropWhile outer).reverse ++ after := by
  refine ⟨(cs.reverse.takeWhile outer).reverse, ?_, ?_⟩
  · intro c member
    exact List.all_eq_true.mp List.all_takeWhile c (List.mem_reverse.mp member)
  · rw [← List.reverse_append, List.takeWhile_append_dropWhile, List.reverse_reverse]

/-- What trimming removes at either end of a text belongs to the class. -/
theorem trimBy_split (outer : Char → Bool) (cs : List Char) :
    ∃ before after, (∀ c ∈ before, outer c = true) ∧ (∀ c ∈ after, outer c = true) ∧
      cs = before ++ trimBy outer cs ++ after := by
  obtain ⟨after, behind, shape⟩ := dropWhile_reverse_split outer (cs.dropWhile outer)
  refine ⟨cs.takeWhile outer, after, List.all_eq_true.mp List.all_takeWhile, behind, ?_⟩
  rw [List.append_assoc, trimBy, ← shape, List.takeWhile_append_dropWhile]

/-- Characters of a class around a text that has none at its ends are what trimming removes. -/
theorem trimBy_surrounded (ahead : ∀ c ∈ before, outer c = true)
    (start : ∀ c, core.head? = some c → outer c = false)
    (finish : ∀ c, core.getLast? = some c → outer c = false)
    (behind : ∀ c ∈ after, outer c = true) :
    trimBy outer (before ++ core ++ after) = core := by
  have turned : ∀ c ∈ after.reverse, outer c = true := by
    intro c member
    exact behind c (List.mem_reverse.mp member)
  have ends : core.reverse.dropWhile outer = core.reverse := by
    apply dropWhile_of_start
    intro c last
    exact finish c (List.head?_reverse ▸ last)
  rw [trimBy, List.append_assoc, List.dropWhile_append_of_pos ahead, List.dropWhile_append,
    dropWhile_of_start start]
  split
  · rename_i empty
    rw [List.isEmpty_iff.mp empty, dropWhile_of_all behind]
    rfl
  · rw [List.reverse_append, List.dropWhile_append_of_pos turned, ends, List.reverse_reverse]

theorem trim_eq (cs : List Char) : trim cs = trimEnd (cs.dropWhile isBlank) := rfl

theorem trim_blank_append (blank : Blank before) (cs : List Char) :
    trim (before ++ cs) = trim cs := by
  rw [trim_eq, List.dropWhile_append_of_pos blank, trim_eq]

theorem trimEnd_append_blank (blank : Blank after) (cs : List Char) :
    trimEnd (cs ++ after) = trimEnd cs := by
  have gone : ∀ c ∈ after.reverse, isBlank c = true := by
    intro c member
    exact blank c (List.mem_reverse.mp member)
  rw [trimEnd, List.reverse_append, List.dropWhile_append_of_pos gone, trimEnd]

theorem trimEnd_append_of_finish (filled : core ≠ [])
    (finish : ∀ c, core.getLast? = some c → isBlank c = false) (cs : List Char) :
    trimEnd (core ++ cs) = core ++ trimEnd cs := by
  obtain ⟨last, rest, reversed⟩ := List.exists_cons_of_ne_nil (mt List.reverse_eq_nil_iff.mp filled)
  have ends : isBlank last = false := finish last (by rw [← List.head?_reverse, reversed]; rfl)
  have stop : (last :: rest).dropWhile isBlank = last :: rest :=
    List.dropWhile_cons_of_neg (by simp [ends])
  unfold trimEnd
  rw [List.reverse_append, List.dropWhile_append, reversed, stop]
  split
  · rename_i gone
    rw [List.isEmpty_iff.mp gone, ← reversed]
    simp
  · rw [← reversed]
    simp

theorem trim_append_blank (blank : Blank after) (cs : List Char) :
    trim (cs ++ after) = trim cs := by
  rw [trim_eq, trim_eq, List.dropWhile_append]
  split
  · rename_i gone
    rw [List.isEmpty_iff.mp gone, dropWhile_of_all blank]
  · exact trimEnd_append_blank blank _

/-- What is trimmed at its end is trimmed to the same. -/
theorem trim_trimEnd (cs : List Char) : trim (trimEnd cs) = trim cs := by
  obtain ⟨after, blank, split⟩ : ∃ after, Blank after ∧ cs = trimEnd cs ++ after :=
    dropWhile_reverse_split isBlank cs
  rw [← trim_append_blank blank, ← split]

/-- Blanks around a text that has none at its ends are what trimming removes. -/
theorem trim_surrounded (blank : Blank before) (bare : Bare core) (behind : Blank after) :
    trim (before ++ core ++ after) = core :=
  trimBy_surrounded blank bare.start bare.finish behind

theorem trim_bare (bare : Bare core) : trim core = core := by
  have nothing : Blank [] := List.forall_mem_nil _
  have kept := trim_surrounded nothing bare nothing
  rwa [List.nil_append, List.append_nil] at kept

/-- Up to a character that is no blank, only the blanks in front of a text are removed. -/
theorem trim_append_cons (blank : Blank before)
    (start : ∀ d, (core ++ [c]).head? = some d → isBlank d = false) (visible : isBlank c = false)
    (cs : List Char) : trim (before ++ (core ++ c :: cs)) = core ++ c :: trimEnd cs := by
  have shape : core ++ c :: cs = (core ++ [c]) ++ cs := by simp
  have begins : ∀ d, (core ++ [c] ++ cs).head? = some d → isBlank d = false := by
    intro d first
    exact start d (by simpa [List.head?_append] using first)
  rw [trim_blank_append blank, shape, trim_eq, dropWhile_of_start begins,
    trimEnd_append_of_finish (by simp)]
  · simp
  · intro d last
    rw [List.getLast?_concat] at last
    cases last
    exact visible

end SchemaWipe.Text
