import SchemaWipe.Proofs.VariableFile

/-! Files of variables put one behind the other. Wherever a text is cut at a line feed, its two
parts are read one after the other: what the second sets wins over what the first sets, and nothing
is read across the cut. Names that are read are never empty, have no sign in them and no blanks
around them. -/
namespace SchemaWipe.Text

variable {cs : List Char} {c : Char}

/-- A text is one line, or a line with a boundary and a further text behind it. -/
@[elab_as_elim]
theorem lineInduction {motive : List Char → Prop}
    (last : ∀ line, Unbroken line → motive line)
    (broken : ∀ line c rest, Unbroken line → isLineBoundary c = true → motive rest →
      motive (line ++ c :: rest)) (cs : List Char) : motive cs := by
  -- The characters passed so far are the line that is open.
  suffices opened : ∀ line, Unbroken line → motive (line ++ cs) from opened [] (by decide)
  induction cs with
  | nil =>
    intro line unbroken
    rw [List.append_nil]
    exact last line unbroken
  | cons c rest ih =>
    intro line unbroken
    by_cases boundary : isLineBoundary c = true
    · exact broken line c rest unbroken boundary (ih [] (by decide))
    · have longer : Unbroken (line ++ [c]) := by
        intro d member
        rcases List.mem_append.mp member with inside | end_
        · exact unbroken d inside
        · rw [List.mem_singleton.mp end_]
          simpa using boundary
      have passed := ih (line ++ [c]) longer
      rwa [List.append_assoc, List.singleton_append] at passed

theorem visible_of_head?_dropWhile (first : (cs.dropWhile isBlank).head? = some c) :
    isBlank c = false := by
  have stops := List.head?_dropWhile_not isBlank cs
  rw [first] at stops
  simpa using stops

theorem trimEnd_initial (cs : List Char) : trimEnd cs <+: cs := by
  rw [trimEnd, ← List.reverse_suffix, List.reverse_reverse]
  exact List.dropWhile_suffix isBlank

/-- What trimming leaves of a text has no blank at either end. -/
theorem bare_trim (cs : List Char) : Bare (trim cs) := by
  constructor
  · intro c first
    obtain ⟨gone, whole⟩ := trimEnd_initial (cs.dropWhile isBlank)
    have front : (cs.dropWhile isBlank).head? = some c := by
      rw [← whole, List.head?_append, ← trim_eq, first, Option.some_or]
    exact visible_of_head?_dropWhile front
  · intro c last
    rw [trim_eq, trimEnd, List.getLast?_reverse] at last
    exact visible_of_head?_dropWhile last

theorem mem_of_mem_trim (member : c ∈ trim cs) : c ∈ cs := by
  have inner := (trimEnd_initial (cs.dropWhile isBlank)).subset member
  exact (List.dropWhile_suffix isBlank).subset inner

end SchemaWipe.Text

namespace SchemaWipe.Settings.Variables
open Text (Bare Unbroken)

/-- A name as lines set it. -/
structure IsKey (key : List Char) : Prop where
  filled : key ≠ []
  unsigned : '=' ∉ key
  bare : Bare key

variable {raw text line : List Char} {name value : String} {c : Char} {files : Files}
  {path : String} {env : Variables}

theorem settings_broken (unbroken : Unbroken raw) (boundary : Text.isLineBoundary c = true)
    (text : List Char) : settings (raw ++ c :: text) = (ofLine? raw).toList ++ settings text := by
  obtain ⟨more, opened, rest⟩ := lines_behind boundary text
  rw [settings_opened unbroken opened, rest]

/-- A line feed between two texts keeps their settings apart, whatever stands before or behind it:
also where the first text ends in a carriage return, or in the middle of a line. -/
theorem settings_joined (first second : List Char) :
    settings (first ++ '\n' :: second) = settings first ++ settings second := by
  induction first using Text.lineInduction with
  | last line unbroken => rw [settings_broken unbroken rfl, settings_unbroken unbroken]
  | broken line c rest unbroken boundary ih =>
    rw [List.append_assoc, List.cons_append, settings_broken unbroken boundary, ih,
      settings_broken unbroken boundary, List.append_assoc]

theorem isKey_of_ofLine? (read : ofLine? line = some (name, value)) : IsKey name.toList := by
  unfold ofLine? at read
  dsimp only at read
  split at read
  · cases read
  · split at read
    · cases read
    · split at read
      · cases read
      · rename_i filled
        cases read
        rw [String.toList_ofList]
        refine ⟨by simpa using filled, ?_, Text.bare_trim _⟩
        intro member
        have passed := List.all_eq_true.mp List.all_takeWhile _ (Text.mem_of_mem_trim member)
        simp at passed

theorem isKey_of_settings (member : name ∈ (settings text).map Prod.fst) : IsKey name.toList := by
  obtain ⟨⟨key, value⟩, among, rfl⟩ := List.mem_map.mp member
  obtain ⟨line, -, read⟩ := List.mem_filterMap.mp among
  exact isKey_of_ofLine? read

/-- A file sets what the lines of its text set, one after the other. -/
theorem ofFile_eq {text : String} (held : files.content? (Path.ofText path) = some text.toUTF8) :
    ofFile files path = .ok (Named.override [] (settings text.toList)) := by
  rw [ofFile, held]
  simp only [decodeFile?_toUTF8, String.toList_ofList, ofText_unified]

/-- What a file sets are the settings of some text. -/
theorem settings_of_ofFile (read : ofFile files path = .ok env) :
    ∃ text, env = Named.override [] (settings text) := by
  unfold ofFile at read
  dsimp only at read
  split at read
  · cases read
  · split at read
    · cases read
    · rename_i content held text decoded
      cases read
      exact ⟨text.toList, rfl⟩

/-- A file that holds two texts with a line feed between them sets what the file of the first sets,
overridden by what the file of the second sets: a name has the value that the second gives it, or
else the one that the first does. Names that a file sets are different, and each is one that a line
can set. -/
theorem joined_files_are_read_in_turn :
    (∀ (files : Files) first second both (before behind : String),
      files.content? (Path.ofText first) = some before.toUTF8 →
      files.content? (Path.ofText second) = some behind.toUTF8 →
      files.content? (Path.ofText both) = some (before ++ "\n" ++ behind).toUTF8 →
      ∃ env env', ofFile files first = .ok env ∧ ofFile files second = .ok env' ∧
        ofFile files both = .ok (env.override env') ∧
        ∀ name, (env.override env').get? name = (env'.get? name).or (env.get? name)) ∧
    ∀ files path env, ofFile files path = .ok env →
      (env.map Prod.fst).Nodup ∧ ∀ name ∈ env.map Prod.fst, IsKey name.toList := by
  constructor
  · intro files first second both before behind held held' together
    have unique := Named.nodup_override_nil (settings behind.toList)
    refine ⟨_, _, ofFile_eq held, ofFile_eq held', ?_, Named.get?_override _ unique⟩
    have text : (before ++ "\n" ++ behind).toList = before.toList ++ '\n' :: behind.toList := by
      simp
    rw [ofFile_eq together, text, settings_joined, Named.override_nil_append]
  · intro files path env read
    obtain ⟨text, rfl⟩ := settings_of_ofFile read
    refine ⟨Named.nodup_override_nil _, fun name member => ?_⟩
    rcases Named.mem_names_override.mp member with none_ | among
    · cases none_
    · exact isKey_of_settings among

/-- Three files, the last one of which holds the texts of the others. The first text ends in a
carriage return, the second begins with a line feed and sets a name again. -/
def joinedFiles : Files :=
  ((({} : Files).write "a" "A=1\nB='2\r".toUTF8).write "b" "\n export A = 3".toUTF8).write "ab"
    ("A=1\nB='2\r" ++ "\n" ++ "\n export A = 3").toUTF8

/-- The line end before the cut and the one at it count as one, and the one behind it opens a blank
line. -/
theorem cut_behind_carriage_return_is_read :
    ofFile joinedFiles "a" = .ok [("A", "1"), ("B", "'2")] ∧
    ofFile joinedFiles "b" = .ok [("A", "3")] ∧
    ofFile joinedFiles "ab" = .ok [("A", "3"), ("B", "'2")] ∧
    ∀ name ∈ ["A", "B"], IsKey name.toList := by
  have held : joinedFiles.content? (Path.ofText "a") = some "A=1\nB='2\r".toUTF8 := rfl
  have held' : joinedFiles.content? (Path.ofText "b") = some "\n export A = 3".toUTF8 := rfl
  have first : ofFile joinedFiles "a" = .ok [("A", "1"), ("B", "'2")] :=
    (ofFile_eq held).trans rfl
  have second : ofFile joinedFiles "b" = .ok [("A", "3")] := (ofFile_eq held').trans rfl
  obtain ⟨joined, keys⟩ := joined_files_are_read_in_turn
  obtain ⟨env, env', read, read', both, -⟩ := joined joinedFiles "a" "b" "ab" _ _ held held' rfl
  cases first.symm.trans read
  cases second.symm.trans read'
  exact ⟨first, second, both, (keys _ _ _ both).2⟩

end SchemaWipe.Settings.Variables
