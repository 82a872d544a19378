import SchemaWipe.Proofs.Identifier
import SchemaWipe.Proofs.Trimming

/-! Which answers confirm a schema: its name with blanks around it, possibly none, and nothing else.
A plain name holds no blank, so the characters of an answer that are no blanks spell the one name
that it can confirm. Every other character counts, also one in another case or without a width. -/
namespace SchemaWipe

namespace Text

/-- A text is a core with blanks around it, possibly none. -/
def Surrounds (core cs : List Char) : Prop :=
  ∃ before after, Blank before ∧ Blank after ∧ cs = before ++ core ++ after

/-- Characters that take no room and are no blanks: the Mongolian vowel separator, the zero-width
space, non-joiner and joiner, the word joiner and the byte order mark. -/
def zeroWidth : List Char :=
  ['\u180e', '\u200b', '\u200c', '\u200d', '\u2060', '\ufeff']

/-- The characters of a text that are no blanks. -/
def visible (cs : List Char) : List Char :=
  cs.filter fun c => !isBlank c

variable {core cs front back : List Char} {c : Char} {s t : String}

theorem visible_blank (blank : Blank cs) : visible cs = [] := by
  apply List.filter_eq_nil_iff.mpr
  intro c member
  simp [blank c member]

theorem visible_self (unbroken : ∀ c ∈ cs, isBlank c = false) : visible cs = cs := by
  apply List.filter_eq_self.mpr
  intro c member
  simp [unbroken c member]

theorem mem_visible (member : c ∈ cs) (apart : isBlank c = false) : c ∈ visible cs :=
  List.mem_filter.mpr ⟨member, by simp [apart]⟩

theorem apart_of_zeroWidth (unseen : c ∈ zeroWidth) : isBlank c = false ∧ 0x7F < c.toNat := by
  have table : (zeroWidth.all fun c => !isBlank c && decide (0x7F < c.toNat)) = true := by decide
  simpa using List.all_eq_true.mp table c unseen

/-- Blanks around a core change nothing about what can be seen. -/
theorem Surrounds.visible_eq (surrounds : Surrounds core cs) : visible cs = visible core := by
  obtain ⟨before, after, ahead, behind, rfl⟩ := surrounds
  have front : visible before = [] := visible_blank ahead
  have back : visible after = [] := visible_blank behind
  unfold visible at front back ⊢
  rw [List.filter_append, List.filter_append, front, back, List.append_nil, List.nil_append]

/-- What is trimmed to a core without blanks is that core with blanks around it. -/
theorem trim_eq_iff_surrounds (unbroken : ∀ c ∈ core, isBlank c = false) :
    trim cs = core ↔ Surrounds core cs := by
  constructor
  · rintro rfl
    exact trimBy_split isBlank cs
  · rintro ⟨before, after, ahead, behind, rfl⟩
    refine trim_surrounded ahead ⟨?_, ?_⟩ behind
    · intro c first
      exact unbroken c (List.mem_of_head? first)
    · intro c last
      exact unbroken c (List.mem_of_getLast? last)

/-- Where a text is a core without blanks and blanks around it, all that stands before a blank is
blank, or all that stands behind it. -/
theorem Surrounds.blank_side (surrounds : Surrounds core (front ++ c :: back))
    (unbroken : ∀ c ∈ core, isBlank c = false) (blank : isBlank c = true) :
    Blank front ∨ Blank back := by
  obtain ⟨before, after, ahead, behind, shape⟩ := surrounds
  rw [List.append_assoc] at shape
  rcases List.append_eq_append_iff.mp shape with ⟨rest, rfl, inner⟩ | ⟨rest, rfl, inner⟩
  · left
    intro d member
    exact ahead d (List.mem_append_left rest member)
  · -- The blank stands behind the first blanks, so it is not in the core but among the last ones.
    right
    rcases List.append_eq_append_iff.mp inner with ⟨more, rfl, same⟩ | ⟨more, rfl, same⟩
    · intro d member
      refine behind d ?_
      rw [same]
      exact List.mem_append_right more (List.mem_cons_of_mem c member)
    · cases more with
      | nil =>
        intro d member
        refine behind d ?_
        rw [List.nil_append] at same
        exact same ▸ List.mem_cons_of_mem c member
      | cons e more =>
        obtain ⟨rfl, -⟩ := List.cons.inj same
        have seen := unbroken c (List.mem_append_right rest List.mem_cons_self)
        rw [blank] at seen
        cases seen

/-! ## Letter case -/

theorem lowerChar_ne_nil (c : Char) : lowerChar c ≠ [] := by
  unfold lowerChar
  split
  · simp
  · split <;> simp

theorem upperChar_ne_nil (c : Char) : upperChar c ≠ [] := by
  have expansions : ∀ entry ∈ upperExpansions, entry.2 ≠ [] := by decide
  unfold upperChar
  split
  · simp
  · split
    · rename_i letters found
      obtain ⟨before, after, table, -⟩ := List.lookup_eq_some_iff.mp found
      have filled := expansions (c.toNat, letters) (by simp [table])
      simpa using filled
    · simp

theorem length_lowerChar (ascii : c.toNat < 0x80) : (lowerChar c).length = 1 := by
  rw [lowerChar, if_pos ascii, List.length_singleton]

theorem length_upperChar (ascii : c.toNat < 0x80) : (upperChar c).length = 1 := by
  rw [upperChar, if_pos ascii, List.length_singleton]

/-- Where every character becomes at least one and those of a core exactly one, a text that becomes
the same as the core is no longer than it. -/
theorem length_le_of_flatMap_eq {f : Char → List Char} (filled : ∀ c, f c ≠ [])
    (single : ∀ c ∈ core, (f c).length = 1) (same : cs.flatMap f = core.flatMap f) :
    cs.length ≤ core.length := by
  have grown (ds : List Char) : ds.length ≤ (ds.flatMap f).length := by
    induction ds with
    | nil => exact Nat.zero_le _
    | cons c rest ih =>
      have first := List.length_pos_iff.mpr (filled c)
      rw [List.flatMap_cons, List.length_append, List.length_cons]
      omega
  have kept (ds : List Char) (single : ∀ c ∈ ds, (f c).length = 1) :
      (ds.flatMap f).length = ds.length := by
    induction ds with
    | nil => rfl
    | cons c rest ih =>
      obtain ⟨first, others⟩ := List.forall_mem_cons.mp single
      rw [List.flatMap_cons, List.length_append, first, ih others, List.length_cons, Nat.add_comm]
  calc cs.length ≤ (cs.flatMap f).length := grown cs
    _ = (core.flatMap f).length := by rw [same]
    _ = core.length := kept core single

/-- A text differs from another in the case of letters at most. -/
def SameLetters (s t : String) : Prop :=
  lower s = lower t ∨ upper s = upper t

/-- A text that has the letters of an ASCII text is no longer than it. -/
theorem SameLetters.length_le (same : SameLetters s t) (ascii : ∀ c ∈ t.toList, c.toNat < 0x80) :
    s.toList.length ≤ t.toList.length := by
  rcases same with lowered | raised
  · exact length_le_of_flatMap_eq lowerChar_ne_nil
      (fun c member => length_lowerChar (ascii c member)) (String.ofList_injective lowered)
  · exact length_le_of_flatMap_eq upperChar_ne_nil
      (fun c member => length_upperChar (ascii c member)) (String.ofList_injective raised)

end Text

namespace Guard
open Text (Blank Surrounds SameLetters zeroWidth)

variable {field schema other answer variant : String} {c : Char}

/-- A plain name holds no blank. -/
theorem Plain.unbroken (plain : Plain schema) : ∀ c ∈ schema.toList, Text.isBlank c = false := by
  intro c member
  have bounds := plain.code_bounds c member
  simp only [Text.isBlank, Text.isWhiteSpace, Bool.or_eq_false_iff, Bool.and_eq_false_iff,
    decide_eq_false_iff_not, beq_eq_false_iff_ne]
  omega

/-- A plain schema is confirmed exactly by its name with blanks around it. -/
theorem confirm_eq_ok_iff_surrounds (plain : Plain schema) :
    confirm schema (some answer) = .ok () ↔ Surrounds schema.toList answer.toList := by
  rw [confirm_eq_ok_iff, ← Text.trim_eq_iff_surrounds plain.unbroken]
  simp [Repeats]

theorem confirm_eq_error_iff (plain : Plain schema) :
    confirm schema (some answer) = .error (.confirmation schema) ↔
      ¬ Surrounds schema.toList answer.toList := by
  rw [← confirm_eq_ok_iff_surrounds plain]
  constructor
  · intro refused confirmed
    rw [refused] at confirmed
    cases confirmed
  · intro unconfirmed
    exact confirm_eq_error (mt confirm_eq_ok_iff.mpr unconfirmed)

/-- What can be seen of an answer that confirms a schema is the name of it. -/
theorem visible_of_surrounds (plain : Plain schema)
    (surrounds : Surrounds schema.toList answer.toList) :
    Text.visible answer.toList = schema.toList :=
  surrounds.visible_eq.trans (Text.visible_self plain.unbroken)

/-- A name in other letters does not confirm a schema, whatever blanks are around it. -/
theorem eq_of_sameLetters (plain : Plain schema) (same : SameLetters variant schema)
    (around : Surrounds variant.toList answer.toList)
    (surrounds : Surrounds schema.toList answer.toList) : variant = schema := by
  have seen : Text.visible variant.toList = schema.toList := by
    rw [← around.visible_eq, visible_of_surrounds plain surrounds]
  have short := same.length_le plain.ascii
  rw [← seen] at short
  have whole : Text.visible variant.toList = variant.toList :=
    List.filter_sublist.eq_of_length_le short
  exact String.toList_injective (whole.symm.trans seen)

/-- A schema that passes the check is confirmed exactly by its name with blanks around it, possibly
none. So one answer confirms no two such schemas; and the case of letters counts, and so do blanks
between other characters and characters without a width, wherever they stand. -/
theorem only_the_name_confirms (accepted : identifier field (some schema) = .ok schema) :
    (∀ answer, confirm schema (some answer) = .ok () ↔
      ∃ before after, Blank before ∧ Blank after ∧
        answer.toList = before ++ schema.toList ++ after) ∧
    (∀ other answer, identifier field (some other) = .ok other →
      confirm schema (some answer) = .ok () → confirm other (some answer) = .ok () →
      other = schema) ∧
    (∀ variant answer, SameLetters variant schema → variant ≠ schema →
      Surrounds variant.toList answer.toList →
      confirm schema (some answer) = .error (.confirmation schema)) ∧
    (∀ front c back, Text.isBlank c = true → ¬ Blank front → ¬ Blank back →
      confirm schema (some (String.ofList (front ++ c :: back))) =
        .error (.confirmation schema)) ∧
    ∀ answer, ∀ c ∈ zeroWidth, c ∈ answer.toList →
      confirm schema (some answer) = .error (.confirmation schema) := by
  have plain := (identifier_eq_ok_iff.mp accepted).2
  refine ⟨fun answer => confirm_eq_ok_iff_surrounds plain, ?_, ?_, ?_, ?_⟩
  · intro other answer other_accepted confirmed other_confirmed
    have other_plain := (identifier_eq_ok_iff.mp other_accepted).2
    rw [confirm_eq_ok_iff_surrounds plain] at confirmed
    rw [confirm_eq_ok_iff_surrounds other_plain] at other_confirmed
    apply String.toList_injective
    rw [← visible_of_surrounds plain confirmed, visible_of_surrounds other_plain other_confirmed]
  · intro variant answer same apart around
    rw [confirm_eq_error_iff plain]
    intro surrounds
    exact apart (eq_of_sameLetters plain same around surrounds)
  · intro front c back blank ahead behind
    rw [confirm_eq_error_iff plain, String.toList_ofList]
    intro surrounds
    exact (surrounds.blank_side plain.unbroken blank).elim ahead behind
  · intro answer c unseen member
    obtain ⟨visible, beyond⟩ := Text.apart_of_zeroWidth unseen
    rw [confirm_eq_error_iff plain]
    intro surrounds
    have inside := Text.mem_visible member visible
    rw [visible_of_surrounds plain surrounds] at inside
    have ascii := plain.ascii c inside
    omega

/-- A name is confirmed by itself between a no-break space and a line end, and by no longer name at
the same time. In capitals, with a space inside or behind a byte order mark it is refused. -/
theorem name_between_blanks_confirms :
    identifier "schema" (some "app_live") = .ok "app_live" ∧
    confirm "app_live" (some "\u00a0app_live\r\n") = .ok () ∧
    confirm "app_live_2" (some "\u00a0app_live\r\n") ≠ .ok () ∧
    confirm "app_live" (some " APP_live\n") = .error (.confirmation "app_live") ∧
    confirm "app_live" (some (String.ofList ("app_".toList ++ ' ' :: "live".toList))) =
      .error (.confirmation "app_live") ∧
    confirm "app_live" (some "\ufeffapp_live") = .error (.confirmation "app_live") := by
  have accepted : identifier "schema" (some "app_live") = .ok "app_live" := rfl
  obtain ⟨exactly, alone, cased, inner, unseen⟩ := only_the_name_confirms accepted
  have confirmed := (exactly "\u00a0app_live\r\n").mpr
    ⟨['\u00a0'], ['\r', '\n'], by decide, by decide, by decide⟩
  refine ⟨accepted, confirmed, ?_, ?_, ?_, ?_⟩
  · intro other_confirmed
    have same := alone "app_live_2" _ rfl confirmed other_confirmed
    exact absurd same (by decide)
  · exact cased "APP_live" " APP_live\n" (.inl (by decide)) (by decide)
      ⟨[' '], ['\n'], by decide, by decide, by decide⟩
  · exact inner "app_".toList ' ' "live".toList rfl (by decide) (by decide)
  · exact unseen "\ufeffapp_live" '\ufeff' (by decide) (by decide)

end Guard
end SchemaWipe
