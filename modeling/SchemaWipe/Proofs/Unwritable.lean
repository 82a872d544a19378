import SchemaWipe.Proofs.Fields

/-! Values that cannot be written: those with a whole number in them that has too many digits. A
conversion that has to write such a value breaks down, and so does one of an infinite number into a
whole one; nothing else does. -/
namespace SchemaWipe

namespace Value

/-- A whole number has more digits than may be written. -/
def TooLong (i : Int) : Prop :=
  Number.digitLimit < (Nat.toDigits 10 i.natAbs).length

theorem not_tooLong {i : Int} (small : i.natAbs < 10000000000000000) : ¬ TooLong i := by
  have short : (Nat.toDigits 10 i.natAbs).length ≤ 16 :=
    (Nat.length_toDigits_le_iff (by decide) (by decide)).mpr small
  exact Nat.not_lt.mpr (Nat.le_trans short (by decide))

/-- A value holds a whole number with too many digits, at any depth. -/
inductive Overlong : Value → Prop where
  | int {i : Int} (long : TooLong i) : Overlong (.int i)
  | item {items : List Value} {item : Value} (among : item ∈ items) (long : Overlong item) :
      Overlong (.list items)
  | first {first second : Value} (long : Overlong first) : Overlong (.pair first second)
  | second {first second : Value} (long : Overlong second) : Overlong (.pair first second)
  | member {members : List Value} {member : Value} (among : member ∈ members)
      (long : Overlong member) : Overlong (.set members)
  | key {entries : List (Value × Value)} {key value : Value} (among : (key, value) ∈ entries)
      (long : Overlong key) : Overlong (.mapping entries)
  | entry {entries : List (Value × Value)} {key value : Value} (among : (key, value) ∈ entries)
      (long : Overlong value) : Overlong (.mapping entries)

theorem overlong_int_iff {i : Int} : (Value.int i).Overlong ↔ TooLong i := by
  constructor
  · rintro ⟨long⟩
    exact long
  · exact .int

theorem overlong_list_iff {items : List Value} :
    (Value.list items).Overlong ↔ ∃ item ∈ items, item.Overlong := by
  constructor
  · rintro (_ | ⟨among, long⟩)
    exact ⟨_, among, long⟩
  · rintro ⟨_, among, long⟩
    exact .item among long

theorem overlong_pair_iff {first second : Value} :
    (Value.pair first second).Overlong ↔ first.Overlong ∨ second.Overlong := by
  constructor
  · rintro (_ | _ | long | long)
    · exact .inl long
    · exact .inr long
  · rintro (long | long)
    · exact .first long
    · exact .second long

theorem overlong_set_iff {members : List Value} :
    (Value.set members).Overlong ↔ ∃ member ∈ members, member.Overlong := by
  constructor
  · rintro (_ | _ | _ | _ | ⟨among, long⟩)
    exact ⟨_, among, long⟩
  · rintro ⟨_, among, long⟩
    exact .member among long

theorem overlong_mapping_iff {entries : List (Value × Value)} :
    (Value.mapping entries).Overlong ↔ ∃ entry ∈ entries, entry.1.Overlong ∨ entry.2.Overlong := by
  constructor
  · rintro (_ | _ | _ | _ | _ | ⟨among, long⟩ | ⟨among, long⟩)
    · exact ⟨_, among, .inl long⟩
    · exact ⟨_, among, .inr long⟩
  · rintro ⟨_, among, long | long⟩
    · exact .key among long
    · exact .entry among long

/-- Something is written, unless a number in it is too long. -/
inductive Writes {α : Type} (long : Prop) : Except Breakdown α → Prop where
  | written (written : α) (fine : ¬ long) : Writes long (.ok written)
  | refused (refused : long) : Writes long (.error .unwritableInteger)

namespace Writes

variable {α β : Type} {p q : Prop} {x : Except Breakdown α} {f : α → Except Breakdown β}

theorem congr (writes : Writes p x) (same : q ↔ p) : Writes q x :=
  propext same ▸ writes

theorem exists_written (writes : Writes p x) (fine : ¬ p) : ∃ written, x = .ok written := by
  cases writes with
  | written a _ => exact ⟨a, rfl⟩
  | refused long => exact absurd long fine

/-- What is written in steps is refused if one of them is. -/
theorem bind (writes : Writes p x) (more : ∀ a, Writes q (f a)) : Writes (p ∨ q) (x >>= f) := by
  cases writes with
  | refused long => exact .refused (.inl long)
  | written a fine => exact (more a).congr (or_iff_right fine)

/-- What is made of a written text is refused only with it. -/
theorem map (writes : Writes p x) (f : α → β) : Writes p (x >>= fun a => pure (f a)) := by
  cases writes with
  | refused long => exact .refused long
  | written a fine => exact .written (f a) fine

end Writes

theorem integerText_writes (i : Int) : Writes (TooLong i) (integerText i) := by
  unfold integerText Number.writeInteger? TooLong
  by_cases long : Number.digitLimit < (Nat.toDigits 10 i.natAbs).length
  · simp only [long, if_true]
    exact .refused trivial
  · simp only [long, if_false]
    exact .written _ id

mutual

/-- A value has a notation unless a number in it is too long. -/
theorem literal_writes (value : Value) : Writes value.Overlong value.literal := by
  cases value with
  | int i => exact (integerText_writes i).congr overlong_int_iff
  | list items => exact ((literals_writes items).map _).congr overlong_list_iff
  | pair first second =>
    exact ((literal_writes first).bind fun _ => (literal_writes second).map _).congr
      overlong_pair_iff
  | set members => exact ((literals_writes members).map _).congr overlong_set_iff
  | mapping entries => exact ((entryLiterals_writes entries).map _).congr overlong_mapping_iff
  | _ => exact .written _ nofun

theorem literals_writes (values : List Value) :
    Writes (∃ value ∈ values, value.Overlong) (literals values) := by
  cases values with
  | nil => exact .written _ (by simp)
  | cons value rest =>
    refine ((literal_writes value).bind fun _ => (literals_writes rest).map _).congr ?_
    simp

theorem entryLiterals_writes (entries : List (Value × Value)) :
    Writes (∃ entry ∈ entries, entry.1.Overlong ∨ entry.2.Overlong)
      (entryLiterals entries) := by
  cases entries with
  | nil => exact .written _ (by simp)
  | cons entry rest =>
    obtain ⟨key, value⟩ := entry
    refine ((literal_writes key).bind fun _ => (literal_writes value).bind fun _ =>
      (entryLiterals_writes rest).map _).congr ?_
    simp [or_assoc]

end

/-- A value has a text unless a number in it is too long. -/
theorem shown_writes (value : Value) : Writes value.Overlong value.shown := by
  cases value with
  | text s => exact .written s nofun
  | date d => exact .written d.text nofun
  | moment m => exact .written m.text nofun
  | _ => exact literal_writes _

end Value

namespace Settings

/-- A computation ends in a failure that is none of the faults of settings. -/
def BreaksDown {α : Type} (x : Except Error α) : Prop :=
  ∃ cause, x = .error (.breakdown cause)

variable {α β : Type} {x : Except Error α} {f : α → Except Error β}

theorem breaksDown_iff_failure? : BreaksDown x ↔ ∃ cause, failure? x = some (.breakdown cause) :=
  exists_congr fun _ => eq_error_iff

theorem not_breaksDown_ok (a : α) : ¬ BreaksDown (.ok a) := by
  rintro ⟨_, ⟨⟩⟩

theorem not_breaksDown_fault (cause : Fault) :
    ¬ BreaksDown (.error (.fault cause) : Except Error α) := by
  rintro ⟨_, ⟨⟩⟩

/-- Steps break down if the first does, or if it leads to one that does. -/
theorem breaksDown_bind_iff : BreaksDown (x >>= f) ↔
    BreaksDown x ∨ ∃ a, x = .ok a ∧ BreaksDown (f a) := by
  cases x with
  | error e => simp [BreaksDown, bind, Except.bind]
  | ok a => simp [not_breaksDown_ok, bind, Except.bind]

/-- To show a text breaks down if a number in it is too long. -/
theorem breaksDown_shownOr_iff {p : Prop} {text : Except Breakdown String}
    (writes : Value.Writes p text) : BreaksDown (shownOr text) ↔ p := by
  cases writes with
  | written s fine => exact iff_of_false (not_breaksDown_ok s) fine
  | refused long => exact iff_of_true ⟨_, rfl⟩ long

/-- To say what is wrong breaks down only where it cannot be shown. -/
theorem breaksDown_told_iff {p : Prop} {text : Except Breakdown String} {fault : String → Fault}
    (writes : Value.Writes p text) :
    BreaksDown (shownOr text >>= fun shown => (throw (.fault (fault shown)) : Except Error α)) ↔
      p := by
  rw [breaksDown_bind_iff, breaksDown_shownOr_iff writes, or_iff_left]
  rintro ⟨shown, -, told⟩
  exact not_breaksDown_fault _ told

namespace Field

/-- A value breaks the conversion for a field: it is an infinite number where a whole one is needed,
or it has to be shown and cannot be. -/
def BrokenBy (value : Value) : Field → Prop
  | port =>
    (∃ negative, value = .float (.infinite negative)) ∨
      (∃ n, wholeNumber value = .ok n ∧ Value.TooLong n) ∨
      wholeNumber value = .error .unfit ∧ value.Overlong
  | connectTimeout =>
    (∃ negative, value = .float (.infinite negative)) ∨
      wholeNumber value = .error .unfit ∧ value.Overlong
  | _ => value.Overlong

end Field

theorem wholeNumber_eq_infinite_iff {value : Value} : wholeNumber value = .error .infinite ↔
    ∃ negative, value = .float (.infinite negative) := by
  have written (cs : List Char) : writtenInteger cs ≠ .error .infinite := by
    unfold writtenInteger
    split <;> nofun
  cases value with
  | float x => cases x <;> simp [wholeNumber]
  | text s => simp [wholeNumber, written]
  | octets bytes =>
    rw [wholeNumber]
    split <;> simp [written]
  | _ => simp [wholeNumber]

theorem breaksDown_asText_iff {value : Value} : BreaksDown (asText value) ↔ value.Overlong := by
  cases value with
  | null => exact iff_of_false (not_breaksDown_ok _) nofun
  | _ => exact breaksDown_shownOr_iff (Value.shown_writes _)

theorem breaksDown_switch_iff {field : String} {value : Value} :
    BreaksDown (switch field value) ↔ value.Overlong := by
  unfold switch
  cases known : switch? value with
  | none => exact breaksDown_told_iff value.literal_writes
  | some b =>
    refine iff_of_false (not_breaksDown_ok b) ?_
    cases value with
    | bool b => nofun
    | text s => nofun
    | _ => cases known

theorem breaksDown_timeout_iff {value : Value} :
    BreaksDown (timeout value) ↔ Field.connectTimeout.BrokenBy value := by
  unfold timeout Field.BrokenBy
  rw [← wholeNumber_eq_infinite_iff]
  rcases wholeNumber value with (_ | _) | n
  · simpa using breaksDown_told_iff value.literal_writes
  · simp [BreaksDown]
  · by_cases positive : 0 < n <;> simp [positive, BreaksDown]

theorem breaksDown_port_iff {value : Value} :
    BreaksDown (port value) ↔ Field.port.BrokenBy value := by
  unfold port Field.BrokenBy
  rw [← wholeNumber_eq_infinite_iff]
  rcases wholeNumber value with (_ | _) | n
  · simpa using breaksDown_told_iff value.literal_writes
  · simp [BreaksDown]
  · have outcome : BreaksDown (if 0 < n ∧ n < 65536 then Except.ok n else do
        let _ ← shownOr (Value.integerText n)
        throw (.fault (.portOutOfRange n))) ↔ Value.TooLong n := by
      split
      · rename_i allowed
        exact iff_of_false (not_breaksDown_ok n) (Value.not_tooLong (by omega))
      · exact breaksDown_told_iff (Value.integerText_writes n)
    simpa using outcome

/-- A value that is given to a field makes its conversion break down exactly if it is one that the
conversion cannot deal with. -/
theorem Field.breaks_iff {value : Value} (x : Field) :
    (∃ cause, x.failure? value = some (.breakdown cause)) ↔ x.BrokenBy value := by
  cases x with
  | port => exact breaksDown_iff_failure?.symm.trans breaksDown_port_iff
  | connectTimeout => exact breaksDown_iff_failure?.symm.trans breaksDown_timeout_iff
  | requireConfirmation => exact breaksDown_iff_failure?.symm.trans breaksDown_switch_iff
  | allowRemoteReset => exact breaksDown_iff_failure?.symm.trans breaksDown_switch_iff
  | _ => exact breaksDown_iff_failure?.symm.trans breaksDown_asText_iff

end Settings
end SchemaWipe
