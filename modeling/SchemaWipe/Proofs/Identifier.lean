import SchemaWipe.Guard

/-! Plain identifiers, told by their characters alone. The check before every operation accepts
these names and no others. Their characters are all ASCII, so a name that is short enough in
characters is short enough in octets, and the database keeps it whole. -/
namespace SchemaWipe.Guard

/-- A plain identifier: an ASCII letter or an underscore, and behind it ASCII letters, digits,
underscores and dollar signs, in all at most sixty-three characters. -/
structure Plain (name : String) : Prop where
  start : ∃ c rest, name.toList = c :: rest ∧ (c.isAlpha = true ∨ c = '_')
  chars : ∀ c ∈ name.toList, c.isAlphanum = true ∨ c = '_' ∨ c = '$'
  short : name.length ≤ 63

theorem isAlpha_iff {c : Char} :
    c.isAlpha = true ↔ ('A' ≤ c ∧ c ≤ 'Z') ∨ ('a' ≤ c ∧ c ≤ 'z') := by
  have upper : c.isUpper = true ↔ 'A' ≤ c ∧ c ≤ 'Z' := decide_eq_true_iff
  have lower : c.isLower = ('a' ≤ c && c ≤ 'z') := rfl
  have either : c.isAlpha = (c.isUpper || c.isLower) := rfl
  simp only [either, lower, upper, Bool.or_eq_true, Bool.and_eq_true, decide_eq_true_eq]

theorem startsIdentifier_iff {c : Char} :
    startsIdentifier c = true ↔ c.isAlpha = true ∨ c = '_' := by
  simp only [startsIdentifier, isAlpha_iff, Bool.or_eq_true, Bool.and_eq_true, decide_eq_true_eq,
    beq_iff_eq]

theorem continuesIdentifier_iff {c : Char} :
    continuesIdentifier c = true ↔ c.isAlphanum = true ∨ c = '_' ∨ c = '$' := by
  have digit : ('0' ≤ c && c ≤ '9') = c.isDigit := rfl
  simp only [continuesIdentifier, digit, Bool.or_eq_true, startsIdentifier_iff, Char.isAlphanum,
    beq_iff_eq]
  rw [or_right_comm (b := c = '_'), or_assoc (c := c = '$')]

/-- The check accepts exactly the plain identifiers. -/
theorem isIdentifier_iff {name : String} : isIdentifier name.toList = true ↔ Plain name := by
  cases spelled : name.toList with
  | nil =>
    refine iff_of_false (by simp [isIdentifier]) ?_
    rintro ⟨⟨c, rest, same, -⟩, -, -⟩
    rw [spelled] at same
    cases same
  | cons c rest =>
    have size : name.length = rest.length + 1 := by
      rw [← String.length_toList, spelled, List.length_cons]
    simp only [isIdentifier, Bool.and_eq_true, decide_eq_true_eq, List.all_eq_true,
      startsIdentifier_iff, continuesIdentifier_iff, List.length_cons, ← size]
    constructor
    · rintro ⟨⟨short, start⟩, others⟩
      refine ⟨⟨c, rest, spelled, start⟩, ?_, short⟩
      rw [spelled]
      intro d member
      rcases List.mem_cons.mp member with rfl | later
      · rcases start with letter | line
        · exact .inl (by simp [Char.isAlphanum, letter])
        · exact .inr (.inl line)
      · exact others d later
    · rintro ⟨⟨d, others, same, start⟩, chars, short⟩
      rw [spelled] at same chars
      cases same
      exact ⟨⟨short, start⟩,
        fun d member => chars d (List.mem_cons_of_mem c member)⟩

theorem identifier_eq_ok_iff {field name : String} {given : Option String} :
    identifier field given = .ok name ↔ given = some name ∧ Plain name := by
  cases given with
  | none => simp [identifier]
  | some s =>
    rw [identifier]
    by_cases plain : isIdentifier s.toList = true
    · simp only [plain, ↓reduceIte, Except.ok.injEq, Option.some.injEq]
      constructor
      · rintro rfl
        exact ⟨rfl, isIdentifier_iff.mp plain⟩
      · exact And.left
    · simp only [plain, Option.some.injEq]
      refine iff_of_false (by simp) ?_
      rintro ⟨rfl, named⟩
      exact plain (isIdentifier_iff.mpr named)

theorem identifier_eq_error {field : String} {given : Option String}
    (other : ∀ name, given = some name → ¬ Plain name) :
    identifier field given = .error (.identifier field) := by
  cases given with
  | none => rfl
  | some s =>
    have rejected := mt isIdentifier_iff.mp (other s rfl)
    rw [identifier, if_neg rejected]

/-- The characters of a plain identifier lie between the dollar sign and the letter z. -/
theorem Plain.code_bounds {name : String} (plain : Plain name) :
    ∀ c ∈ name.toList, 0x24 ≤ c.toNat ∧ c.toNat ≤ 0x7A := by
  intro c member
  rcases plain.chars c member with letter | rfl | rfl
  · have digit : c.isDigit = ('0' ≤ c && c ≤ '9') := rfl
    simp only [Char.isAlphanum, Bool.or_eq_true, isAlpha_iff, digit, Bool.and_eq_true,
      decide_eq_true_eq, Char.le_def, UInt32.le_iff_toNat_le] at letter
    have code : c.toNat = c.val.toNat := rfl
    have A : 'A'.val.toNat = 65 := rfl
    have Z : 'Z'.val.toNat = 90 := rfl
    have a : 'a'.val.toNat = 97 := rfl
    have z : 'z'.val.toNat = 122 := rfl
    have zero : '0'.val.toNat = 48 := rfl
    have nine : '9'.val.toNat = 57 := rfl
    omega
  · decide
  · decide

/-- The characters of a plain identifier are ASCII. -/
theorem Plain.ascii {name : String} (plain : Plain name) : ∀ c ∈ name.toList, c.toNat < 128 := by
  intro c member
  have bounds := plain.code_bounds c member
  omega

/-- A text of ASCII characters takes one octet for each. -/
theorem utf8ByteSize_of_ascii {cs : List Char} (ascii : ∀ c ∈ cs, c.toNat < 128) :
    (String.ofList cs).utf8ByteSize = cs.length := by
  induction cs with
  | nil => rfl
  | cons c rest ih =>
    have single : c.utf8Size = 1 := by
      have small : c.val ≤ 127 := UInt32.le_iff_toNat_le.mpr
        (Nat.le_of_lt_succ (ascii c List.mem_cons_self))
      simp only [Char.utf8Size]
      exact if_pos small
    have others := ih fun d member => ascii d (List.mem_cons_of_mem c member)
    rw [String.ofList_cons, String.utf8ByteSize_append, others, String.utf8ByteSize_singleton,
      single, List.length_cons, Nat.add_comm]

/-- A plain identifier takes at most sixty-three octets. -/
theorem Plain.utf8ByteSize_le {name : String} (plain : Plain name) : name.utf8ByteSize ≤ 63 := by
  have size := utf8ByteSize_of_ascii plain.ascii
  rw [String.ofList_toList, String.length_toList] at size
  exact size ▸ plain.short

end SchemaWipe.Guard
