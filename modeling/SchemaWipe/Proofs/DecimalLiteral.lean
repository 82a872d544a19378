import SchemaWipe.Proofs.Trimming
import SchemaWipe.Number.Literal
import Mathlib.Data.Nat.Digits.Defs

/-! Decimal literals: how whole numbers are written. A text is read as a whole number exactly if it
is a literal for it: digits of any script, between two of which a single underscore may stand, with
or without a sign in front, and white space around. -/
namespace SchemaWipe

namespace Text

variable {c : Char} {v : Nat}

theorem le_iff_toNat {a b : Char} : a ≤ b ↔ a.toNat ≤ b.toNat :=
  UInt32.le_iff_toNat_le

/-- Where a digit stands among the characters: in ASCII, or up to nine places behind a zero. -/
theorem digitValue?_eq_some (read : digitValue? c = some v) :
    v < 10 ∧ (48 ≤ c.toNat ∧ c.toNat ≤ 57 ∨
      ∃ first ∈ digitZeros, first ≤ c.toNat ∧ c.toNat < first + 10) := by
  unfold digitValue? at read
  split at read
  · rename_i ascii
    simp only [Bool.and_eq_true, decide_eq_true_eq, le_iff_toNat, Char.reduceToNat] at ascii
    cases read
    simp only [Char.reduceToNat]
    omega
  · split at read
    · cases read
    · obtain ⟨first, found, rfl⟩ := Option.map_eq_some_iff.mp read
      have here := List.find?_some found
      simp only [Bool.and_eq_true, decide_eq_true_eq] at here
      exact ⟨by omega, .inr ⟨first, List.mem_of_find?_eq_some found, here⟩⟩

/-- A digit of any script is no white space. -/
theorem isWhiteSpace_digit (digit : isDigit c = true) : isWhiteSpace c = false := by
  have apart : ∀ first ∈ digitZeros, 0x660 ≤ first ∧
      (first + 10 ≤ 0x1680 ∨ 0x1681 ≤ first ∧ first + 10 ≤ 0x2000 ∨ 0x3001 ≤ first) := by decide
  obtain ⟨v, read⟩ := Option.isSome_iff_exists.mp digit
  obtain ⟨-, place⟩ := digitValue?_eq_some read
  simp only [isWhiteSpace, Bool.or_eq_false_iff, Bool.and_eq_false_iff, decide_eq_false_iff_not,
    beq_eq_false_iff_ne]
  rcases place with ascii | ⟨first, among, low, high⟩
  · omega
  · have outside := apart first among
    omega

/-- An ASCII letter is no digit. -/
theorem digitValue?_letter (letter : 65 ≤ c.toNat ∧ c.toNat ≤ 122) : digitValue? c = none := by
  have beyond : ∀ first ∈ digitZeros, 0x660 ≤ first := by decide
  rw [Option.eq_none_iff_forall_ne_some]
  intro v read
  obtain ⟨-, ascii | ⟨first, among, low, -⟩⟩ := digitValue?_eq_some read
  · omega
  · have far := beyond first among
    omega

/-- In base ten the digits are those of all scripts, and no letters. -/
theorem digitValueIn?_ten (c : Char) : digitValueIn? 10 c = digitValue? c := by
  unfold digitValueIn?
  simp only [Bool.and_eq_true, decide_eq_true_eq, le_iff_toNat, Char.reduceToNat]
  split
  · rename_i small
    rw [digitValue?_letter (by omega), Option.filter_some, if_neg (by simp)]
  · split
    · rename_i capital
      rw [digitValue?_letter (by omega), Option.filter_some, if_neg (by simp)]
    · cases read : digitValue? c with
      | none => rfl
      | some v =>
        have small := (digitValue?_eq_some read).1
        rw [Option.filter_some, if_pos (by simpa using small)]

/-- A digit of any script in base ten. -/
theorem isSome_digitValueIn?_ten : (fun c => (digitValueIn? 10 c).isSome) = isDigit := by
  funext c
  rw [digitValueIn?_ten, isDigit]

end Text

namespace Number
open Text

/-- A run of digits, in which single underscores may stand between two, and its digits alone. -/
inductive Grouped : List Char → List Char → Prop where
  | last {c : Char} (digit : isDigit c = true) : Grouped [c] [c]
  | next {c : Char} {body digits : List Char} (digit : isDigit c = true)
      (more : Grouped body digits) : Grouped (c :: body) (c :: digits)
  | spaced {c : Char} {body digits : List Char} (digit : isDigit c = true)
      (more : Grouped body digits) : Grouped (c :: '_' :: body) (c :: digits)

/-- The number that digits of any script write in base ten, the last one counting for ones. -/
def digitsValue (digits : List Char) : Nat :=
  Nat.ofDigits 10 (digits.reverse.map fun c => (digitValue? c).getD 0)

/-- The signs that may stand in front of a number, with what they do to it. -/
def signs : List (List Char × Int) :=
  [([], 1), (['+'], 1), (['-'], -1)]

/-- A text is a decimal literal for a whole number: a sign or none and digits, as many as may be
read, with white space around. -/
inductive Literal : List Char → Int → Prop where
  | intro {before sign body after digits : List Char} {factor : Int}
      (ahead : ∀ c ∈ before, isWhiteSpace c = true) (signed : (sign, factor) ∈ signs)
      (grouped : Grouped body digits) (short : digits.length ≤ digitLimit)
      (behind : ∀ c ∈ after, isWhiteSpace c = true) :
      Literal (before ++ (sign ++ body) ++ after) (factor * digitsValue digits)

variable {cs body digits sign : List Char} {factor i : Int}

theorem ofDigits_eq_digitsValue (digits : List Char) : ofDigits 10 digits = digitsValue digits := by
  unfold ofDigits digitsValue
  rw [Nat.ofDigits_eq_foldr, List.foldr_map, List.foldr_reverse]
  congr 1
  funext n c
  rw [digitValueIn?_ten, Nat.cast_id, Nat.mul_comm, Nat.add_comm]

theorem Grouped.head (grouped : Grouped body digits) :
    ∃ c rest, body = c :: rest ∧ isDigit c = true := by
  cases grouped with
  | last digit => exact ⟨_, _, rfl, digit⟩
  | next digit more => exact ⟨_, _, rfl, digit⟩
  | spaced digit more => exact ⟨_, _, rfl, digit⟩

theorem Grouped.last_digit (grouped : Grouped body digits) :
    ∀ c, body.getLast? = some c → isDigit c = true := by
  induction grouped with
  | last digit =>
    rintro _ ⟨⟩
    exact digit
  | next digit more ih =>
    obtain ⟨first, rest, rfl, -⟩ := more.head
    exact ih
  | spaced digit more ih =>
    obtain ⟨first, rest, rfl, -⟩ := more.head
    exact ih

/-- Digits are joined exactly where they are grouped. -/
theorem joinDigits_eq_some_iff : joinDigits isDigit body = some digits ↔ Grouped body digits := by
  constructor
  · intro joined
    fun_induction joinDigits isDigit body generalizing digits with
    | case1 | case3 | case5 | case7 => cases joined
    | case2 c digit =>
      cases joined
      exact .last digit
    | case4 c rest digit ih =>
      obtain ⟨more, others, rfl⟩ := Option.map_eq_some_iff.mp joined
      exact .spaced digit (ih others)
    | case6 c rest _ _ digit ih =>
      obtain ⟨more, others, rfl⟩ := Option.map_eq_some_iff.mp joined
      exact .next digit (ih others)
  · intro grouped
    induction grouped with
    | last digit => simp [joinDigits, digit]
    | @next c _ _ digit more ih =>
      -- A digit is neither the end of the run nor an underscore.
      obtain ⟨first, rest, rfl, first_digit⟩ := more.head
      have unspaced : ∀ others, first :: rest = '_' :: others → False := by
        rintro _ ⟨⟩
        cases first_digit
      rw [joinDigits.eq_4 isDigit c (first :: rest) nofun unspaced, if_pos digit, ih]
      rfl
    | spaced digit more ih =>
      rw [joinDigits.eq_3, if_pos digit, ih]
      rfl

/-- No mark in front of the digits tells a base of ten. -/
theorem dropBaseMark_ten (cs : List Char) : dropBaseMark 10 cs = cs := by
  unfold dropBaseMark
  split
  · rfl
  · rfl

/-- A sign is split off where a digit follows. -/
theorem splitSign_signed (signed : (sign, factor) ∈ signs) (grouped : Grouped body digits) :
    splitSign (sign ++ body) = (decide (factor = -1), body) := by
  obtain ⟨c, rest, rfl, digit⟩ := grouped.head
  simp only [signs, List.mem_cons, Prod.mk.injEq, List.not_mem_nil, or_false] at signed
  rcases signed with ⟨rfl, rfl⟩ | ⟨rfl, rfl⟩ | ⟨rfl, rfl⟩
  · have apart (mark : Char) (other : isDigit mark = false) (more : List Char) :
        c :: rest = mark :: more → False := by
      rintro ⟨⟩
      rw [digit] at other
      cases other
    exact splitSign.eq_3 _ (apart '-' rfl) (apart '+' rfl)
  · rfl
  · rfl

theorem exists_sign (cs : List Char) : ∃ sign factor, (sign, factor) ∈ signs ∧
    splitSign cs = (decide (factor = -1), (splitSign cs).2) ∧ cs = sign ++ (splitSign cs).2 := by
  unfold splitSign
  split
  · exact ⟨['-'], -1, by decide, rfl, rfl⟩
  · exact ⟨['+'], 1, by decide, rfl, rfl⟩
  · exact ⟨[], 1, by decide, rfl, rfl⟩

theorem signed_eq (signed : (sign, factor) ∈ signs) (n : Int) :
    (if decide (factor = -1) = true then -n else n) = factor * n := by
  simp only [signs, List.mem_cons, Prod.mk.injEq, List.not_mem_nil, or_false] at signed
  rcases signed with ⟨-, rfl⟩ | ⟨-, rfl⟩ | ⟨-, rfl⟩ <;> simp

/-- A number with or without a sign has no white space at either end. -/
theorem trimBy_signed {before after : List Char} (signed : (sign, factor) ∈ signs)
    (grouped : Grouped body digits) (ahead : ∀ c ∈ before, isWhiteSpace c = true)
    (behind : ∀ c ∈ after, isWhiteSpace c = true) :
    trimBy isWhiteSpace (before ++ (sign ++ body) ++ after) = sign ++ body := by
  obtain ⟨first, rest, shape, digit⟩ := grouped.head
  have filled : body ≠ [] := by simp [shape]
  refine trimBy_surrounded ahead ?_ ?_ behind
  · intro c start
    simp only [signs, List.mem_cons, Prod.mk.injEq, List.not_mem_nil, or_false] at signed
    rcases signed with ⟨rfl, -⟩ | ⟨rfl, -⟩ | ⟨rfl, -⟩
    · rw [List.nil_append, shape] at start
      cases start
      exact isWhiteSpace_digit digit
    · cases start
      rfl
    · cases start
      rfl
  · intro c last
    rw [List.getLast?_append, List.getLast?_eq_some_getLast filled, Option.some_or] at last
    refine isWhiteSpace_digit (grouped.last_digit c ?_)
    rw [List.getLast?_eq_some_getLast filled, last]

/-- A text is read as a whole number exactly if it is a decimal literal for it. -/
theorem readInteger_eq_ok_iff : readInteger 10 cs = .ok i ↔ Literal cs i := by
  unfold readInteger
  rw [isSome_digitValueIn?_ten]
  constructor
  · intro read
    obtain ⟨before, after, ahead, behind, shape⟩ := trimBy_split isWhiteSpace cs
    obtain ⟨sign, factor, signed, split_eq, inner⟩ := exists_sign (trimBy isWhiteSpace cs)
    rw [split_eq] at read
    dsimp only at read
    rw [dropBaseMark_ten] at read
    split at read
    · cases read
    · rename_i digits joined
      have grouped := joinDigits_eq_some_iff.mp joined
      split at read
      · cases read
      · rename_i short
        cases read
        have literal := Literal.intro ahead signed grouped (Nat.not_lt.mp (by simpa using short))
          behind
        rw [← inner, ← shape] at literal
        rwa [ofDigits_eq_digitsValue, signed_eq signed]
  · rintro ⟨ahead, signed, grouped, short, behind⟩
    rw [trimBy_signed signed grouped ahead behind, splitSign_signed signed grouped]
    dsimp only
    rw [dropBaseMark_ten, joinDigits_eq_some_iff.mpr grouped]
    dsimp only
    rw [if_neg (by simpa using short), ofDigits_eq_digitsValue, signed_eq signed]

end Number

end SchemaWipe
