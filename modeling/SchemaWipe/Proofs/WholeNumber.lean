import SchemaWipe.Proofs.DecimalLiteral
import SchemaWipe.Proofs.Unwritable
import Mathlib.Data.Rat.Floor

/-! Which values are read as whole numbers. A value denotes one if it is that number, a number that
equals it or a decimal literal for it. Three other kinds of value are taken for whole numbers as
well: truth values, numbers with a fraction, which is cut off, and octets that spell a literal. -/
namespace SchemaWipe

namespace Binary64

/-- The number that a finite double-precision number stands for. -/
def worth (negative : Bool) (significand : Nat) (exponent : Int) : ℚ :=
  signed negative significand * 2 ^ exponent

/-- A number without its fraction: rounded towards zero. -/
def truncated (q : ℚ) : Int :=
  if 0 ≤ q then ⌊q⌋ else ⌈q⌉

theorem truncated_intCast (i : Int) : truncated (i : ℚ) = i := by
  unfold truncated
  split
  · exact Int.floor_intCast i
  · exact Int.ceil_intCast i

theorem truncated_neg (q : ℚ) : truncated (-q) = -truncated q := by
  unfold truncated
  rcases lt_trichotomy q 0 with below | rfl | above
  · rw [if_pos (neg_nonneg.mpr below.le), if_neg below.not_ge, Int.floor_neg]
  · simp
  · rw [if_neg (neg_neg_of_pos above).not_ge, if_pos above.le, Int.ceil_neg]

theorem worth_negative (significand : Nat) (exponent : Int) :
    worth true significand exponent = -worth false significand exponent := by
  simp [worth, signed]

theorem wholePart_negative (significand : Nat) (exponent : Int) :
    wholePart true significand exponent = -wholePart false significand exponent := by
  simp [wholePart, signed]

/-- With an exponent that is not negative a number is whole. -/
theorem worth_whole (significand exponent : Nat) :
    worth false significand exponent = ((significand * 2 ^ exponent : Nat) : Int) := by
  simp [worth, signed]

theorem worth_fraction (significand exponent : Nat) :
    worth false significand (-exponent) = (significand : ℚ) / ((2 ^ exponent : Nat) : ℚ) := by
  simp [worth, signed, div_eq_mul_inv]

theorem wholePart_whole (significand exponent : Nat) :
    wholePart false significand exponent = ((significand * 2 ^ exponent : Nat) : Int) := by
  simp [wholePart, signed]

theorem wholePart_fraction (significand exponent : Nat) :
    wholePart false significand (-exponent) = ((significand / 2 ^ exponent : Nat) : Int) := by
  cases exponent with
  | zero => simp [wholePart, signed]
  | succ k =>
    have below : ¬ (0 : Int) ≤ -((k + 1 : Nat) : Int) := by omega
    have depth : (-(-((k + 1 : Nat) : Int))).toNat = k + 1 := by omega
    rw [wholePart, if_neg below, depth]
    rfl

/-- The whole part of a number is the number without its fraction. -/
theorem wholePart_eq_truncated (negative : Bool) (significand : Nat) (exponent : Int) :
    wholePart negative significand exponent = truncated (worth negative significand exponent) := by
  have positive : wholePart false significand exponent =
      truncated (worth false significand exponent) := by
    obtain ⟨k, rfl | rfl⟩ := exponent.eq_nat_or_neg
    · rw [wholePart_whole, worth_whole, truncated_intCast]
    · have above : (0 : ℚ) ≤ (significand : ℚ) / ((2 ^ k : Nat) : ℚ) := by positivity
      rw [wholePart_fraction, worth_fraction, truncated, if_pos above,
        Rat.floor_natCast_div_natCast]
      rfl
  cases negative with
  | false => exact positive
  | true => rw [wholePart_negative, worth_negative, truncated_neg, positive]

/-- A number without a fraction is not changed by cutting it off. -/
theorem truncated_of_whole {q : ℚ} {i : Int} (whole : q = i) : truncated q = i := by
  rw [whole, truncated_intCast]

/-- A number with a fraction has a whole part no larger than its significand. -/
theorem natAbs_truncated_le {negative : Bool} {significand : Nat} {exponent : Int}
    (fraction : ∀ i : Int, worth negative significand exponent ≠ i) :
    (truncated (worth negative significand exponent)).natAbs ≤ significand := by
  have unsigned : (truncated (worth negative significand exponent)).natAbs =
      (wholePart false significand exponent).natAbs := by
    rw [← wholePart_eq_truncated]
    cases negative with
    | false => rfl
    | true => rw [wholePart_negative, Int.natAbs_neg]
  rw [unsigned]
  obtain ⟨k, rfl | rfl⟩ := exponent.eq_nat_or_neg
  · -- Such a number is whole.
    exfalso
    cases negative with
    | false => exact fraction _ (worth_whole significand k)
    | true =>
      refine fraction (-((significand * 2 ^ k : Nat) : Int)) ?_
      rw [worth_negative, worth_whole, Int.cast_neg]
  · rw [wholePart_fraction, Int.natAbs_natCast]
    exact Nat.div_le_self significand (2 ^ k)

end Binary64

namespace Value
open Binary64 (worth truncated)

/-- A value denotes a whole number: it is that number, a number that equals it, or a text that is a
decimal literal for it. -/
inductive Denotes : Value → Int → Prop where
  | int (i : Int) : Denotes (.int i) i
  | float {negative : Bool} {significand : Nat} {exponent i : Int}
      (equal : worth negative significand exponent = i) :
      Denotes (.float (.finite negative significand exponent)) i
  | text {s : String} {i : Int} (literal : Number.Literal s.toList i) : Denotes (.text s) i

/-- A value is taken for a whole number that it does not denote: a truth value for 0 or 1, a number
with a fraction for its whole part, and octets for what they spell. -/
inductive TakenFor : Value → Int → Prop where
  | bool (b : Bool) : TakenFor (.bool b) (ofBool b)
  | fraction {negative : Bool} {significand : Nat} {exponent : Int}
      (fraction : ∀ i : Int, worth negative significand exponent ≠ i) :
      TakenFor (.float (.finite negative significand exponent))
        (truncated (worth negative significand exponent))
  | octets {bytes : List UInt8} {i : Int}
      (plain : ∀ b ∈ bytes, Settings.isPlainOctet b = true)
      (literal : Number.Literal (bytes.map fun b => Char.ofNat b.toNat) i) :
      TakenFor (.octets bytes) i

/-- A value that is no whole number, though it counts as one: a truth value, or a number of double
precision that has a fraction. -/
inductive Unwhole : Value → Prop where
  | bool (b : Bool) : Unwhole (.bool b)
  | fraction {negative : Bool} {significand : Nat} {exponent : Int} (double : significand < 2 ^ 53)
      (fraction : ∀ i : Int, worth negative significand exponent ≠ i) :
      Unwhole (.float (.finite negative significand exponent))

variable {value : Value} {n m : Int}

/-- No value is taken for a number where it denotes one. -/
theorem TakenFor.not_denotes (taken : value.TakenFor n) : ¬ value.Denotes m := by
  intro denotes
  cases taken with
  | bool b => cases denotes
  | fraction fraction =>
    cases denotes with
    | float equal => exact fraction m equal
  | octets plain literal => cases denotes

/-- What is no whole number is taken for one, and for none that is too long to be written. -/
theorem Unwhole.taken (unwhole : value.Unwhole) : ∃ n, value.TakenFor n ∧ ¬ TooLong n := by
  cases unwhole with
  | bool b =>
    refine ⟨_, .bool b, not_tooLong ?_⟩
    cases b <;> decide
  | fraction double fraction =>
    refine ⟨_, .fraction fraction, not_tooLong ?_⟩
    have small := Binary64.natAbs_truncated_le fraction
    omega

end Value

namespace Settings
open Value (TooLong)

variable {value : Value} {n : Int}

theorem writtenInteger_eq_ok_iff {cs : List Char} :
    writtenInteger cs = .ok n ↔ Number.Literal cs n := by
  rw [← Number.readInteger_eq_ok_iff]
  unfold writtenInteger
  cases Number.readInteger 10 cs <;> simp

/-- A value counts as a whole number exactly if it denotes it or is taken for it. -/
theorem wholeNumber_eq_ok_iff :
    wholeNumber value = .ok n ↔ value.Denotes n ∨ value.TakenFor n := by
  constructor
  · intro counts
    cases value with
    | int i =>
      cases counts
      exact .inl (.int n)
    | bool b =>
      cases counts
      exact .inr (.bool b)
    | float x =>
      cases x with
      | nan => cases counts
      | infinite negative => cases counts
      | finite negative significand exponent =>
        cases counts
        rw [Binary64.wholePart_eq_truncated]
        by_cases whole : ∃ i : Int, Binary64.worth negative significand exponent = i
        · obtain ⟨i, equal⟩ := whole
          rw [Binary64.truncated_of_whole equal]
          exact .inl (.float equal)
        · exact .inr (.fraction (not_exists.mp whole))
    | text s => exact .inl (.text (writtenInteger_eq_ok_iff.mp counts))
    | octets bytes =>
      rw [wholeNumber] at counts
      split at counts
      · rename_i plain
        exact .inr (.octets (List.all_eq_true.mp plain) (writtenInteger_eq_ok_iff.mp counts))
      · cases counts
    | _ => cases counts
  · rintro (denotes | taken)
    · cases denotes with
      | int => rfl
      | float equal =>
        rw [wholeNumber, Binary64.wholePart_eq_truncated, Binary64.truncated_of_whole equal]
      | text literal => exact writtenInteger_eq_ok_iff.mpr literal
    · cases taken with
      | bool b => rfl
      | fraction => rw [wholeNumber, Binary64.wholePart_eq_truncated]
      | octets plain literal =>
        rw [wholeNumber, if_pos (List.all_eq_true.mpr plain)]
        exact writtenInteger_eq_ok_iff.mpr literal

/-- A whole number that is no port is refused as such, unless it is too long to be written. -/
theorem port_outside (whole : wholeNumber value = .ok n) (outside : ¬ (0 < n ∧ n < 65536))
    (short : ¬ TooLong n) : port value = .error (.fault (.portOutOfRange n)) := by
  obtain ⟨text, written⟩ := (Value.integerText_writes n).exists_written short
  unfold port
  rw [whole]
  dsimp only
  rw [if_neg outside, written]
  rfl

theorem timeout_not_positive (whole : wholeNumber value = .ok n) (other : ¬ 0 < n) :
    timeout value = .error (.fault .timeoutNotPositive) := by
  unfold timeout
  rw [whole]
  dsimp only
  rw [if_neg other]

/-- A conversion makes of a value only the whole number that the value denotes, and refuses it with
a fault if it is a truth value or has a fraction. -/
structure ReadsExactly (convert : Value → Except Error Int) (value : Value) : Prop where
  denoted : ∀ n, convert value = .ok n → value.Denotes n
  refused : value.Unwhole → ∃ fault, convert value = .error (.fault fault)

/-- A conversion that accepts the whole numbers in a range, and refuses all others with a fault if
they can be written, reads a value exactly unless it takes it for a number in range. -/
theorem readsExactly_iff {convert : Value → Except Error Int} {InRange : Int → Prop}
    (accepts : ∀ n, convert value = .ok n ↔ InRange n ∧ (value.Denotes n ∨ value.TakenFor n))
    (refuses : ∀ n, wholeNumber value = .ok n → ¬ InRange n → ¬ TooLong n →
      ∃ fault, convert value = .error (.fault fault)) :
    ReadsExactly convert value ↔ ¬ ∃ n, InRange n ∧ value.TakenFor n := by
  constructor
  · rintro exactly ⟨n, inside, taken⟩
    exact taken.not_denotes (exactly.denoted n ((accepts n).mpr ⟨inside, .inr taken⟩))
  · intro untaken
    constructor
    · intro n made
      obtain ⟨inside, denotes | taken⟩ := (accepts n).mp made
      · exact denotes
      · exact absurd ⟨n, inside, taken⟩ untaken
    · intro unwhole
      obtain ⟨n, taken, short⟩ := unwhole.taken
      refine refuses n (wholeNumber_eq_ok_iff.mpr (.inr taken)) ?_ short
      intro inside
      exact untaken ⟨n, inside, taken⟩

/-- Ports and time limits are made exactly of the values that denote a whole number in range or are
taken for one. So a value is read exactly, and refused if it is a truth value or has a fraction,
unless it is taken for a number in range: a truth value for 1, a number with a fraction for its
whole part, or octets for what they spell. -/
theorem whole_numbers_are_read_iff (value : Value) :
    (∀ n, port value = .ok n ↔
      (0 < n ∧ n < 65536) ∧ (value.Denotes n ∨ value.TakenFor n)) ∧
    (ReadsExactly port value ↔ ¬ ∃ n, (0 < n ∧ n < 65536) ∧ value.TakenFor n) ∧
    (∀ n, timeout value = .ok n ↔ 0 < n ∧ (value.Denotes n ∨ value.TakenFor n)) ∧
    (ReadsExactly timeout value ↔ ¬ ∃ n, 0 < n ∧ value.TakenFor n) := by
  have ports (n : Int) : port value = .ok n ↔
      (0 < n ∧ n < 65536) ∧ (value.Denotes n ∨ value.TakenFor n) := by
    rw [port_eq_ok_iff, wholeNumber_eq_ok_iff, and_comm]
  have limits (n : Int) : timeout value = .ok n ↔
      0 < n ∧ (value.Denotes n ∨ value.TakenFor n) := by
    rw [timeout_eq_ok_iff, wholeNumber_eq_ok_iff, and_comm]
  refine ⟨ports, readsExactly_iff ports ?_, limits, readsExactly_iff limits ?_⟩
  · intro n whole outside short
    exact ⟨_, port_outside whole outside short⟩
  · intro n whole other _
    exact ⟨_, timeout_not_positive whole other⟩

/-- A number with a fraction is taken for a port, and so is a truth value. -/
theorem fraction_is_cut_off :
    Number.readFloat "5432.5".toList = some (.finite false 5973096917893120 (-40)) ∧
      port (.float (.finite false 5973096917893120 (-40))) = .ok 5432 ∧
      ¬ ReadsExactly port (.float (.finite false 5973096917893120 (-40))) ∧
      port (.bool true) = .ok 1 ∧ ¬ ReadsExactly port (.bool true) := by
  have made : port (.float (.finite false 5973096917893120 (-40))) = .ok 5432 :=
    ok_of_toOption (by decide +kernel)
  refine ⟨by decide +kernel, made, ?_, rfl, ?_⟩
  · intro exactly
    cases exactly.denoted 5432 made with
    | float equal =>
      have apart : Binary64.worth false 5973096917893120 (-40) ≠ (5432 : Int) := by
        norm_num [Binary64.worth, Binary64.signed]
      exact apart equal
  · intro exactly
    cases exactly.denoted 1 rfl

end Settings
end SchemaWipe
