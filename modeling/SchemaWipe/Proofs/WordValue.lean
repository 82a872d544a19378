import SchemaWipe.Proofs.NestedKeys
import SchemaWipe.Yaml.Document

/-! What plain words in YAML texts stand for. A word is never a number or a date; a few words stand
for nothing or for truth values, and every other word stands for itself. A section with a single
entry stands for a mapping in a mapping, whatever its value is. -/
namespace SchemaWipe.Yaml
open Guard (startsIdentifier continuesIdentifier)

variable {w : List Char} {c : Char} {name : String}

theorem withoutFinalNewline_word (chars : ∀ c ∈ w, continuesIdentifier c = true) :
    withoutFinalNewline w = w := by
  refine if_neg fun ends => ?_
  have last : '\n' ∈ w := List.mem_of_getLast? (eq_of_beq ends)
  exact ne_of_continues (chars '\n' last) '\n' rfl rfl

/-- An identifier does not start with a digit. -/
theorem isAsciiDigit_starts (start : startsIdentifier c = true) : isAsciiDigit c = false := by
  simp only [startsIdentifier, Bool.or_eq_true, Bool.and_eq_true, decide_eq_true_eq, beq_iff_eq,
    Char.le_def, UInt32.le_iff_toNat_le] at start
  have beyond : ¬ c ≤ '9' := by
    rw [Char.le_def, UInt32.le_iff_toNat_le, Nat.not_le]
    rcases start with (⟨low, -⟩ | ⟨low, -⟩) | rfl
    · exact Nat.lt_of_lt_of_le (by decide) low
    · exact Nat.lt_of_lt_of_le (by decide) low
    · decide
  simp [isAsciiDigit, beyond]

/-- A word is no number and no date, since it starts with a letter or an underscore. -/
theorem unnumbered (word : Word w) :
    isFractional w = false ∧ isInteger w = false ∧ isTimestamp w = false := by
  obtain ⟨c, rest, rfl, start⟩ := word.start
  have continues := continues_of_starts start
  have digitless := isAsciiDigit_starts start
  have plus : c ≠ '+' := ne_of_continues continues _ rfl
  have minus : c ≠ '-' := ne_of_continues continues _ rfl
  have point : c ≠ '.' := ne_of_continues continues _ rfl
  have zero : c ≠ '0' := by
    rintro rfl
    cases start
  have signless : unsigned (c :: rest) = c :: rest := by
    simp [unsigned, plus, minus]
  refine ⟨?_, ?_, ?_⟩
  · simp [isFractional, signless, digitless]
  · simp [isInteger, signless, digitless, zero]
  · have yearless : digits? 4 4 (c :: rest) = none := by
      simp [digits?, splitDigits, digitless]
    simp [isTimestamp, timestamp?, yearless]

/-- The tag of a word. -/
theorem ofPlain_word (word : Word name.toList) :
    Tag.ofPlain name.toList = if name ∈ nullWords then .null
      else if name ∈ switchWords then .bool else .text := by
  have other (mark : String) (c : Char) (spelled : c ∈ mark.toList)
      (unfit : continuesIdentifier c = false) : name ≠ mark := by
    rintro rfl
    exact ne_of_continues (word.chars c spelled) c unfit rfl
  obtain ⟨fractional, integer, timestamp⟩ := unnumbered word
  have filled : name.toList.isEmpty = false := List.isEmpty_eq_false_iff.mpr word.ne_nil
  unfold Tag.ofPlain
  simp only [withoutFinalNewline_word word.chars, fractional, integer, timestamp, filled,
    String.ofList_toList, List.contains_iff_mem, other "<<" '<' (by decide) rfl,
    other "=" '=' (by decide) rfl, other "!" '!' (by decide) rfl, other "&" '&' (by decide) rfl,
    other "*" '*' (by decide) rfl]
  simp

namespace Node

/-- A mapping whose only key is a text. -/
def single (key : String) (inner : Node) : Node :=
  .mapping .mapping [(.scalar .text key, inner)]

variable {key : String} {inner : Node} {found : List Node} {value : Value}

theorem allEntries_single (key : String) (inner : Node) :
    (single key inner).allEntries = .ok [(.scalar .text key, inner)] := by
  simp [single, allEntries, splitEntries, tag, asKey, bind, Except.bind, pure, Except.pure]

theorem expand_single (judged : inner.judge = .ok found) :
    (single key inner).expand = .ok found := by
  have entries := allEntries_single key inner
  have entry : judgeEntry (.scalar .text key, inner) = .ok found := judged
  rw [single] at entries ⊢
  simp [expand, tag, entries, entry, bind, Except.bind, pure, Except.pure, Except.map]

theorem valueWithin_single {depth : Nat} (held : valueWithin (depth + 1) inner = .ok value) :
    valueWithin (depth + 2) (single key inner) = .ok (.mapping [(.text key, value)]) := by
  have entries := allEntries_single key inner
  have entry : entryValue (valueWithin (depth + 1)) (.scalar .text key, inner) =
      .ok (.text key, value) := by
    rw [entryValue, held]
    rfl
  rw [single] at entries ⊢
  rw [valueWithin, entries]
  · simp [entry, Value.insert, bind, Except.bind, pure, Except.pure]
  · rfl

end Node

/-- The node of a section with a single entry. -/
theorem Layout.ofText_text (layout : Layout) (word : Word name.toList) :
    Node.ofText (layout.text "reset".toList "schema".toList name.toList) =
      .ok (some (.single "reset" (.single "schema"
        (.scalar (Tag.ofPlain name.toList) name)))) := by
  have reset : Word "reset".toList := ⟨⟨'r', "eset".toList, rfl, rfl⟩, List.all_eq_true.mp rfl⟩
  have schema : Word "schema".toList := ⟨⟨'s', "chema".toList, rfl, rfl⟩, List.all_eq_true.mp rfl⟩
  have read := layout.tokens_text reset schema word (by decide) (by decide)
  rw [String.ofList_toList, String.ofList_toList, String.ofList_toList] at read
  rw [Node.ofText, read]
  rfl

/-- The value of a section with a single entry. -/
theorem load_single {cs : List Char} {tag : Tag} {value : Value} (scalar : tag.isScalar = true)
    (read : Node.ofText cs = .ok (some (.single "reset" (.single "schema" (.scalar tag name)))))
    (stands : scalarValue tag name = .ok value) :
    load cs = .ok (.mapping [(.text "reset", .mapping [(.text "schema", value)])]) := by
  have judged : (Node.scalar tag name).judge = .ok [] := by
    have apart : tag.isCollection = false := by cases tag <;> first | rfl | cases scalar
    have known : (Node.scalar tag name).scalarValue = .ok value := stands
    simp [Node.judge, Node.tag, apart, scalar, known, Except.map]
  have valued : Node.valueWithin 2 (.scalar tag name) = .ok value := stands
  have outer : (Node.single "reset" (.single "schema" (.scalar tag name))).expand =
      .ok [.single "schema" (.scalar tag name)] := Node.expand_single rfl
  have inner : (Node.single "schema" (.scalar tag name)).expand = .ok [] :=
    Node.expand_single judged
  have all_judged : Node.judgeAll 5 [.single "reset" (.single "schema" (.scalar tag name))] =
      .ok () := by
    simp [Node.judgeAll, outer, inner, bind, Except.bind]
  have held : (Node.single "reset" (.single "schema" (.scalar tag name))).value =
      .ok (.mapping [(.text "reset", .mapping [(.text "schema", value)])]) :=
    Node.valueWithin_single (Node.valueWithin_single valued)
  rw [load, read]
  exact (congrArg (· >>= fun _ => Node.value _) all_judged).trans held

end SchemaWipe.Yaml
