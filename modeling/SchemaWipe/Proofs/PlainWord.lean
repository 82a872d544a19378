import SchemaWipe.Proofs.Identifier
import SchemaWipe.Yaml.Tokens

/-! Words in YAML texts. A word consists of characters that have no other meaning there, so it is
read as one plain scalar: up to the colon behind it, or up to the end of the text. -/
namespace SchemaWipe.Yaml
open Guard (startsIdentifier continuesIdentifier)

/-- A text that is spelled like an identifier, however long. -/
structure Word (w : List Char) : Prop where
  start : ∃ c rest, w = c :: rest ∧ startsIdentifier c = true
  chars : ∀ c ∈ w, continuesIdentifier c = true

/-- A text of spaces and line feeds alone, possibly empty. -/
def Spacing (g : List Char) : Prop :=
  ∀ c ∈ g, c = ' ' ∨ c = '\n'

instance (g : List Char) : Decidable (Spacing g) :=
  List.decidableBAll (fun c => c = ' ' ∨ c = '\n') g

variable {w g rest more cs : List Char} {c : Char} {p : Position}

theorem spacing_spaces (n : Nat) : Spacing (List.replicate n ' ') :=
  fun _ member => .inl (List.eq_of_mem_replicate member)

theorem ne_of_continues (word : continuesIdentifier c = true) (mark : Char)
    (other : continuesIdentifier mark = false) : c ≠ mark := by
  rintro rfl
  rw [word] at other
  cases other

theorem continues_of_starts (start : startsIdentifier c = true) : continuesIdentifier c = true := by
  simp [continuesIdentifier, start]

theorem Word.ne_nil (word : Word w) : w ≠ [] := by
  obtain ⟨c, rest, rfl, -⟩ := word.start
  exact List.cons_ne_nil c rest

theorem Word.length_pos (word : Word w) : 0 < w.length :=
  List.length_pos_iff.mpr word.ne_nil

/-- A character of a word is no line end, and the scalar goes on with it. -/
theorem isBreak_continues (word : continuesIdentifier c = true) : isBreak c = false := by
  simp [isBreak, ne_of_continues word '\n' rfl, ne_of_continues word '\u0085' rfl,
    ne_of_continues word '\u2028' rfl, ne_of_continues word '\u2029' rfl]

theorem isAllowed_continues (word : continuesIdentifier c = true) : isAllowed c = true := by
  have visible : 0x20 ≤ c.toNat ∧ c.toNat ≤ 0x7E := by
    simp only [continuesIdentifier, startsIdentifier, Bool.or_eq_true, Bool.and_eq_true,
      decide_eq_true_eq, beq_iff_eq, Char.le_def, UInt32.le_iff_toNat_le] at word
    rcases word with (((⟨low, high⟩ | ⟨low, high⟩) | rfl) | ⟨low, high⟩) | rfl
    all_goals first | decide | exact ⟨Nat.le_trans (by decide) low, Nat.le_trans high (by decide)⟩
  simp [isAllowed, visible]

theorem endsPlain_continues (word : continuesIdentifier c = true) (rest : List Char) :
    endsPlain false c rest = false := by
  simp [endsPlain, isSpace, isBreak_continues word, ne_of_continues word ' ' rfl,
    ne_of_continues word '\t' rfl, ne_of_continues word ':' rfl]

/-- The characters of a word are read up to the first place where a plain scalar ends. -/
theorem plainChunk_word (chars : ∀ c ∈ w, continuesIdentifier c = true)
    (ends : ∀ c more, rest = c :: more → endsPlain false c more = true) :
    plainChunk false (w ++ rest) = (w, rest) := by
  induction w with
  | nil =>
    cases rest with
    | nil => rfl
    | cons c more => exact if_pos (ends c more rfl)
  | cons c letters ih =>
    have further := ih fun d member => chars d (List.mem_cons_of_mem c member)
    rw [List.cons_append, plainChunk, endsPlain_continues (chars c List.mem_cons_self), further]
    rfl

/-! ## Places -/

theorem Cursor.skip_append (before rest : List Char) (p : Position) :
    Cursor.skip before.length ⟨before ++ rest, p⟩ = ⟨rest, before.foldl Position.after p⟩ := by
  induction before generalizing p with
  | nil => rfl
  | cons c more ih => exact ih (p.after c)

/-- Going on behind a part of a text passes its characters one by one. -/
theorem Cursor.to_append (before rest : List Char) (p : Position) :
    (⟨before ++ rest, p⟩ : Cursor).to rest = ⟨rest, before.foldl Position.after p⟩ := by
  have passed : (before ++ rest).length - rest.length = before.length := by
    rw [List.length_append, Nat.add_sub_cancel]
  rw [Cursor.to, passed, skip_append]

theorem Cursor.to_self (cursor : Cursor) : cursor.to cursor.rest = cursor :=
  Cursor.to_append [] cursor.rest cursor.position

/-- To go on at a place behind the next character, that one may be passed first. -/
theorem Cursor.to_cons (short : rest.length ≤ cs.length) :
    (⟨c :: cs, p⟩ : Cursor).to rest = (⟨cs, p.after c⟩ : Cursor).to rest := by
  have count : (c :: cs).length - rest.length = cs.length - rest.length + 1 := by
    rw [List.length_cons]
    omega
  rw [Cursor.to, count]
  rfl

/-- The position some characters further on in the same line. -/
def Position.further (p : Position) (n : Nat) : Position :=
  ⟨p.line, p.column + n, p.offset + n⟩

theorem Position.after_inner (inner : isBreak c = false) (visible : c ≠ byteOrderMark) :
    p.after c = p.further 1 := by
  simp [Position.after, inner, visible, Position.further]

theorem Position.foldl_after_inner
    (inner : ∀ c ∈ cs, isBreak c = false ∧ c ≠ byteOrderMark) (p : Position) :
    cs.foldl Position.after p = p.further cs.length := by
  induction cs generalizing p with
  | nil => rfl
  | cons c more ih =>
    obtain ⟨here, others⟩ := List.forall_mem_cons.mp inner
    rw [List.foldl_cons, ih others, Position.after_inner here.1 here.2, List.length_cons,
      Position.further, Position.further, Position.further]
    simp only [Position.mk.injEq, true_and]
    omega

theorem Word.passes (word : Word w) (p : Position) :
    w.foldl Position.after p = p.further w.length :=
  Position.foldl_after_inner (fun c member =>
    ⟨isBreak_continues (word.chars c member), ne_of_continues (word.chars c member) _ rfl⟩) p

theorem spaces_pass (n : Nat) (p : Position) :
    (List.replicate n ' ').foldl Position.after p = p.further n := by
  have inner : ∀ c ∈ List.replicate n ' ', isBreak c = false ∧ c ≠ byteOrderMark := by
    intro c member
    rw [List.eq_of_mem_replicate member]
    decide
  rw [Position.foldl_after_inner inner, List.length_replicate]

/-- Behind a line feed and spaces, the spaces tell the column. -/
theorem column_of_line (before : List Char) (n : Nat) (p : Position) :
    ((before ++ '\n' :: List.replicate n ' ').foldl Position.after p).column = n := by
  rw [List.foldl_append, List.foldl_cons, spaces_pass]
  exact Nat.zero_add n

/-! ## Plain scalars -/

/-- A word is read up to the colon behind it, if a gap follows the colon. -/
theorem readPlain_key (word : Word w) (gap : atGap rest = true) (indent : Nat) (p : Position) :
    readPlain false indent ⟨w ++ ':' :: rest, p⟩ =
      (w, false, ⟨':' :: rest, p.further w.length⟩) := by
  obtain ⟨c, letters, spelled, start⟩ := word.start
  have chunk : plainChunk false (w ++ ':' :: rest) = (w, ':' :: rest) := by
    refine plainChunk_word word.chars fun c more same => ?_
    cases same
    simp [endsPlain, gap]
  have uncommented : (w ++ ':' :: rest).head? ≠ some '#' := by
    rw [spelled, List.cons_append, List.head?_cons, ne_eq, Option.some.injEq]
    exact ne_of_continues (continues_of_starts start) '#' rfl
  unfold readPlain plainFrom
  simp only [chunk, List.isEmpty_eq_false_iff.mpr word.ne_nil]
  rw [if_neg (by simpa using uncommented)]
  have place := Cursor.to_append w (':' :: rest) p
  rw [word.passes] at place
  simp [gapAhead, isBreak, place]

theorem atTriple_of_ne {mark : Char} (other : c ≠ mark) (more : List Char) :
    atTriple mark (c :: more) = false := by
  unfold atTriple
  split
  · rename_i a b d others same
    cases same
    simp [other]
  · rfl

theorem atDocumentMark_spacing (spacing : Spacing g) : atDocumentMark g = false := by
  cases g with
  | nil => rfl
  | cons c more =>
    rcases spacing c List.mem_cons_self with rfl | rfl
    all_goals simp [atDocumentMark, atTriple_of_ne]

theorem Spacing.tail (spacing : Spacing (c :: g)) : Spacing g :=
  fun d member => spacing d (List.mem_cons_of_mem c member)

theorem breaksAhead_spacing (spacing : Spacing g) :
    ∃ breaks, breaksAhead g = (breaks, false, []) := by
  induction g with
  | nil => exact ⟨[], rfl⟩
  | cons c more ih =>
    obtain ⟨breaks, read⟩ := ih spacing.tail
    rcases spacing c List.mem_cons_self with rfl | rfl
    · exact ⟨breaks, read⟩
    · refine ⟨newline '\n' :: breaks, ?_⟩
      simp [breaksAhead, isBreak, atDocumentMark_spacing spacing.tail, read]

/-- Nothing is left behind a gap that takes the rest of the text. -/
theorem gapAhead_spacing (spacing : Spacing g) : (gapAhead g).rest = [] := by
  have left : Spacing (g.dropWhile (· == ' ')) :=
    fun c member => spacing c ((List.dropWhile_suffix _).subset member)
  unfold gapAhead
  split
  · rfl
  · rename_i c more ahead
    rw [ahead] at left
    have break_ : isBreak c = true := by
      have stops := List.head?_dropWhile_not (· == ' ') g
      rw [ahead] at stops
      rcases left c List.mem_cons_self with rfl | rfl
      · simp at stops
      · rfl
    obtain ⟨breaks, read⟩ := breaksAhead_spacing left.tail
    simp [break_, atDocumentMark_spacing left.tail, read]

/-- A word with nothing but spaces and line feeds behind it is read to the end of the text. -/
theorem readPlain_last (word : Word w) (spacing : Spacing g) (indent : Nat) (p : Position) :
    ∃ crossed q, readPlain false indent ⟨w ++ g, p⟩ = (w, crossed, ⟨[], q⟩) := by
  obtain ⟨c, letters, spelled, start⟩ := word.start
  have chunk : plainChunk false (w ++ g) = (w, g) := by
    refine plainChunk_word word.chars fun c more same => ?_
    rcases spacing c (same ▸ List.mem_cons_self) with rfl | rfl
    · rfl
    · rfl
  have uncommented : (w ++ g).head? ≠ some '#' := by
    rw [spelled, List.cons_append, List.head?_cons, ne_eq, Option.some.injEq]
    exact ne_of_continues (continues_of_starts start) '#' rfl
  have place : (⟨w ++ g, p⟩ : Cursor).to [] = ⟨[], (w ++ g).foldl Position.after p⟩ := by
    have passed := Cursor.to_append (w ++ g) [] p
    rwa [List.append_nil] at passed
  unfold readPlain plainFrom
  simp only [chunk, List.isEmpty_eq_false_iff.mpr word.ne_nil]
  rw [if_neg (by simpa using uncommented), gapAhead_spacing spacing, place]
  split
  · exact ⟨_, _, rfl⟩
  · -- The scalar may go on only where the text is over.
    refine ⟨(gapAhead g).crossed, (w ++ g).foldl Position.after p, ?_⟩
    have stopped : plainFrom false indent (w ++ g).length (gapAhead g).text (gapAhead g).crossed
        ⟨[], (w ++ g).foldl Position.after p⟩ =
        ([], (gapAhead g).crossed, ⟨[], (w ++ g).foldl Position.after p⟩) := by
      cases (w ++ g).length <;> rfl
    rw [stopped, List.append_nil, List.nil_append]

end SchemaWipe.Yaml
