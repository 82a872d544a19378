import SchemaWipe.Proofs.PlainWord

/-! Block mappings in YAML texts: a key with a colon behind it opens a mapping where it is indented
further than what is around it, and a word at the end of the text is the value of the last key. -/
namespace SchemaWipe.Yaml
open Guard (startsIdentifier continuesIdentifier)

/-- A text is over, or goes on with a character that no gap is made of. -/
def Visible (cs : List Char) : Prop :=
  ∀ c more, cs = c :: more → c ≠ ' ' ∧ c ≠ '#' ∧ isBreak c = false ∧ c ≠ byteOrderMark

/-- A text without the comment in front of it. -/
def withoutComment (cs : List Char) : List Char :=
  match cs with
  | '#' :: _ => cs.dropWhile (!isBreak ·)
  | _ => cs

theorem length_withoutComment_le (cs : List Char) : (withoutComment cs).length ≤ cs.length := by
  unfold withoutComment
  split
  · exact (List.dropWhile_sublist _).length_le
  · exact Nat.le_refl _

variable {w g rest : List Char} {c : Char}

theorem visible_of_starts (start : startsIdentifier c = true) (more : List Char) :
    Visible (c :: more) := by
  rintro d others ⟨⟩
  have word := continues_of_starts start
  exact ⟨ne_of_continues word _ rfl, ne_of_continues word _ rfl, isBreak_continues word,
    ne_of_continues word _ rfl⟩

namespace Lexer

variable {l : Lexer} {tokens : List Token} {columns : List Nat}

/-- A lexer at a place, outside flow collections and with no token that may be a key. -/
def outside (cursor : Cursor) (tokens : List Token) (columns : List Nat) (keyAllowed : Bool) :
    Lexer :=
  { cursor, tokens, columns, keyAllowed }

theorem goTo_self (l : Lexer) : l.goTo l.cursor.rest = l := by
  rw [goTo, Cursor.to_self]

theorem skipMark_eq (unmarked : ∀ c more, l.cursor.rest = c :: more → c ≠ byteOrderMark) :
    l.skipMark = l := by
  unfold skipMark
  split
  · rename_i c more ahead
    rw [if_neg fun both => unmarked c more ahead both.2]
  · rfl

theorem skipBlanks_succ (fuel : Nat) (l : Lexer) : skipBlanks (fuel + 1) l =
    let rest := withoutComment (l.cursor.rest.dropWhile (· == ' '))
    match rest with
    | c :: more =>
      if isBreak c then
        skipBlanks fuel { l.goTo more with keyAllowed := l.keyAllowed || !l.inFlow }
      else l.goTo rest
    | [] => l.goTo rest := rfl

theorem skipBlanks_visible (visible : Visible l.cursor.rest) (fuel : Nat) :
    skipBlanks fuel l = l := by
  cases fuel with
  | zero => rfl
  | succ fuel =>
    have kept := goTo_self l
    rw [skipBlanks_succ]
    cases ahead : l.cursor.rest with
    | nil =>
      rw [ahead] at kept
      exact kept
    | cons c more =>
      rw [ahead] at kept
      obtain ⟨space, comment, inner, -⟩ := visible c more ahead
      have spaced : (c :: more).dropWhile (· == ' ') = c :: more :=
        List.dropWhile_cons_of_neg (by simpa using space)
      simp [spaced, withoutComment, comment, inner, kept]

/-- A space in front of a text may be passed before the rest of the gap. -/
theorem skipBlanks_space (l : Lexer) (fuel : Nat) (cs : List Char) (p : Position) :
    skipBlanks (fuel + 1) { l with cursor := ⟨' ' :: cs, p⟩ } =
      skipBlanks (fuel + 1) { l with cursor := ⟨cs, p.after ' '⟩ } := by
  have spaced : (' ' :: cs).dropWhile (· == ' ') = cs.dropWhile (· == ' ') :=
    List.dropWhile_cons_of_pos rfl
  have short : (withoutComment (cs.dropWhile (· == ' '))).length ≤ cs.length :=
    Nat.le_trans (length_withoutComment_le _) (List.dropWhile_sublist _).length_le
  rw [skipBlanks_succ, skipBlanks_succ]
  dsimp only
  rw [spaced]
  cases ahead : withoutComment (cs.dropWhile (· == ' ')) with
  | nil => simp [goTo, Cursor.to_cons]
  | cons c more =>
    rw [ahead] at short
    have shorter : more.length ≤ cs.length := Nat.le_trans (Nat.le_succ _) short
    simp [goTo, Cursor.to_cons short, Cursor.to_cons shorter, inFlow]

theorem skipBlanks_break (l : Lexer) (fuel : Nat) (cs : List Char) (p : Position) :
    skipBlanks (fuel + 1) { l with cursor := ⟨'\n' :: cs, p⟩ } =
      skipBlanks fuel { l with
        cursor := ⟨cs, p.after '\n'⟩
        keyAllowed := l.keyAllowed || !l.inFlow } := by
  have place := Cursor.to_append ['\n'] cs p
  rw [List.singleton_append] at place
  rw [skipBlanks_succ]
  simp [withoutComment, isBreak, goTo, place, inFlow]

/-- A gap outside flow collections is passed. A key may follow where a line ended. -/
theorem skipBlanks_spacing (spacing : Spacing g) (visible : Visible rest) (fuel : Nat)
    (p : Position) (keyAllowed : Bool) :
    skipBlanks (fuel + g.length + 1) (outside ⟨g ++ rest, p⟩ tokens columns keyAllowed) =
      outside ⟨rest, g.foldl Position.after p⟩ tokens columns
        (keyAllowed || g.contains '\n') := by
  -- Spaces are passed within one step, line feeds with one step each; so the fuel covers the gap.
  induction g generalizing fuel p keyAllowed with
  | nil =>
    rw [List.contains_nil, Bool.or_false]
    exact skipBlanks_visible visible _
  | cons c more ih =>
    have count : fuel + (c :: more).length + 1 = (fuel + more.length + 1) + 1 := rfl
    rcases spacing c List.mem_cons_self with rfl | rfl
    · have passed := skipBlanks_space (outside ⟨[], p⟩ tokens columns keyAllowed)
        (fuel + more.length + 1) (more ++ rest) p
      have others := ih spacing.tail (fuel + 1) (p.after ' ') keyAllowed
      rw [Nat.add_right_comm fuel 1 more.length] at others
      refine (passed.trans others).trans ?_
      simp
    · have passed := skipBlanks_break (outside ⟨[], p⟩ tokens columns keyAllowed)
        (fuel + more.length + 1) (more ++ rest) p
      have others := ih spacing.tail fuel (p.after '\n') true
      rw [count]
      refine passed.trans ?_
      simpa [outside, inFlow] using others

/-- What is in front of the next token is skipped, and stale candidates are forgotten. -/
def settle (l : Lexer) : Except Fault Lexer :=
  (skipBlanks (l.cursor.rest.length + 1) l.skipMark).dropStale

/-- A gap is all that is skipped in front of a text. -/
theorem settle_spacing (spacing : Spacing g) (visible : Visible rest) (p : Position)
    (keyAllowed : Bool) :
    settle (outside ⟨g ++ rest, p⟩ tokens columns keyAllowed) =
      .ok (outside ⟨rest, g.foldl Position.after p⟩ tokens columns
        (keyAllowed || g.contains '\n')) := by
  have unmarked : ∀ c more, g ++ rest = c :: more → c ≠ byteOrderMark := by
    intro c more ahead
    cases g with
    | nil => exact (visible c more ahead).2.2.2
    | cons d others =>
      cases ahead
      rcases spacing c List.mem_cons_self with rfl | rfl <;> decide
  have count : (g ++ rest).length + 1 = rest.length + g.length + 1 := by
    rw [List.length_append, Nat.add_comm g.length]
  unfold settle
  rw [skipMark_eq unmarked, outside, count]
  exact congrArg dropStale (skipBlanks_spacing spacing visible rest.length p keyAllowed)

/-- Where nothing has to be skipped, only the candidate is looked at. -/
theorem settle_visible (visible : Visible l.cursor.rest) : settle l = l.dropStale := by
  unfold settle
  rw [skipMark_eq fun c more ahead => (visible c more ahead).2.2.2, skipBlanks_visible visible]

/-- The characters that start something else than a plain scalar, or that gaps are made of. -/
def marks : List Char :=
  [' ', '\t', '%', '-', '.', '[', '{', ']', '}', ',', '?', ':', '*', '&', '!', '|', '>', '\'', '"',
    '#', '@', '\x60']

theorem not_mark (word : continuesIdentifier c = true) : ∀ mark ∈ marks, c ≠ mark := by
  have unfit : marks.all (!continuesIdentifier ·) = true := rfl
  intro mark member
  exact ne_of_continues word mark (by simpa using List.all_eq_true.mp unfit mark member)

/-- A word starts a plain scalar wherever it stands. -/
theorem token_word (word : continuesIdentifier c = true) (l : Lexer) (more : List Char) :
    l.token c more = l.plainScalar := by
  have apart := not_mark word
  simp only [marks, List.forall_mem_cons] at apart
  have plain : l.startsPlain c more = true := by
    simp [startsPlain, isSpace, isBreak_continues word, isFlowMark, apart]
  simp [token, apart, atTriple_of_ne, plain]

/-- A column lies further right than the innermost of the block collections in some columns. -/
def Inner (columns : List Nat) (column : Nat) : Prop :=
  ∀ around ∈ columns.head?, around < column

theorem indent_le {column : Nat} (inner : Inner l.columns column) : l.indent ≤ column := by
  unfold indent
  split
  · exact Nat.zero_le _
  · rename_i around others spelled
    exact inner around (by rw [spelled]; exact Option.mem_some_self around)

/-- A column that lies further right than the innermost block collection closes none. -/
theorem closeWhile_inner {column : Nat} (inner : Inner columns column) :
    closeWhile (column < ·) columns tokens = (columns, tokens) := by
  cases columns with
  | nil => rfl
  | cons around others =>
    have left : around < column := inner around (Option.mem_some_self around)
    exact if_neg (by simpa using Nat.le_of_lt left)

theorem unwind_inner (inner : Inner l.columns l.column) : l.unwind (l.column < ·) = l := by
  unfold unwind
  rw [closeWhile_inner inner]
  split <;> rfl

/-- Closing all block collections adds an end for each. -/
theorem closeWhile_all (columns : List Nat) (tokens : List Token) :
    closeWhile (fun _ => true) columns tokens =
      ([], List.replicate columns.length .blockEnd ++ tokens) := by
  induction columns generalizing tokens with
  | nil => rfl
  | cons column columns ih =>
    rw [closeWhile, if_pos rfl, ih, List.length_cons, List.replicate_succ', List.append_assoc]
    rfl

/-- What is closed early need not be closed at the end. -/
theorem closeWhile_twice (closes : Nat → Bool) (columns : List Nat) (tokens : List Token) :
    closeWhile (fun _ => true) (closeWhile closes columns tokens).1
        (closeWhile closes columns tokens).2 =
      closeWhile (fun _ => true) columns tokens := by
  induction columns generalizing tokens with
  | nil => rfl
  | cons column columns ih =>
    by_cases early : closes column = true
    · rw [closeWhile, if_pos early, ih]
      rfl
    · rw [closeWhile, if_neg early]

/-- A token further right than the blocks around it is read from where the lexer has settled. -/
theorem run_token {settled : Lexer} (fuel : Nat) (settles : settle l = .ok settled)
    (ahead : settled.cursor.rest = c :: rest) (inner : Inner settled.columns settled.column) :
    run (fuel + 1) l = settled.token c rest >>= run fuel := by
  unfold settle at settles
  rw [run, settles]
  dsimp only [bind, Except.bind]
  rw [unwind_inner inner, ahead]

/-- At the end of the text all blocks are closed. -/
theorem run_over {settled : Lexer} (fuel : Nat) (settles : settle l = .ok settled)
    (finished : settled.cursor.rest = []) (calm : settled.candidate = none)
    (outer : settled.outer = []) :
    run (fuel + 1) l =
      .ok (settled.tokens.reverse ++ List.replicate settled.columns.length .blockEnd) := by
  unfold settle at settles
  rw [run, settles]
  have unenclosed : settled.inFlow = false := by
    rw [inFlow, outer]
    rfl
  have unwound (closes : Nat → Bool) : settled.unwind closes = { settled with
      columns := (closeWhile closes settled.columns settled.tokens).1
      tokens := (closeWhile closes settled.columns settled.tokens).2 } :=
    if_neg (by simp [unenclosed])
  have closed := closeWhile_twice (settled.column < ·) settled.columns settled.tokens
  have ending (columns : List Nat) (tokens : List Token) :
      finish { settled with columns, tokens } =
        .ok (closeWhile (fun _ => true) columns tokens).2.reverse := by
    simp [finish, unwind, dropCandidate, inFlow, outer, calm, bind, Except.bind, pure, Except.pure]
  dsimp only [bind, Except.bind]
  rw [unwound, finished]
  dsimp only
  rw [ending, closed, closeWhile_all, List.reverse_append, List.reverse_replicate]

theorem plainScalar_eq {saved : Lexer} {text : List Char} {crossed : Bool} {cursor : Cursor}
    (saves : l.saveCandidate = .ok saved)
    (read : readPlain saved.inFlow saved.indent saved.cursor = (text, crossed, cursor)) :
    l.plainScalar = .ok ({ saved with cursor, keyAllowed := crossed }.push
      (.scalar (String.ofList text) true)) := by
  rw [plainScalar, saves]
  simp only [bind, Except.bind, read]
  rfl

/-- What stands further right than the blocks around it may be a key, but need not be one. -/
theorem saveCandidate_inner (cursor : Cursor) (inner : Inner columns cursor.position.column) :
    (outside cursor tokens columns true).saveCandidate =
      .ok { outside cursor tokens columns true with
        candidate := some ⟨tokens.length, false, cursor.position⟩ } := by
  have free : (columns.head? == some cursor.position.column) = false :=
    beq_eq_false_iff_ne.mpr fun same => Nat.lt_irrefl _ (inner _ same)
  rw [← free]
  rfl

/-- A lexer between a word that may turn out to be a key and the colon behind it. -/
def beforeColon (w rest : List Char) (tokens : List Token) (columns : List Nat) (start : Position) :
    Lexer where
  cursor := ⟨':' :: rest, start.further w.length⟩
  tokens := .scalar (String.ofList w) true :: tokens
  columns
  keyAllowed := false
  candidate := some ⟨tokens.length, false, start⟩

/-- A word that may be a key is kept in mind up to the colon. -/
theorem settle_beforeColon (short : w.length ≤ longestKey) (q : Position) :
    settle (beforeColon w rest tokens columns q) = .ok (beforeColon w rest tokens columns q) := by
  have visible : Visible (':' :: rest) := by
    rintro d more ⟨⟩
    decide
  have young : (KeyCandidate.mk tokens.length false q).isStale (q.further w.length) = false := by
    simp [KeyCandidate.isStale, Position.further, short]
  rw [settle_visible visible]
  simp [dropStale, beforeColon, freshen, young, bind, Except.bind, pure, Except.pure]

/-- The colon makes the word the first key of a mapping. -/
theorem valueMark_beforeColon (q : Position) (inner : Inner columns q.column) :
    (beforeColon w rest tokens columns q).valueMark rest =
      .ok (outside ⟨rest, q.further (w.length + 1)⟩
        (.value :: .scalar (String.ofList w) true :: .key :: .blockMappingStart :: tokens)
        (q.column :: columns) false) := by
  have opens : (beforeColon w rest tokens columns q).opensBlock q.column = true :=
    decide_eq_true (indent_le inner)
  have place : (⟨':' :: rest, q.further w.length⟩ : Cursor).to rest =
      ⟨rest, q.further (w.length + 1)⟩ := Cursor.to_append [':'] rest _
  have newer : tokens.length + 1 - tokens.length = 1 := Nat.add_sub_cancel_left ..
  simp only [beforeColon] at opens
  simp [valueMark, beforeColon, insertAt, opens, inFlow, newer, outside, goTo, push, place]
  rfl

theorem Inner.further {q : Position} (inner : Inner columns q.column) (n : Nat) :
    Inner columns (q.further n).column :=
  fun around member => Nat.lt_of_lt_of_le (inner around member) (Nat.le_add_right _ n)

/-- A word behind a gap is read as a plain scalar. -/
theorem run_word (word : Word w) (spacing : Spacing g) (fuel : Nat) {p q : Position}
    {keyAllowed allowed : Bool} (place : g.foldl Position.after p = q)
    (allows : (keyAllowed || g.contains '\n') = allowed) (inner : Inner columns q.column) :
    run (fuel + 1) (outside ⟨g ++ (w ++ rest), p⟩ tokens columns keyAllowed) =
      (outside ⟨w ++ rest, q⟩ tokens columns allowed).plainScalar >>= run fuel := by
  obtain ⟨c, letters, rfl, start⟩ := word.start
  have settles : settle (outside ⟨g ++ (c :: letters ++ rest), p⟩ tokens columns keyAllowed) =
      .ok (outside ⟨c :: letters ++ rest, q⟩ tokens columns allowed) := by
    have visible : Visible (c :: letters ++ rest) := visible_of_starts start _
    rw [settle_spacing spacing visible, place, allows]
  exact (run_token fuel settles rfl inner).trans
    (congrArg (· >>= run fuel) (token_word (continues_of_starts start) _ _))

/-- A word is a key if a colon and a gap follow it, and opens a mapping further right than the
blocks around it. -/
theorem run_key (word : Word w) (spacing : Spacing g) (gap : atGap rest = true)
    (short : w.length ≤ longestKey) (fuel : Nat) {p q : Position} {keyAllowed : Bool}
    (place : g.foldl Position.after p = q) (allows : (keyAllowed || g.contains '\n') = true)
    (inner : Inner columns q.column) :
    run (fuel + 2) (outside ⟨g ++ (w ++ ':' :: rest), p⟩ tokens columns keyAllowed) =
      run fuel (outside ⟨rest, q.further (w.length + 1)⟩
        (.value :: .scalar (String.ofList w) true :: .key :: .blockMappingStart :: tokens)
        (q.column :: columns) false) := by
  have scanned : (outside ⟨w ++ ':' :: rest, q⟩ tokens columns true).plainScalar =
      .ok (beforeColon w rest tokens columns q) :=
    plainScalar_eq (saveCandidate_inner ⟨w ++ ':' :: rest, q⟩ inner) (readPlain_key word gap _ q)
  have marked : (beforeColon w rest tokens columns q).token ':' rest =
      (beforeColon w rest tokens columns q).valueMark rest := by
    simp [token, atTriple_of_ne, gap]
  have colon : run (fuel + 1) (beforeColon w rest tokens columns q) =
      (beforeColon w rest tokens columns q).token ':' rest >>= run fuel :=
    run_token fuel (settle_beforeColon short q) rfl (inner.further w.length)
  rw [marked, valueMark_beforeColon q inner] at colon
  rw [run_word word spacing (fuel + 1) place allows inner, scanned]
  exact colon

/-- A word behind a gap in the line of its key is the last token but for the ends of the blocks, if
nothing but a gap follows it. -/
theorem run_last {after : List Char} (word : Word w) (spacing : Spacing g) (ending : Spacing after)
    (fuel : Nat) {p q : Position} (place : g.foldl Position.after p = q)
    (inline : g.contains '\n' = false) (inner : Inner columns q.column) :
    run (fuel + 2) (outside ⟨g ++ (w ++ after), p⟩ tokens columns false) =
      .ok (tokens.reverse ++ .scalar (String.ofList w) true ::
        List.replicate columns.length .blockEnd) := by
  obtain ⟨crossed, last, read⟩ := readPlain_last word ending
    (outside ⟨w ++ after, q⟩ tokens columns false).indent q
  have unsaved : (outside ⟨w ++ after, q⟩ tokens columns false).saveCandidate =
      .ok (outside ⟨w ++ after, q⟩ tokens columns false) := rfl
  have scanned : (outside ⟨w ++ after, q⟩ tokens columns false).plainScalar =
      .ok (outside ⟨[], last⟩ (.scalar (String.ofList w) true :: tokens) columns crossed) :=
    plainScalar_eq unsaved read
  have settles : settle (outside ⟨[], last⟩ (.scalar (String.ofList w) true :: tokens) columns
      crossed) = .ok (outside ⟨[], last⟩ (.scalar (String.ofList w) true :: tokens) columns
      crossed) := settle_visible fun _ _ more => nomatch more
  have closes := run_over fuel settles rfl rfl rfl
  rw [run_word word spacing (fuel + 1) place ((Bool.false_or _).trans inline) inner, scanned]
  refine closes.trans ?_
  simp [outside]

end Lexer

/-- How a text says that a section has a single entry, whose value is a word: the entry stands
further right than the section, and the value in the line of the entry. -/
structure Layout where
  /-- What stands between the section and the line of its entry. -/
  before : List Char
  before_spacing : Spacing before
  /-- The entry stands one column further right than this one. -/
  indent : Nat
  /-- There is one space more than this in front of the value. -/
  gap : Nat
  /-- What follows the value. -/
  after : List Char
  after_spacing : Spacing after

namespace Layout

/-- What stands in front of the entry. -/
def margin (layout : Layout) : List Char :=
  layout.before ++ '\n' :: List.replicate (layout.indent + 1) ' '

/-- The text of a section with a single entry. -/
def text (layout : Layout) (place key value : List Char) : List Char :=
  place ++ ':' :: (layout.margin ++ (key ++ ':' ::
    (List.replicate (layout.gap + 1) ' ' ++ (value ++ layout.after))))

theorem margin_spacing (layout : Layout) : Spacing layout.margin := by
  intro c member
  rcases List.mem_append.mp member with front | line
  · exact layout.before_spacing c front
  · rcases List.mem_cons.mp line with rfl | space
    · exact .inr rfl
    · exact spacing_spaces _ c space

theorem atGap_margin (layout : Layout) (rest : List Char) :
    atGap (layout.margin ++ rest) = true := by
  unfold margin
  cases spelled : layout.before with
  | nil => rfl
  | cons c more =>
    rcases layout.before_spacing c (spelled ▸ List.mem_cons_self) with rfl | rfl <;> rfl

/-- The tokens of a section with a single entry. -/
theorem tokens_text (layout : Layout) {place key value : List Char} (place_word : Word place)
    (key_word : Word key) (value_word : Word value) (place_short : place.length ≤ longestKey)
    (key_short : key.length ≤ longestKey) :
    tokens (layout.text place key value) =
      .ok [.blockMappingStart, .key, .scalar (String.ofList place) true, .value,
        .blockMappingStart, .key, .scalar (String.ofList key) true, .value,
        .scalar (String.ofList value) true, .blockEnd, .blockEnd] := by
  have allowed : (layout.text place key value).all isAllowed = true := by
    have words (w : List Char) (word : Word w) : ∀ c ∈ w, isAllowed c = true :=
      fun c member => isAllowed_continues (word.chars c member)
    have gaps (g : List Char) (spacing : Spacing g) : ∀ c ∈ g, isAllowed c = true := by
      intro c member
      rcases spacing c member with rfl | rfl <;> rfl
    have colon : isAllowed ':' = true := rfl
    simp only [text, List.all_append, List.all_cons, Bool.and_eq_true, List.all_eq_true]
    exact ⟨words _ place_word, colon, gaps _ layout.margin_spacing, words _ key_word, colon,
      gaps _ (spacing_spaces _), words _ value_word, gaps _ layout.after_spacing⟩
  obtain ⟨fuel, enough⟩ : ∃ fuel, (layout.text place key value).length + 1 = fuel + 6 := by
    have size := place_word.length_pos
    refine ⟨(layout.text place key value).length - 5, ?_⟩
    simp only [text, margin, List.length_append, List.length_cons, List.length_replicate]
    omega
  have no_gap : Spacing [] := fun _ member => nomatch member
  have no_block (column : Nat) : Lexer.Inner [] column := fun _ member => nomatch member
  rw [tokens, if_pos allowed, enough]
  -- The section opens a mapping in the first column, its entry one further right, and the value
  -- ends both.
  refine (Lexer.run_key place_word no_gap (layout.atGap_margin _) place_short (fuel + 4) rfl rfl
    (no_block 0)).trans ?_
  refine (Lexer.run_key key_word layout.margin_spacing rfl key_short (fuel + 2) rfl ?_ ?_).trans ?_
  · simp [margin]
  · rw [margin, column_of_line]
    rintro around ⟨⟩
    exact Nat.succ_pos _
  refine (Lexer.run_last value_word (spacing_spaces _) layout.after_spacing fuel
    (spaces_pass _ _) ?_ ?_).trans ?_
  · simp [List.contains_eq_mem]
  · rintro around ⟨⟩
    exact Nat.lt_add_right _ (Nat.lt_add_of_pos_right (Nat.succ_pos key.length))
  rfl

end Layout
end SchemaWipe.Yaml
