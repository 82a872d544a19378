import SchemaWipe.Proofs.References
import SchemaWipe.Command.Run

/-! A switch that is added to the end of a command line. Where the command line was understood
before, it is understood as the same command with the same options, and the switch is on. For the
command that wipes this is the option that waives the confirmation. -/
namespace SchemaWipe.CommandLine

variable {flags : List Flag} {flag : Flag} {args : List String} {s : String} {piece : Piece}
  {pieces : List Piece} {r filled : Filled}

/-- An argument at the end is told from the others, unless a separator stands before it. -/
theorem classifyAll_append (known : classify flags s = .ok piece) (word : s ≠ "--")
    (classified : classifyAll flags args = .ok pieces) :
    ∃ last, classifyAll flags (args ++ [s]) = .ok (pieces ++ [last]) ∧
      pieces.length = args.length ∧ (.separator ∉ pieces → last = piece) := by
  induction args generalizing pieces with
  | nil =>
    cases classified
    refine ⟨piece, ?_, rfl, fun _ => rfl⟩
    simp [classifyAll, word, known, bind, Except.bind, pure, Except.pure]
  | cons arg rest ih =>
    unfold classifyAll at classified
    by_cases separates : arg = "--"
    · rw [if_pos separates] at classified
      cases classified
      refine ⟨.plain s, ?_, by simp, ?_⟩
      · simp [classifyAll, separates]
      · intro absent
        simp at absent
    · rw [if_neg separates] at classified
      cases first : classify flags arg with
      | error message => simp [first, bind, Except.bind] at classified
      | ok head =>
        cases others : classifyAll flags rest with
        | error message => simp [first, others, bind, Except.bind] at classified
        | ok more =>
          simp only [first, others, bind, Except.bind, pure, Except.pure, Except.ok.injEq]
            at classified
          subst classified
          obtain ⟨last, appended, size, told⟩ := ih others
          refine ⟨last, ?_, by simp [size], ?_⟩
          · simp [classifyAll, separates, first, appended, bind, Except.bind, pure, Except.pure]
          · intro absent
            exact told fun member => absent (List.mem_cons_of_mem head member)

/-- What a form has no use for is never taken back. -/
theorem fill_extras (ran : fill flags pieces r = .ok filled) : r.extras <+: filled.extras := by
  fun_induction fill flags pieces r with
  | case1 r =>
    cases ran
    exact List.prefix_rfl
  | case2 s rest r ih => exact (List.prefix_append _ _).trans (ih ran)
  | case3 s rest r ih => exact (List.prefix_append _ _).trans (ih ran)
  | case4 rest r ih => exact (List.prefix_append _ _).trans (ih ran)
  | case5 f short joined rest r help =>
    obtain ⟨_, -, thrown⟩ := ok_of_bind ran
    cases thrown
  | case6 f short joined rest r switch ih =>
    obtain ⟨_, -, later⟩ := ok_of_bind ran
    exact ih later
  | case7 f short rest r s _ _ ih =>
    obtain ⟨value, -, later⟩ := ok_of_bind ran
    exact ih value later
  | case8 f short r s more _ _ ih =>
    obtain ⟨value, -, later⟩ := ok_of_bind ran
    exact ih value later
  | case9 f short rest r _ _ _ => cases ran

/-- Where a form had use for everything, there was no separator. -/
theorem separator_not_mem (ran : fill flags pieces r = .ok filled) (used : filled.extras = []) :
    .separator ∉ pieces := by
  fun_induction fill flags pieces r with
  | case1 r => exact List.not_mem_nil
  | case2 s rest r ih => simpa using ih ran
  | case3 s rest r ih => simpa using ih ran
  | case4 rest r ih =>
    have grown := fill_extras ran
    rw [used] at grown
    simp [Filled.extra] at grown
  | case5 f short joined rest r help =>
    obtain ⟨_, -, thrown⟩ := ok_of_bind ran
    cases thrown
  | case6 f short joined rest r switch ih =>
    obtain ⟨_, -, later⟩ := ok_of_bind ran
    simpa using ih later
  | case7 f short rest r s _ _ ih =>
    obtain ⟨value, -, later⟩ := ok_of_bind ran
    simpa using ih value later
  | case8 f short r s more _ _ ih =>
    obtain ⟨value, -, later⟩ := ok_of_bind ran
    simpa using ih value later
  | case9 f short rest r _ _ _ => cases ran

/-- A switch at the end adds itself to what the arguments before it gave. -/
theorem fill_append_switch (switch : flag.kind = .switch)
    (ran : fill flags pieces r = .ok filled) :
    fill flags (pieces ++ [.option flag false none]) r = .ok (filled.add flag .on) := by
  fun_induction fill flags pieces r with
  | case1 r =>
    cases ran
    simp [fill, switch, checkJoined, bind, Except.bind]
  | case2 s rest r ih => exact ih ran
  | case3 s rest r ih => exact ih ran
  | case4 rest r ih => exact ih ran
  | case5 f short joined rest r help =>
    obtain ⟨_, -, thrown⟩ := ok_of_bind ran
    cases thrown
  | case6 f short joined rest r switching ih =>
    obtain ⟨_, checked, later⟩ := ok_of_bind ran
    rw [List.cons_append, fill.eq_def]
    simp only [switching, checked, bind, Except.bind]
    exact ih later
  | case7 f short rest r s noHelp noSwitch ih =>
    obtain ⟨value, converted, later⟩ := ok_of_bind ran
    simp [fill, converted, ih value later, bind, Except.bind]
  | case8 f short r s more noHelp noSwitch ih =>
    obtain ⟨value, converted, later⟩ := ok_of_bind ran
    simp [fill, converted, ih value later, bind, Except.bind]
  | case9 f short rest r _ _ _ => cases ran

/-- A form that had use for all its arguments has use for one of its switches behind them. -/
theorem read_append_switch {form : Form} (switch : flag.kind = .switch) (word : flag.long ≠ "--")
    (known : classify form.flags flag.long = .ok (.option flag false none))
    (reads : form.read args = .ok filled) (used : filled.extras = []) :
    form.read (args ++ [flag.long]) = .ok (filled.add flag .on) := by
  obtain ⟨pieces, classified, ran⟩ := ok_of_bind reads
  cases told : classifyAll form.flags args with
  | error message =>
    rw [told] at classified
    cases classified
  | ok found =>
    rw [told] at classified
    cases classified
    obtain ⟨last, appended, -, piece⟩ := classifyAll_append known word told
    rw [piece (separator_not_mem ran used)] at appended
    rw [Form.read, appended]
    exact fill_append_switch switch ran

variable {menu : Menu} {extras : List String} {name command : String} {given : Named Given}

/-- A command that is run has had use for all its arguments, and none stood before its name. -/
theorem dispatch_run (runs : menu.dispatch extras name args = .run command given) :
    command = name ∧ ∃ choice filled, menu.commands.find? (fun c => c.name = name) = some choice ∧
      choice.form.read args = .ok filled ∧ extras = [] ∧ filled.extras = [] ∧
      filled.given = given := by
  unfold Menu.dispatch at runs
  split at runs
  · cases runs
  · rename_i choice found
    cases reads : choice.form.read args with
    | error halt => cases halt <;> simp [reads, Form.halted] at runs
    | ok filled =>
      simp only [reads] at runs
      split at runs
      · rename_i used
        cases runs
        obtain ⟨before, behind⟩ := List.append_eq_nil_iff.mp (List.isEmpty_iff.mp used)
        exact ⟨rfl, choice, filled, found, reads, before, behind, rfl⟩
      · cases runs

/-- The switches of a command are known to its form. -/
def Knows (menu : Menu) (name : String) (flag : Flag) : Prop :=
  ∀ choice, menu.commands.find? (fun c => c.name = name) = some choice →
    classify choice.form.flags flag.long = .ok (.option flag false none)

theorem dispatch_append_switch (switch : flag.kind = .switch) (word : flag.long ≠ "--")
    (knows : Knows menu name flag)
    (runs : menu.dispatch extras name args = .run command given) :
    menu.dispatch extras name (args ++ [flag.long]) = .run command (given.put flag.long .on) := by
  obtain ⟨rfl, choice, filled, found, reads, rfl, used, rfl⟩ := dispatch_run runs
  have more := read_append_switch switch word (knows choice found) reads used
  simp [Menu.dispatch, found, more, Filled.add, used]

/-- An argument at the end belongs to the command whose name came before. -/
theorem walk_append_switch {arguments : List (Piece × String)} {last : Piece}
    (switch : flag.kind = .switch) (word : flag.long ≠ "--") (knows : Knows menu command flag)
    (runs : menu.walk extras arguments = .run command given) :
    menu.walk extras (arguments ++ [(last, flag.long)]) =
      .run command (given.put flag.long .on) := by
  induction arguments generalizing extras with
  | nil => cases runs
  | cons argument rest ih =>
    obtain ⟨piece, text⟩ := argument
    cases piece with
    | plain name =>
      simp only [List.cons_append, Menu.walk, List.map_append, List.map_cons, List.map_nil] at runs ⊢
      obtain ⟨rfl, -⟩ := dispatch_run runs
      exact dispatch_append_switch switch word knows runs
    | unknown s => exact ih runs
    | separator =>
      simp only [Menu.walk] at runs
      split at runs
      · rename_i ended
        rw [List.isEmpty_iff.mp ended] at runs
        cases runs
      · cases runs
    | option f short joined =>
      simp only [Menu.walk] at runs
      split at runs <;> cases runs

/-- A command line that runs a command runs it also with a switch of the command at its end. -/
theorem menu_read_append_switch {piece : Piece} (switch : flag.kind = .switch)
    (word : flag.long ≠ "--") (seen : classify menu.form.flags flag.long = .ok piece)
    (knows : Knows menu command flag) (runs : menu.read args = .run command given) :
    menu.read (args ++ [flag.long]) = .run command (given.put flag.long .on) := by
  unfold Menu.read at runs
  cases told : classifyAll menu.form.flags args with
  | error message => simp [told] at runs
  | ok pieces =>
    simp only [told] at runs
    obtain ⟨last, appended, size, -⟩ := classifyAll_append seen word told
    simp only [Menu.read, appended]
    rw [List.zip_append size]
    exact walk_append_switch switch word knows runs

end SchemaWipe.CommandLine

namespace SchemaWipe.Command
open CommandLine

/-- A command line asks for a wipe with some options, and beside them waives the confirmation. -/
structure Waiving (args : List String) (given waived : Named Given) : Prop where
  reads : operatorMenu.read args = .run wipeCommand waived
  waives : waived.get? "--yes" ≠ none
  alike : ∀ name, name ≠ "--yes" → waived.get? name = given.get? name

theorem operatorMenu_knows_yes : Knows operatorMenu wipeCommand yesFlag := by
  intro choice found
  cases found
  rfl

/-- The confirmation is waived by one more argument at the end. -/
theorem waiving_append {args : List String} {given : Named Given}
    (reads : operatorMenu.read args = .run wipeCommand given) :
    Waiving (args ++ ["--yes"]) given (given.put "--yes" .on) where
  reads := by
    have switch : yesFlag.kind = .switch := rfl
    have word : yesFlag.long ≠ "--" := by decide
    have seen : classify operatorMenu.form.flags yesFlag.long = .ok (.unknown "--yes") := rfl
    exact menu_read_append_switch switch word seen operatorMenu_knows_yes reads
  waives := by simp [Named.get?_put_self]
  alike := fun name differ => Named.get?_put_of_ne differ .on given

/-- The settings do not depend on whether the confirmation is waived. -/
theorem load_congr {given waived : Named Given} (files : Files) (environ : Settings.Environment)
    (alike : ∀ name, name ≠ "--yes" → waived.get? name = given.get? name) :
    load files environ waived = load files environ given := by
  have texts : ∀ name, name ≠ "--yes" → textOf waived name = textOf given name := by
    intro name differ
    simp only [textOf, alike name differ]
  have settings : ∀ name, name ≠ "--yes" → settingOf waived name = settingOf given name := by
    intro name differ
    simp only [settingOf, alike name differ]
  have opted : options waived = options given := by
    simp [options, settings]
  simp [load, mergedVariables, configPath, filledOf, texts, opted]

end SchemaWipe.Command
