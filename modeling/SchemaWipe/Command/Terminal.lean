import SchemaWipe.Log

/-! The terminal of a command: what the operator types and what is printed. -/
namespace SchemaWipe.Command

/-- A terminal. -/
structure Terminal where
  /-- What is still to be read. -/
  input : List Char := []
  /-- The answers to questions for a password. -/
  passwords : List String := []
  /-- What was printed. -/
  output : String := ""
  /-- What was printed about errors, log records included. -/
  errors : String := ""
  /-- The questions for a password. -/
  questions : List String := []

namespace Terminal

/-- Prints a text. -/
def print (t : Terminal) (s : String) : Terminal :=
  { t with output := t.output ++ s }

/-- Prints a text about an error. -/
def complain (t : Terminal) (s : String) : Terminal :=
  { t with errors := t.errors ++ s }

/-- Asks for a line; there is none if the input is over. -/
def ask (t : Terminal) (question : String) : Option String × Terminal :=
  let t := t.print question
  if t.input.isEmpty then (none, t)
  else
    (some (String.ofList (t.input.takeWhile (· != '\n'))),
      { t with input := (t.input.dropWhile (· != '\n')).drop 1 })

/-- The line that is read next, if there is any input left. -/
def line? (t : Terminal) : Option String :=
  if t.input.isEmpty then none else some (String.ofList (t.input.takeWhile (· != '\n')))

@[simp] theorem ask_fst (t : Terminal) (question : String) : (t.ask question).1 = t.line? := by
  unfold ask line?
  dsimp only [print]
  split <;> rfl

@[simp] theorem ask_output (t : Terminal) (question : String) :
    (t.ask question).2.output = t.output ++ question := by
  unfold ask
  dsimp only [print]
  split <;> rfl

@[simp] theorem ask_errors (t : Terminal) (question : String) :
    (t.ask question).2.errors = t.errors := by
  unfold ask
  dsimp only [print]
  split <;> rfl

@[simp] theorem ask_questions (t : Terminal) (question : String) :
    (t.ask question).2.questions = t.questions := by
  unfold ask
  dsimp only [print]
  split <;> rfl

/-- Asks for a password; there is none if the input is over. -/
def askPassword (t : Terminal) (question : String) : Option String × Terminal :=
  let t := { t with questions := t.questions ++ [question] }
  match t.passwords with
  | [] => (none, t)
  | password :: rest => (some password, { t with passwords := rest })

end Terminal
end SchemaWipe.Command
