import SchemaWipe.Settings.Conversion

/-! The checks before anything destructive: the name of a schema is a plain identifier (production
`sanitize_identifier`), the caller has repeated it (`ensure_confirmed`), and remote callers are
allowed to wipe at all (`ensure_remote_reset_allowed`). -/
namespace SchemaWipe.Guard

/-- Why a request is refused: production `GuardrailError`. -/
inductive Refusal where
  | identifier (field : String)
  | confirmation (schema : String)
  | remote
  deriving DecidableEq

/-- The explanation of a refusal. -/
def Refusal.message : Refusal → String
  | identifier field => s!"Invalid identifier for {field}"
  | confirmation schema => s!"Confirmation does not match schema '{schema}'; nothing was dropped"
  | remote => "Remote schema reset is disabled by server.allow_remote_reset"

/-- The longest name that the database keeps whole. -/
def longestIdentifier : Nat := 63

/-- An ASCII letter or an underscore. -/
def startsIdentifier (c : Char) : Bool :=
  ('A' ≤ c && c ≤ 'Z') || ('a' ≤ c && c ≤ 'z') || c == '_'

/-- A character that may follow in an identifier: also an ASCII digit or a dollar sign. -/
def continuesIdentifier (c : Char) : Bool :=
  startsIdentifier c || ('0' ≤ c && c ≤ '9') || c == '$'

/-- A plain identifier of at most sixty-three characters. -/
def isIdentifier (cs : List Char) : Bool :=
  match cs with
  | [] => false
  | c :: rest =>
    cs.length ≤ longestIdentifier && startsIdentifier c && rest.all continuesIdentifier

/-- Accepts an identifier: production `sanitize_identifier`. -/
def identifier (field : String) (name : Option String) : Except Refusal String :=
  match name with
  | some s => if isIdentifier s.toList then .ok s else .error (.identifier field)
  | none => .error (.identifier field)

/-- Accepts an answer that repeats the schema, blanks around it apart: production
`ensure_confirmed`. -/
def confirm (schema : String) (answer : Option String) : Except Refusal Unit :=
  match answer with
  | some s =>
    if Text.trim s.toList = schema.toList then .ok () else .error (.confirmation schema)
  | none => .error (.confirmation schema)

/-- An answer repeats a schema, blanks around it apart. -/
def Repeats (schema : String) (answer : Option String) : Prop :=
  ∃ s, answer = some s ∧ Text.trim s.toList = schema.toList

/-- What is confirmed is exactly what repeats the schema. -/
theorem confirm_eq_ok_iff {schema : String} {answer : Option String} :
    confirm schema answer = .ok () ↔ Repeats schema answer := by
  cases answer with
  | none => simp [confirm, Repeats]
  | some s => by_cases same : Text.trim s.toList = schema.toList <;> simp [confirm, Repeats, same]

theorem confirm_eq_error {schema : String} {answer : Option String}
    (other : ¬ Repeats schema answer) : confirm schema answer = .error (.confirmation schema) := by
  cases answer with
  | none => rfl
  | some s =>
    have differs : Text.trim s.toList ≠ schema.toList := fun same => other ⟨s, rfl, same⟩
    simp [confirm, differs]

/-- Accepts remote callers where they are allowed: production `ensure_remote_reset_allowed`. -/
def remoteAllowed (allowed : Bool) : Except Refusal Unit :=
  if allowed then .ok () else .error .remote

end SchemaWipe.Guard
