import SchemaWipe.Proofs.Mirror

/-! Sequences of what is done to a database: operations with connections of their own, requests of
remote callers, and faults that are planted in between. Each act is told with what it ended with and
the calls that it made. Two sequences side by side tell the same, whatever was recorded before them.
-/
namespace SchemaWipe
open Database Wipe

/-- What is done to a database. -/
inductive Act where
  | wipe (connection : Connection) (schema request : Option String)
  | list (connection : Connection) (schema request : Option String)
  | serve (settings : Settings) (request : Remote.Request)
  /-- The faults ahead are replaced. -/
  | plant (faults : List Fault)

/-- What an act ends with. -/
inductive Act.Outcome where
  | wiped (outcome : Except Stop Report)
  | listed (outcome : Except Stop (List String))
  | answered (answer : Remote.Answer)
  | planted

/-- Does it. -/
def Act.perform (act : Act) (w : World) : Outcome × World :=
  match act with
  | .wipe connection schema request =>
    let (outcome, w) := Wipe.wipe connection schema request w
    (.wiped outcome, w)
  | .list connection schema request =>
    let (outcome, w) := Wipe.list connection schema request w
    (.listed outcome, w)
  | .serve settings request =>
    let (answer, w) := Remote.serve settings request w
    (.answered answer, w)
  | .plant faults =>
    let server := { w.server with faults }
    (.planted, { w with server })

/-- The calls that an act makes. -/
def Act.exchanges (act : Act) (w : World) : List Exchange :=
  (act.perform w).2.server.record.drop w.server.record.length

/-- An act that was done: what it ended with, and the calls that it made. -/
structure Deed where
  act : Act
  outcome : Act.Outcome
  exchanges : List Exchange

/-- Does one act after the other. -/
def deeds : List Act → World → List Deed × World
  | [], w => ([], w)
  | act :: rest, w =>
    let (outcome, after) := act.perform w
    let (more, last) := deeds rest after
    (⟨act, outcome, act.exchanges w⟩ :: more, last)

namespace Act

/-- The act with the password replaced. -/
def rekeyed (rekey : Rekey) : Act → Act
  | .wipe connection schema request => .wipe (connection.rekeyed rekey) schema request
  | .list connection schema request => .list (connection.rekeyed rekey) schema request
  | .serve settings request => .serve (settings.rekeyed rekey) request
  | .plant faults => .plant faults

/-- The connection that an act uses. -/
def connection? : Act → Option Connection
  | .wipe connection _ _ | .list connection _ _ => some connection
  | .serve settings _ => some settings.connection
  | .plant _ => none

/-- The replacement leaves the act with a password if it had one. -/
def Keeps (rekey : Rekey) (act : Act) : Prop :=
  ∀ connection, act.connection? = some connection → connection.Keeps rekey

/-- The outcome with the password in it replaced. -/
def Outcome.rekeyed (rekey : Rekey) : Outcome → Outcome
  | .wiped outcome => .wiped (outcome.mapError (Stop.rekeyed rekey))
  | .listed outcome => .listed (outcome.mapError (Stop.rekeyed rekey))
  | .answered answer => .answered (answer.mapError (Stop.rekeyed rekey))
  | .planted => .planted

theorem rekeyed_id (act : Act) : act.rekeyed id = act := by
  cases act <;> rfl

theorem Outcome.rekeyed_id (outcome : Outcome) : outcome.rekeyed id = outcome := by
  have same {α : Type} (result : Except Stop α) : result.mapError (Stop.rekeyed id) = result := by
    cases result with
    | ok x => rfl
    | error stop => exact Stop.mapError_rekeyed stop.rekeyed_id
  cases outcome <;> simp [rekeyed, same]

end Act

/-- The deed with the password in it replaced. -/
def Deed.rekeyed (rekey : Rekey) (deed : Deed) : Deed :=
  ⟨deed.act.rekeyed rekey, deed.outcome.rekeyed rekey, deed.exchanges.map (Exchange.rekeyed rekey)⟩

theorem Deed.rekeyed_id : Deed.rekeyed id = id := by
  funext deed
  simp [Deed.rekeyed, Act.rekeyed_id, Act.Outcome.rekeyed_id, Exchange.rekeyed_id]

namespace Wipe.Beside

variable {rekey : Rekey} {pasts : List Exchange × List Exchange} {told opened : Prop}
  {w after v : World} {act : Act} {acts : List Act}

/-- An act ends the same with another password. -/
theorem performs (beside : Beside rekey pasts told opened w v) (keeps : act.Keeps rekey)
    {outcome : Act.Outcome} (ran : act.perform w = (outcome, after)) :
    ∃ last, (act.rekeyed rekey).perform v = (outcome.rekeyed rekey, last) ∧
      Beside rekey pasts told False after last := by
  cases act with
  | wipe connection schema request =>
    cases wiped : Wipe.wipe connection schema request w with
    | mk result after =>
      obtain ⟨last, wiped', beside⟩ := beside.wipes (keeps _ rfl) (fun _ => rfl) wiped
      simp only [Act.perform, wiped] at ran
      cases ran
      exact ⟨last, by simp only [Act.rekeyed, Act.perform, wiped']; rfl, beside⟩
  | list connection schema request =>
    cases listed : Wipe.list connection schema request w with
    | mk result after =>
      obtain ⟨last, listed', beside⟩ := beside.lists (keeps _ rfl) (fun _ => rfl) listed
      simp only [Act.perform, listed] at ran
      cases ran
      exact ⟨last, by simp only [Act.rekeyed, Act.perform, listed']; rfl, beside⟩
  | serve settings request =>
    cases served : Remote.serve settings request w with
    | mk answer after =>
      obtain ⟨last, served', beside⟩ := Remote.serves_beside beside (keeps _ rfl) served
      simp only [Act.perform, served] at ran
      cases ran
      exact ⟨last, by simp only [Act.rekeyed, Act.perform, served']; rfl, beside⟩
  | plant faults =>
    cases ran
    have planted : Server.Mirrors rekey pasts opened { w.server with faults }
        { v.server with faults } := { beside.server with faults := rfl }
    exact ⟨_, rfl, (beside.served planted).weaken nofun⟩

/-- The calls of an act are the same with another password. -/
theorem exchanges (beside : Beside rekey pasts told opened w v) (keeps : act.Keeps rekey) :
    (act.rekeyed rekey).exchanges v = (act.exchanges w).map (Exchange.rekeyed rekey) := by
  obtain ⟨last, ran, later⟩ := beside.performs keeps (Prod.eta (act.perform w)).symm
  obtain ⟨before, here, there⟩ := beside.server.record
  obtain ⟨behind, here', there'⟩ := later.server.record
  rw [Act.exchanges, ran, there, there', Act.exchanges, here, here', List.length_append,
    List.length_append, List.drop_length_add_append, List.drop_length_add_append, List.length_map,
    List.map_drop]

/-- Sequences beside each other tell the same, passwords apart. -/
theorem deeds (beside : Beside rekey pasts told opened w v)
    (keeps : ∀ act ∈ acts, act.Keeps rekey) :
    (SchemaWipe.deeds (acts.map (Act.rekeyed rekey)) v).1 =
        (SchemaWipe.deeds acts w).1.map (Deed.rekeyed rekey) ∧
      Beside rekey pasts told False (SchemaWipe.deeds acts w).2
        (SchemaWipe.deeds (acts.map (Act.rekeyed rekey)) v).2 := by
  induction acts generalizing opened w v with
  | nil => exact ⟨rfl, beside.weaken nofun⟩
  | cons act rest ih =>
    obtain ⟨first, others⟩ := List.forall_mem_cons.mp keeps
    cases ran : act.perform w with
    | mk outcome after =>
      obtain ⟨last, ran', later⟩ := beside.performs first ran
      obtain ⟨same, besides⟩ := ih later others
      have exchanges := beside.exchanges first
      simp only [List.map_cons, SchemaWipe.deeds, ran, ran', same, exchanges]
      exact ⟨rfl, besides⟩

end Wipe.Beside

/-- A world is beside itself, and tells everything. -/
theorem Wipe.Beside.self (rekey : Rekey) (w : World) :
    Beside rekey (w.server.record, w.server.record) True True w w where
  server := ⟨rfl, rfl, rfl, ⟨[], by simp⟩, fun _ => rfl, fun _ => rfl⟩
  log _ := rfl
  issued _ := rfl

/-- Where nothing is done, nothing differs. -/
theorem Wipe.Beside.unmoved (w : World) :
    Beside id (w.server.record, w.server.record) True False w w :=
  (Beside.self id w).weaken nofun

end SchemaWipe
