import SchemaWipe.Database.Server
import SchemaWipe.Log
import SchemaWipe.Wipe.Stop

/-! What operations work on: the server, the log they write and the request ids they hand out.
Production `uuid4` makes ids that do not repeat; here they are counted. -/
namespace SchemaWipe.Wipe
open Database

/-- The state that operations share. -/
structure World where
  server : Server := {}
  /-- The records written so far, in order. -/
  log : List Log.Record := []
  /-- How many request ids were made. -/
  issued : Nat := 0

namespace World

/-- Makes a call to the server. -/
def call (w : World) (c : Call) : Option Error × World :=
  let (error, server) := w.server.perform c
  (error, { w with server })

/-- Writes a record. -/
def write (w : World) (r : Log.Record) : World :=
  { w with log := w.log ++ [r] }

/-- The `n`-th request id. -/
def requestId (n : Nat) : String :=
  "00000000-0000-4000-8000-" ++ zeroPadded 12 n

/-- Makes a new request id. -/
def issue (w : World) : String × World :=
  (requestId (w.issued + 1), { w with issued := w.issued + 1 })

/-- The given request id, or a new one if none is given or it is empty. -/
def requestOr (w : World) : Option String → String × World
  | some id => if id.isEmpty then w.issue else (id, w)
  | none => w.issue

/-- The world after other clients changed what is committed. -/
def changed (w : World) (change : Catalog → Catalog) : World :=
  { w with server := { w.server with catalog := change w.server.catalog } }

theorem changed_id (w : World) : w.changed id = w := rfl

end World
end SchemaWipe.Wipe
