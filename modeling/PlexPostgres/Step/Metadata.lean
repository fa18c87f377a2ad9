import PlexPostgres.Step.Call

/-!
# Column metadata before the first step

Plex may ask for the columns of a statement before it steps it.  The shim then has the
statement described on the server, or runs it for its columns alone; the rows such a run
brings are thrown away by the first step.

The connection is the pool's for this thread, whatever transaction the handle has open.
-/

namespace PlexPostgres.Step

open Postgres Txn

variable {ω : Type*}

/-- Where the columns come from. -/
inductive MetadataSource where
  | describe
  | execute
  | none
  deriving DecidableEq, Repr

/-- `metadata_source`: a write is described, never run. -/
def metadataSource (isWrite unbound named : Bool) : MetadataSource :=
  if isWrite then if named then .describe else .none
  else if unbound && named then .describe
  else .execute

/-- The outcomes a request for the columns meets. -/
structure MetadataEnv where
  /-- The columns are known already. -/
  columnsKnown : Bool
  /-- The statement's connection is a library's. -/
  library : Bool
  /-- `pg_get_thread_connection`. -/
  pooled : ConnId
  /-- `pg_get_thread_connection_excluding`, when the statement's connection streams. -/
  excluding : ConnId
  /-- It has parameters, and none is bound. -/
  unbound : Bool
  /-- It has a name to be prepared under. -/
  named : Bool
  planCached : Bool
  prepare : Fate
  /-- A plan of that name is there already. -/
  duplicate : Bool
  run : Fate
  rows : ℕ

/-- The connection the columns are asked for on. -/
def metadataConn (w : World ω) (stmt : Stmt ω) (env : MetadataEnv) : ConnId :=
  let other := if (w.conns stmt.conn).streaming then env.excluding else env.pooled
  if isUsable w other && (w.conns other).active then other else stmt.conn

/-- **The connection something is sent on**, if anything is. -/
def metadataPlace (w : World ω) (stmt : Stmt ω) (env : MetadataEnv) : Option ConnId :=
  if stmt.result.isSome || env.columnsKnown || stmt.pgSql.isNone || !isUsable w stmt.conn ||
      !env.library then none
  else if (w.conns (metadataConn w stmt env)).streaming then none
  else if metadataSource (stmt.kind = .write) env.unbound env.named = .none then none
  else some (metadataConn w stmt env)

/-- **Fetch the columns**: the rows of a statement that is run are kept for them only. -/
def fetchMetadata (w : World ω) (stmt : Stmt ω) (env : MetadataEnv) : World ω × Stmt ω :=
  match metadataPlace w stmt env with
  | none => (w, stmt)
  | some conn =>
    let described := metadataSource (stmt.kind = .write) env.unbound env.named = .describe
    let planned := if described && !env.planCached then (w.link conn).query env.prepare
      else .nothing (w.link conn)
    if planned.answer ≠ .ok && !env.duplicate then
      (w.after conn planned.link planned.committed, stmt)
    else
      let out := planned.andThen (·.query env.run)
      let w := w.after conn out.link out.committed
      if out.answer = .ok then
        (w, { stmt with
          result := some ⟨0, if described then 0 else env.rows, true⟩, resultConn := conn })
      else (w, stmt)

/-- **Everything a request for the columns can do**: nothing, or something is sent on the
place, and rows are kept for the columns only. -/
theorem fetchMetadata_cases (w : World ω) (stmt : Stmt ω) (env : MetadataEnv) :
    fetchMetadata w stmt env = (w, stmt) ∨
      ∃ conn link committed, metadataPlace w stmt env = some conn ∧
        (fetchMetadata w stmt env = (w.after conn link committed, stmt) ∨
          ∃ count, fetchMetadata w stmt env = (w.after conn link committed,
            { stmt with result := some ⟨0, count, true⟩, resultConn := conn })) := by
  unfold fetchMetadata
  cases place : metadataPlace w stmt env with
  | none => exact .inl rfl
  | some conn =>
    refine .inr ?_
    dsimp only
    generalize (if (decide (metadataSource (decide (stmt.kind = .write)) env.unbound env.named =
        .describe) && !env.planCached) = true then (w.link conn).query env.prepare
      else .nothing (w.link conn)) = planned
    split
    · exact ⟨conn, _, _, rfl, .inl rfl⟩
    split
    · exact ⟨conn, _, _, rfl, .inr ⟨_, rfl⟩⟩
    · exact ⟨conn, _, _, rfl, .inl rfl⟩

end PlexPostgres.Step
