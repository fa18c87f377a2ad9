import PlexPostgres.Exec.Home

/-!
# The transactions of two handles

The registry keeps a transaction by its connection and a pin by its handle.  Two handles can
be given one connection, and then a command of the one is planned on what the other has open:
its BEGIN nests, its COMMIT commits.

A run is made of orders, transaction commands of any handles, each as a statement or as a
script.  `opener` is kept beside the world, from the server's own view: the handle whose
command opened the transaction a connection is in.  `Isolated` says what an order may do,
`Alone` what makes it so: the connection it is given has no transaction another handle opened.
-/

namespace PlexPostgres

open Postgres Txn

variable {ω : Type*}

/-! ### What running a command can do -/

variable {l : Link ω} {state : TxnState}

namespace Txn

/-- BEGIN that is accepted leaves the server in a transaction, wherever it was. -/
theorem exec_beginSql_inTransaction {fate : Fate} (ok : (l.exec beginSql fate).answer = .ok) :
    (l.exec beginSql fate).link.inTransaction = true := by
  obtain ⟨s, rfl, accepted, reaction⟩ := (Link.send_ok_iff _ _ fate).mp ok
  rw [Link.exec, Link.send_accept s _ _ accepted]
  rw [Session.exec] at reaction ⊢
  rcases s with _ | ⟨_ | _, savepoints, writes⟩
  · rfl
  · rfl
  · cases reaction

/-- **A plan that leaves a transaction on record** leaves the server in one, if all of it is
accepted. -/
theorem sendStatements_opens {cmd : TxnCmd} {last : Link ω} {fates : ℕ → Fate}
    {committed : List ω} (wf : WellFormed state.frames)
    (tracked : state.isOpen = true → l.inTransaction = true)
    (sent : World.sendStatements l (plan state cmd).1 fates = (none, last, committed))
    (opens : (plan state cmd).2.isOpen = true) : last.inTransaction = true := by
  by_cases isOpen : state.isOpen = true
  · rcases (plan_planned state cmd).1.of_open wf (by simpa using isOpen) with
      ⟨keeps, -⟩ | ⟨_, _, -, -, -, ends⟩
    · have stillOpen := sendStatements_keeps keeps (tracked isOpen) fates (by rw [sent])
      rw [sent] at stillOpen
      exact stillOpen
    · rw [TxnState.isOpen, ends] at opens
      cases opens
  · have empty : state.frames = [] := by simpa using isOpen
    have begun (rest : List Text) (keeps : ∀ s ∈ rest, KeepsOpen s)
        (planned : (plan state cmd).1 = beginSql :: rest) : last.inTransaction = true := by
      rw [planned] at sent
      have nul : '\x00' ∉ beginSql := by decide
      cases answer : (l.exec beginSql (fates 0)).answer with
      | failed r =>
        rw [sendStatements_failed nul rest answer] at sent
        cases sent
      | ok =>
        rw [sendStatements_ok nul rest answer] at sent
        have ok := congrArg Prod.fst sent
        have link := congrArg (fun out => out.2.1) sent
        have stays := sendStatements_keeps keeps (exec_beginSql_inTransaction answer) _ ok
        dsimp only at link
        rw [link] at stays
        exact stays
    cases cmd with
    | begin => exact begun [] (by simp) (by simp [plan, empty])
    | savepoint n =>
      exact begun [savepointSql n] (by simpa using keepsOpen_savepointSql n)
        (by simp [plan, empty])
    | commit | rollback | release | rollbackTo =>
      simp [plan, empty, Stack.rposition] at opens

end Txn

/-! ### Orders -/

/-- How a command is issued: as a statement, or as a script. -/
inductive Route where
  | statement (env : Step.LookupEnv)
  | script (env : Exec.ExecEnv)

/-- **The connection the command is run on**, 0 if there is none, and the world then. -/
def Route.place (w : World ω) (db : DbId) : Route → ConnId × World ω
  | .statement env => Step.transactionConnection w db env
  | .script env =>
    if Exec.Backed w db env then
      match Exec.preflight (w.pinnedConn db).2 (Exec.execConn w db env) env with
      | (true, w') => (Exec.execConn w db env, w')
      | (false, w') => (0, w')
    else (0, (w.pinnedConn db).2)

/-- **A transaction command of a handle.** -/
structure Order where
  db : DbId
  cmd : TxnCmd
  route : Route
  fates : ℕ → Fate

/-- **The world, and who opened the transaction** each connection is in. -/
structure Parties (ω : Type*) where
  world : World ω
  opener : ConnId → Option DbId

namespace Parties

/-- Where the order is carried out. -/
def place (p : Parties ω) (o : Order) : ConnId × World ω := o.route.place p.world o.db

/-- The world after the order. -/
def worldAfter (p : Parties ω) (o : Order) : World ω :=
  ((p.place o).2.run (p.place o).1 o.db o.cmd o.fates).2

/-- **The order is carried out.**  A transaction the server is in now and was not in before
is the handle's. -/
def next (p : Parties ω) (o : Order) : Parties ω where
  world := p.worldAfter o
  opener conn :=
    if ((p.worldAfter o).link conn).inTransaction then
      if (p.world.link conn).inTransaction then p.opener conn else some o.db
    else none

/-- **The condition**: the connection the order is given has no transaction that another
handle opened. -/
def Alone (p : Parties ω) (o : Order) : Prop :=
  ∀ db, p.opener (p.place o).1 = some db → db = o.db

/-- **The order leaves the others alone**: their transactions stay as they are, on the server
and in the registry, and so do the pins to them; only transactions of the handle itself are
put on record; and a COMMIT or ROLLBACK of a handle that has none open changes nothing on the
server. -/
structure Isolated (p : Parties ω) (o : Order) : Prop where
  others : ∀ conn db, p.opener conn = some db → db ≠ o.db →
    (p.worldAfter o).link conn = p.world.link conn ∧
      (p.worldAfter o).registry.byConn conn = p.world.registry.byConn conn ∧
      (p.world.registry.pins db = some conn → (p.worldAfter o).registry.pins db = some conn)
  recorded : ∀ conn state, (p.worldAfter o).registry.byConn conn = some state →
    p.world.registry.byConn conn = some state ∨ state.db = o.db
  idle : o.cmd = .commit ∨ o.cmd = .rollback → (∀ conn, p.opener conn ≠ some o.db) →
    (∀ conn session, p.world.link conn = .up session →
      (p.worldAfter o).link conn = .up session) ∧
      (p.worldAfter o).durable = p.world.durable

/-- Nothing is open, and nothing on record. -/
structure Quiet (p : Parties ω) : Prop where
  idle : ∀ conn, (p.world.link conn).inTransaction = false
  unrecorded : ∀ conn, p.world.registry.byConn conn = none
  unopened : ∀ conn, p.opener conn = none

end Parties

/-! ### Looking for the connection -/

/-- **What looking for a connection can change**: connections that are not up, with what is
on record for them, and the pin of the handle it is for. -/
structure Looked (db : DbId) (w w' : World ω) : Prop where
  up : ∀ d, (w.link d).isOk = true → w'.link d = w.link d
  lost : ∀ d, (w.link d).isOk = false → (w'.link d).inTransaction = false
  byConn : ∀ d, w'.registry.byConn d = w.registry.byConn d ∨ w'.registry.byConn d = none
  kept : ∀ d, (w.link d).isOk = true → w'.registry.byConn d = w.registry.byConn d
  pins : ∀ db' d, db' ≠ db → (w.link d).isOk = true → w.registry.pins db' = some d →
    w'.registry.pins db' = some d
  durable : w'.durable = w.durable

theorem Link.isOk_of_inTransaction (isOpen : l.inTransaction = true) :
    l.isOk = true := by
  obtain ⟨_, _, _, rfl⟩ := (Link.inTransaction_iff l).mp isOpen
  rfl

theorem Link.not_inTransaction_of_lost (lost : l.isOk = false) :
    l.inTransaction = false := by
  cases isOpen : l.inTransaction with
  | false => rfl
  | true => rw [isOk_of_inTransaction isOpen] at lost; cases lost

namespace Looked

variable {db : DbId} {w w' w'' : World ω}

/-- The connections stay as they are, and so does the registry but for the handle's pin. -/
theorem of_conns (conns : w'.conns = w.conns)
    (byConn : w'.registry.byConn = w.registry.byConn)
    (pins : ∀ db', db' ≠ db → w'.registry.pins db' = w.registry.pins db')
    (durable : w'.durable = w.durable) : Looked db w w' where
  up d _ := by rw [World.link, conns]; rfl
  lost d lost := by rw [World.link, conns]; exact Link.not_inTransaction_of_lost lost
  byConn d := .inl (by rw [byConn])
  kept d _ := by rw [byConn]
  pins db' d other _ pin := by rw [pins db' other]; exact pin
  durable := durable

theorem trans (h : Looked db w w') (h' : Looked db w' w'') : Looked db w w'' where
  up d isUp := (h'.up d (by rw [h.up d isUp]; exact isUp)).trans (h.up d isUp)
  lost d lost := by
    cases up : (w'.link d).isOk with
    | true => rw [h'.up d up]; exact h.lost d lost
    | false => exact h'.lost d up
  byConn d := by
    rcases h'.byConn d with same | none
    · rw [same]
      exact h.byConn d
    · exact .inr none
  kept d isUp := (h'.kept d (by rw [h.up d isUp]; exact isUp)).trans (h.kept d isUp)
  pins db' d other isUp pin :=
    h'.pins db' d other (by rw [h.up d isUp]; exact isUp) (h.pins db' d other isUp pin)
  durable := h'.durable.trans h.durable

theorem pinnedConn (w : World ω) (db : DbId) : Looked db w (w.pinnedConn db).2 := by
  refine of_conns (Step.pinnedConn_conns w db) ?_ (fun db' other => ?_) ?_
  all_goals
    unfold World.pinnedConn
    split
    · rfl
    split
    · rfl
    · dsimp only
      split
      · rfl
      · simp [*]

variable {conn d : ConnId}

section

variable (lost : (w.link conn).isOk = false)
include lost

theorem ne_of_lost (isUp : (w.link d).isOk = true) : d ≠ conn := by
  rintro rfl
  rw [lost] at isUp
  cases isUp

/-- A connection that is not up is replaced by one that is in no transaction. -/
theorem replace {f : Connection ω → Connection ω}
    (idle : (f (w.conns conn)).link.inTransaction = false) : Looked db w (w.setConn conn f) := by
  have elsewhere (d : ConnId) (other : d ≠ conn) : (w.setConn conn f).link d = w.link d := by
    simp [World.link, World.setConn, other]
  exact
    { up := fun d isUp => elsewhere d (ne_of_lost lost isUp)
      lost := fun d isLost => by
        by_cases here : d = conn
        · rw [here, World.link, World.setConn_conns]
          exact idle
        · rw [elsewhere d here]
          exact Link.not_inTransaction_of_lost isLost
      byConn := fun d => .inl rfl
      kept := fun d _ => rfl
      pins := fun _ _ _ _ pin => pin
      durable := rfl }

/-- And the registry forgets it. -/
theorem forget : Looked db w (w.mapRegistry (·.forgetConnection conn)) where
  up d _ := rfl
  lost d isLost := Link.not_inTransaction_of_lost isLost
  byConn d := by
    by_cases here : d = conn
    · exact .inr (by simp [Registry.forgetConnection, here])
    · exact .inl (by simp [Registry.forgetConnection, here])
  kept d isUp := by simp [Registry.forgetConnection, ne_of_lost lost isUp]
  pins db' d _ isUp pin := by simp [Registry.forgetConnection, pin, ne_of_lost lost isUp]
  durable := rfl

theorem reset (ok : Bool) : Looked db w (Step.resetConnection w conn ok) := by
  show Looked db w ((w.mapRegistry (·.forgetConnection conn)).setConn conn fun c =>
    { c with link := if ok then .up .idle else .down })
  refine (forget lost).trans (replace (by exact lost) ?_)
  cases ok <;> rfl

theorem anew (ok : Bool) : Looked db w (Step.connectAnew w conn ok) := by
  unfold Step.connectAnew
  split
  · exact replace lost rfl
  · exact replace lost rfl

end

theorem preflight (w : World ω) (conn : ConnId) (env : Exec.ExecEnv) :
    Looked db w (Exec.preflight w conn env).2 := by
  unfold Exec.preflight
  dsimp only
  split
  · exact of_conns rfl rfl (fun _ _ => rfl) rfl
  next lost =>
    rw [Bool.not_eq_true] at lost
    split
    · exact anew lost _
    split
    · exact reset lost _
    next failed =>
      refine (reset lost env.resetOk).trans (anew ?_ _)
      simp [Step.resetConnection, Step.setLink, World.link, failed, Link.isOk]

theorem place (route : Route) (w : World ω) (db : DbId) : Looked db w (route.place w db).2 := by
  have pinned := pinnedConn w db
  cases route with
  | statement env =>
    unfold Route.place Step.transactionConnection
    dsimp only
    split
    · exact pinned
    · split <;> exact pinned
  | script env =>
    unfold Route.place
    dsimp only
    split
    · have ready := pinned.trans (preflight (w.pinnedConn db).2 (Exec.execConn w db env) env)
      generalize Exec.preflight _ _ _ = readied at ready ⊢
      obtain ⟨_ | _, w'⟩ := readied <;> exact ready
    · exact pinned

end Looked

/-! ### The registry and the openers -/

namespace Parties

/-- **The registry and the server, beside the openers**: a connection in a transaction has an
opener, and a transaction on record is its opener's. -/
structure Sound (w : World ω) (opener : ConnId → Option DbId) : Prop where
  opened : ∀ conn, (opener conn).isSome = (w.link conn).inTransaction
  recorded : ∀ conn state, w.registry.byConn conn = some state →
    state.isOpen = true ∧ WellFormed state.frames ∧ opener conn = some state.db

namespace Sound

variable {w w' : World ω} {opener : ConnId → Option DbId} {db : DbId} {conn : ConnId}

section

variable (sound : Sound w opener)
include sound

theorem stateOf_empty (unopened : opener conn = none) :
    w.registry.byConn conn = none := by
  cases record : w.registry.byConn conn with
  | none => rfl
  | some state =>
    rw [(sound.recorded conn state record).2.2] at unopened
    cases unopened

theorem inTransaction_of_opener (opens : opener conn = some db) :
    (w.link conn).inTransaction = true := by
  rw [← sound.opened conn, opens]
  rfl

/-- The state a command is planned on. -/
theorem stateOf (conn : ConnId) :
    WellFormed (w.registry.stateOf conn).frames ∧
      ((w.registry.stateOf conn).isOpen = true → (w.link conn).inTransaction = true) ∧
      ((w.registry.stateOf conn).db = 0 ∨ opener conn = some (w.registry.stateOf conn).db) := by
  unfold Registry.stateOf
  cases record : w.registry.byConn conn with
  | none => exact ⟨wellFormed_nil, fun isOpen => (nomatch isOpen), .inl rfl⟩
  | some state =>
    obtain ⟨-, wf, opens⟩ := sound.recorded conn state record
    exact ⟨wf, fun _ => sound.inTransaction_of_opener opens, .inr opens⟩

/-- Looking for a connection changes neither. -/
theorem looked (h : Looked db w w') : Sound w' opener where
  opened d := by
    rw [sound.opened d]
    cases up : (w.link d).isOk with
    | true => rw [h.up d up]
    | false => rw [h.lost d up, Link.not_inTransaction_of_lost up]
  recorded d state record := by
    rcases h.byConn d with same | none
    · rw [same] at record
      exact sound.recorded d state record
    · rw [none] at record
      cases record

/-- **Nor does a command** of a handle on a connection no other handle has open. -/
theorem run (alone : ∀ db', opener conn = some db' → db' = db)
    (cmd : TxnCmd) (fates : ℕ → Fate) :
    Sound (w.run conn db cmd fates).2 fun d =>
      if ((w.run conn db cmd fates).2.link d).inTransaction then
        if (w.link d).inTransaction then opener d else some db
      else none where
  opened d := by
    split
    next isOpen =>
      rw [isOpen]
      split
      next wasOpen => rw [sound.opened d, wasOpen]
      · rfl
    next closed => simp [closed]
  recorded d state record := by
    have unchanged (link : (w.run conn db cmd fates).2.link d = w.link d)
        (record : w.registry.byConn d = some state) :
        state.isOpen = true ∧ WellFormed state.frames ∧
          (if ((w.run conn db cmd fates).2.link d).inTransaction then
            if (w.link d).inTransaction then opener d else some db
          else none) = some state.db := by
      obtain ⟨isOpen, wf, opens⟩ := sound.recorded d state record
      rw [link, if_pos (sound.inTransaction_of_opener opens),
        if_pos (sound.inTransaction_of_opener opens)]
      exact ⟨isOpen, wf, opens⟩
    rcases Step.run_cases w conn db cmd fates with
      same | ⟨failure, last, committed, sent, -, link, -, registry⟩
    · rw [same] at record
      exact unchanged (by rw [same]) record
    by_cases here : d = conn
    · subst here
      rcases registry with ⟨same, stays⟩ | forgotten | ⟨accepted, opens, recorded⟩
      · rw [same] at record
        obtain ⟨isOpen, wf, opens⟩ := sound.recorded d state record
        rw [link, if_pos stays, if_pos (sound.inTransaction_of_opener opens)]
        exact ⟨isOpen, wf, opens⟩
      · rw [forgotten] at record
        simp [Registry.forgetConnection] at record
      · rw [recorded] at record
        simp only [Registry.record, Function.update_self, Option.some.injEq] at record
        subst record
        obtain ⟨wf, tracked, owner⟩ := sound.stateOf d
        obtain ⟨-, sameHandle⟩ := plan_planned (w.registry.stateOf d) cmd
        rw [accepted] at sent
        rw [withHandle_isOpen] at opens
        have stays := sendStatements_opens wf tracked sent opens
        have ours : (World.withHandle (plan (w.registry.stateOf d) cmd).2 db).db = db := by
          refine withHandle_db (by simpa using opens) ?_
          rw [sameHandle]
          exact owner.imp id fun opened => alone _ opened
        refine ⟨by rw [withHandle_isOpen]; exact opens, ?_, ?_⟩
        · rw [withHandle_frames]
          exact plan_wellFormed wf cmd
        · rw [link, if_pos stays, ours]
          split
          next wasOpen =>
            obtain ⟨db', opened⟩ := Option.isSome_iff_exists.mp ((sound.opened d).trans wasOpen)
            rw [opened, alone db' opened]
          · rfl
    · obtain ⟨same, kept⟩ := Step.run_other here w db cmd fates
      exact unchanged (by rw [World.link, same]; rfl) (kept.symm.trans record)

end

end Sound

/-! ### One order, and a run -/

variable {p : Parties ω} {o : Order}

section

theorem looked_place (p : Parties ω) (o : Order) : Looked o.db p.world (p.place o).2 :=
  .place o.route p.world o.db

variable (sound : Sound p.world p.opener) (alone : p.Alone o)
include sound alone

/-- The other handles' transactions, when the order is given a connection of its own. -/
theorem others_of_alone {conn : ConnId} {db : DbId} (opened : p.opener conn = some db)
    (other : db ≠ o.db) :
    (p.worldAfter o).link conn = p.world.link conn ∧
      (p.worldAfter o).registry.byConn conn = p.world.registry.byConn conn ∧
      (p.world.registry.pins db = some conn →
        (p.worldAfter o).registry.pins db = some conn) := by
  have looked := looked_place p o
  have isUp := Link.isOk_of_inTransaction (sound.inTransaction_of_opener opened)
  have elsewhere : conn ≠ (p.place o).1 := by
    intro here
    rw [here] at opened
    exact other (alone db opened)
  have pins := looked.pins db conn other isUp
  obtain ⟨same, kept⟩ := Step.run_other elsewhere (p.place o).2 o.db o.cmd o.fates
  refine ⟨(congrArg Connection.link same).trans (looked.up conn isUp),
    kept.trans (looked.kept conn isUp), fun pin => ?_⟩
  unfold worldAfter
  rcases Step.run_cases (p.place o).2 (p.place o).1 o.db o.cmd o.fates with
    same | ⟨_, _, _, -, -, -, -, ⟨same, -⟩ | forgotten | ⟨-, -, recorded⟩⟩
  · rw [same]
    exact pins pin
  · rw [same]
    exact pins pin
  · rw [forgotten]
    simp [Registry.forgetConnection, pins pin, elsewhere]
  · rw [recorded]
    simp [Registry.record, Function.update_of_ne other, pins pin]

/-- What is put on record is the handle's own. -/
theorem recorded_of_alone {conn : ConnId}
    (record : (p.worldAfter o).registry.byConn conn = some state) :
    p.world.registry.byConn conn = some state ∨ state.db = o.db := by
  have looked := looked_place p o
  have soundThen := sound.looked looked
  unfold worldAfter at record
  by_cases here : conn = (p.place o).1
  · subst here
    have after := soundThen.run alone o.cmd o.fates
    obtain ⟨-, -, opened⟩ := after.recorded _ state record
    split at opened
    · split at opened
      · exact .inr (alone _ opened)
      · exact .inr (Option.some.inj opened).symm
    · cases opened
  · left
    rw [(Step.run_other here (p.place o).2 o.db o.cmd o.fates).2] at record
    rcases looked.byConn conn with same | none
    · rw [← same]
      exact record
    · rw [none] at record
      cases record

/-- A COMMIT or ROLLBACK of a handle with nothing open sends nothing. -/
theorem idle_of_alone (ends : o.cmd = .commit ∨ o.cmd = .rollback)
    (none : ∀ conn, p.opener conn ≠ some o.db) :
    (∀ conn session, p.world.link conn = .up session →
      (p.worldAfter o).link conn = .up session) ∧
      (p.worldAfter o).durable = p.world.durable := by
  have looked := looked_place p o
  have unopened : p.opener (p.place o).1 = Option.none := by
    cases opened : p.opener (p.place o).1 with
    | none => rfl
    | some db =>
      rw [alone db opened] at opened
      exact absurd opened (none _)
  have empty : (p.place o).2.registry.stateOf (p.place o).1 = .empty := by
    rw [Registry.stateOf, (sound.looked looked).stateOf_empty unopened]
    rfl
  have nothing : (plan .empty o.cmd).1 = [] := by
    rcases ends with commit | rollback
    · rw [commit]
      rfl
    · rw [rollback]
      rfl
  have up (conn : ConnId) (session : Session ω) (isUp : p.world.link conn = .up session) :
      (p.place o).2.link conn = .up session := by
    rw [looked.up conn (by rw [isUp]; rfl)]
    exact isUp
  unfold worldAfter
  rcases Step.run_cases (p.place o).2 (p.place o).1 o.db o.cmd o.fates with
    same | ⟨failure, last, committed, sent, others, link, durable, -⟩
  · rw [same]
    exact ⟨up, looked.durable⟩
  · rw [empty, nothing] at sent
    cases sent
    refine ⟨fun conn session isUp => ?_, ?_⟩
    · by_cases here : conn = (p.place o).1
      · rw [here, link, ← here]
        exact up conn session isUp
      · rw [World.link, others conn here]
        exact up conn session isUp
    · rw [durable, List.append_nil]
      exact looked.durable

theorem isolated_of_alone : p.Isolated o where
  others _ _ opened other := others_of_alone sound alone opened other
  recorded _ _ record := recorded_of_alone sound alone record
  idle ends none := idle_of_alone sound alone ends none

theorem Sound.next : Sound (p.next o).world (p.next o).opener := by
  have looked := looked_place p o
  have sameStatus (d : ConnId) : ((p.place o).2.link d).inTransaction =
      (p.world.link d).inTransaction := by
    rw [← (sound.looked looked).opened d, ← sound.opened d]
  have after := (sound.looked looked).run alone o.cmd o.fates
  simp only [sameStatus] at after
  exact after

end

/-- **Handles leave each other's transactions alone.**  In a run of transaction commands, of
any handles and by any route, in which each is given a connection without a transaction of
another handle, every one of them is isolated. -/
theorem handles_isolated (p : Parties ω) (quiet : p.Quiet) (orders : List Order)
    (alone : Runs.Meets next Alone p orders) (before : List Order) (o : Order)
    (later : List Order) (split : orders = before ++ o :: later) :
    (Runs.final next p before).Isolated o := by
  subst split
  obtain ⟨earlier, here, -⟩ := (Runs.meets_append p before (o :: later)).mp alone
  have start : Sound p.world p.opener :=
    ⟨fun conn => by rw [quiet.unopened, quiet.idle]; rfl, fun conn state record => by
      rw [quiet.unrecorded] at record
      cases record⟩
  have sound := earlier.invariant (fun p => Sound p.world p.opener)
    (fun _ _ sound ok => sound.next ok) start
  exact isolated_of_alone sound here

/-! ### Two runs -/

/-- Connections up and idle. -/
def idle : Parties ℕ := ⟨.fresh, fun _ => none⟩

/-- A command of a handle for which connection `conn` is found. -/
def order (db : DbId) (cmd : TxnCmd) (conn : ConnId) : Order :=
  ⟨db, cmd, .statement (Step.Env.calm conn).lookup, fun _ => .fine⟩

theorem handles_isolated_of_two :
    let p := Runs.final next idle [order 7 .begin 1, order 8 .begin 2]
    p.opener 1 = some 7 ∧ p.opener 2 = some 8 ∧ p.Isolated (order 7 .commit 1) := by
  intro p
  refine ⟨by decide, by decide, ?_⟩
  refine handles_isolated idle ⟨fun _ => rfl, fun _ => rfl, fun _ => rfl⟩
    [order 7 .begin 1, order 8 .begin 2, order 7 .commit 1] ⟨?_, ?_, ?_, trivial⟩
    [order 7 .begin 1, order 8 .begin 2] (order 7 .commit 1) [] rfl
  · intro db opened
    cases opened
  · intro db opened
    cases opened
  · intro db opened
    cases opened
    rfl

/-- **A COMMIT that commits another handle's transaction.**  Handle 7 has a transaction open on
connection 1, and handle 8, which has none, is given the same connection: its BEGIN nests
into the transaction, and its COMMIT ends it. -/
theorem commit_ends_the_others :
    let p := Runs.final next idle [order 7 .begin 1]
    p.opener 1 = some 7 ∧ (∀ conn, p.opener conn ≠ some 8) ∧
      (p.world.link 1).inTransaction = true ∧ p.world.registry.pins 7 = some 1 ∧
      ((p.worldAfter (order 8 .commit 1)).link 1).inTransaction = false ∧
      (p.worldAfter (order 8 .commit 1)).registry.pins 7 = none ∧
      (p.worldAfter (order 8 .begin 1)).link 1 ≠ p.world.link 1 ∧
      ¬ p.Isolated (order 8 .commit 1) ∧ ¬ p.Isolated (order 8 .begin 1) := by
  intro p
  have opened : p.opener 1 = some 7 := by decide
  have ended : ((p.worldAfter (order 8 .commit 1)).link 1).inTransaction = false := by decide
  have nested : (p.worldAfter (order 8 .begin 1)).link 1 ≠ p.world.link 1 := by decide
  refine ⟨opened, fun conn => ?_, by decide, by decide, ended, by decide, nested, fun h => ?_,
    fun h => nested (h.others 1 7 opened (by decide)).1⟩
  · show (if _ then if _ then none else some 7 else none) ≠ some 8
    split
    · split <;> decide
    · decide
  · have kept := (h.others 1 7 opened (by decide)).1
    rw [kept] at ended
    cases ended

end Parties

end PlexPostgres
