import StationChat.Model.Database
import StationChat.Model.DatabaseMariaDb

/-! How often the server applies a statement that is sent again after a lost connection. -/
namespace StationChat.MariaDb
open Lib Lib.Action

variable {σ : Type} {b : Behaviour σ} {l : Link σ} {sql : StdString}

section Query

/-- The query reaches the server, which accepts it. -/
def Applies (b : Behaviour σ) (l : Link σ) (sql : StdString) : Prop :=
  (∀ code, b.deliver l.calls ≠ .lost code false) ∧
    ∃ tables, b.server l.calls sql l.tables = .ok tables

/-- The connection after one query. -/
def Link.queried (b : Behaviour σ) (l : Link σ) (sql : StdString) : Link σ :=
  match b.deliver l.calls with
  | .answered | .lost _ true => l.reached b sql
  | .lost _ false => { l with calls := l.calls + 1 }

/-- The error code of the query. -/
def Link.code (b : Behaviour σ) (l : Link σ) (sql : StdString) : Option Nat :=
  match b.deliver l.calls, b.server l.calls sql l.tables with
  | .answered, .ok _ => none
  | .answered, .error code => some code
  | .lost code _, _ => some code

theorem mysqlRealQuery_run : mysqlRealQuery b sql l = (.ok (l.code b sql), l.queried b sql) := by
  rw [mysqlRealQuery, get_bind_run, Link.code, Link.queried]
  cases b.deliver l.calls with
  | answered => cases b.server l.calls sql l.tables <;> rfl
  | lost code reached => cases reached <;> rfl

theorem queried_calls : (l.queried b sql).calls = l.calls + 1 := by
  unfold Link.queried Link.reached
  split
  all_goals first | rfl | (split <;> rfl)

theorem queried_of_applies (h : Applies b l sql) :
    (l.queried b sql).applied = l.applied ++ [sql] := by
  obtain ⟨hreached, tables, hserver⟩ := h
  unfold Link.queried Link.reached
  split
  · rw [hserver]
  · rw [hserver]
  · rename_i code hlost
    exact absurd hlost (hreached code)

theorem queried_of_not_applies (h : ¬ Applies b l sql) : (l.queried b sql).applied = l.applied := by
  unfold Link.queried Link.reached
  split
  · rename_i hanswered
    split
    · rename_i tables hserver
      exact absurd ⟨by simp [hanswered], tables, hserver⟩ h
    · rfl
  · rename_i hlost
    split
    · rename_i tables hserver
      exact absurd ⟨by simp [hlost], tables, hserver⟩ h
    · rfl
  · rfl

theorem applies_of_code_none (h : l.code b sql = none) : Applies b l sql := by
  unfold Link.code at h
  split at h
  · rename_i hanswered hserver
    exact ⟨by simp [hanswered], _, hserver⟩
  · exact absurd h (by simp)
  · exact absurd h (by simp)

/-- The connection when the query is sent again, after a ping and the two calls that set the session
up. -/
def Link.retried (b : Behaviour σ) (l : Link σ) (sql : StdString) : Link σ :=
  { l.queried b sql with calls := l.calls + 4 }

/-- The first attempt loses the connection, which comes back with its session. -/
def Retries (b : Behaviour σ) (l : Link σ) (sql : StdString) : Prop :=
  (∃ code, l.code b sql = some code ∧ isConnectionLossError code = true) ∧
    ∀ i ∈ [1, 2, 3], b.answers (l.calls + i) = true

private theorem query_last : query b sql 1 l = match l.code b sql with
    | none => (.ok (), l.queried b sql)
    | some code => (.error (.queryFailed code), l.queried b sql) := by
  rw [query, bind_ok mysqlRealQuery_run]
  cases l.code b sql <;> rfl

theorem mysqlCall_run :
    mysqlCall b l = (.ok (b.answers l.calls), { l with calls := l.calls + 1 }) := rfl

theorem configureSession_run : configureSession b l =
    if b.answers l.calls then
      if b.answers (l.calls + 1) then (.ok (), { l with calls := l.calls + 2 })
      else (.error .setSqlModeFailed, { l with calls := l.calls + 2 })
    else (.error .setCharsetFailed, { l with calls := l.calls + 1 }) := by
  rw [configureSession, bind_ok mysqlCall_run]
  cases b.answers l.calls with
  | false => rfl
  | true =>
    simp only [Bool.not_true, Bool.false_eq_true, if_false, if_true]
    rw [bind_ok mysqlCall_run]
    cases b.answers (l.calls + 1) <;> rfl

theorem query_retries (h : Retries b l sql) :
    query b sql 2 l = query b sql 1 (l.retried b sql) := by
  obtain ⟨⟨code, hcode, hloss⟩, hanswers⟩ := h
  have hping : b.answers (l.queried b sql).calls = true := by
    rw [queried_calls]
    exact hanswers 1 (by simp)
  have hcharset : b.answers ((l.queried b sql).calls + 1) = true := by
    rw [queried_calls]
    exact hanswers 2 (by simp)
  have hmode : b.answers ((l.queried b sql).calls + 1 + 1) = true := by
    rw [queried_calls]
    exact hanswers 3 (by simp)
  rw [query, bind_ok mysqlRealQuery_run, hcode]
  simp only [hloss, Bool.and_true, beq_self_eq_true, if_true]
  rw [bind_ok mysqlCall_run, hping]
  have hsession : configureSession b
      { l.queried b sql with calls := (l.queried b sql).calls + 1 } =
        (.ok (), { l.queried b sql with calls := (l.queried b sql).calls + 3 }) := by
    rw [configureSession_run, if_pos hcharset, if_pos hmode]
  simp only [if_true]
  rw [bind_ok hsession, queried_calls]
  rfl

/-- Without a second attempt the query ends as its first attempt did. -/
theorem query_ends_of_not_retries (h : ¬ Retries b l sql) :
    (query b sql 2).Ends l
      (fun _ l' => l.code b sql = none ∧ l'.applied = (l.queried b sql).applied)
      (fun _ l' => l'.applied = (l.queried b sql).applied) := by
  rw [query, ends_bind]
  refine Ends.of_run mysqlRealQuery_run ?_
  cases hcode : l.code b sql with
  | none => exact ⟨rfl, rfl⟩
  | some code =>
    by_cases hloss : isConnectionLossError code = true
    case neg => simp [hloss]
    simp only [hloss, Bool.and_true, beq_self_eq_true, if_true]
    refine (ends_bind ..).mpr (Ends.of_run mysqlCall_run ?_)
    by_cases hping : b.answers (l.queried b sql).calls = true
    case neg => simp [hping]
    rw [if_pos hping]
    refine (ends_bind ..).mpr ?_
    unfold Ends
    rw [configureSession_run]
    by_cases hcharset : b.answers ((l.queried b sql).calls + 1) = true
    case neg => simp [hcharset]
    by_cases hmode : b.answers ((l.queried b sql).calls + 1 + 1) = true
    case neg => simp [hcharset, hmode]
    rw [queried_calls] at hping hcharset hmode
    refine absurd ⟨⟨code, hcode, hloss⟩, ?_⟩ h
    simpa using ⟨hping, hcharset, hmode⟩

end Query

section Step
variable {stmt : MariaDbStatement}

theorem storeResult_ends (l : Link σ) :
    (storeResult b).Ends l (fun _ l' => l'.applied = l.applied) (fun _ l' => l'.applied = l.applied) := by
  rw [storeResult, ends_bind]
  refine Ends.of_run (get_run l) ?_
  refine (ends_bind ..).mpr ?_
  cases b.results l.calls <;> rfl

/-- What the attempts left applied is left applied by the whole of `Execute`. -/
theorem execute_ends {Q : List StdString → Prop} {E : List StdString → Prop}
    (hsql : renderSql b stmt = some sql)
    (h : (query b sql 2).Ends l (fun _ l' => Q l'.applied) (fun _ l' => E l'.applied))
    (hQE : ∀ applied, Q applied → E applied) :
    (execute b stmt).Ends l (fun stmt' l' => stmt'.executed = true ∧ Q l'.applied)
      (fun _ l' => E l'.applied) := by
  rw [execute, hsql]
  refine (ends_bind ..).mpr (h.mono (fun _ l' hQ => ?_) fun _ _ hE => hE)
  refine (ends_bind ..).mpr ((storeResult_ends l').mono (fun _ l'' heq => ?_) fun _ l'' heq => ?_)
  · exact ⟨rfl, heq ▸ hQ⟩
  · exact heq ▸ hQE _ hQ

theorem step_ends {Q : List StdString → Prop} {E : List StdString → Prop}
    (hfresh : stmt.executed = false)
    (h : (execute b stmt).Ends l (fun stmt' l' => stmt'.executed = true ∧ Q l'.applied)
      (fun _ l' => E l'.applied)) :
    (step b stmt).Ends l (fun result l' => result.2.executed = true ∧ Q l'.applied)
      (fun _ l' => E l'.applied) := by
  rw [step, hfresh]
  refine (ends_bind ..).mpr (h.mono (fun stmt' l' hQ => ?_) fun _ _ hE => hE)
  cases hresult : stmt'.result with
  | none => simpa [hresult] using hQ
  | some rowCount => by_cases hrow : stmt'.rowIndex < rowCount <;> simpa [hresult, hrow] using hQ

/-- A statement that was executed only reads its stored result. -/
theorem step_executed (h : stmt.executed = true) :
    ∃ result, step b stmt l = (.ok result, l) ∧ result.2.executed = true := by
  rw [step, h]
  cases hresult : stmt.result with
  | none => exact ⟨_, by simp [hresult]; rfl, h⟩
  | some rowCount =>
    by_cases hrow : stmt.rowIndex < rowCount
    · exact ⟨(.row, { stmt with rowIndex := stmt.rowIndex + 1 }), by simp [hresult, hrow], h⟩
    · exact ⟨(.done, stmt), by simp [hresult, hrow], h⟩

/-- A statement object is stepped until it is done or throws. -/
def steps (b : Behaviour σ) : Nat → MariaDbStatement → Query σ MariaDbStatement
  | 0, stmt => pure stmt
  | n + 1, stmt => do
    let (_, stmt) ← step b stmt
    steps b n stmt

theorem steps_executed (n : Nat) (h : stmt.executed = true) :
    ∃ stmt', steps b n stmt l = (.ok stmt', l) := by
  induction n generalizing stmt with
  | zero => exact ⟨stmt, rfl⟩
  | succ n ih =>
    obtain ⟨result, hstep, hexecuted⟩ := step_executed (b := b) (l := l) h
    obtain ⟨stmt', hrest⟩ := ih hexecuted
    exact ⟨stmt', by rw [steps, bind_ok hstep]; exact hrest⟩

theorem steps_ends {Q : List StdString → Prop} {E : List StdString → Prop} (n : Nat)
    (hfresh : stmt.executed = false)
    (h : (execute b stmt).Ends l (fun stmt' l' => stmt'.executed = true ∧ Q l'.applied)
      (fun _ l' => E l'.applied)) :
    (steps b (n + 1) stmt).Ends l (fun _ l' => Q l'.applied) (fun _ l' => E l'.applied) := by
  rw [steps]
  refine (ends_bind ..).mpr ((step_ends hfresh h).mono (fun result l' hQ => ?_) fun _ _ hE => hE)
  obtain ⟨stmt', hrest⟩ := steps_executed (b := b) (l := l') n hQ.1
  exact Ends.of_run hrest hQ.2

end Step

section ExactlyOnce
variable {stmt : MariaDbStatement}

/-- However often the statement is stepped, its text is applied once if no step throws, and at most
once if one does. -/
def ExactlyOnce (b : Behaviour σ) (l : Link σ) (stmt : MariaDbStatement) (n : Nat) : Prop :=
  (steps b (n + 1) stmt).Ends l
    (fun _ l' => ∃ sql, renderSql b stmt = some sql ∧ l'.applied = l.applied ++ [sql])
    (fun _ l' => l'.applied = l.applied ∨
      ∃ sql, renderSql b stmt = some sql ∧ l'.applied = l.applied ++ [sql])

/-- The first query is applied although the connection is lost, the connection comes back with its
session, and the second query is applied as well. -/
def AppliesTwice (b : Behaviour σ) (l : Link σ) (sql : StdString) : Prop :=
  Applies b l sql ∧ Retries b l sql ∧ Applies b (l.retried b sql) sql

private theorem query_once (h : ¬ AppliesTwice b l sql) :
    (query b sql 2).Ends l (fun _ l' => l'.applied = l.applied ++ [sql])
      (fun _ l' => l'.applied = l.applied ∨ l'.applied = l.applied ++ [sql]) := by
  by_cases hretries : Retries b l sql
  · unfold Ends
    rw [query_retries hretries, query_last]
    by_cases hfirst : Applies b l sql
    · have hsecond : ¬ Applies b (l.retried b sql) sql := fun hsecond => h ⟨hfirst, hretries, hsecond⟩
      cases hcode : (l.retried b sql).code b sql with
      | none => exact absurd (applies_of_code_none hcode) hsecond
      | some code => exact .inr ((queried_of_not_applies hsecond).trans (queried_of_applies hfirst))
    · have hnone : (l.retried b sql).applied = l.applied := queried_of_not_applies hfirst
      cases hcode : (l.retried b sql).code b sql with
      | none =>
        have hsecond := queried_of_applies (applies_of_code_none hcode)
        rwa [hnone] at hsecond
      | some code =>
        by_cases hsecond : Applies b (l.retried b sql) sql
        · have happlied := queried_of_applies hsecond
          rw [hnone] at happlied
          exact .inr happlied
        · exact .inl ((queried_of_not_applies hsecond).trans hnone)
  · refine (query_ends_of_not_retries hretries).mono (fun _ l' hl' => ?_) (fun _ l' hl' => ?_)
    · exact hl'.2.trans (queried_of_applies (applies_of_code_none hl'.1))
    · by_cases hfirst : Applies b l sql
      · exact .inr (hl'.trans (queried_of_applies hfirst))
      · exact .inl (hl'.trans (queried_of_not_applies hfirst))

private theorem query_twice (h : AppliesTwice b l sql) :
    (query b sql 2).Ends l (fun _ l' => l'.applied = l.applied ++ [sql] ++ [sql])
      (fun _ l' => l'.applied = l.applied ++ [sql] ++ [sql]) := by
  obtain ⟨hfirst, hretries, hsecond⟩ := h
  have happlied := queried_of_applies hsecond
  have hretried : (l.retried b sql).applied = l.applied ++ [sql] := queried_of_applies hfirst
  rw [hretried] at happlied
  unfold Ends
  rw [query_retries hretries, query_last]
  cases (l.retried b sql).code b sql <;> exact happlied

/-- A statement is applied exactly once unless its first delivery was applied and then sent again. -/
theorem exactly_once_iff (hfresh : stmt.executed = false) (n : Nat) :
    ExactlyOnce b l stmt n ↔ ∀ sql, renderSql b stmt = some sql → ¬ AppliesTwice b l sql := by
  constructor
  · intro honce sql hsql htwice
    have htwo : (execute b stmt).Ends l
        (fun stmt' l' => stmt'.executed = true ∧ l'.applied = l.applied ++ [sql] ++ [sql])
        (fun _ l' => l'.applied = l.applied ++ [sql] ++ [sql]) :=
      execute_ends (Q := (· = l.applied ++ [sql] ++ [sql])) (E := (· = l.applied ++ [sql] ++ [sql]))
        hsql (query_twice htwice) fun _ h => h
    have hends := steps_ends (Q := (· = l.applied ++ [sql] ++ [sql]))
      (E := (· = l.applied ++ [sql] ++ [sql])) n hfresh htwo
    have hgrows : ∀ sql', l.applied ++ [sql] ++ [sql] ≠ l.applied ++ [sql'] := fun sql' h => by
      simpa using congrArg List.length h
    refine ((honce.and hends).mono (fun _ l' h => ?_) (fun _ l' h => ?_)).elim
    · obtain ⟨⟨sql', _, h₁⟩, h₂⟩ := h
      exact hgrows sql' (h₂.symm.trans h₁)
    · obtain ⟨h₁ | ⟨sql', _, h₁⟩, h₂⟩ := h
      · simpa using congrArg List.length (h₂.symm.trans h₁)
      · exact hgrows sql' (h₂.symm.trans h₁)
  · intro hnot
    cases hsql : renderSql b stmt with
    | none =>
      have hexec : execute b stmt l = (.error .missingParameterValue, l) := by
        rw [execute, hsql]
        rfl
      have hends : (execute b stmt).Ends l (fun stmt' l' => stmt'.executed = true ∧ False)
          (fun _ l' => l'.applied = l.applied) := by
        unfold Ends
        rw [hexec]
      refine (steps_ends (Q := fun _ => False) (E := fun applied => applied = l.applied) n hfresh
        hends).mono (fun _ _ h => h.elim) (fun _ _ h => .inl h)
    | some sql =>
      have hone : (execute b stmt).Ends l
          (fun stmt' l' => stmt'.executed = true ∧ l'.applied = l.applied ++ [sql])
          (fun _ l' => l'.applied = l.applied ∨ l'.applied = l.applied ++ [sql]) :=
        execute_ends (Q := (· = l.applied ++ [sql]))
          (E := fun applied => applied = l.applied ∨ applied = l.applied ++ [sql]) hsql
          (query_once (hnot sql hsql)) fun _ h => .inr h
      have hends := steps_ends (Q := (· = l.applied ++ [sql]))
        (E := fun applied => applied = l.applied ∨ applied = l.applied ++ [sql]) n hfresh hone
      exact hends.mono (fun _ _ h => ⟨sql, hsql, h⟩)
        (fun _ _ h => h.imp id fun h => ⟨sql, hsql, h⟩)

end ExactlyOnce

section StoreMessage

/-- The statement of `StoreMessage` with its ten parameters. -/
def storeMessageSql : StdString := literal
  "INSERT INTO persistent_message (avatar_id, from_name, from_address, subject, sent_time, status, folder, category, message, oob) VALUES (@avatar_id, @from_name, @from_address, @subject, @sent_time, @status, @folder, @category, @message, @oob)"

def messageBindings (columns : MessageColumns) : List (StdString × BoundValue) :=
  [(literal "@avatar_id", .int columns.avatarId), (literal "@from_name", .text columns.fromName),
    (literal "@from_address", .text columns.fromAddress), (literal "@subject", .text columns.subject),
    (literal "@sent_time", .int columns.sentTime), (literal "@status", .int columns.status),
    (literal "@folder", .text columns.folder), (literal "@category", .text columns.category),
    (literal "@message", .text columns.message), (literal "@oob", .blob columns.oob)]

def bindAll (stmt : MariaDbStatement) (bindings : List (StdString × BoundValue)) :
    Except DatabaseException MariaDbStatement :=
  bindings.foldlM (fun stmt (name, value) => do
    stmt.bind (← stmt.bindParameterIndex name) value) stmt

/-- `StoreMessage` down to the client library. -/
def storeMessage (b : Behaviour Database) (columns : MessageColumns) : Query Database Unit :=
  match bindAll (prepare storeMessageSql) (messageBindings columns) with
  | .ok stmt => expectDone b stmt
  | .error e => throw e

theorem storeMessage_bound (b : Behaviour Database) {columns : MessageColumns} {stmt : MariaDbStatement}
    (h : stmt ∈ (bindAll (prepare storeMessageSql) (messageBindings columns)).toOption) :
    storeMessage b columns = expectDone b stmt := by
  unfold storeMessage
  generalize bindAll (prepare storeMessageSql) (messageBindings columns) = bound at h ⊢
  cases bound with
  | ok bound => rw [Option.some.inj h]
  | error e => exact absurd h (by simp [Except.toOption])

/-- A server that executes every text as the insert of these columns. -/
def messageServer (columns : MessageColumns) (_ : Nat) (_ : StdString) (db : Database) :
    Except Nat Database :=
  match db.insertMessage columns with
  | some (_, db) => .ok db
  | none => .error 1452

/-- A connection over which `lost` of the queries are applied and then lost. -/
def messageBehaviour (columns : MessageColumns) (lost : Nat → Bool) : Behaviour Database where
  server := messageServer columns
  escape := id
  deliver n := if lost n then .lost 2013 true else .answered
  answers _ := true
  results _ := .noFields

/-- A connection that is lost before its first query reaches the server. -/
def unreached (columns : MessageColumns) : Behaviour Database :=
  { messageBehaviour columns (fun _ => false) with deliver n := if n = 0 then .lost 2013 false else .answered }

/-- A mail to the one stored avatar. -/
def oneMail : MessageColumns := ⟨2, [0x61], [0x62], [], 0, 1, [], [], [0x78], []⟩

def oneReceiver : Link Database :=
  ⟨{ Database.empty with avatar := [⟨2, 2, [0x63], [0x62], 0⟩] }, [], 0⟩

/-- The statement of this mail, and what becomes of it when the reply to its first query is lost. -/
private theorem exists_bound : ∃ stmt ∈ (bindAll (prepare storeMessageSql) (messageBindings oneMail)).toOption,
    stmt.executed = false ∧
      (expectDone (messageBehaviour oneMail (· == 0)) stmt oneReceiver).1 = .ok () ∧
      (expectDone (messageBehaviour oneMail (· == 0)) stmt
        oneReceiver).2.tables.persistentMessage.length = 2 ∧
      (steps (messageBehaviour oneMail (· == 0)) 1 stmt oneReceiver).2.applied.length = 2 := by
  rw [storeMessageSql, literal_ofList]
  decide +kernel

/-- The connection is lost before the server has the insert, which is sent again and stored once. -/
theorem mail_stored_once : ∃ stmt ∈ (bindAll (prepare storeMessageSql) (messageBindings oneMail)).toOption,
    (∀ sql, Retries (unreached oneMail) oneReceiver sql) ∧ ExactlyOnce (unreached oneMail) oneReceiver stmt 0 := by
  obtain ⟨stmt, hstmt, hfresh, -⟩ := exists_bound
  refine ⟨stmt, hstmt, fun sql => ⟨⟨2013, rfl, rfl⟩, fun _ _ => rfl⟩, ?_⟩
  exact (exactly_once_iff hfresh 0).mpr fun sql _ htwice => htwice.1.1 2013 rfl

/-- The reply to the insert is lost, the insert is sent again, and the mail is stored twice. -/
theorem mail_stored_twice :
    (storeMessage (messageBehaviour oneMail (· == 0)) oneMail oneReceiver).1 = .ok () ∧
      (storeMessage (messageBehaviour oneMail (· == 0)) oneMail
        oneReceiver).2.tables.persistentMessage.length = 2 ∧
      ∃ stmt ∈ (bindAll (prepare storeMessageSql) (messageBindings oneMail)).toOption,
        stmt.executed = false ∧
          ¬ ExactlyOnce (messageBehaviour oneMail (· == 0)) oneReceiver stmt 0 := by
  obtain ⟨stmt, hstmt, hfresh, hdone, hstored, htwo⟩ := exists_bound
  rw [storeMessage_bound _ hstmt]
  refine ⟨hdone, hstored, stmt, hstmt, hfresh, fun honce => ?_⟩
  have hone : (steps (messageBehaviour oneMail (· == 0)) 1 stmt oneReceiver).2.applied.length ≤ 1 := by
    unfold ExactlyOnce Ends at honce
    split at honce
    · rename_i hrun
      obtain ⟨sql, _, happlied⟩ := honce
      rw [hrun, happlied]
      exact Nat.le_refl 1
    · rename_i hrun
      rw [hrun]
      rcases honce with happlied | ⟨sql, _, happlied⟩
      · rw [happlied]
        exact Nat.zero_le 1
      · rw [happlied]
        exact Nat.le_refl 1
  omega

end StoreMessage
end StationChat.MariaDb
