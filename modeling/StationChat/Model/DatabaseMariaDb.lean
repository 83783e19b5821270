import StationChat.Lib.Action
import StationChat.Model.Text

/-! The MariaDB back end: named parameters, the rendering of a statement, and its execution over a
connection that may be lost. -/
namespace StationChat.MariaDb
open Lib Lib.Action

structure NormalizedSql where
  sql : StdString := []
  logicalIndexByName : List (StdString × Nat) := []
  positionsByLogicalIndex : List (List Nat) := []
  logicalIndexByPosition : List Nat := []
  deriving DecidableEq, Repr

/-- Letters, digits and the underscore. -/
def isParameterNameCharacter (c : UInt8) : Bool :=
  (0x61 ≤ c && c ≤ 0x7A) || (0x41 ≤ c && c ≤ 0x5A) || (0x30 ≤ c && c ≤ 0x39) || c == 0x5F

/-- One occurrence of a parameter: its index is looked up or handed out, its position recorded. -/
def NormalizedSql.addParameter (result : NormalizedSql) (name : StdString) : NormalizedSql :=
  let position := result.logicalIndexByPosition.length + 1
  match result.logicalIndexByName.lookup name with
  | some logicalIndex => { result with
      sql := result.sql ++ [0x3F]
      positionsByLogicalIndex := result.positionsByLogicalIndex.modify logicalIndex (· ++ [position])
      logicalIndexByPosition := result.logicalIndexByPosition ++ [logicalIndex] }
  | none =>
    let logicalIndex := result.positionsByLogicalIndex.length
    { sql := result.sql ++ [0x3F]
      logicalIndexByName := result.logicalIndexByName ++ [(name, logicalIndex)]
      positionsByLogicalIndex := result.positionsByLogicalIndex ++ [[position]]
      logicalIndexByPosition := result.logicalIndexByPosition ++ [logicalIndex] }

/-- The loop over the text. Each round takes at least one character, so its length is enough fuel. -/
def normalizeWithin : Nat → StdString → NormalizedSql → NormalizedSql
  | 0, _, result => result
  | _ + 1, [], result => result
  | fuel + 1, c :: rest, result =>
    if c ≠ 0x40 then normalizeWithin fuel rest { result with sql := result.sql ++ [c] }
    else
      let name := c :: rest.takeWhile isParameterNameCharacter
      normalizeWithin fuel (rest.dropWhile isParameterNameCharacter) (result.addParameter name)

def normalizeNamedParameters (sql : StdString) : NormalizedSql :=
  normalizeWithin sql.length sql {}

inductive BoundValue where
  | none
  | int (value : Int)
  | text (value : StdString)
  | blob (value : List UInt8)
  deriving DecidableEq, Repr

/-- `DatabaseException`, told apart by the step that throws it, with the library's error code. -/
inductive DatabaseException where
  | missingParameter (name : StdString)
  | invalidBindIndex
  | missingParameterValue
  | setCharsetFailed
  | setSqlModeFailed
  | queryFailed (code : Nat)
  | storeResultFailed (code : Nat)
  | expectedCompletion
  deriving DecidableEq, Repr

inductive StatementStepResult where
  | row | done
  deriving DecidableEq, Repr

/-- `result` holds the number of rows of the stored result set, if there is one. -/
structure MariaDbStatement where
  normalizedSql : NormalizedSql
  boundValues : List BoundValue
  executed : Bool := false
  result : Option Nat := .none
  rowIndex : Nat := 0
  deriving DecidableEq, Repr

/-- `CR_SERVER_GONE_ERROR` and `CR_SERVER_LOST`. -/
def isConnectionLossError (code : Nat) : Bool := code == 2006 || code == 2013

/-- How the client library delivers a query: the server answers it, or an error is reported and the
query may have `reached` the server all the same. -/
inductive Delivery where
  | answered
  | lost (code : Nat) (reached : Bool)
  deriving DecidableEq, Repr

inductive StoredResult where
  | rows (count : Nat)
  | noFields
  | failed (code : Nat)
  deriving DecidableEq, Repr

/-- What the code under it does at each call of the client library: the server with a query text, and
the library itself. -/
structure Behaviour (σ : Type) where
  server : Nat → StdString → σ → Except Nat σ
  escape : StdString → StdString
  deliver : Nat → Delivery
  answers : Nat → Bool
  results : Nat → StoredResult

/-- The connection: the tables behind it, every query the server applied, and the number of library
calls made. -/
structure Link (σ : Type) where
  tables : σ
  applied : List StdString
  calls : Nat

abbrev Query (σ : Type) := Action (Link σ) DatabaseException

/-- The constructor of a statement. -/
def prepare (sql : StdString) : MariaDbStatement :=
  let normalizedSql := normalizeNamedParameters sql
  { normalizedSql
    boundValues := List.replicate normalizedSql.positionsByLogicalIndex.length .none }

namespace MariaDbStatement
variable (stmt : MariaDbStatement)

def bindParameterIndex (name : StdString) : Except DatabaseException Nat :=
  match stmt.normalizedSql.logicalIndexByName.lookup name with
  | some index => .ok index
  | none => .error (.missingParameter name)

/-- `BindInt`, `BindText` and `BindBlob` behind `EnsureIndex`. -/
def bind (index : Nat) (value : BoundValue) : Except DatabaseException MariaDbStatement :=
  if index < stmt.boundValues.length then
    .ok { stmt with boundValues := stmt.boundValues.set index value }
  else .error .invalidBindIndex

end MariaDbStatement

def hexDigit (n : UInt8) : UInt8 := if n < 10 then 0x30 + n else 0x37 + n

def hexByte (value : UInt8) : StdString := [hexDigit (value >>> 4), hexDigit (value &&& 0x0F)]

def blobToHex (data : List UInt8) : StdString := 0x58 :: 0x27 :: data.flatMap hexByte ++ [0x27]

/-- `std::to_string` of a signed integer. -/
def intText : Int → StdString
  | .ofNat n => toStdString n
  | .negSucc n => 0x2D :: toStdString (n + 1)

section Execute
variable {σ : Type} (b : Behaviour σ)

def renderValue : BoundValue → StdString
  | .int value => intText value
  | .text value => 0x27 :: b.escape value ++ [0x27]
  | .blob value => blobToHex value
  | .none => literal "NULL"

/-- The loop of `Execute` over the normalized text; `positions` are those still to come. -/
def renderFrom (rendered : List StdString) : List Nat → StdString → Option StdString
  | _, [] => some []
  | positions, c :: rest =>
    if c = 0x3F then
      match positions with
      | [] => none
      | logicalIndex :: positions =>
        (renderFrom rendered positions rest).map ((rendered.getD logicalIndex []) ++ ·)
    else (renderFrom rendered positions rest).map (c :: ·)

/-- The text of a statement; `none` stands for "missing parameter value". -/
def renderSql (stmt : MariaDbStatement) : Option StdString :=
  renderFrom (stmt.boundValues.map (renderValue b)) stmt.normalizedSql.logicalIndexByPosition
    stmt.normalizedSql.sql

/-- A query that reaches a server that accepts it is applied, whatever the library reports. -/
def Link.reached (l : Link σ) (sql : StdString) : Link σ :=
  match b.server l.calls sql l.tables with
  | .ok tables => { tables, applied := l.applied ++ [sql], calls := l.calls + 1 }
  | .error _ => { l with calls := l.calls + 1 }

/-- Yields the error code, if any. -/
def mysqlRealQuery (sql : StdString) : Query σ (Option Nat) := do
  let l ← get
  match b.deliver l.calls with
  | .answered =>
    set (l.reached b sql)
    match b.server l.calls sql l.tables with
    | .ok _ => pure none
    | .error code => pure (some code)
  | .lost code reached =>
    set (if reached then l.reached b sql else { l with calls := l.calls + 1 })
    pure (some code)

/-- A library call that concerns the connection only: whether it returned zero. -/
def mysqlCall : Query σ Bool := do
  let l ← get
  set { l with calls := l.calls + 1 }
  pure (b.answers l.calls)

def configureSession : Query σ Unit := do
  if !(← mysqlCall b) then throw .setCharsetFailed
  else if !(← mysqlCall b) then throw .setSqlModeFailed
  else pure ()

/-- The retry loop, by the number of attempts left. Only the first of the two attempts is followed by
another. -/
def query (sql : StdString) : Nat → Query σ Unit
  | 0 => pure ()
  | left + 1 => do
    match ← mysqlRealQuery b sql with
    | none => pure ()
    | some code =>
      if left == 1 && isConnectionLossError code then
        if ← mysqlCall b then
          configureSession b
          query sql left
        else throw (.queryFailed code)
      else throw (.queryFailed code)

def storeResult : Query σ (Option Nat) := do
  let l ← get
  set { l with calls := l.calls + 1 }
  match b.results l.calls with
  | .rows count => pure (some count)
  | .noFields => pure none
  | .failed code => throw (.storeResultFailed code)

def execute (stmt : MariaDbStatement) : Query σ MariaDbStatement := do
  match renderSql b stmt with
  | none => throw .missingParameterValue
  | some sql =>
    query b sql 2
    let result ← storeResult b
    pure { stmt with executed := true, result }

/-- `MariaDbStatement::Step`. -/
def step (stmt : MariaDbStatement) : Query σ (StatementStepResult × MariaDbStatement) := do
  let stmt ← if !stmt.executed then execute b stmt else pure stmt
  match stmt.result with
  | some rowCount =>
    if stmt.rowIndex < rowCount then pure (.row, { stmt with rowIndex := stmt.rowIndex + 1 })
    else pure (.done, stmt)
  | none => pure (.done, stmt)

/-- `StatementHandle::ExpectDone`. -/
def expectDone (stmt : MariaDbStatement) : Query σ Unit := do
  let (result, _) ← step b stmt
  if result ≠ .done then throw .expectedCompletion
  else pure ()

end Execute
end StationChat.MariaDb
