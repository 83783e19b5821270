import StationChat.Model.Text

/-! The check of the schema before the server starts: the migrations the binary knows against the version that
the database reports. -/
namespace StationChat.Bootstrap

/-- A `DatabaseException`, or the `std::out_of_range` of `std::stoi`. -/
inductive Failure where
  | database (backend : String) (code : Int) (message : String)
  | outOfRange
  deriving DecidableEq, Repr

/-- What the check reads: the names of the tables, and the versions in `schema_version` in the order in which the
server returns them. -/
structure Connection where
  tables : List String
  schemaVersion : List Nat
  deriving DecidableEq, Repr

structure SchemaValidationResult where
  currentVersion : Int := 0
  requiredVersion : Int := 0
  pendingMigrations : List String := []
  deriving DecidableEq, Repr

/-- The only back end there is. -/
def Connection.backendName (_ : Connection) : String := "mariadb"

/-- `kRequiredSchemaVersion`. -/
def requiredSchemaVersion : Int := 1

def mariaDbMigrations : List (Int × String) := [(1, "extras/migrations/mariadb/V001__baseline.sql")]

def migrationCatalogForBackend (backend : String) : Except Failure (List (Int × String)) :=
  if backend = "mariadb" then .ok mariaDbMigrations
  else .error (.database backend 0 "unknown database backend for migration lookup")

/-- `migrations.back().first`; no catalogue is empty. -/
def latestKnownVersion (migrations : List (Int × String)) : Int := (migrations.getLastD (0, "")).1

/-- `migrations.front().second`. -/
def baselineMigration (migrations : List (Int × String)) : String := (migrations.headD (0, "")).2

def tableExists (db : Connection) (tableName : String) : Bool := db.tables.contains tableName

/-- `SELECT version FROM schema_version LIMIT 1`, read by `std::stoi`. -/
def readSchemaVersion (db : Connection) : Except Failure Int :=
  match db.schemaVersion.take 1 with
  | [] => .error (.database db.backendName 0
      "schema_version exists but has no rows. Apply baseline migration V001 before starting stationchat")
  | version :: _ => if version < 2 ^ 31 then .ok version else .error .outOfRange

def join (items : List String) : String := ", ".intercalate items

/-- The migrations with a version above the current one. -/
def pendingMigrations (migrations : List (Int × String)) (currentVersion : Int) : List String :=
  (migrations.filter fun migration => migration.1 > currentVersion).map (·.2)

def validateDatabaseSchemaOrThrow (db : Connection) : Except Failure SchemaValidationResult := do
  let migrations ← migrationCatalogForBackend db.backendName
  if !tableExists db "schema_version" then
    throw (.database db.backendName 0 ("schema_version table is missing. Apply baseline migration " ++
      baselineMigration migrations ++ " and retry"))
  let currentVersion ← readSchemaVersion db
  if currentVersion > latestKnownVersion migrations then
    throw (.database db.backendName 0 ("database schema version " ++ toString currentVersion ++
      " is newer than this binary supports (latest known migration: " ++
      toString (latestKnownVersion migrations) ++ "). Deploy a newer stationchat binary"))
  let result : SchemaValidationResult := {
    currentVersion
    requiredVersion := requiredSchemaVersion
    pendingMigrations := pendingMigrations migrations currentVersion }
  if currentVersion < requiredSchemaVersion then
    throw (.database db.backendName 0 ("database schema version " ++ toString currentVersion ++
      " is below required " ++ toString requiredSchemaVersion ++ ". Apply migrations: " ++
      join result.pendingMigrations))
  pure result

end StationChat.Bootstrap
