import StationChat.Model.DatabaseBootstrap
import Mathlib.Data.List.Nodup

/-! Which version the schema check judges. -/
namespace StationChat.Bootstrap

/-- A version this binary runs on. -/
def Supported (version : Nat) : Prop :=
  requiredSchemaVersion ≤ version ∧ version ≤ latestKnownVersion mariaDbMigrations

instance (version : Nat) : Decidable (Supported version) := inferInstanceAs (Decidable (_ ∧ _))

/-- The same database, when the server returns the versions in another order. -/
def Connection.returning (db : Connection) (order : List Nat) : Connection := { db with schemaVersion := order }

def newestVersion (versions : List Nat) : Nat := versions.foldr max 0

/-- The check passes exactly if the newest applied migration is supported, and then reports it as current and
what is above it as pending. -/
structure JudgesNewest (db : Connection) : Prop where
  passes : (∃ result, validateDatabaseSchemaOrThrow db = .ok result) ↔ Supported (newestVersion db.schemaVersion)
  reports : ∀ result, validateDatabaseSchemaOrThrow db = .ok result →
    result.currentVersion = newestVersion db.schemaVersion ∧
      result.pendingMigrations = pendingMigrations mariaDbMigrations (newestVersion db.schemaVersion)

section Newest
variable {versions : List Nat} {db : Connection}

theorem le_newestVersion {version : Nat} (h : version ∈ versions) : version ≤ newestVersion versions := by
  induction versions with
  | nil => exact absurd h (by simp)
  | cons v versions ih =>
    rcases List.mem_cons.mp h with rfl | h
    · exact Nat.le_max_left _ _
    · exact Nat.le_trans (ih h) (Nat.le_max_right _ _)

theorem eq_singleton_of_nodup {α : Type} {l : List α} {a : α} (h : l.Nodup) (ha : a ∈ l) (hall : ∀ b ∈ l, b = a) :
    l = [a] := by
  have hreplicate := List.eq_replicate_iff.mpr ⟨rfl, hall⟩
  rw [hreplicate, List.nodup_replicate] at h
  rw [hreplicate, Nat.le_antisymm h (List.length_pos_of_mem ha), List.replicate_one]

theorem newestVersion_mem (h : versions ≠ []) : newestVersion versions ∈ versions := by
  induction versions with
  | nil => exact absurd rfl h
  | cons v versions ih =>
    change max v (newestVersion versions) ∈ v :: versions
    rcases Nat.le_total (newestVersion versions) v with hle | hle
    · rw [Nat.max_eq_left hle]
      exact List.mem_cons_self
    · cases versions with
      | nil => simp [newestVersion]
      | cons w versions =>
        rw [Nat.max_eq_right hle]
        exact List.mem_cons_of_mem v (ih (by simp))

theorem newestVersion_perm {order : List Nat} (hnonempty : versions ≠ []) (h : order.Perm versions) :
    newestVersion order = newestVersion versions := by
  have horder : order ≠ [] := fun heq => hnonempty (List.perm_nil.mp (heq ▸ h).symm)
  apply Nat.le_antisymm
  · exact le_newestVersion (h.mem_iff.mp (newestVersion_mem horder))
  · exact le_newestVersion (h.mem_iff.mpr (newestVersion_mem hnonempty))

/-- The check looks at the first row that is returned, and at nothing else. -/
theorem validate_ok_iff {first : Nat} {rest : List Nat} (htable : "schema_version" ∈ db.tables)
    (hrows : db.schemaVersion = first :: rest) (result : SchemaValidationResult) :
    validateDatabaseSchemaOrThrow db = .ok result ↔ Supported first ∧
      result = ⟨first, requiredSchemaVersion, pendingMigrations mariaDbMigrations first⟩ := by
  have hcatalog : migrationCatalogForBackend db.backendName = .ok mariaDbMigrations := if_pos rfl
  have hexists : tableExists db "schema_version" = true := List.contains_iff_mem.mpr htable
  have hread : readSchemaVersion db = if first < 2 ^ 31 then .ok first else .error .outOfRange := by
    rw [readSchemaVersion, hrows]
    rfl
  have hrequired : requiredSchemaVersion = 1 := rfl
  have hlatest : latestKnownVersion mariaDbMigrations = 1 := rfl
  unfold validateDatabaseSchemaOrThrow
  rw [hcatalog, hread, hexists, Supported, hrequired, hlatest]
  by_cases hsmall : first < 2 ^ 31
  · rw [if_pos hsmall]
    change (if (first : Int) > 1 then Except.error _ else
      if (first : Int) < 1 then Except.error _ else Except.ok _) = _ ↔ _
    by_cases habove : (first : Int) > 1
    · rw [if_pos habove]
      exact ⟨fun h => absurd h (by simp), fun h => by omega⟩
    · by_cases hbelow : (first : Int) < 1
      · rw [if_neg habove, if_pos hbelow]
        exact ⟨fun h => absurd h (by simp), fun h => by omega⟩
      · rw [if_neg habove, if_neg hbelow, Except.ok.injEq]
        exact ⟨fun h => ⟨by omega, h.symm⟩, fun h => h.2.symm⟩
  · rw [if_neg hsmall]
    exact ⟨fun h => absurd h (by simp [bind, Except.bind]), fun h => by omega⟩

/-- For one order of the rows: the check judges the newest version if it sees that version first, or if neither is
supported. -/
theorem judgesNewest_iff {first : Nat} {rest : List Nat} (htable : "schema_version" ∈ db.tables)
    (hrows : db.schemaVersion = first :: rest) : JudgesNewest db ↔
      (Supported first ∨ Supported (newestVersion db.schemaVersion) → first = newestVersion db.schemaVersion) := by
  have hok := validate_ok_iff htable hrows
  constructor
  · rintro ⟨hpasses, hreports⟩ (hfirst | hnewest)
    · exact Int.ofNat_inj.mp (hreports _ ((hok _).mpr ⟨hfirst, rfl⟩)).1
    · obtain ⟨result, hresult⟩ := hpasses.mpr hnewest
      have hcurrent := (hreports result hresult).1
      rw [((hok result).mp hresult).2] at hcurrent
      exact Int.ofNat_inj.mp hcurrent
  · intro h
    constructor
    · constructor
      · rintro ⟨result, hresult⟩
        have hfirst := ((hok result).mp hresult).1
        exact h (.inl hfirst) ▸ hfirst
      · intro hnewest
        exact ⟨_, (hok _).mpr ⟨h (.inr hnewest) ▸ hnewest, rfl⟩⟩
    · intro result hresult
      obtain ⟨hfirst, rfl⟩ := (hok result).mp hresult
      rw [← h (.inl hfirst)]
      exact ⟨rfl, rfl⟩

/-- The newest version is judged exactly if it comes first or neither it nor the first is supported; in every order,
exactly if no supported version has another beside it. -/
theorem schema_check_judges_newest_iff (htable : "schema_version" ∈ db.tables) (hnonempty : db.schemaVersion ≠ [])
    (hkey : db.schemaVersion.Nodup) :
    (JudgesNewest db ↔ ∀ first ∈ db.schemaVersion.head?,
        Supported first ∨ Supported (newestVersion db.schemaVersion) → first = newestVersion db.schemaVersion) ∧
      ((∀ order, order.Perm db.schemaVersion → JudgesNewest (db.returning order)) ↔
        ∀ version ∈ db.schemaVersion, Supported version → db.schemaVersion = [version]) := by
  constructor
  · obtain ⟨first, rest, hrows⟩ := List.exists_cons_of_ne_nil hnonempty
    rw [judgesNewest_iff htable hrows, hrows, List.head?_cons]
    simp
  · constructor
    · intro horders version hversion hsupported
      -- any row may come first
      have hfirst : ∀ w ∈ db.schemaVersion, Supported w ∨ Supported (newestVersion db.schemaVersion) →
          w = newestVersion db.schemaVersion := by
        intro w hw
        have hperm := (List.perm_cons_erase hw).symm
        have htable' : "schema_version" ∈ (db.returning (w :: db.schemaVersion.erase w)).tables := htable
        have hjudges := (judgesNewest_iff htable' rfl).mp (horders _ hperm)
        rw [← newestVersion_perm hnonempty hperm]
        exact hjudges
      have hnewest := hfirst version hversion (.inl hsupported)
      have hall : ∀ w ∈ db.schemaVersion, w = version := fun w hw =>
        (hfirst w hw (.inr (hnewest ▸ hsupported))).trans hnewest.symm
      exact eq_singleton_of_nodup hkey hversion hall
    · intro hsingle order hperm
      obtain ⟨first, rest, hrows⟩ := List.exists_cons_of_ne_nil
        fun heq : order = [] => hnonempty (List.perm_nil.mp (heq ▸ hperm).symm)
      have hmem : first ∈ db.schemaVersion := hperm.mem_iff.mp (hrows ▸ List.mem_cons_self)
      have htable' : "schema_version" ∈ (db.returning order).tables := htable
      have hrows' : (db.returning order).schemaVersion = first :: rest := hrows
      have hsame : newestVersion (db.returning order).schemaVersion = newestVersion db.schemaVersion :=
        newestVersion_perm hnonempty hperm
      rw [judgesNewest_iff htable' hrows', hsame]
      have hnewest := newestVersion_mem hnonempty
      rintro (hfirst | hsupported)
      · have hone := hsingle first hmem hfirst
        exact (List.mem_singleton.mp (hone ▸ hnewest : newestVersion db.schemaVersion ∈ [first])).symm
      · rw [hsingle _ hnewest hsupported, List.mem_singleton] at hmem
        exact hmem

/-- A newer migration was applied and is returned first, or two newer ones were, in whatever order: refused. -/
theorem schema_check_judges_newest_refused : JudgesNewest ⟨["schema_version"], [2, 1]⟩ ∧
    validateDatabaseSchemaOrThrow ⟨["schema_version"], [2, 1]⟩ ≠ .ok ⟨1, 1, []⟩ ∧
    ∀ order, order.Perm [3, 2] → JudgesNewest ⟨["schema_version"], order⟩ := by
  refine ⟨?_, by decide, ?_⟩
  · exact (schema_check_judges_newest_iff (by decide) (by decide) (by decide)).1.mpr (by decide)
  · let db : Connection := ⟨["schema_version"], [3, 2]⟩
    have htable : "schema_version" ∈ db.tables := by decide
    exact (schema_check_judges_newest_iff htable (by decide) (by decide)).2.mpr (by decide)

/-- A second migration was applied, and the row of the first is returned first: an older binary starts. -/
theorem newer_schema_passes :
    validateDatabaseSchemaOrThrow ⟨["schema_version"], [1, 2]⟩ = .ok ⟨1, 1, []⟩ ∧
      ¬ JudgesNewest ⟨["schema_version"], [1, 2]⟩ := by
  have hrun : validateDatabaseSchemaOrThrow ⟨["schema_version"], [1, 2]⟩ = .ok ⟨1, 1, []⟩ := rfl
  exact ⟨hrun, fun h => absurd (h.reports _ hrun).1 (by decide)⟩

end Newest
end StationChat.Bootstrap
