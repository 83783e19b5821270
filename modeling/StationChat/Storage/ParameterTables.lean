import StationChat.Lib.Numbering
import StationChat.Storage.Rendering

/-! The tables of a normalized statement: what each of them holds once the text is scanned, and how they fit. -/
namespace StationChat.MariaDb
open Lib

namespace NormalizedSql

/-- The name that a logical index was given to. -/
def nameOf (r : NormalizedSql) (logicalIndex : Nat) : StdString :=
  ((r.logicalIndexByName.find? (·.2 == logicalIndex)).map (·.1)).getD []

/-- A text with each of its question marks replaced by the name of its logical index, the first mark at
`position`. -/
def restoreFrom (r : NormalizedSql) : Nat → StdString → StdString
  | _, [] => []
  | position, c :: rest =>
    if c = 0x3F then
      ((r.logicalIndexByPosition[position - 1]?).map r.nameOf).getD [] ++ r.restoreFrom (position + 1) rest
    else c :: r.restoreFrom position rest

/-- The four tables belong to one scan of the text. -/
structure Consistent (r : NormalizedSql) (sql : StdString) : Prop where
  unrepeated : (r.logicalIndexByName.map (·.1)).Nodup
  named : ∀ name, name ∈ parameters sql ↔ ∃ l, r.index name = some l
  onto : ∀ l, l < r.positionsByLogicalIndex.length ↔ ∃ name, r.index name = some l
  apart : ∀ name name' l, r.index name = some l → r.index name' = some l → name = name'
  ordered : ∀ name name' l l', r.index name = some l → r.index name' = some l' →
    (l < l' ↔ (parameters sql).idxOf name < (parameters sql).idxOf name')
  increasing : ∀ positions ∈ r.positionsByLogicalIndex, positions.Pairwise (· < ·)
  occupied : [] ∉ r.positionsByLogicalIndex
  covered : ∀ p, (1 ≤ p ∧ p ≤ r.sql.count 0x3F) ↔ ∃ l, p ∈ r.positionsByLogicalIndex.getD l []
  disjoint : ∀ l l' p, p ∈ r.positionsByLogicalIndex.getD l [] → p ∈ r.positionsByLogicalIndex.getD l' [] → l = l'
  mirrored : ∀ l p, p ∈ r.positionsByLogicalIndex.getD l [] ↔ 1 ≤ p ∧ r.logicalIndexByPosition[p - 1]? = some l
  restored : r.restoreFrom 1 r.sql = sql

/-- The tables after these names were met, in this order. -/
structure Tables (names : List StdString) (r : NormalizedSql) : Prop where
  byName : r.logicalIndexByName = names.eraseDups.zipIdx
  byLogicalIndex : r.positionsByLogicalIndex = names.eraseDups.map (positions · names)
  byPosition : r.logicalIndexByPosition = names.map names.eraseDups.idxOf

section Scan
variable {r : NormalizedSql} {names : List StdString}

theorem Tables.lookup (h : Tables names r) (name : StdString) : r.logicalIndexByName.lookup name =
    if name ∈ names then some (names.eraseDups.idxOf name) else none := by
  rw [h.byName, lookup_zipIdx, Nat.zero_add]
  simp only [List.mem_eraseDups]

/-- A name that was met gets a further position. -/
theorem Tables.addParameter_known {name : StdString} (h : Tables names r) (hname : name ∈ names) :
    Tables (names ++ [name]) (r.addParameter name) := by
  have hlookup := h.lookup name
  rw [if_pos hname] at hlookup
  have hlength : r.logicalIndexByPosition.length = names.length := by rw [h.byPosition, List.length_map]
  have hstep : r.addParameter name = { r with
      sql := r.sql ++ [0x3F]
      positionsByLogicalIndex := r.positionsByLogicalIndex.modify (names.eraseDups.idxOf name) (· ++ [names.length + 1])
      logicalIndexByPosition := r.logicalIndexByPosition ++ [names.eraseDups.idxOf name] } := by
    rw [NormalizedSql.addParameter, hlookup, hlength]
  rw [hstep]
  constructor
  · rw [eraseDups_concat_of_mem hname]
    exact h.byName
  · rw [eraseDups_concat_of_mem hname, h.byLogicalIndex, modify_map_idxOf (nodup_eraseDups names)]
    apply List.map_congr_left
    intro other _
    by_cases heq : other = name
    · rw [heq, if_pos (beq_self_eq_true name), positions_concat_self]
    · rw [if_neg (by simpa using heq), positions_concat_of_ne (Ne.symm heq)]
  · rw [eraseDups_concat_of_mem hname, h.byPosition, List.map_append]
    rfl

/-- A new name gets the next index, and every other name keeps what it had. -/
theorem Tables.addParameter_new {name : StdString} (h : Tables names r) (hname : name ∉ names) :
    Tables (names ++ [name]) (r.addParameter name) := by
  have hlookup := h.lookup name
  rw [if_neg hname] at hlookup
  have hlength : r.logicalIndexByPosition.length = names.length := by rw [h.byPosition, List.length_map]
  have hcount : r.positionsByLogicalIndex.length = names.eraseDups.length := by rw [h.byLogicalIndex, List.length_map]
  have hstep : r.addParameter name =
      { sql := r.sql ++ [0x3F]
        logicalIndexByName := r.logicalIndexByName ++ [(name, names.eraseDups.length)]
        positionsByLogicalIndex := r.positionsByLogicalIndex ++ [[names.length + 1]]
        logicalIndexByPosition := r.logicalIndexByPosition ++ [names.eraseDups.length] } := by
    simp only [NormalizedSql.addParameter, hlookup, hlength, hcount]
  rw [hstep]
  constructor
  · rw [eraseDups_concat_of_notMem hname, h.byName, List.zipIdx_append, Nat.zero_add]
    rfl
  · have hothers : names.eraseDups.map (positions · (names ++ [name])) = names.eraseDups.map (positions · names) := by
      apply List.map_congr_left
      intro other hother
      apply positions_concat_of_ne
      rintro rfl
      exact hname (List.mem_eraseDups.mp hother)
    rw [eraseDups_concat_of_notMem hname, h.byLogicalIndex, List.map_append, hothers, List.map_singleton,
      positions_concat_self, positions_eq_nil hname]
    rfl
  · have hothers : names.map (names ++ [name]).eraseDups.idxOf = names.map names.eraseDups.idxOf :=
      List.map_congr_left fun other hother => idxOf_eraseDups_concat hother name
    rw [List.map_append, hothers, List.map_singleton, idxOf_eraseDups_self hname, h.byPosition]

theorem Tables.addParameter (h : Tables names r) (name : StdString) :
    Tables (names ++ [name]) (r.addParameter name) := by
  by_cases hname : name ∈ names
  · exact h.addParameter_known hname
  · exact h.addParameter_new hname

theorem Tables.normalizeWithin {fuel : Nat} {text : StdString} (hfuel : text.length ≤ fuel) (h : Tables names r) :
    Tables (names ++ parameters text) (normalizeWithin fuel text r) := by
  induction fuel generalizing text r names with
  | zero =>
    obtain rfl : text = [] := List.length_eq_zero_iff.mp (Nat.le_zero.mp hfuel)
    simpa [MariaDb.normalizeWithin, parameters] using h
  | succ fuel ih =>
    cases text with
    | nil => simpa [MariaDb.normalizeWithin, parameters] using h
    | cons c rest =>
      have hrest : rest.length ≤ fuel := Nat.le_of_succ_le_succ hfuel
      by_cases hc : c = 0x40
      · subst hc
        have hdrop : (rest.dropWhile isParameterNameCharacter).length ≤ fuel :=
          Nat.le_trans (List.dropWhile_suffix _).length_le hrest
        have hscan := ih hdrop (h.addParameter (0x40 :: rest.takeWhile isParameterNameCharacter))
        rw [List.append_assoc, List.singleton_append, ← parameters_parameter] at hscan
        rw [MariaDb.normalizeWithin, if_neg (fun hne => hne rfl)]
        exact hscan
      · rw [MariaDb.normalizeWithin, if_pos hc, parameters_other hc]
        exact ih hrest ⟨h.byName, h.byLogicalIndex, h.byPosition⟩

end Scan

section Fit
variable {r : NormalizedSql} {names : List StdString}

/-- An index belongs to the name at its place among the first occurrences. -/
theorem Tables.index_iff (h : Tables names r) {name : StdString} {l : Nat} :
    r.index name = some l ↔ names.eraseDups[l]? = some name := by
  rw [index, h.lookup]
  constructor
  · intro hl
    split at hl
    · rename_i hname
      rw [← Option.some.inj hl]
      exact List.getElem?_idxOf (List.mem_eraseDups.mpr hname)
    · cases hl
  · intro hl
    obtain ⟨hlt, heq⟩ := List.getElem?_eq_some_iff.mp hl
    rw [if_pos (List.mem_eraseDups.mp (List.mem_of_getElem? hl)), ← heq, (nodup_eraseDups names).idxOf_getElem l hlt]

theorem Tables.index_of_mem (h : Tables names r) {name : StdString} (hname : name ∈ names) :
    r.index name = some (names.eraseDups.idxOf name) := by
  rw [index, h.lookup, if_pos hname]

theorem Tables.mem_of_index (h : Tables names r) {name : StdString} {l : Nat} (hl : r.index name = some l) :
    name ∈ names :=
  List.mem_eraseDups.mp (List.mem_of_getElem? (h.index_iff.mp hl))

theorem Tables.nameOf (h : Tables names r) {name : StdString} (hname : name ∈ names) :
    r.nameOf (names.eraseDups.idxOf name) = name := by
  have hfind := find?_zipIdx names.eraseDups 0 (names.eraseDups.idxOf name)
  rw [Nat.zero_add, List.getElem?_idxOf (List.mem_eraseDups.mpr hname)] at hfind
  rw [NormalizedSql.nameOf, h.byName, hfind, Option.getD_some]

/-- A list of positions holds the places of its name. -/
theorem Tables.mem_getD_iff (h : Tables names r) {l p : Nat} : p ∈ r.positionsByLogicalIndex.getD l [] ↔
    ∃ name, names.eraseDups[l]? = some name ∧ 1 ≤ p ∧ names[p - 1]? = some name := by
  rw [h.byLogicalIndex, List.getD_eq_getElem?_getD, List.getElem?_map]
  cases names.eraseDups[l]? with
  | none => simp
  | some name =>
    rw [Option.map_some, Option.getD_some, mem_positions_iff]
    simp

theorem Tables.mirrored (h : Tables names r) {l p : Nat} : p ∈ r.positionsByLogicalIndex.getD l [] ↔
    1 ≤ p ∧ r.logicalIndexByPosition[p - 1]? = some l := by
  rw [h.mem_getD_iff, h.byPosition, List.getElem?_map]
  constructor
  · rintro ⟨name, hl, hle, hp⟩
    have hindex := h.index_of_mem (List.mem_of_getElem? hp)
    rw [h.index_iff.mpr hl] at hindex
    exact ⟨hle, by rw [hp, Option.map_some, hindex]⟩
  · rintro ⟨hle, hp⟩
    obtain ⟨name, hname, rfl⟩ := Option.map_eq_some_iff.mp hp
    exact ⟨name, List.getElem?_idxOf (List.mem_eraseDups.mpr (List.mem_of_getElem? hname)), hle, hname⟩

theorem Tables.covered (h : Tables names r) {p : Nat} :
    (1 ≤ p ∧ p ≤ names.length) ↔ ∃ l, p ∈ r.positionsByLogicalIndex.getD l [] := by
  simp only [h.mirrored, h.byPosition, List.getElem?_map, exists_and_left]
  apply and_congr_right
  intro hp
  constructor
  · intro hle
    have hlt : p - 1 < names.length := by omega
    exact ⟨names.eraseDups.idxOf names[p - 1], by rw [List.getElem?_eq_getElem hlt, Option.map_some]⟩
  · rintro ⟨l, hl⟩
    obtain ⟨name, hname, -⟩ := Option.map_eq_some_iff.mp hl
    have hlt := (List.getElem?_eq_some_iff.mp hname).1
    omega

/-- The marks stand for the names as they were met. -/
theorem Tables.restoreFrom (h : Tables names r) {sql : StdString} (hplain : 0x3F ∉ sql) {k : Nat}
    (hrest : names.drop k = parameters sql) : r.restoreFrom (k + 1) (substitute (fun _ => [0x3F]) sql) = sql := by
  induction sql using substitute.induct generalizing k with
  | case1 => rw [substitute, NormalizedSql.restoreFrom]
  | case2 rest ih =>
    rw [parameters_parameter] at hrest
    have hname : names[k]? = some (0x40 :: rest.takeWhile isParameterNameCharacter) := by
      rw [← List.head?_drop, hrest, List.head?_cons]
    have hnext : names.drop (k + 1) = parameters (rest.dropWhile isParameterNameCharacter) := by
      rw [← List.tail_drop, hrest, List.tail_cons]
    rw [substitute_parameter, List.singleton_append, NormalizedSql.restoreFrom, if_pos rfl, Nat.add_sub_cancel,
      h.byPosition, List.getElem?_map, hname, Option.map_some, Option.map_some, Option.getD_some,
      h.nameOf (List.mem_of_getElem? hname), ih (plain_afterName hplain) hnext, List.cons_append,
      List.takeWhile_append_dropWhile]
  | case3 c rest hc ih =>
    have hmark : c ≠ 0x3F := fun heq => hplain (heq ▸ List.mem_cons_self)
    rw [parameters_other hc] at hrest
    rw [substitute_other hc, NormalizedSql.restoreFrom, if_neg hmark,
      ih (fun hmem => hplain (List.mem_cons_of_mem _ hmem)) hrest]

end Fit
end NormalizedSql

/-- What the loop leaves in the tables is determined by the parameters of the text. -/
theorem normalizeNamedParameters_tables (sql : StdString) :
    NormalizedSql.Tables (parameters sql) (normalizeNamedParameters sql) := by
  have hempty : NormalizedSql.Tables [] {} := ⟨rfl, rfl, rfl⟩
  have hscan := hempty.normalizeWithin (Nat.le_refl sql.length)
  rw [List.nil_append] at hscan
  exact hscan

/-- In a text without question marks, every question mark of the result stands for a parameter. -/
theorem count_substitute {sql : StdString} (hplain : 0x3F ∉ sql) :
    (substitute (fun _ => [0x3F]) sql).count 0x3F = (parameters sql).length := by
  induction sql using substitute.induct with
  | case1 => simp [substitute, parameters]
  | case2 rest ih =>
    rw [substitute_parameter, parameters_parameter, List.singleton_append, List.count_cons_self,
      ih (plain_afterName hplain), List.length_cons]
  | case3 c rest hc ih =>
    have hmark : c ≠ 0x3F := fun heq => hplain (heq ▸ List.mem_cons_self)
    rw [substitute_other hc, parameters_other hc, List.count_cons_of_ne hmark,
      ih fun hmem => hplain (List.mem_cons_of_mem _ hmem)]

theorem length_parameters_le (sql : StdString) : (parameters sql).length ≤ sql.length := by
  induction sql using substitute.induct with
  | case1 => simp [parameters]
  | case2 rest ih =>
    have hdrop := (List.dropWhile_suffix isParameterNameCharacter (l := rest)).length_le
    rw [parameters_parameter, List.length_cons, List.length_cons]
    omega
  | case3 c rest hc ih =>
    rw [parameters_other hc, List.length_cons]
    omega

/-- An index or a position is never larger than the text is long, so the integer types of the tables hold
every number of a text shorter than 2^31 bytes. -/
theorem number_le_length {sql : StdString} {l p : Nat}
    (h : p ∈ (normalizeNamedParameters sql).positionsByLogicalIndex.getD l []) : l < sql.length ∧ p ≤ sql.length := by
  have htables := normalizeNamedParameters_tables sql
  obtain ⟨name, hl, -, hp⟩ := htables.mem_getD_iff.mp h
  have hl' := (List.getElem?_eq_some_iff.mp hl).1
  have hp' := (List.getElem?_eq_some_iff.mp hp).1
  have hdistinct := length_eraseDups_le (parameters sql)
  have hlength := length_parameters_le sql
  omega

/-- The tables agree with each other and with the text. -/
theorem normalizeNamedParameters_consistent {sql : StdString} (hplain : 0x3F ∉ sql) :
    (normalizeNamedParameters sql).Consistent sql := by
  have htables := normalizeNamedParameters_tables sql
  have hsql : (normalizeNamedParameters sql).sql = substitute (fun _ => [0x3F]) sql := by
    rw [(normalizeNamedParameters_scanned sql).sql]
    exact List.nil_append _
  constructor
  case unrepeated =>
    rw [htables.byName, List.zipIdx_map_fst]
    exact nodup_eraseDups _
  case named =>
    intro name
    exact ⟨fun hname => ⟨_, htables.index_of_mem hname⟩, fun ⟨_, hl⟩ => htables.mem_of_index hl⟩
  case onto =>
    intro l
    rw [htables.byLogicalIndex, List.length_map]
    simp only [htables.index_iff]
    exact ⟨fun hl => ⟨_, List.getElem?_eq_getElem hl⟩, fun ⟨_, hl⟩ => (List.getElem?_eq_some_iff.mp hl).1⟩
  case apart =>
    intro name name' l hl hl'
    rw [htables.index_iff] at hl hl'
    exact Option.some.inj (hl.symm.trans hl')
  case ordered =>
    intro name name' l l' hl hl'
    have hname := htables.mem_of_index hl
    have hname' := htables.mem_of_index hl'
    rw [htables.index_of_mem hname] at hl
    rw [htables.index_of_mem hname'] at hl'
    rw [← Option.some.inj hl, ← Option.some.inj hl', idxOf_eraseDups_lt_iff hname hname']
  case increasing =>
    intro positions hpositions
    rw [htables.byLogicalIndex] at hpositions
    obtain ⟨name, -, rfl⟩ := List.mem_map.mp hpositions
    exact positions_increasing name _
  case occupied =>
    rw [htables.byLogicalIndex]
    intro hnil
    obtain ⟨name, hname, hpositions⟩ := List.mem_map.mp hnil
    exact positions_ne_nil (List.mem_eraseDups.mp hname) hpositions
  case covered =>
    intro p
    rw [hsql, count_substitute hplain]
    exact htables.covered
  case disjoint =>
    intro l l' p hl hl'
    rw [htables.mirrored] at hl hl'
    exact Option.some.inj (hl.2.symm.trans hl'.2)
  case mirrored => exact fun l p => htables.mirrored
  case restored =>
    rw [hsql]
    exact htables.restoreFrom hplain rfl

/-- A name twice, and a name that begins with it. -/
theorem normalizeNamedParameters_consistent_twice : (normalizeNamedParameters (literal "x=@a,y=@ab,z=@a")).Consistent
    (literal "x=@a,y=@ab,z=@a") :=
  normalizeNamedParameters_consistent (by decide)

end StationChat.MariaDb
