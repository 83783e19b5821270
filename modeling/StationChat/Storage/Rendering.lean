import StationChat.Storage.Retry
import StationChat.Mail.Texts
import Mathlib.Algebra.Group.Int.Defs

/-! What the text of a statement is made of: the template with its parameters replaced at once, and
blobs that read back as they were bound. -/
namespace StationChat.MariaDb
open Lib Lib.Action

section Substitution

/-- Every parameter of the template replaced by its value, all at once. -/
def substitute (value : StdString → StdString) : StdString → StdString
  | [] => []
  | c :: rest =>
    if c = 0x40 then
      value (c :: rest.takeWhile isParameterNameCharacter) ++
        substitute value (rest.dropWhile isParameterNameCharacter)
    else c :: substitute value rest
  termination_by sql => sql.length
  decreasing_by
    · have hdrop := (List.dropWhile_suffix isParameterNameCharacter (l := rest)).length_le
      simp only [List.length_cons]
      omega
    · simp only [List.length_cons]
      omega

/-- The parameters of the template as they occur, repetitions included. -/
def parameters : StdString → List StdString
  | [] => []
  | c :: rest =>
    if c = 0x40 then
      (c :: rest.takeWhile isParameterNameCharacter) ::
        parameters (rest.dropWhile isParameterNameCharacter)
    else parameters rest
  termination_by sql => sql.length
  decreasing_by
    · have hdrop := (List.dropWhile_suffix isParameterNameCharacter (l := rest)).length_le
      simp only [List.length_cons]
      omega
    · simp only [List.length_cons]
      omega

/-- The value bound last to the name; `none` when none was bound. -/
def boundValue (bindings : List (StdString × BoundValue)) (name : StdString) : BoundValue :=
  bindings.foldl (fun value binding => if binding.1 = name then binding.2 else value) .none

variable {value : StdString → StdString} {rest sql : StdString}

theorem substitute_parameter : substitute value (0x40 :: rest) =
    value (0x40 :: rest.takeWhile isParameterNameCharacter) ++
      substitute value (rest.dropWhile isParameterNameCharacter) := by
  rw [substitute, if_pos rfl]

theorem substitute_other {c : UInt8} (hc : c ≠ 0x40) :
    substitute value (c :: rest) = c :: substitute value rest := by
  rw [substitute, if_neg hc]

theorem parameters_parameter : parameters (0x40 :: rest) =
    (0x40 :: rest.takeWhile isParameterNameCharacter) ::
      parameters (rest.dropWhile isParameterNameCharacter) := by
  rw [parameters, if_pos rfl]

theorem parameters_other {c : UInt8} (hc : c ≠ 0x40) : parameters (c :: rest) = parameters rest := by
  rw [parameters, if_neg hc]

end Substitution

namespace NormalizedSql
variable {r r' : NormalizedSql} {name name' : StdString}

/-- The logical index of a name. -/
def index (r : NormalizedSql) (name : StdString) : Option Nat := r.logicalIndexByName.lookup name

/-- Indices are in range, and no two names share one. -/
structure Indexed (r : NormalizedSql) : Prop where
  below : ∀ name i, r.index name = some i → i < r.positionsByLogicalIndex.length
  apart : ∀ name name' i, r.index name = some i → r.index name' = some i → name = name'

/-- Names keep their indices. -/
def Extends (r r' : NormalizedSql) : Prop := ∀ name i, r.index name = some i → r'.index name = some i

theorem index_addParameter_of_ne (h : name' ≠ name) : (r.addParameter name).index name' = r.index name' := by
  unfold addParameter index
  cases hname : r.logicalIndexByName.lookup name with
  | some i => rfl
  | none =>
    have hne : (name' == name) = false := beq_false_of_ne h
    simp only [List.lookup_append, List.lookup_cons, hne, List.lookup_nil, Option.or_none]

theorem index_addParameter_of_some {i : Nat} (h : r.index name = some i) :
    (r.addParameter name).index name = some i := by
  unfold index at h
  unfold addParameter index
  rw [h]
  exact h

theorem index_addParameter_of_none (h : r.index name = none) :
    (r.addParameter name).index name = some r.positionsByLogicalIndex.length := by
  unfold index at h
  unfold addParameter index
  rw [h]
  simp only [List.lookup_append, h, Option.none_or, List.lookup_cons, beq_self_eq_true]

theorem addParameter_sql : (r.addParameter name).sql = r.sql ++ [0x3F] := by
  unfold addParameter
  cases r.logicalIndexByName.lookup name <;> rfl

theorem addParameter_positions (r : NormalizedSql) (name : StdString) : ∃ i, (r.addParameter name).index name = some i ∧
    (r.addParameter name).logicalIndexByPosition = r.logicalIndexByPosition ++ [i] := by
  cases hname : r.index name with
  | some i =>
    have hfound : r.logicalIndexByName.lookup name = some i := hname
    exact ⟨i, index_addParameter_of_some hname, by rw [addParameter, hfound]⟩
  | none =>
    have hfound : r.logicalIndexByName.lookup name = none := hname
    exact ⟨_, index_addParameter_of_none hname, by rw [addParameter, hfound]⟩

theorem addParameter_extends : r.Extends (r.addParameter name) := by
  intro name' i h
  by_cases hname : name' = name
  · rw [hname] at h ⊢
    exact index_addParameter_of_some h
  · rw [index_addParameter_of_ne hname]
    exact h

theorem addParameter_count : r.positionsByLogicalIndex.length ≤
    (r.addParameter name).positionsByLogicalIndex.length := by
  unfold addParameter
  cases r.logicalIndexByName.lookup name with
  | some i => simp
  | none => simp

theorem addParameter_indexed (h : r.Indexed) (name : StdString) : (r.addParameter name).Indexed := by
  cases hname : r.index name with
  | some i =>
    have hsame : (r.addParameter name).index = r.index := by
      funext name'
      by_cases hne : name' = name
      · rw [hne, index_addParameter_of_some hname, hname]
      · exact index_addParameter_of_ne hne
    constructor
    · intro name' j hj
      rw [hsame] at hj
      exact Nat.lt_of_lt_of_le (h.below name' j hj) addParameter_count
    · rw [hsame]
      exact h.apart
  | none =>
    have hcount : (r.addParameter name).positionsByLogicalIndex.length =
        r.positionsByLogicalIndex.length + 1 := by
      have hfound : r.logicalIndexByName.lookup name = none := hname
      rw [addParameter, hfound, List.length_append]
      rfl
    -- The new name gets an index no other name has.
    have hcases : ∀ name' j, (r.addParameter name).index name' = some j →
        (name' = name ∧ j = r.positionsByLogicalIndex.length) ∨
          (r.index name' = some j ∧ j < r.positionsByLogicalIndex.length) := by
      intro name' j hj
      by_cases hne : name' = name
      · rw [hne, index_addParameter_of_none hname] at hj
        exact .inl ⟨hne, (Option.some.inj hj).symm⟩
      · rw [index_addParameter_of_ne hne] at hj
        exact .inr ⟨hj, h.below name' j hj⟩
    constructor
    · intro name' j hj
      rw [hcount]
      have := hcases name' j hj
      omega
    · intro name' name'' j hj hj'
      rcases hcases name' j hj with ⟨hn, hj₁⟩ | ⟨hold, hj₁⟩ <;>
        rcases hcases name'' j hj' with ⟨hn', hj₂⟩ | ⟨hold', hj₂⟩
      · rw [hn, hn']
      · omega
      · omega
      · exact h.apart name' name'' j hold hold'

/-- `r'` is `r` after the scan of the text: one question mark and one position for each parameter. -/
structure Scanned (r : NormalizedSql) (text : StdString) (r' : NormalizedSql) : Prop where
  indexed : r'.Indexed
  kept : r.Extends r'
  sql : r'.sql = r.sql ++ substitute (fun _ => [0x3F]) text
  positions : ∃ positions, r'.logicalIndexByPosition = r.logicalIndexByPosition ++ positions ∧
    positions.map some = (parameters text).map r'.index

end NormalizedSql

section Normalizing
open NormalizedSql

theorem normalizeWithin_scanned {fuel : Nat} {text : StdString} {r : NormalizedSql}
    (hfuel : text.length ≤ fuel) (h : r.Indexed) : r.Scanned text (normalizeWithin fuel text r) := by
  induction fuel generalizing text r with
  | zero =>
    have hnil : text = [] := List.length_eq_zero_iff.mp (Nat.le_zero.mp hfuel)
    subst hnil
    refine ⟨h, fun _ _ h => h, ?_, [], ?_, ?_⟩
    · simp [normalizeWithin, substitute]
    · simp [normalizeWithin]
    · simp [parameters]
  | succ fuel ih =>
    cases text with
    | nil =>
      refine ⟨h, fun _ _ h => h, ?_, [], ?_, ?_⟩
      · simp [normalizeWithin, substitute]
      · simp [normalizeWithin]
      · simp [parameters]
    | cons c rest =>
      have hrest : rest.length ≤ fuel := Nat.le_of_succ_le_succ hfuel
      by_cases hc : c = 0x40
      · subst hc
        have hdrop : (rest.dropWhile isParameterNameCharacter).length ≤ fuel :=
          Nat.le_trans (List.dropWhile_suffix _).length_le hrest
        obtain ⟨i, hi, hposition⟩ :=
          addParameter_positions r (0x40 :: rest.takeWhile isParameterNameCharacter)
        have hscan := ih hdrop
          (addParameter_indexed h (0x40 :: rest.takeWhile isParameterNameCharacter))
        have hrun : normalizeWithin (fuel + 1) (0x40 :: rest) r =
            normalizeWithin fuel (rest.dropWhile isParameterNameCharacter)
              (r.addParameter (0x40 :: rest.takeWhile isParameterNameCharacter)) := by
          rw [normalizeWithin, if_neg (fun hne => hne rfl)]
        rw [hrun]
        obtain ⟨positions, hpositions, hmap⟩ := hscan.positions
        refine ⟨hscan.indexed, fun name j hj => hscan.kept name j (addParameter_extends name j hj), ?_,
          i :: positions, ?_, ?_⟩
        · rw [hscan.sql, addParameter_sql, substitute_parameter, List.append_assoc]
        · rw [hpositions, hposition, List.append_assoc, List.singleton_append]
        · rw [parameters_parameter, List.map_cons, List.map_cons, hmap, hscan.kept _ i hi]
      · have hscan := ih (r := { r with sql := r.sql ++ [c] }) hrest ⟨h.below, h.apart⟩
        have hrun : normalizeWithin (fuel + 1) (c :: rest) r =
            normalizeWithin fuel rest { r with sql := r.sql ++ [c] } := by
          rw [normalizeWithin, if_pos hc]
        rw [hrun]
        refine ⟨hscan.indexed, hscan.kept, ?_, ?_⟩
        · rw [hscan.sql, substitute_other hc, List.append_assoc, List.singleton_append]
        · rw [parameters_other hc]
          exact hscan.positions

theorem normalizeNamedParameters_scanned (sql : StdString) :
    NormalizedSql.Scanned {} sql (normalizeNamedParameters sql) :=
  normalizeWithin_scanned (Nat.le_refl _)
    ⟨fun _ _ h => absurd h (by simp [index]), fun _ _ _ h => absurd h (by simp [index])⟩

/-- Every parameter of the template has an index. -/
theorem index_of_parameter {sql name : StdString} (h : name ∈ parameters sql) :
    ∃ i, (normalizeNamedParameters sql).index name = some i := by
  obtain ⟨positions, -, hmap⟩ := (normalizeNamedParameters_scanned sql).positions
  have hindex : (normalizeNamedParameters sql).index name ∈ positions.map some := by
    rw [hmap]
    exact List.mem_map_of_mem h
  obtain ⟨i, -, hi⟩ := List.mem_map.mp hindex
  exact ⟨i, hi.symm⟩

end Normalizing

section Rendering
variable {σ : Type} {b : Behaviour σ}

theorem renderFrom_mark {rendered : List StdString} {i : Nat} {positions : List Nat} {rest : StdString} :
    renderFrom rendered (i :: positions) (0x3F :: rest) =
      (renderFrom rendered positions rest).map (rendered.getD i [] ++ ·) := by
  simp [renderFrom]

theorem renderFrom_other {rendered : List StdString} {positions : List Nat} {c : UInt8} {rest : StdString}
    (hc : c ≠ 0x3F) : renderFrom rendered positions (c :: rest) =
      (renderFrom rendered positions rest).map (c :: ·) := by
  simp [renderFrom, hc]

/-- There is no question mark behind a parameter either. -/
theorem plain_afterName {c : UInt8} {rest : StdString} (hplain : 0x3F ∉ c :: rest) :
    0x3F ∉ rest.dropWhile isParameterNameCharacter :=
  fun hmem => hplain (List.mem_cons_of_mem _ ((List.dropWhile_suffix _).mem hmem))

/-- The second loop finds the question marks where the first one put them. -/
theorem renderFrom_substitute {rendered : List StdString} {value : StdString → StdString} {sql : StdString}
    (hplain : 0x3F ∉ sql) {positions : List Nat}
    (h : positions.map (rendered.getD · []) = (parameters sql).map value) :
    renderFrom rendered positions (substitute (fun _ => [0x3F]) sql) = some (substitute value sql) := by
  induction sql using substitute.induct generalizing positions with
  | case1 => simp [substitute, renderFrom]
  | case2 rest ih =>
    rw [parameters_parameter, List.map_cons] at h
    cases positions with
    | nil => exact absurd h (by simp)
    | cons i positions =>
      rw [List.map_cons, List.cons.injEq] at h
      rw [substitute_parameter, substitute_parameter, List.singleton_append, renderFrom_mark,
        ih (plain_afterName hplain) h.2, Option.map_some, h.1]
  | case3 c rest hc ih =>
    have hmark : c ≠ 0x3F := fun heq => hplain (heq ▸ List.mem_cons_self)
    rw [parameters_other hc] at h
    rw [substitute_other hc, substitute_other hc, renderFrom_other hmark,
      ih (fun hmem => hplain (List.mem_cons_of_mem _ hmem)) h, Option.map_some]

/-- The statement holds these values under the names of its template. -/
structure Holds (sql : StdString) (values : StdString → BoundValue) (stmt : MariaDbStatement) : Prop where
  normalized : stmt.normalizedSql = normalizeNamedParameters sql
  slots : stmt.boundValues.length = (normalizeNamedParameters sql).positionsByLogicalIndex.length
  values : ∀ name i, (normalizeNamedParameters sql).index name = some i →
    stmt.boundValues.getD i .none = values name

theorem holds_prepare (sql : StdString) : Holds sql (fun _ => .none) (prepare sql) := by
  constructor
  · rfl
  · exact List.length_replicate
  · intro name i _
    simp only [prepare, List.getD_eq_getElem?_getD, List.getElem?_replicate]
    split <;> rfl

theorem Holds.bind {sql name : StdString} {values : StdString → BoundValue} {stmt : MariaDbStatement}
    (h : Holds sql values stmt) (hname : name ∈ parameters sql) (value : BoundValue) :
    ∃ i stmt', stmt.bindParameterIndex name = .ok i ∧ stmt.bind i value = .ok stmt' ∧
      Holds sql (fun name' => if name = name' then value else values name') stmt' := by
  obtain ⟨i, hi⟩ := index_of_parameter hname
  have hscan := normalizeNamedParameters_scanned sql
  have hlt : i < stmt.boundValues.length := by
    rw [h.slots]
    exact hscan.indexed.below name i hi
  have hlookup : stmt.normalizedSql.logicalIndexByName.lookup name = some i := by
    rw [h.normalized]
    exact hi
  refine ⟨i, { stmt with boundValues := stmt.boundValues.set i value }, ?_, ?_, h.normalized, ?_, ?_⟩
  · rw [MariaDbStatement.bindParameterIndex, hlookup]
  · rw [MariaDbStatement.bind, if_pos hlt]
  · exact List.length_set.trans h.slots
  · intro name' j hj
    simp only [List.getD_eq_getElem?_getD, List.getElem?_set]
    by_cases hsame : name = name'
    · have hij : i = j := by
        rw [← hsame, hi] at hj
        exact Option.some.inj hj
      rw [if_pos hsame, if_pos hij, if_pos hlt, Option.getD_some]
    · have hij : i ≠ j := fun heq => hsame (hscan.indexed.apart name name' i hi (heq ▸ hj))
      rw [if_neg hsame, if_neg hij, ← List.getD_eq_getElem?_getD]
      exact h.values name' j hj

theorem Holds.bindAll {sql : StdString} {bindings : List (StdString × BoundValue)}
    {values : StdString → BoundValue} {stmt : MariaDbStatement} (h : Holds sql values stmt)
    (hnames : ∀ binding ∈ bindings, binding.1 ∈ parameters sql) :
    ∃ stmt', MariaDb.bindAll stmt bindings = .ok stmt' ∧ Holds sql (fun name => bindings.foldl
      (fun value binding => if binding.1 = name then binding.2 else value) (values name)) stmt' := by
  induction bindings generalizing values stmt with
  | nil => exact ⟨stmt, rfl, h⟩
  | cons binding bindings ih =>
    obtain ⟨hname, hrest⟩ := List.forall_mem_cons.mp hnames
    obtain ⟨i, next, hi, hnext, hholds⟩ := h.bind hname binding.2
    obtain ⟨stmt', hstmt', hholds'⟩ := ih hholds hrest
    refine ⟨stmt', ?_, hholds'⟩
    have hone : MariaDb.bindAll stmt (binding :: bindings) = MariaDb.bindAll next bindings := by
      simp only [MariaDb.bindAll, List.foldlM_cons, hi]
      change stmt.bind i binding.2 >>= _ = _
      rw [hnext]
      rfl
    rw [hone, hstmt']

theorem Holds.renderSql {sql : StdString} {values : StdString → BoundValue} {stmt : MariaDbStatement}
    (h : Holds sql values stmt) (hplain : 0x3F ∉ sql) :
    renderSql b stmt = some (substitute (fun name => renderValue b (values name)) sql) := by
  have hscan := normalizeNamedParameters_scanned sql
  obtain ⟨positions, hpositions, hmap⟩ := hscan.positions
  unfold MariaDb.renderSql
  rw [h.normalized, hscan.sql, hpositions, List.nil_append, List.nil_append]
  apply renderFrom_substitute hplain
  -- A position holds the index of its parameter, and the slot of that index its value.
  have hvalue : ∀ name ∈ parameters sql, ∀ i, (normalizeNamedParameters sql).index name = some i →
      (stmt.boundValues.map (renderValue b)).getD i [] = renderValue b (values name) := by
    intro name _ i hi
    have hlt : i < stmt.boundValues.length := by
      rw [h.slots]
      exact hscan.indexed.below name i hi
    have hslot := h.values name i hi
    rw [List.getD_eq_getElem?_getD, List.getElem?_eq_getElem hlt, Option.getD_some] at hslot
    rw [List.getD_eq_getElem?_getD, List.getElem?_map, List.getElem?_eq_getElem hlt, Option.map_some,
      Option.getD_some, hslot]
  clear hpositions
  generalize parameters sql = names at hmap hvalue
  induction names generalizing positions with
  | nil =>
    have hnil : positions = [] := List.map_eq_nil_iff.mp hmap
    rw [hnil, List.map_nil, List.map_nil]
  | cons name names ih =>
    cases positions with
    | nil => exact absurd hmap (by simp)
    | cons i positions =>
      rw [List.map_cons, List.map_cons, List.cons.injEq] at hmap
      obtain ⟨hname, hnames⟩ := List.forall_mem_cons.mp hvalue
      rw [List.map_cons, List.map_cons, hname i hmap.1.symm, ih positions hmap.2 hnames]

/-- The text of a statement is its template with every parameter replaced by the value bound to it. -/
theorem renderSql_eq_substitute (b : Behaviour σ) (sql : StdString)
    (bindings : List (StdString × BoundValue)) (hplain : 0x3F ∉ sql)
    (hnames : ∀ binding ∈ bindings, binding.1 ∈ parameters sql) :
    ∃ stmt, bindAll (prepare sql) bindings = .ok stmt ∧
      renderSql b stmt = some (substitute (fun name => renderValue b (boundValue bindings name)) sql) := by
  obtain ⟨stmt, hstmt, hholds⟩ := (holds_prepare sql).bindAll hnames
  exact ⟨stmt, hstmt, hholds.renderSql hplain⟩

/-- A template with a name twice and a name that begins with it. -/
def prefixSql : StdString := literal "x=@a,y=@ab,z=@c,x=@a"

def prefixBindings : List (StdString × BoundValue) :=
  [(literal "@a", .text (literal "?@ab'")), (literal "@ab", .int (-7)), (literal "@ab", .int 12)]

/-- A connection whose quotes are escaped by a backslash. -/
def quotingBehaviour : Behaviour Database :=
  { messageBehaviour oneMail fun _ => false with
    escape := List.flatMap fun c => if c = 0x27 then [0x5C, c] else [c] }

/-- The values are not scanned again, and a name without a value becomes NULL. -/
theorem renderSql_eq_substitute_prefixes : ∃ stmt, bindAll (prepare prefixSql) prefixBindings = .ok stmt ∧
    renderSql quotingBehaviour stmt = some (literal "x='?@ab\\'',y=12,z=NULL,x='?@ab\\''") := by
  have htext : substitute (fun name => renderValue quotingBehaviour (boundValue prefixBindings name))
      prefixSql = literal "x='?@ab\\'',y=12,z=NULL,x='?@ab\\''" := by decide +kernel
  rw [← htext]
  exact renderSql_eq_substitute quotingBehaviour prefixSql prefixBindings (by decide +kernel)
    (by decide +kernel)

end Rendering

section Hexadecimal

/-- What a hexadecimal digit stands for in SQL, in either case. -/
def hexValue (c : UInt8) : Option UInt8 :=
  if 0x30 ≤ c ∧ c ≤ 0x39 then some (c - 0x30)
  else if 0x41 ≤ c ∧ c ≤ 0x46 then some (c - 0x37)
  else if 0x61 ≤ c ∧ c ≤ 0x66 then some (c - 0x57)
  else none

/-- Digits in pairs up to the closing quote, which is the end of the text. -/
def readHexDigits : StdString → Option (List UInt8)
  | [c] => if c = 0x27 then some [] else none
  | high :: low :: rest => do
    let high ← hexValue high
    let low ← hexValue low
    let data ← readHexDigits rest
    pure ((16 * high + low) :: data)
  | [] => none

/-- A literal `X'...'` as SQL defines it. -/
def readHexLiteral : StdString → Option (List UInt8)
  | 0x58 :: 0x27 :: digits => readHexDigits digits
  | _ => none

theorem hexValue_hexDigit {n : UInt8} (h : n < 16) : hexValue (hexDigit n) = some n := by
  have hall : ∀ k : Fin 16, hexValue (hexDigit (UInt8.ofNat k)) = some (UInt8.ofNat k) := by decide
  have hn : n.toNat < 16 := UInt8.lt_iff_toNat_lt.mp h
  have hdigit := hall ⟨n.toNat, hn⟩
  rwa [UInt8.ofNat_toNat] at hdigit

theorem byte_of_halves (value : UInt8) : (16 : UInt8) * (value >>> (4 : UInt8)) + (value &&& 0x0F) = value := by
  have hlow : value.toNat &&& 15 = value.toNat % 16 := Nat.and_two_pow_sub_one_eq_mod value.toNat 4
  have hhigh : value.toNat >>> 4 = value.toNat / 16 := Nat.shiftRight_eq_div_pow value.toNat 4
  have hlt := value.toNat_lt
  apply UInt8.toNat_inj.mp
  simp [hlow, hhigh]
  omega

theorem readHexDigits_hexByte (value : UInt8) (rest : StdString) :
    readHexDigits (hexByte value ++ rest) = (readHexDigits rest).map (value :: ·) := by
  have hhigh : value >>> 4 < 16 := by
    have hlt := value.toNat_lt
    apply UInt8.lt_iff_toNat_lt.mpr
    simp [Nat.shiftRight_eq_div_pow]
    omega
  have hlow : value &&& 0x0F < 16 := by
    apply UInt8.lt_iff_toNat_lt.mpr
    rw [UInt8.toNat_and]
    exact Nat.lt_of_le_of_lt Nat.and_le_right (by decide)
  change (do
    let high ← hexValue (hexDigit (value >>> 4))
    let low ← hexValue (hexDigit (value &&& 0x0F))
    let data ← readHexDigits rest
    pure ((16 * high + low) :: data)) = _
  rw [hexValue_hexDigit hhigh, hexValue_hexDigit hlow]
  cases readHexDigits rest with
  | none => rfl
  | some data =>
    change some (((16 : UInt8) * (value >>> (4 : UInt8)) + (value &&& 0x0F)) :: data) = some (value :: data)
    rw [byte_of_halves]

theorem readHexLiteral_blobToHex (data : List UInt8) : readHexLiteral (blobToHex data) = some data := by
  change readHexDigits (data.flatMap hexByte ++ [0x27]) = some data
  induction data with
  | nil => rfl
  | cons value data ih => rw [List.flatMap_cons, List.append_assoc, readHexDigits_hexByte, ih, Option.map_some]

end Hexadecimal

section OutOfBand

/-- What the decoding in `GetPersistentMessage` throws: the check of its own, or `resize`. -/
inductive OobException where
  | invalidByteLength
  | lengthError
  deriving DecidableEq, Repr

/-- `ColumnBytes`: the length as an `int`. -/
def columnBytes (data : List UInt8) : Int := toInt32 (UInt32.ofNat data.length)

def codeUnit (data : List UInt8) (i : Nat) : UInt16 :=
  (data.getD (i * 2) 0).toUInt16 ||| ((data.getD (i * 2 + 1) 0).toUInt16 <<< 8)

/-- The decoding of `oob` in `GetPersistentMessage`. A negative count is too large for `resize`. -/
def decodeOob (data : List UInt8) : Except OobException U16String :=
  let size := columnBytes data
  if size.tmod 2 ≠ 0 then .error .invalidByteLength
  else
    let codeUnitCount := size.tdiv 2
    if codeUnitCount < 0 then .error .lengthError
    else .ok ((List.range codeUnitCount.toNat).map (codeUnit data))

/-- Half of an even length as an `int`. -/
theorem toInt32_even (n : Nat) : toInt32 (UInt32.ofNat (2 * n)) =
    2 * (if n % 2 ^ 31 < 2 ^ 30 then ((n % 2 ^ 31 : Nat) : Int) else ((n % 2 ^ 31 : Nat) : Int) - 2 ^ 31) := by
  have hbits : (UInt32.ofNat (2 * n)).toInt32.toBitVec = BitVec.ofNat 32 (2 * n) := rfl
  rw [toInt32, Int32.toInt, hbits, BitVec.toInt, BitVec.toNat_ofNat]
  split <;> split <;> omega

theorem oobBytes_length (oob : U16String) : (oobBytes oob).length = 2 * oob.length := by
  induction oob with
  | nil => rfl
  | cons u oob ih =>
    change (oobBytes oob).length + 2 = _
    rw [ih, List.length_cons]
    omega

theorem codeUnit_oobBytes {oob : U16String} {i : Nat} (h : i < oob.length) :
    codeUnit (oobBytes oob) i = oob[i] := by
  induction oob generalizing i with
  | nil => exact absurd h (Nat.not_lt_zero i)
  | cons u oob ih =>
    cases i with
    | zero => exact unit_of_bytes u
    | succ i =>
      have hshift : codeUnit (oobBytes (u :: oob)) (i + 1) = codeUnit (oobBytes oob) i := by
        have htwo : (i + 1) * 2 = i * 2 + 2 := by omega
        rw [codeUnit, htwo]
        rfl
      rw [hshift, ih (Nat.lt_of_succ_lt_succ h), List.getElem_cons_succ]

theorem map_codeUnit_oobBytes {oob : U16String} {n : Nat} (h : n ≤ oob.length) :
    (List.range n).map (codeUnit (oobBytes oob)) = oob.take n := by
  apply List.ext_getElem
  · rw [List.length_map, List.length_range, List.length_take, Nat.min_eq_left h]
  · intro i hi _
    rw [List.length_map, List.length_range] at hi
    rw [List.getElem_map, List.getElem_range, codeUnit_oobBytes (Nat.lt_of_lt_of_le hi h), List.getElem_take]

/-- The units come back as long as the length fits; from then on they are refused or cut off. -/
theorem decodeOob_oobBytes (oob : U16String) : decodeOob (oobBytes oob) =
    if oob.length % 2 ^ 31 < 2 ^ 30 then .ok (oob.take (oob.length % 2 ^ 31))
    else .error .lengthError := by
  unfold decodeOob columnBytes
  rw [oobBytes_length, toInt32_even]
  simp only [Int.mul_tmod_right, ne_eq, not_true_eq_false, if_false]
  rw [Int.mul_tdiv_cancel_left _ (by decide)]
  by_cases hsmall : oob.length % 2 ^ 31 < 2 ^ 30
  · rw [if_pos hsmall, if_pos hsmall, if_neg (by omega), Int.toNat_natCast,
      map_codeUnit_oobBytes (Nat.mod_le _ _)]
  · rw [if_neg hsmall, if_neg hsmall, if_pos (by omega)]

/-- Below the limit the decoding yields what the mail service reads from the column. -/
theorem decodeOob_eq_oobUnits {oob : U16String} (h : oob.length < 2 ^ 30) :
    (decodeOob (oobBytes oob)).toOption = oobUnits (oobBytes oob) := by
  rw [decodeOob_oobBytes, if_pos (by omega), oobUnits_oobBytes, List.take_of_length_le (by omega)]
  rfl

theorem decodeOob_oobBytes_iff (oob : U16String) :
    decodeOob (oobBytes oob) = .ok oob ↔ oob.length < 2 ^ 30 := by
  rw [decodeOob_oobBytes]
  constructor
  · intro h
    by_cases hsmall : oob.length % 2 ^ 31 < 2 ^ 30
    · rw [if_pos hsmall, Except.ok.injEq] at h
      have hlength := congrArg List.length h
      rw [List.length_take] at hlength
      omega
    · rw [if_neg hsmall] at h
      exact absurd h (by simp)
  · intro h
    rw [if_pos (by omega), List.take_of_length_le (by omega)]

/-- Out-of-band data comes back bit for bit unless its bytes are too many for an `int`. -/
theorem oob_survives (oob : U16String) :
    readHexLiteral (blobToHex (oobBytes oob)) = some (oobBytes oob) ∧
      (decodeOob (oobBytes oob) = .ok oob ↔ oob.length < 2 ^ 30) ∧
      decodeOob (oobBytes oob) ≠ .error .invalidByteLength := by
  refine ⟨readHexLiteral_blobToHex _, decodeOob_oobBytes_iff oob, ?_⟩
  rw [decodeOob_oobBytes]
  split <;> simp

/-- From 2^30 units on the length of the column is negative. -/
theorem oob_too_long : ∃ oob : U16String,
    oob = List.replicate (2 ^ 30) 0x68 ∧
      (readHexLiteral (blobToHex (oobBytes oob))).map decodeOob = some (.error .lengthError) := by
  refine ⟨_, rfl, ?_⟩
  rw [readHexLiteral_blobToHex, Option.map_some, decodeOob_oobBytes, List.length_replicate,
    if_neg (by decide)]

end OutOfBand
end StationChat.MariaDb
