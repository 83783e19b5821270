import Mathlib.Algebra.Group.Nat.Defs
import Mathlib.Data.List.Forall2
import Mathlib.Tactic.Common

/-! Decoders of binary data, with two meanings: reading a stream that keeps answering after its end, and
reading a string that has to hold every byte. -/
namespace StationChat.Lib

/-- An input stream over a string, with the state that a read which comes up short leaves behind. -/
structure InputStream where
  rest : List UInt8
  good : Bool
  deriving DecidableEq, Repr

/-- Reading as many bytes as the target has. A short read fills the front of the target only, and the
reads after it leave theirs alone. -/
def InputStream.read (stream : InputStream) (target : List UInt8) : List UInt8 × InputStream :=
  if stream.good then
    (stream.rest.take target.length ++ target.drop stream.rest.length,
      ⟨stream.rest.drop target.length, target.length ≤ stream.rest.length⟩)
  else (target, stream)

/-- A loop of reads into one variable, keeping what the variable holds after each. -/
def InputStream.readUnits : Nat → List UInt8 → InputStream → List (List UInt8) × InputStream
  | 0, _, stream => ([], stream)
  | count + 1, target, stream =>
    let (unit, stream) := stream.read target
    let (units, stream) := stream.readUnits count unit
    (unit :: units, stream)

/-- A program of reads. Each `field` has a variable of its own and the `units` of one loop share one; no
variable has a value before it is read into. -/
inductive Decoder (α : Type) where
  | done (a : α)
  | field (width : Nat) (next : List UInt8 → Decoder α)
  | units (width count : Nat) (next : List (List UInt8) → Decoder α)

/-- A stream under way. `used` counts the bytes of memory that were declared without a value, and `stored`
those that loops wrote. -/
structure Reading where
  stream : InputStream
  used : Nat
  stored : Nat
  deriving DecidableEq, Repr

namespace Decoder
variable {α β : Type}

protected def bind : Decoder α → (α → Decoder β) → Decoder β
  | done a, f => f a
  | field width next, f => field width fun bytes => (next bytes).bind f
  | units width count next, f => units width count fun values => (next values).bind f

instance : Monad Decoder where
  pure := done
  bind := Decoder.bind

protected theorem bind_done (d : Decoder α) : d.bind done = d := by
  induction d with
  | done a => rfl
  | field width next ih => exact congrArg (field width) (funext ih)
  | units width count next ih => exact congrArg (units width count) (funext ih)

protected theorem bind_assoc {γ : Type} (d : Decoder α) (f : α → Decoder β) (g : β → Decoder γ) :
    (d.bind f).bind g = d.bind fun a => (f a).bind g := by
  induction d with
  | done a => rfl
  | field width next ih => exact congrArg (field width) (funext ih)
  | units width count next ih => exact congrArg (units width count) (funext ih)

instance : LawfulMonad Decoder :=
  LawfulMonad.mk' Decoder Decoder.bind_done (fun _ _ => rfl) Decoder.bind_assoc

/-- The values that memory happens to hold where a variable is declared. -/
def declared (memory : Nat → UInt8) (used width : Nat) : List UInt8 :=
  (List.range width).map fun i => memory (used + i)

/-- What the reads yield when the variables start out as `memory`. -/
def run (memory : Nat → UInt8) : Decoder α → Reading → α × Reading
  | done a, r => (a, r)
  | field width next, r =>
    let (bytes, stream) := r.stream.read (declared memory r.used width)
    (next bytes).run memory { r with stream, used := r.used + width }
  | units width count next, r =>
    let (values, stream) := r.stream.readUnits count (declared memory r.used width)
    (next values).run memory ⟨stream, r.used + width, r.stored + width * count⟩

theorem run_map (memory : Nat → UInt8) (f : α → β) (d : Decoder α) (r : Reading) :
    (f <$> d).run memory r = (f (d.run memory r).1, (d.run memory r).2) := by
  induction d generalizing r with
  | done a => rfl
  | field width next ih => exact ih _ _
  | units width count next ih => exact ih _ _

theorem run_bind (memory : Nat → UInt8) (d : Decoder α) (f : α → Decoder β) (r : Reading) :
    (d >>= f).run memory r = (f (d.run memory r).1).run memory (d.run memory r).2 := by
  induction d generalizing r with
  | done a => rfl
  | field width next ih => exact ih _ _
  | units width count next ih => exact ih _ _

/-- Whatever is read, and whatever memory holds, the value satisfies `Q`. -/
def Always (d : Decoder α) (Q : α → Prop) : Prop := ∀ memory r, Q (d.run memory r).1

theorem always_done {a : α} {Q : α → Prop} (h : Q a) : (pure a : Decoder α).Always Q := fun _ _ => h

theorem always_bind {d : Decoder α} {f : α → Decoder β} {Q : β → Prop} (h : ∀ a, (f a).Always Q) :
    (d >>= f).Always Q := by
  intro memory r
  rw [run_bind]
  exact h _ _ _

theorem always_map {d : Decoder α} {f : α → β} {Q : β → Prop} (h : d.Always fun a => Q (f a)) :
    (f <$> d).Always Q := by
  intro memory r
  rw [run_map]
  exact h _ _

/-- The first `count` pieces of a given width. -/
def pieces (width : Nat) : Nat → List UInt8 → List (List UInt8)
  | 0, _ => []
  | count + 1, bytes => bytes.take width :: pieces width count (bytes.drop width)

/-- The strict meaning: the value and what follows it, if every byte is there. -/
def parse : Decoder α → List UInt8 → Option (α × List UInt8)
  | done a, bytes => some (a, bytes)
  | field width next, bytes =>
    if width ≤ bytes.length then (next (bytes.take width)).parse (bytes.drop width) else none
  | units width count next, bytes =>
    if width * count ≤ bytes.length then
      (next (pieces width count bytes)).parse (bytes.drop (width * count))
    else none

/-- A stream that was just given its bytes. -/
def start (bytes : List UInt8) : Reading := ⟨⟨bytes, true⟩, 0, 0⟩

section Strict
variable {memory : Nat → UInt8} {bytes rest : List UInt8} {a : α}

@[simp] theorem length_declared (memory : Nat → UInt8) (used width : Nat) :
    (declared memory used width).length = width := by
  simp [declared]

theorem read_of_le (target : List UInt8) (h : target.length ≤ bytes.length) :
    (InputStream.mk bytes true).read target = (bytes.take target.length, ⟨bytes.drop target.length, true⟩) := by
  have hdrop : target.drop bytes.length = [] := List.drop_eq_nil_of_le h
  simp [InputStream.read, hdrop, h]

theorem readUnits_of_le (target : List UInt8) {count : Nat} (h : target.length * count ≤ bytes.length) :
    (InputStream.mk bytes true).readUnits count target =
      (pieces target.length count bytes, ⟨bytes.drop (target.length * count), true⟩) := by
  induction count generalizing bytes target with
  | zero => rfl
  | succ count ih =>
    rw [Nat.mul_succ] at h
    have hfirst : target.length ≤ bytes.length := by omega
    have hlength : (bytes.take target.length).length = target.length := by
      rw [List.length_take]
      omega
    have hrest := @ih (bytes.drop target.length) (bytes.take target.length) (by
      rw [hlength, List.length_drop]
      omega)
    rw [hlength, List.drop_drop] at hrest
    simp only [InputStream.readUnits, read_of_le target hfirst, hrest, pieces]
    rw [Nat.mul_succ, Nat.add_comm]

/-- On a string that holds every byte the stream yields what the strict meaning says, whatever the memory
held. -/
theorem run_of_parse (memory : Nat → UInt8) {d : Decoder α} (h : d.parse bytes = some (a, rest))
    (used stored : Nat) :
    ∃ used' stored', d.run memory ⟨⟨bytes, true⟩, used, stored⟩ = (a, ⟨⟨rest, true⟩, used', stored'⟩) ∧
      stored' + rest.length ≤ stored + bytes.length := by
  induction d generalizing bytes used stored with
  | done b =>
    obtain ⟨rfl, rfl⟩ := Prod.ext_iff.mp (Option.some.inj h)
    exact ⟨used, stored, rfl, Nat.le_refl _⟩
  | field width next ih =>
    rw [parse] at h
    split at h
    · rename_i hle
      have hread := read_of_le (declared memory used width) (by simpa using hle)
      rw [length_declared] at hread
      obtain ⟨used', stored', hrun, hstored⟩ := ih _ h (used + width) stored
      rw [List.length_drop] at hstored
      refine ⟨used', stored', ?_, by omega⟩
      simp only [run, hread]
      exact hrun
    · exact absurd h (by simp)
  | units width count next ih =>
    rw [parse] at h
    split at h
    · rename_i hle
      have hread := readUnits_of_le (declared memory used width) (by simpa using hle)
      rw [length_declared] at hread
      obtain ⟨used', stored', hrun, hstored⟩ := ih _ h (used + width) (stored + width * count)
      rw [List.length_drop] at hstored
      refine ⟨used', stored', ?_, by omega⟩
      simp only [run, hread]
      exact hrun
    · exact absurd h (by simp)

theorem read_bad {stream : InputStream} (h : stream.good = false) (target : List UInt8) :
    stream.read target = (target, stream) := by
  simp [InputStream.read, h]

theorem read_of_lt {target : List UInt8} (h : ¬ target.length ≤ bytes.length) :
    ((InputStream.mk bytes true).read target).2.good = false := by
  simp [InputStream.read, h]

theorem readUnits_bad {stream : InputStream} (h : stream.good = false) (count : Nat) (target : List UInt8) :
    (stream.readUnits count target).2 = stream := by
  induction count with
  | zero => rfl
  | succ count ih =>
    simp only [InputStream.readUnits, read_bad h]
    exact ih

theorem readUnits_of_lt {target : List UInt8} {count : Nat} (h : ¬ target.length * count ≤ bytes.length) :
    ((InputStream.mk bytes true).readUnits count target).2.good = false := by
  induction count generalizing bytes target with
  | zero => exact absurd (Nat.zero_le _) h
  | succ count ih =>
    simp only [InputStream.readUnits]
    by_cases hfirst : target.length ≤ bytes.length
    · rw [read_of_le target hfirst]
      apply ih
      rw [List.length_take, List.length_drop, Nat.min_eq_left hfirst]
      rw [Nat.mul_succ] at h
      omega
    · rw [readUnits_bad (read_of_lt hfirst)]
      exact read_of_lt hfirst

theorem run_bad (d : Decoder α) {r : Reading} (h : r.stream.good = false) :
    (d.run memory r).2.stream.good = false := by
  induction d generalizing r with
  | done a => exact h
  | field width next ih =>
    simp only [run, read_bad h]
    exact ih _ h
  | units width count next ih =>
    apply ih
    rw [readUnits_bad h]
    exact h

/-- On a string that lacks some byte a read comes up short, and the stream shows it to the end. -/
theorem run_of_not_parse {d : Decoder α} (h : d.parse bytes = none) (used stored : Nat) :
    (d.run memory ⟨⟨bytes, true⟩, used, stored⟩).2.stream.good = false := by
  induction d generalizing bytes used stored with
  | done a => exact absurd h (by simp [parse])
  | field width next ih =>
    rw [parse] at h
    by_cases hle : width ≤ bytes.length
    · have hread := read_of_le (declared memory used width) (by simpa using hle)
      rw [length_declared] at hread
      rw [if_pos hle] at h
      simp only [run, hread]
      exact ih _ h _ _
    · rw [run]
      apply run_bad
      apply read_of_lt
      rwa [length_declared]
  | units width count next ih =>
    rw [parse] at h
    by_cases hle : width * count ≤ bytes.length
    · have hread := readUnits_of_le (declared memory used width) (by simpa using hle)
      rw [length_declared] at hread
      rw [if_pos hle] at h
      simp only [run, hread]
      exact ih _ h _ _
    · rw [run]
      apply run_bad
      apply readUnits_of_lt
      rwa [length_declared]

/-- The stream stays good exactly when the string holds every byte. -/
theorem run_good_iff (d : Decoder α) :
    (d.run memory (start bytes)).2.stream.good = true ↔ (d.parse bytes).isSome := by
  cases h : d.parse bytes with
  | none => simp [start, run_of_not_parse h]
  | some result =>
    obtain ⟨used, stored, hrun, -⟩ := run_of_parse memory h 0 0
    simp [start, hrun]

theorem parse_bind (d : Decoder α) (f : α → Decoder β) (bytes : List UInt8) :
    (d.bind f).parse bytes = (d.parse bytes).bind fun result => (f result.1).parse result.2 := by
  induction d generalizing bytes with
  | done a => rfl
  | field width next ih =>
    rw [Decoder.bind, parse, parse, apply_ite (Option.bind · _), ih]
    rfl
  | units width count next ih =>
    rw [Decoder.bind, parse, parse, apply_ite (Option.bind · _), ih]
    rfl

/-- The decoder takes these bytes off the front of any string, and yields `a`. -/
def Undoes (d : Decoder α) (bytes : List UInt8) (a : α) : Prop :=
  ∀ rest, d.parse (bytes ++ rest) = some (a, rest)

theorem undoes_done (a : α) : (done a).Undoes [] a := fun _ => rfl

theorem Undoes.bind {d : Decoder α} {f : α → Decoder β} {first second : List UInt8} {b : β}
    (h : d.Undoes first a) (h' : (f a).Undoes second b) : (d.bind f).Undoes (first ++ second) b := by
  intro rest
  rw [parse_bind, List.append_assoc, h, Option.bind_some, h']

theorem Undoes.map {d : Decoder α} {b : β} (h : d.Undoes bytes a) {f : α → β} (hf : f a = b) :
    (d.bind fun a => done (f a)).Undoes bytes b := by
  have hdone : (done (f a)).Undoes [] b := hf ▸ undoes_done (f a)
  have hmap := h.bind (f := fun a => done (f a)) hdone
  rwa [List.append_nil] at hmap

theorem undoes_field {width : Nat} (hwidth : bytes.length = width) : (field width done).Undoes bytes bytes := by
  intro rest
  rw [parse, if_pos (by rw [List.length_append]; omega), ← hwidth, List.take_left, List.drop_left, parse]

theorem pieces_flatten {width : Nat} {values : List (List UInt8)} (hwidth : ∀ value ∈ values, value.length = width)
    (rest : List UInt8) : pieces width values.length (values.flatten ++ rest) = values := by
  induction values with
  | nil => rfl
  | cons value values ih =>
    obtain ⟨hfirst, hvalues⟩ := List.forall_mem_cons.mp hwidth
    rw [List.length_cons, pieces, List.flatten_cons, List.append_assoc, ← hfirst, List.take_left, List.drop_left,
      hfirst, ih hvalues]

theorem undoes_units {width : Nat} {values : List (List UInt8)} (hwidth : ∀ value ∈ values, value.length = width) :
    (units width values.length done).Undoes values.flatten values := by
  intro rest
  have hlength : values.flatten.length = width * values.length := by
    rw [List.length_flatten, List.map_congr_left hwidth, List.map_const', List.sum_replicate_nat, Nat.mul_comm]
  rw [parse, if_pos (by rw [List.length_append]; omega), ← hlength, List.drop_left, pieces_flatten hwidth, parse]

/-- So does the stream, whatever the memory held, and stays good. -/
theorem Undoes.run {d : Decoder α} (h : d.Undoes bytes a) (memory : Nat → UInt8) (rest : List UInt8) :
    (d.run memory (start (bytes ++ rest))).1 = a ∧
      (d.run memory (start (bytes ++ rest))).2.stream = ⟨rest, true⟩ := by
  obtain ⟨used, stored, hrun, -⟩ := run_of_parse memory (h rest) 0 0
  rw [start, hrun]
  exact ⟨rfl, rfl⟩

end Strict

section Layouts
variable {F : Type} {lies : F → List UInt8 → Prop} {bytes rest : List UInt8} {a : α} {b : β}

/-- The bytes of the fields one after another, where `lies` says what bytes a field may have. -/
def Laid (lies : F → List UInt8 → Prop) (fields : List F) (bytes : List UInt8) : Prop :=
  ∃ parts, List.Forall₂ lies fields parts ∧ bytes = parts.flatten

theorem laid_nil : Laid lies [] bytes ↔ bytes = [] := by
  constructor
  · rintro ⟨_, ⟨⟩, rfl⟩
    rfl
  · rintro rfl
    exact ⟨[], .nil, rfl⟩

theorem laid_cons {field : F} {fields : List F} :
    Laid lies (field :: fields) bytes ↔ ∃ part more, lies field part ∧ Laid lies fields more ∧ bytes = part ++ more := by
  constructor
  · rintro ⟨_, hlies, rfl⟩
    obtain ⟨part, parts, hpart, hparts, rfl⟩ := List.forall₂_cons_left_iff.mp hlies
    exact ⟨part, parts.flatten, hpart, ⟨parts, hparts, rfl⟩, rfl⟩
  · rintro ⟨part, _, hpart, ⟨parts, hparts, rfl⟩, rfl⟩
    exact ⟨part :: parts, .cons hpart hparts, rfl⟩

/-- What the decoder takes off a string is one field, that of its value, and it finds every such field. -/
structure Reads (lies : F → List UInt8 → Prop) (d : Decoder α) (field : α → F) : Prop where
  takes : ∀ ⦃bytes a rest⦄, d.parse bytes = some (a, rest) → ∃ part, lies (field a) part ∧ bytes = part ++ rest
  finds : ∀ a part rest, lies (field a) part → ∃ a', field a' = field a ∧ d.parse (part ++ rest) = some (a', rest)

/-- Behind the fields `seen`, the decoder takes the others of its value off a string. -/
def Completes (lies : F → List UInt8 → Prop) (d : Decoder β) (seen : List F) (fields : β → List F) : Prop :=
  ∀ bytes b rest, d.parse bytes = some (b, rest) →
    ∃ more front, fields b = seen ++ more ∧ Laid lies more front ∧ bytes = front ++ rest

/-- The decoder takes the fields off any string that starts with them, and yields `b`. -/
def Accepts (lies : F → List UInt8 → Prop) (d : Decoder β) (fields : List F) (b : β) : Prop :=
  ∀ front rest, Laid lies fields front → d.parse (front ++ rest) = some (b, rest)

variable {seen more : List F} {fields : β → List F} {d : Decoder α} {f : α → Decoder β} {field : α → F}

theorem parse_bind_eq_some (d : Decoder α) (f : α → Decoder β) : (d >>= f).parse bytes = some (b, rest) ↔
    ∃ a behind, d.parse bytes = some (a, behind) ∧ (f a).parse behind = some (b, rest) := by
  change (d.bind f).parse bytes = _ ↔ _
  rw [parse_bind, Option.bind_eq_some_iff, Prod.exists]

theorem parse_map_eq_some (d : Decoder α) (g : α → β) : (g <$> d).parse bytes = some (b, rest) ↔
    ∃ a, d.parse bytes = some (a, rest) ∧ g a = b := by
  change (d.bind fun a => done (g a)).parse bytes = _ ↔ _
  rw [parse_bind, Option.bind_eq_some_iff, Prod.exists]
  simp only [parse, Option.some.injEq, Prod.mk.injEq]
  constructor
  · rintro ⟨a, _, hparse, rfl, rfl⟩
    exact ⟨a, hparse, rfl⟩
  · rintro ⟨a, hparse, rfl⟩
    exact ⟨a, rest, hparse, rfl, rfl⟩

theorem completes_done (h : fields b = seen) : (pure b : Decoder β).Completes lies seen fields := by
  intro bytes c rest hparse
  obtain ⟨rfl, rfl⟩ := Prod.mk.inj (Option.some.inj hparse)
  exact ⟨[], [], by rw [h, List.append_nil], laid_nil.mpr rfl, rfl⟩

theorem Reads.completes (h : Reads lies d field) (hf : ∀ a, (f a).Completes lies (seen ++ [field a]) fields) :
    (d >>= f).Completes lies seen fields := by
  intro bytes b rest hparse
  obtain ⟨a, behind, hfirst, hsecond⟩ := (parse_bind_eq_some d f).mp hparse
  obtain ⟨part, hpart, rfl⟩ := h.takes hfirst
  obtain ⟨more, front, hfields, hlaid, rfl⟩ := hf a behind b rest hsecond
  refine ⟨field a :: more, part ++ front, ?_, laid_cons.mpr ⟨part, front, hpart, hlaid, rfl⟩, ?_⟩
  · rw [hfields, List.append_assoc, List.singleton_append]
  · rw [List.append_assoc]

theorem accepts_done : (pure b : Decoder β).Accepts lies [] b := by
  intro front rest hlaid
  rw [laid_nil.mp hlaid]
  rfl

theorem Reads.accepts (h : Reads lies d field) (hf : ∀ a', field a' = field a → (f a').Accepts lies more b) :
    (d >>= f).Accepts lies (field a :: more) b := by
  intro front rest hlaid
  obtain ⟨part, behind, hpart, hbehind, rfl⟩ := laid_cons.mp hlaid
  obtain ⟨a', hfield, hfirst⟩ := h.finds a part (behind ++ rest) hpart
  rw [List.append_assoc]
  exact (parse_bind_eq_some d f).mpr ⟨a', behind ++ rest, hfirst, hf a' hfield behind rest hbehind⟩

theorem completes_map {d : Decoder α} {g : α → β} (h : d.Completes lies seen fun a => fields (g a)) :
    (g <$> d).Completes lies seen fields := by
  intro bytes b rest hmap
  obtain ⟨a, hparse, rfl⟩ := (parse_map_eq_some d g).mp hmap
  exact h bytes a rest hparse

theorem accepts_map {d : Decoder α} {g : α → β} (h : d.Accepts lies more a) : (g <$> d).Accepts lies more (g a) :=
  fun front rest hlaid => (parse_map_eq_some d g).mpr ⟨a, h front rest hlaid, rfl⟩

end Layouts
end Decoder
end StationChat.Lib
