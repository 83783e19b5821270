import StationChat.Model.StreamUtils

/-! When the packet dump ends, and what it has read of the packet then. -/
namespace StationChat
open BinaryData

section Lines
variable {bd : BinaryData} {lines extra : Int16}

theorem byteAt_of_lt {k : Nat} (h : k < bd.data.length) : ∃ c, bd.byteAt k = .ok c := by
  refine ⟨bd.data[k], ?_⟩
  rw [byteAt, if_neg (by omega), Int.toNat_natCast, List.getElem?_eq_getElem h]

/-- How many bytes the line `k` shows when `n` is the last line. -/
def shown (n extra k : Nat) : Nat := if k = n then extra else 16

theorem shown_le {n r k : Nat} (hr : r < 16) : shown n r k ≤ 16 := by
  unfold shown
  split <;> omega

/-- The round `m` comes after the rounds before it. -/
theorem putCharacters_succ (i : Int16) (dump : Dump) (m : Nat) :
    (List.range (m + 1)).foldlM (bd.putCharacter lines extra i) dump =
      (List.range m).foldlM (bd.putCharacter lines extra i) dump >>= fun dump =>
        bd.putCharacter lines extra i dump m := by
  rw [List.range_succ, List.foldlM_append]
  simp only [List.foldlM_cons, List.foldlM_nil, bind_pure]

/-- A character past the end of the last line reads nothing. -/
theorem putCharacter_blank {i : Int16} {j : Nat} (dump : Dump) (hi : i = lines) (hj : extra.toInt ≤ j) :
    ∃ dump', bd.putCharacter lines extra i dump j = .ok dump' ∧ dump'.reads = dump.reads := by
  rw [putCharacter, if_pos ⟨hi, hj⟩]
  exact ⟨_, rfl, rfl⟩

theorem putCharacter_byte {i : Int16} {j k : Nat} (dump : Dump) (h : ¬(i = lines ∧ extra.toInt ≤ j))
    (hi : i.toInt = k) (hinside : 16 * k + j < bd.data.length) :
    ∃ dump', bd.putCharacter lines extra i dump j = .ok dump' ∧ dump'.reads = dump.reads ++ [16 * k + j] := by
  have hoffset : i.toInt * 16 + j = ((16 * k + j : Nat) : Int) := by
    rw [hi]
    omega
  obtain ⟨c, hc⟩ := byteAt_of_lt hinside
  rw [putCharacter, if_neg h, hoffset, hc]
  exact ⟨_, rfl, rfl⟩

/-- The loop over a line: as far as the line has bytes they are read, each in its turn. -/
theorem putCharacters_reads {i : Int16} {n r k : Nat} (hlines : lines.toInt = n) (hextra : extra.toInt = r)
    (hi : i.toInt = k) (hinside : 16 * k + shown n r k ≤ bd.data.length) {dump : Dump}
    (hreads : dump.reads = List.range (16 * k)) {m : Nat} (hm : m ≤ 16) :
    ∃ dump', (List.range m).foldlM (bd.putCharacter lines extra i) dump = .ok dump' ∧
      dump'.reads = List.range (16 * k + min m (shown n r k)) := by
  induction m with
  | zero => exact ⟨dump, rfl, by simpa using hreads⟩
  | succ m ih =>
    obtain ⟨before, hbefore, hread⟩ := ih (by omega)
    have hlast : i = lines ↔ k = n := by
      rw [← Int16.toInt_inj, hi, hlines]
      omega
    rw [putCharacters_succ, hbefore]
    by_cases hblank : i = lines ∧ extra.toInt ≤ m
    · obtain ⟨dump', hdump, hsame⟩ := putCharacter_blank before hblank.1 hblank.2
      refine ⟨dump', hdump, ?_⟩
      have hshown : shown n r k ≤ m := by
        rw [shown, if_pos (hlast.mp hblank.1)]
        omega
      rw [hsame, hread, Nat.min_eq_right hshown, Nat.min_eq_right (by omega)]
    · have hshown : m < shown n r k := by
        unfold shown
        split
        · rename_i hk
          have hj : ¬extra.toInt ≤ m := fun hj => hblank ⟨hlast.mpr hk, hj⟩
          omega
        · omega
      have hinside' : 16 * k + m < bd.data.length := by omega
      obtain ⟨dump', hdump, hmore⟩ := putCharacter_byte before hblank hi hinside'
      refine ⟨dump', hdump, ?_⟩
      rw [hmore, hread, Nat.min_eq_left (by omega), Nat.min_eq_left (by omega), ← List.range_succ]
      rfl

/-- One line. -/
theorem putLine_reads {i : Int16} {n r k : Nat} (hlines : lines.toInt = n) (hextra : extra.toInt = r) (hr : r < 16)
    (hi : i.toInt = k) (hinside : 16 * k + shown n r k ≤ bd.data.length) {dump : Dump}
    (hreads : dump.reads = List.range (16 * k)) :
    ∃ dump', bd.putLine lines extra i dump = .ok dump' ∧ dump'.reads = List.range (16 * k + shown n r k) := by
  obtain ⟨dump', hdump, hread⟩ := putCharacters_reads hlines hextra hi hinside
    (show { dump with os := ((dump.os.setw 4).putNumber (i.toInt32 * 16).toUInt32).put (literal ":   ") }.reads = _
      from hreads) (Nat.le_refl 16)
  rw [Nat.min_eq_right (shown_le hr)] at hread
  rw [putLine, hdump]
  exact ⟨_, rfl, hread⟩

/-- The lines from `k` on, as long as the counter does not come to its largest value. -/
theorem putLines_reads {i : Int16} {n r k : Nat} (hlines : lines.toInt = n) (hextra : extra.toInt = r) (hr : r < 16)
    (hn : n < 32767) (hi : i.toInt = k) (hk : k ≤ n) (hinside : 16 * n + r ≤ bd.data.length) {dump : Dump}
    (hreads : dump.reads = List.range (16 * k)) :
    ∃ dump', bd.putLines lines extra (n - k + 2) i dump = .ok dump' ∧ dump'.reads = List.range (16 * n + r) := by
  have hle : i ≤ lines := by
    rw [Int16.le_iff_toInt_le, hi, hlines]
    omega
  have hnext : (i + 1).toInt = ((k + 1 : Nat) : Int) := by
    rw [Int16.toInt_add, hi, Int16.toInt_one, Int.bmod_eq_of_le (by omega) (by omega)]
    omega
  obtain ⟨m, hm⟩ : ∃ m, n - k = m := ⟨_, rfl⟩
  induction m generalizing i k dump with
  | zero =>
    obtain rfl : k = n := by omega
    have hshown : shown k r k = r := if_pos rfl
    have hfits : 16 * k + shown k r k ≤ bd.data.length := by omega
    obtain ⟨dump', hline, hread⟩ := putLine_reads hlines hextra hr hi hfits hreads
    have hpast : ¬i + 1 ≤ lines := by
      rw [Int16.le_iff_toInt_le, hnext, hlines]
      omega
    refine ⟨dump', ?_, by rw [hread, hshown]⟩
    rw [hm, putLines, if_pos hle, hline]
    exact if_neg hpast
  | succ m ih =>
    have hshown : shown n r k = 16 := if_neg (by omega)
    have hfits : 16 * k + shown n r k ≤ bd.data.length := by omega
    obtain ⟨dump', hline, hread⟩ := putLine_reads hlines hextra hr hi hfits hreads
    have hle' : i + 1 ≤ lines := by
      rw [Int16.le_iff_toInt_le, hnext, hlines]
      omega
    have hnext' : (i + 1 + 1).toInt = ((k + 1 + 1 : Nat) : Int) := by
      rw [Int16.toInt_add, hnext, Int16.toInt_one, Int.bmod_eq_of_le (by omega) (by omega)]
      omega
    obtain ⟨dump'', hrun, hall⟩ := ih hnext (by omega) (by rw [hread, hshown]; rfl) hle' hnext' (by omega)
    refine ⟨dump'', ?_, hall⟩
    rw [show n - k + 2 = (n - (k + 1) + 2) + 1 by omega, putLines, if_pos hle, hline]
    exact hrun

/-- A counter of sixteen bits never gets past the largest value of its type. -/
theorem putLines_largest (h : lines = 32767) (fuel : Nat) (i : Int16) (dump dump' : Dump) :
    bd.putLines lines extra fuel i dump ≠ .ok dump' := by
  induction fuel generalizing i dump with
  | zero => exact nofun
  | succ fuel ih =>
    have hle : i ≤ lines := by
      rw [h, Int16.le_iff_toInt_le]
      exact i.toInt_le
    rw [putLines, if_pos hle]
    cases hline : bd.putLine lines extra i dump with
    | error fault => exact nofun
    | ok next => exact ih (i + 1) next

theorem putLines_more {fuel : Nat} {i : Int16} {dump dump' : Dump} (h : bd.putLines lines extra fuel i dump = .ok dump')
    (more : Nat) : bd.putLines lines extra (fuel + more) i dump = .ok dump' := by
  induction fuel generalizing i dump with
  | zero => exact absurd h nofun
  | succ fuel ih =>
    rw [Nat.succ_add_eq_add_succ, Nat.add_succ, putLines]
    rw [putLines] at h
    split at h
    · rename_i hle
      rw [if_pos hle]
      cases hline : bd.putLine lines extra i dump with
      | error fault =>
        rw [hline] at h
        exact absurd h nofun
      | ok next =>
        rw [hline] at h
        exact ih h
    · rename_i hle
      rw [if_neg hle, h]

/-- The loop ends in one way, however long it is given. -/
theorem putLines_unique {fuel fuel' : Nat} {i : Int16} {dump one other : Dump}
    (hone : bd.putLines lines extra fuel i dump = .ok one) (hother : bd.putLines lines extra fuel' i dump = .ok other) :
    one = other := by
  have h := putLines_more hone fuel'
  rw [Nat.add_comm, putLines_more hother fuel] at h
  exact (Except.ok.inj h).symm

theorem putLines_none {fuel : Nat} {dump dump' : Dump} (hlines : lines.toInt < 0)
    (h : bd.putLines lines extra fuel 0 dump = .ok dump') : dump' = dump := by
  cases fuel with
  | zero => exact absurd h nofun
  | succ fuel =>
    have hpast : ¬0 ≤ lines := by
      rw [Int16.le_iff_toInt_le, Int16.toInt_zero]
      omega
    rw [putLines, if_neg hpast] at h
    exact (Except.ok.inj h).symm

end Lines

section Output
variable {bd : BinaryData} {os : OStream}

/-- The operator ends, and it has read the bytes of the buffer one after another and nothing else. -/
def ShownOnce (bd : BinaryData) (os : OStream) : Prop :=
  ∃ fuel dump, bd.output fuel os = .ok dump ∧ dump.reads = List.range bd.data.length

theorem toInt_lines (h : (bd.data.length : Int) = bd.length.toInt) :
    bd.lines.toInt = Int.bmod (bd.data.length / 16 : Nat) (2 ^ 16) := by
  rw [lines, Int32.toInt_toInt16, Int32.toInt_div_of_ne_right _ _ (by decide), ← h]
  rfl

theorem toInt_extra (h : (bd.data.length : Int) = bd.length.toInt) :
    bd.extra.toInt = (bd.data.length % 16 : Nat) := by
  have hmod : (bd.length % 16).toInt = (bd.data.length % 16 : Nat) := by
    rw [Int32.toInt_mod, ← h]
    rfl
  rw [extra, Int32.toInt_toInt16, hmod, Int.bmod_eq_of_le (by omega) (by omega)]

/-- All that is read is read by the lines. -/
theorem exists_of_output {fuel : Nat} {dump : Dump} (hlength : bd.length ≠ 0) (h : bd.output fuel os = .ok dump) :
    ∃ after, bd.putLines bd.lines bd.extra fuel 0 (opened os) = .ok after ∧ after.reads = dump.reads := by
  rw [output, if_neg hlength] at h
  cases hlines : bd.putLines bd.lines bd.extra fuel 0 (opened os) with
  | error fault =>
    rw [hlines] at h
    exact absurd h nofun
  | ok after =>
    rw [hlines] at h
    obtain rfl : closed os after = dump := Except.ok.inj h
    exact ⟨after, rfl, rfl⟩

/-- As many lines as there are sixteens in the length, if their number can be counted. -/
theorem shownOnce_of_lt (hbuffer : (bd.data.length : Int) = bd.length.toInt) (hlength : bd.length ≠ 0)
    (h : bd.data.length < 524272) : ShownOnce bd os := by
  have hlines : bd.lines.toInt = (bd.data.length / 16 : Nat) := by
    rw [toInt_lines hbuffer, Int.bmod_eq_of_le (by omega) (by omega)]
  have hwhole : 16 * (bd.data.length / 16) + bd.data.length % 16 = bd.data.length := Nat.div_add_mod _ 16
  have hopened : (opened os).reads = List.range (16 * 0) := rfl
  obtain ⟨dump, hrun, hreads⟩ := putLines_reads hlines (toInt_extra hbuffer) (by omega) (by omega) Int16.toInt_zero
    (Nat.zero_le _) (Nat.le_of_eq hwhole) hopened
  rw [hwhole] at hreads
  refine ⟨bd.data.length / 16 - 0 + 2, closed os dump, ?_, hreads⟩
  rw [output, if_neg hlength, hrun]
  rfl

/-- Of a longer buffer the loop shows as many lines as sixteen bits count, or it does not end. -/
theorem not_shownOnce_of_le (hbuffer : (bd.data.length : Int) = bd.length.toInt) (h : 524272 ≤ bd.data.length) :
    ¬ShownOnce bd os := by
  rintro ⟨fuel, dump, hrun, hreads⟩
  have hlength : bd.length ≠ 0 := by
    intro hzero
    rw [hzero, Int32.toInt_zero] at hbuffer
    omega
  obtain ⟨after, hlines, hafter⟩ := exists_of_output hlength hrun
  have hcount : after.reads.length = bd.data.length := by rw [hafter, hreads, List.length_range]
  by_cases hnegative : bd.lines.toInt < 0
  · have hnone : after.reads.length = 0 := by
      rw [putLines_none hnegative hlines]
      rfl
    omega
  by_cases hlargest : bd.lines = 32767
  · exact putLines_largest hlargest fuel 0 (opened os) after hlines
  obtain ⟨n, hn⟩ := Int.eq_ofNat_of_zero_le (Int.not_lt.mp hnegative)
  have hsmall : n < 32767 := by
    have hmost := bd.lines.toInt_lt
    have hne : bd.lines.toInt ≠ 32767 := fun heq => hlargest (Int16.toInt_inj.mp heq)
    omega
  have hopened : (opened os).reads = List.range (16 * 0) := rfl
  have hinside : 16 * n + bd.data.length % 16 ≤ bd.data.length := by omega
  obtain ⟨dump', hrun', hreads'⟩ := putLines_reads hn (toInt_extra hbuffer) (by omega) hsmall Int16.toInt_zero
    (Nat.zero_le n) hinside hopened
  rw [putLines_unique hlines hrun', hreads', List.length_range] at hcount
  omega

/-- The dump shows every byte once up to the length where the last line has the largest number of sixteen bits. -/
theorem shownOnce_iff (hbuffer : (bd.data.length : Int) = bd.length.toInt) (os : OStream) :
    ShownOnce bd os ↔ bd.length < 524272 := by
  have hlt : bd.length < 524272 ↔ bd.data.length < 524272 := by
    rw [Int32.lt_iff_toInt_lt, ← hbuffer]
    exact Int.ofNat_lt
  rw [hlt]
  by_cases hlength : bd.length = 0
  · have hempty : bd.data.length = 0 := by
      rw [hlength, Int32.toInt_zero] at hbuffer
      omega
    refine iff_of_true ⟨0, ⟨os, [], []⟩, ?_, ?_⟩ (by omega)
    · rw [output, if_pos hlength]
    · rw [hempty]
      rfl
  · refine ⟨fun h => ?_, shownOnce_of_lt hbuffer hlength⟩
    by_contra hlarge
    exact not_shownOnce_of_le hbuffer (Nat.not_lt.mp hlarge) h

/-- A packet of twenty bytes. -/
theorem shownOnce_twenty : ShownOnce ⟨List.replicate 20 65, 20⟩ ⟨[], 0, 32, 0⟩ := by
  have hbuffer : ((BinaryData.mk (List.replicate 20 65) 20).data.length : Int) = (20 : Int32).toInt := rfl
  exact (shownOnce_iff hbuffer _).mpr (by decide)

/-- The shortest packet on whose dump the counter wraps around. -/
theorem not_shownOnce_largest : ¬ShownOnce ⟨List.replicate 524272 65, 524272⟩ ⟨[], 0, 32, 0⟩ := by
  rintro ⟨fuel, dump, hrun, -⟩
  obtain ⟨after, hlines, -⟩ := exists_of_output (by decide : (524272 : Int32) ≠ 0) hrun
  exact putLines_largest (by decide : (524272 / 16 : Int32).toInt16 = 32767) fuel 0 _ after hlines

end Output
end StationChat
