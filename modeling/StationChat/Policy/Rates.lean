import StationChat.Lib.Encoder
import StationChat.Lib.Isolation
import StationChat.Model.PolicyEngine
import Mathlib.Data.List.Induction
import Mathlib.Data.List.TakeWhile

/-! The rate counts of the policy engine: a queue for each actor, address and action, and what is in it. -/
namespace StationChat.Policy
open Lib

section Separate

/-- What a rate is counted for. -/
def Event.triple (event : Event) : UInt32 × StdString × ActionType :=
  (event.actorId, event.actorAddress, event.action)

theorem ActionType.code_injective : Function.Injective ActionType.code := by
  intro a b h
  cases a <;> cases b <;> first | rfl | exact absurd h (by decide)

theorem ActionType.length_code (a : ActionType) : (toStdString a.code).length = 1 := by
  cases a <;> decide

theorem separator_not_mem_toStdString (n : Nat) : (0x7C : UInt8) ∉ toStdString n := by
  intro h
  exact absurd (digit_of_mem_toStdString h) (by decide)

/-- The text of a key can be read back, whatever the address contains: the id has no separator, and the action
is the last character. -/
theorem buildRateKey_eq_iff (event event' : Event) :
    buildRateKey event = buildRateKey event' ↔ event.triple = event'.triple := by
  constructor
  · intro h
    obtain ⟨hfront, haction⟩ := List.append_inj' h (by simp [ActionType.length_code])
    obtain ⟨hid, haddress⟩ := append_separator_inj (separator_not_mem_toStdString event.actorId.toNat)
      (separator_not_mem_toStdString event'.actorId.toNat) hfront
    have hcode := ActionType.code_injective (toStdString_injective (List.cons.inj haction).2)
    rw [Event.triple, Event.triple, UInt32.toNat_inj.mp (toStdString_injective hid), haddress, hcode]
  · intro h
    obtain ⟨hid, haddress, haction⟩ := by simpa only [Event.triple, Prod.mk.injEq] using h
    rw [buildRateKey, buildRateKey, hid, haddress, haction]

/-- The engine as a service whose parts are the queues. A call is an event and the clock reading at it. -/
def engine (config : Config) : Service RecentActions StdString (Event × Nat) Decision (List Nat) Unit where
  step recent call := evaluate config recent call.1 call.2
  owner call := buildRateKey call.1
  part key recent := recent key
  input _ _ := ()
  alone queue call _ :=
    let result := evaluate config (fun _ => queue) call.1 call.2
    (result.1, result.2 (buildRateKey call.1))

theorem calculateRiskScore_recent (recent : RecentActions) (event : Event) (now : Nat) :
    (calculateRiskScore recent event now).2 = (getRecentActionCount recent event now).2 := rfl

theorem evaluate_recent (config : Config) (recent : RecentActions) (event : Event) (now : Nat) :
    (evaluate config recent event now).2 =
      if config.policyEnabled then (getRecentActionCount recent event now).2 else recent := by
  unfold evaluate
  cases config.policyEnabled with
  | false => rfl
  | true =>
    rw [← calculateRiskScore_recent]
    generalize calculateRiskScore recent event now = scored
    simp only [Bool.not_true, Bool.false_eq_true, if_false, if_true, apply_ite Prod.snd, ite_self]

/-- A decision depends on the queue of the event's key alone. -/
theorem evaluate_decision (config : Config) {recent recent' : RecentActions} {event : Event}
    (h : recent (buildRateKey event) = recent' (buildRateKey event)) (now : Nat) :
    (evaluate config recent event now).1 = (evaluate config recent' event now).1 := by
  have hcount : (getRecentActionCount recent event now).1 = (getRecentActionCount recent' event now).1 := by
    rw [getRecentActionCount, getRecentActionCount, h]
  have hscore : (calculateRiskScore recent event now).1 = (calculateRiskScore recent' event now).1 := by
    unfold calculateRiskScore
    simp only [hcount]
  unfold evaluate
  simp only [apply_ite Prod.fst, hscore]

theorem engine_isolated (config : Config) : (engine config).Isolated where
  answer recent call := by
    change (evaluate config recent call.1 call.2).1 =
      (evaluate config (fun _ => recent (buildRateKey call.1)) call.1 call.2).1
    apply evaluate_decision
    rfl
  part recent call := by
    change (evaluate config recent call.1 call.2).2 (buildRateKey call.1) =
      (evaluate config (fun _ => recent (buildRateKey call.1)) call.1 call.2).2 (buildRateKey call.1)
    rw [evaluate_recent, evaluate_recent]
    cases config.policyEnabled with
    | false => rfl
    | true => simp [getRecentActionCount]
  frame recent call key hkey := by
    change (evaluate config recent call.1 call.2).2 key = recent key
    rw [evaluate_recent]
    cases config.policyEnabled with
    | false => rfl
    | true => exact Function.update_of_ne hkey _ _

theorem calls_engine (config : Config) (key : StdString) (recent : RecentActions) (h : List (Event × Nat)) :
    (engine config).calls key recent h =
      (h.filter fun call => buildRateKey call.1 = key).map fun call => (call, ()) := by
  induction h generalizing recent with
  | nil => rfl
  | cons call rest ih =>
    rw [Service.calls, ih]
    by_cases hkey : buildRateKey call.1 = key
    · have howner : (engine config).owner call = key := hkey
      rw [if_pos howner, List.filter_cons_of_pos (by simpa using hkey)]
      rfl
    · have howner : ¬ (engine config).owner call = key := hkey
      rw [if_neg howner, List.filter_cons_of_neg (by simpa using hkey)]

/-- `recentActions_` after a history. -/
def recorded (config : Config) (h : List (Event × Nat)) : RecentActions := (engine config).run (fun _ => []) h

/-- Two histories with the same events of one actor, address and action, at the same times, judge the next event
of these alike, whatever else they contain. -/
theorem rate_counts_separate (config : Config) {h h' : List (Event × Nat)} {event : Event}
    (hsame : h.filter (fun call => call.1.triple = event.triple) =
      h'.filter fun call => call.1.triple = event.triple) (now : Nat) :
    (evaluate config (recorded config h) event now).1 = (evaluate config (recorded config h') event now).1 := by
  have hcalls : (engine config).calls (buildRateKey event) (fun _ => []) h =
      (engine config).calls (buildRateKey event) (fun _ => []) h' := by
    simp only [calls_engine, buildRateKey_eq_iff, hsame]
  have hqueue := ((engine_isolated config).noninterference rfl hcalls).2
  exact evaluate_decision config hqueue now

/-- A message of an actor at an address. -/
def messageFrom (actorId : UInt32) (actorAddress : StdString) : Event where
  action := .messageSend
  actorId
  actorAddress
  target := []
  payloadSize := 0
  actorExists := true
  targetExists := true

/-- Between two messages of an actor, one whose address continues the other's with a separator. -/
theorem rate_counts_separate_two :
    (evaluate { policyEnabled := true } (recorded { policyEnabled := true }
      [(messageFrom 1 [0x61], 0), (messageFrom 1 [0x61, 0x7C, 0x32], 5)]) (messageFrom 1 [0x61]) 7).1 =
    (evaluate { policyEnabled := true } (recorded { policyEnabled := true }
      [(messageFrom 1 [0x61], 0)]) (messageFrom 1 [0x61]) 7).1 :=
  rate_counts_separate _ (by decide) 7

end Separate

section Window

/-- `duration_cast` truncates the age to whole seconds. -/
def old (now t : Nat) : Bool := rateWindowSeconds < (now - t) / ticksPerSecond

/-- The clock readings of one rate key. -/
def readings (key : StdString) (h : List (Event × Nat)) : List Nat :=
  (h.filter fun call => buildRateKey call.1 = key).map (·.2)

/-- `recentActions_` once the events of a history are counted. -/
def counted (h : List (Event × Nat)) : RecentActions :=
  h.foldl (fun recent call => (getRecentActionCount recent call.1 call.2).2) fun _ => []

/-- The events no more than `RATE_WINDOW_SECONDS` before `now`. -/
def withinWindow (now : Nat) (times : List Nat) : Nat :=
  times.countP fun t => now - t ≤ rateWindowSeconds * ticksPerSecond

/-- The events before the window, but by less than a second. -/
def lingering (now : Nat) (times : List Nat) : Nat :=
  times.countP fun t => rateWindowSeconds * ticksPerSecond < now - t ∧ now - t < (rateWindowSeconds + 1) * ticksPerSecond

theorem dropOld_eq (now : Nat) (queue : List Nat) : dropOld now queue = queue.dropWhile (old now) := by
  induction queue with
  | nil => rfl
  | cons t queue ih =>
    rw [dropOld, List.dropWhile_cons, ih, old]
    by_cases h : rateWindowSeconds < (now - t) / ticksPerSecond
    · rw [if_pos h, if_pos (decide_eq_true h)]
    · rw [if_neg h, if_neg (by simpa using h)]

theorem old_iff (now t : Nat) : old now t = true ↔ 11000000000 ≤ now - t := by
  rw [old, decide_eq_true_eq, rateWindowSeconds, ticksPerSecond]
  omega

theorem old_mono {now now' t t' : Nat} (h : old now t = true) (hnow : now ≤ now') (ht : t' ≤ t) :
    old now' t' = true := by
  rw [old_iff] at h ⊢
  omega

theorem length_dropWhile_old {now : Nat} {times : List Nat} (h : times.Pairwise (· ≤ ·)) :
    (times.dropWhile (old now)).length = times.countP fun t => !old now t := by
  induction times with
  | nil => rfl
  | cons t times ih =>
    obtain ⟨hfirst, hrest⟩ := List.pairwise_cons.mp h
    cases ht : old now t with
    | true => rw [List.dropWhile_cons_of_pos ht, ih hrest, List.countP_cons_of_neg (by simp [ht])]
    | false =>
      -- the readings after a young one are young
      have hyoung : ∀ u ∈ t :: times, (!old now u) = true := by
        intro u hu
        rw [Bool.not_eq_true']
        by_contra hold
        have htu : t ≤ u := by
          rcases List.mem_cons.mp hu with rfl | hu
          · exact Nat.le_refl _
          · exact hfirst u hu
        have := old_mono (eq_true_of_ne_false hold) (Nat.le_refl now) htu
        exact absurd (this.symm.trans ht) (by decide)
      rw [List.dropWhile_cons_of_neg (by simp [ht]), List.countP_eq_length.mpr hyoung]

theorem countP_young (now : Nat) (times : List Nat) :
    (times.countP fun t => !old now t) = withinWindow now times + lingering now times := by
  induction times with
  | nil => rfl
  | cons t times ih =>
    have hyoung : (!old now t) = true ↔ now - t < 11000000000 := by
      rw [Bool.not_eq_true', Bool.eq_false_iff, ne_eq, old_iff]
      omega
    have hwindow : rateWindowSeconds * ticksPerSecond = 10000000000 := rfl
    have hbehind : (rateWindowSeconds + 1) * ticksPerSecond = 11000000000 := rfl
    simp only [withinWindow, lingering, hwindow, hbehind] at ih ⊢
    simp only [List.countP_cons, ih, hyoung, decide_eq_true_eq]
    split <;> split <;> split <;> omega

theorem counted_append (h : List (Event × Nat)) (event : Event) (now : Nat) :
    counted (h ++ [(event, now)]) = Function.update (counted h) (buildRateKey event)
      ((counted h (buildRateKey event) ++ [now]).dropWhile (old now)) := by
  rw [← dropOld_eq, counted, List.foldl_append]
  rfl

theorem readings_append (key : StdString) (h : List (Event × Nat)) (event : Event) (now : Nat) :
    readings key (h ++ [(event, now)]) = readings key h ++ if buildRateKey event = key then [now] else [] := by
  rw [readings, List.filter_append, List.map_append]
  by_cases hkey : buildRateKey event = key
  · rw [if_pos hkey, List.filter_cons_of_pos (by simpa using hkey)]
    rfl
  · rw [if_neg hkey, List.filter_cons_of_neg (by simpa using hkey)]
    rfl

/-- The queue is what is left of the readings when the front was dropped, which nobody asks for again: what was old
once stays old. -/
theorem counted_suffix (key : StdString) (h : List (Event × Nat)) :
    ∃ dropped, readings key h = dropped ++ counted h key ∧
      ∀ t ∈ dropped, ∀ now, (∀ call ∈ h, call.2 ≤ now) → old now t = true := by
  induction h using List.reverseRecOn with
  | nil => exact ⟨[], rfl, by simp⟩
  | append_singleton h call ih =>
    obtain ⟨event, time⟩ := call
    obtain ⟨dropped, hreadings, hdropped⟩ := ih
    rw [readings_append, counted_append]
    by_cases hkey : buildRateKey event = key
    · subst hkey
      rw [if_pos rfl, Function.update_self]
      refine ⟨dropped ++ (counted h (buildRateKey event) ++ [time]).takeWhile (old time), ?_, ?_⟩
      · rw [List.append_assoc, List.takeWhile_append_dropWhile, hreadings, List.append_assoc]
      · intro t ht now hnow
        rcases List.mem_append.mp ht with ht | ht
        · exact hdropped t ht now fun call hcall => hnow call (List.mem_append_left _ hcall)
        · have hold : old time t = true := List.mem_takeWhile_imp ht
          exact old_mono hold (hnow (event, time) (by simp)) (Nat.le_refl t)
    · rw [if_neg hkey, Function.update_of_ne (Ne.symm hkey), List.append_nil]
      exact ⟨dropped, hreadings, fun t ht now hnow =>
        hdropped t ht now fun call hcall => hnow call (List.mem_append_left _ hcall)⟩

/-- An `int` holds the first of two counts, when it is given their sum, exactly if it does not notice the second. -/
theorem toInt_ofNat_add (a b : Nat) : (Int32.ofNat (a + b)).toInt = a ↔ a < 2 ^ 31 ∧ 2 ^ 32 ∣ b := by
  rw [Int32.toInt_ofNat', Int.bmod_def, Int32.size]
  omega

/-- With a clock that does not run backwards, the count for an event is the number of events of its key within the
window exactly if no event lingers behind it (or, as the count is an `int`, a multiple of `2 ^ 32` of them). -/
theorem rate_window_iff {h : List (Event × Nat)} {event : Event} {now : Nat}
    (hclock : (h.map (·.2) ++ [now]).Pairwise (· ≤ ·)) :
    let times := readings (buildRateKey event) h ++ [now]
    (getRecentActionCount (counted h) event now).1 = withinWindow now times ↔
      withinWindow now times < 2 ^ 31 ∧ 2 ^ 32 ∣ lingering now times := by
  intro times
  obtain ⟨dropped, hreadings, hdropped⟩ := counted_suffix (buildRateKey event) h
  have hpast : ∀ call ∈ h, call.2 ≤ now := by
    intro call hcall
    exact (List.pairwise_append.mp hclock).2.2 _ (List.mem_map_of_mem hcall) now (List.mem_singleton_self now)
  have hsorted : times.Pairwise (· ≤ ·) :=
    hclock.sublist ((List.filter_sublist.map _).append (List.Sublist.refl _))
  have hqueue : times.dropWhile (old now) = (counted h (buildRateKey event) ++ [now]).dropWhile (old now) := by
    change (readings (buildRateKey event) h ++ [now]).dropWhile (old now) = _
    rw [hreadings, List.append_assoc, List.dropWhile_append_of_pos fun t ht => hdropped t ht now hpast]
  rw [← toInt_ofNat_add, ← countP_young, ← length_dropWhile_old hsorted, hqueue, ← dropOld_eq]
  rfl

/-- The first of three messages is ten seconds old. -/
theorem rate_window_iff_three :
    (getRecentActionCount (counted [(messageFrom 1 [0x61], 0), (messageFrom 1 [0x61], 9000000000)])
      (messageFrom 1 [0x61]) 10000000000).1 = withinWindow 10000000000 [0, 9000000000, 10000000000] :=
  (rate_window_iff (by decide)).mpr ⟨by decide, by decide⟩

/-- A message is still counted half a second after it left the window. -/
theorem rate_window_outlasted :
    [0, 10500000000].Pairwise (· ≤ ·) ∧
      (getRecentActionCount (counted [(messageFrom 1 [0x61], 0)]) (messageFrom 1 [0x61]) 10500000000).1 = 2 ∧
      withinWindow 10500000000 (readings (buildRateKey (messageFrom 1 [0x61])) [(messageFrom 1 [0x61], 0)] ++
        [10500000000]) = 1 := by
  decide +kernel

end Window
end StationChat.Policy
