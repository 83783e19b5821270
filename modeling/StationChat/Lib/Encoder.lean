import Mathlib.Data.List.Forall2

/-! Encoders whose output tells values apart, whatever follows it. -/
namespace StationChat.Lib

variable {B α β : Type} {ok ok' : α → Prop} {write write' : α → List B} {same same' : α → α → Prop}

theorem flatten_nil_append (s : List B) : List.flatten [] ++ s = s := rfl

theorem flatten_cons_append (part : List B) (parts : List (List B)) (s : List B) :
    List.flatten (part :: parts) ++ s = part ++ (List.flatten parts ++ s) := by
  rw [List.flatten_cons, List.append_assoc]

/-- Encodings of two values that agree, each with something behind it, come from values that are the
same as far as `same` looks, with the same behind them. -/
def Tells (ok : α → Prop) (write : α → List B) (same : α → α → Prop) : Prop :=
  ∀ ⦃a b : α⦄, ok a → ok b → ∀ ⦃s t : List B⦄, write a ++ s = write b ++ t → same a b ∧ s = t

/-- An encoding of constant length that is injective. -/
theorem tells_fixed {n : Nat} (hlength : ∀ a, (write a).length = n)
    (hinj : ∀ a b, ok a → ok b → write a = write b → same a b) : Tells ok write same := by
  intro a b ha hb s t h
  obtain ⟨hwrite, hrest⟩ := List.append_inj h (by rw [hlength, hlength])
  exact ⟨hinj a b ha hb hwrite, hrest⟩

/-- A part ends where its separator is first seen. -/
theorem append_separator_inj {c : B} {l l' s t : List B} (hl : c ∉ l) (hl' : c ∉ l')
    (h : l ++ c :: s = l' ++ c :: t) : l = l' ∧ s = t := by
  induction l generalizing l' with
  | nil =>
    cases l' with
    | nil => exact ⟨rfl, (List.cons.inj h).2⟩
    | cons d l' => exact absurd (List.cons.inj h).1 fun heq => hl' (heq ▸ List.mem_cons_self)
  | cons d l ih =>
    cases l' with
    | nil => exact absurd (List.cons.inj h).1 fun heq => hl (heq ▸ List.mem_cons_self)
    | cons d' l' =>
      obtain ⟨hhead, htail⟩ := List.cons.inj h
      obtain ⟨hrest, hst⟩ := ih (fun hc => hl (List.mem_cons_of_mem d hc))
        (fun hc => hl' (List.mem_cons_of_mem d' hc)) htail
      exact ⟨by rw [hhead, hrest], hst⟩

theorem Tells.append_eq_iff (h : Tells ok write Eq) {a b : α} (ha : ok a) (hb : ok b) (s t : List B) :
    write a ++ s = write b ++ t ↔ a = b ∧ s = t := by
  constructor
  · exact fun heq => h ha hb heq
  · rintro ⟨rfl, rfl⟩
    rfl

/-- Two lists of one length, with no length before them. -/
theorem Tells.flatMap (h : Tells ok write same) {as bs : List α} (hlength : as.length = bs.length)
    (ha : ∀ a ∈ as, ok a) (hb : ∀ b ∈ bs, ok b) {s t : List B}
    (heq : as.flatMap write ++ s = bs.flatMap write ++ t) : List.Forall₂ same as bs ∧ s = t := by
  induction as generalizing bs with
  | nil =>
    obtain rfl := List.eq_nil_of_length_eq_zero hlength.symm
    exact ⟨.nil, heq⟩
  | cons a as ih =>
    cases bs with
    | nil => exact absurd hlength (by simp)
    | cons b bs =>
      rw [List.flatMap_cons, List.flatMap_cons, List.append_assoc, List.append_assoc] at heq
      obtain ⟨hhead, heq⟩ := h (ha a List.mem_cons_self) (hb b List.mem_cons_self) heq
      obtain ⟨htail, heq⟩ := ih (Nat.succ.inj hlength) (fun a' h' => ha a' (List.mem_cons_of_mem a h'))
        (fun b' h' => hb b' (List.mem_cons_of_mem b h')) heq
      exact ⟨.cons hhead htail, heq⟩

/-- A list behind its length, as long as lengths below `bound` are told apart. -/
theorem Tells.list {count : Nat → List B} {bound : Nat} (hcount : Tells (· < bound) count Eq)
    (h : Tells ok write same) : Tells (fun as => as.length < bound ∧ ∀ a ∈ as, ok a)
      (fun as => count as.length ++ as.flatMap write) (List.Forall₂ same) := by
  intro as bs ha hb s t heq
  rw [List.append_assoc, List.append_assoc] at heq
  obtain ⟨hlength, heq⟩ := hcount ha.1 hb.1 heq
  exact h.flatMap hlength ha.2 hb.2 heq

/-- A part that is written only if a flag is set which both values share. -/
theorem Tells.onlyIf (h : Tells ok write same) (p : Prop) [Decidable p] {a b : α} (ha : ok a) (hb : ok b)
    {s t : List B} (heq : (if p then write a else []) ++ s = (if p then write b else []) ++ t) :
    (p → same a b) ∧ s = t := by
  by_cases hp : p
  · rw [if_pos hp, if_pos hp] at heq
    obtain ⟨hsame, heq⟩ := h ha hb heq
    exact ⟨fun _ => hsame, heq⟩
  · rw [if_neg hp, if_neg hp] at heq
    exact ⟨fun hyes => absurd hyes hp, heq⟩

end StationChat.Lib
