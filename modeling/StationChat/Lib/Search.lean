import Mathlib.Data.Set.Card

/-! What a depth-first search finds: every vertex that a path leads to which avoids all vertices seen
before. -/
namespace StationChat.Lib

variable {V : Type} {edge : V → V → Prop} {seen starts more : Set V} {u v w : V}

/-- A path from `v` to `w` outside `seen`. -/
inductive Avoiding (edge : V → V → Prop) (seen : Set V) : V → V → Prop
  | refl {v : V} (h : v ∉ seen) : Avoiding edge seen v v
  | head {v u w : V} (h : v ∉ seen) (hedge : edge v u) (hrest : Avoiding edge seen u w) :
      Avoiding edge seen v w

/-- The vertices a search from `starts` adds to `seen`. -/
def reached (edge : V → V → Prop) (seen starts : Set V) : Set V :=
  {w | ∃ v ∈ starts, Avoiding edge seen v w}

namespace Avoiding

theorem start (h : Avoiding edge seen v w) : v ∉ seen := by
  cases h with
  | refl h => exact h
  | head h => exact h

theorem stop (h : Avoiding edge seen v w) : w ∉ seen := by
  induction h with
  | refl h => exact h
  | head _ _ _ ih => exact ih

theorem anti (h : Avoiding edge (seen ∪ more) v w) : Avoiding edge seen v w := by
  induction h with
  | refl h => exact .refl fun hv => h (.inl hv)
  | head h hedge _ ih => exact .head (fun hv => h (.inl hv)) hedge ih

/-- A path either avoids a set of vertices too, or what follows its first vertex in the set is a path. -/
theorem split (h : Avoiding edge seen v w) (more : Set V) :
    Avoiding edge (seen ∪ more) v w ∨ ∃ u ∈ more, Avoiding edge seen u w := by
  induction h with
  | @refl v hv =>
    by_cases hm : v ∈ more
    · exact .inr ⟨v, hm, .refl hv⟩
    · exact .inl (.refl fun h => h.elim hv hm)
  | @head v u w hv hedge hrest ih =>
    rcases ih with ih | ih
    · by_cases hm : v ∈ more
      · exact .inr ⟨v, hm, .head hv hedge hrest⟩
      · exact .inl (.head (fun h => h.elim hv hm) hedge ih)
    · exact .inr ih

theorem trans (h : Avoiding edge seen u v) (h' : Avoiding edge seen v w) : Avoiding edge seen u w := by
  induction h with
  | refl _ => exact h'
  | head hu hedge _ ih => exact .head hu hedge (ih h')

theorem ends (h : Avoiding edge seen v w) : w = v ∨ ∃ u, edge u w := by
  induction h with
  | refl _ => exact .inl rfl
  | @head v u w _ hedge _ ih =>
    rcases ih with rfl | hw
    · exact .inr ⟨v, hedge⟩
    · exact .inr hw

/-- A path from another vertex either avoids `v` too, or has a part behind its last visit of `v`. -/
theorem lastVisit (h : Avoiding edge seen u w) (v : V) : Avoiding edge (insert v seen) u w ∨ w = v ∨
    ∃ x, edge v x ∧ Avoiding edge (insert v seen) x w := by
  induction h with
  | @refl u hu =>
    by_cases huv : u = v
    · exact .inr (.inl huv)
    · exact .inl (.refl fun hin => hin.elim huv hu)
  | @head u x w hu hedge _ ih =>
    rcases ih with hx | hx
    · by_cases huv : u = v
      · exact .inr (.inr ⟨x, huv ▸ hedge, hx⟩)
      · exact .inl (.head (fun hin => hin.elim huv hu) hedge hx)
    · exact .inr hx

end Avoiding

section Reached

theorem reached_empty : reached edge seen ∅ = ∅ := by
  ext w
  simp [reached]

theorem reached_subset : reached edge seen starts ⊆ starts ∪ {w | ∃ v, edge v w} := by
  rintro w ⟨v, hv, hpath⟩
  rcases hpath.ends with rfl | hedge
  · exact .inl hv
  · exact .inr hedge

theorem not_seen_of_reached (h : w ∈ reached edge seen starts) : w ∉ seen := by
  obtain ⟨v, _, hpath⟩ := h
  exact hpath.stop

/-- A vertex seen before is not searched again. -/
theorem reached_seen (h : v ∈ seen) : reached edge seen {v} = ∅ := by
  rw [Set.eq_empty_iff_forall_notMem]
  rintro w ⟨_, rfl, hpath⟩
  exact hpath.start h

/-- Searching from some vertices and then, with what that found, from others. -/
theorem reached_union (starts starts' : Set V) : reached edge seen (starts ∪ starts') =
    reached edge seen starts ∪ reached edge (seen ∪ reached edge seen starts) starts' := by
  ext w
  constructor
  · rintro ⟨v, hv | hv, hpath⟩
    · exact .inl ⟨v, hv, hpath⟩
    · rcases hpath.split (reached edge seen starts) with hpath | ⟨u, ⟨v', hv', hpath'⟩, hrest⟩
      · exact .inr ⟨v, hv, hpath⟩
      · exact .inl ⟨v', hv', hpath'.trans hrest⟩
  · rintro (⟨v, hv, hpath⟩ | ⟨v, hv, hpath⟩)
    · exact ⟨v, .inl hv, hpath⟩
    · exact ⟨v, .inr hv, hpath.anti⟩

/-- The two searches find different vertices. -/
theorem ncard_reached_union {starts' : Set V} (h : (reached edge seen (starts ∪ starts')).Finite) :
    (reached edge seen (starts ∪ starts')).ncard = (reached edge seen starts).ncard +
      (reached edge (seen ∪ reached edge seen starts) starts').ncard := by
  rw [reached_union] at h ⊢
  have hdisjoint : Disjoint (reached edge seen starts)
      (reached edge (seen ∪ reached edge seen starts) starts') :=
    Set.disjoint_right.mpr fun _ hw hfirst => not_seen_of_reached hw (Set.mem_union_right _ hfirst)
  exact Set.ncard_union_eq hdisjoint (h.subset Set.subset_union_left) (h.subset Set.subset_union_right)

/-- Searching from a new vertex: the vertex is seen, then its neighbours are searched. -/
theorem reached_vertex (h : v ∉ seen) : reached edge seen {v} =
    insert v (reached edge (insert v seen) {u | edge v u}) := by
  ext w
  constructor
  · rintro ⟨x, hx, hpath⟩
    rw [Set.mem_singleton_iff.mp hx] at hpath
    rcases hpath.lastVisit v with hrest | hw | ⟨y, hedge, hrest⟩
    · exact absurd (Set.mem_insert v seen) hrest.start
    · exact .inl hw
    · exact .inr ⟨y, hedge, hrest⟩
  · rintro (rfl | ⟨u, hedge, hpath⟩)
    · exact ⟨_, rfl, .refl h⟩
    · rw [Set.insert_eq, Set.union_comm] at hpath
      exact ⟨_, rfl, .head h hedge hpath.anti⟩

theorem ncard_reached_vertex (h : v ∉ seen)
    (hfin : (reached edge (insert v seen) {u | edge v u}).Finite) : (reached edge seen {v}).ncard =
      (reached edge (insert v seen) {u | edge v u}).ncard + 1 := by
  rw [reached_vertex h]
  exact Set.ncard_insert_of_notMem
    (fun hv => not_seen_of_reached hv (Set.mem_insert v seen)) hfin

end Reached
end StationChat.Lib
