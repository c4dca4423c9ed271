import Shipshape.Proofs.Lexical.Expr
import Shipshape.Proofs.Nesting.Tree

/-!
# Room below the limit

How deep a check may still go, and that this is all that depth does to an expression.

* `Shipshape.State.HasRoom` – none of the nodes of an expression would pass the limit;
* `Shipshape.Check.Nests.placed` – a computation that succeeds at one depth succeeds at another
  one with the same value, if there is room for its nodes there.
-/

namespace Shipshape

/-! ### Nodes below a node -/

/-- Nodes below a node have room one level deeper than the node has. -/
theorem Site.forall_under_iff {span : Span} {sites : List Site} {depth limit : Nat} :
    (∀ n ∈ under span sites, depth + n.depth ≤ limit) ↔
      depth < limit ∧ ∀ n ∈ sites, depth + 1 + n.depth ≤ limit := by
  rw [under, List.forall_mem_cons, List.forall_mem_map]
  refine and_congr Iff.rfl (forall₂_congr fun n _ => ?_)
  rw [below, ← Nat.add_assoc, Nat.add_right_comm]

theorem Expr.sites_subset_exprsSites {e : Expr} {es : List Expr} (he : e ∈ es) :
    e.sites ⊆ exprsSites es := by
  induction es with
  | nil => cases he
  | cons d es ih =>
    rw [exprsSites]
    rcases List.mem_cons.mp he with rfl | he
    · exact List.subset_append_left ..
    · exact List.Subset.trans (ih he) (List.subset_append_right ..)

theorem Expr.sites_subset_entriesSites {p : Expr × Expr} {items : List (Expr × Expr)}
    (hp : p ∈ items) : p.1.sites ⊆ entriesSites items ∧ p.2.sites ⊆ entriesSites items := by
  induction items with
  | nil => cases hp
  | cons q items ih =>
    obtain ⟨k, v⟩ := q
    rw [entriesSites, ← List.append_assoc]
    rcases List.mem_cons.mp hp with rfl | hp
    · refine ⟨?_, ?_⟩
      · exact List.subset_append_of_subset_left _ (List.subset_append_left ..)
      · exact List.subset_append_of_subset_left _ (List.subset_append_right ..)
    · obtain ⟨hk, hv⟩ := ih hp
      exact ⟨List.subset_append_of_subset_right _ hk, List.subset_append_of_subset_right _ hv⟩

/-! ### Computations at another depth -/

namespace Check

variable {α : Type}

theorem nested_eq_ok_iff {span : Span} {m : Check α} {s t : State} {a : α} :
    nested span m s = .ok a t ↔ s.depth < s.limit ∧ ∃ u, m s.deeper = .ok a u ∧
      t = { u with depth := u.depth - 1 } := by
  rw [nested]
  by_cases hlt : s.depth < s.limit
  · rw [if_pos hlt]
    cases hm : m { s with depth := s.depth + 1 } with
    | ok b u =>
      constructor
      · rintro ⟨⟩
        exact ⟨hlt, u, hm, rfl⟩
      · rintro ⟨-, v, hv, rfl⟩
        obtain ⟨rfl, rfl⟩ := EStateM.Result.ok.inj (hm.symm.trans hv)
        rfl
    | error failure u =>
      constructor
      · rintro ⟨⟩
      · rintro ⟨-, v, hv, -⟩
        cases hm.symm.trans hv
  · rw [if_neg hlt]
    simp [hlt]

/-- **A computation that nests does the same at another depth**, as long as there is room
for its nodes there. -/
theorem Nests.placed {sites : List Site} {m : Check α} (h : Nests sites m) {s t : State} {a : α}
    (hrun : m s = .ok a t) {depth limit : Nat} (hroom : ∀ n ∈ sites, depth + n.depth ≤ limit) :
    m (s.placed depth limit) = .ok a (t.placed depth limit) := by
  induction h generalizing s t depth with
  | op hblind => rw [hblind.place, hrun, onState]
  | @bind α β sites more m f _ _ ihm ihf =>
    obtain ⟨hfirst, hsecond⟩ := List.forall_mem_append.mp hroom
    simp only [Bind.bind, EStateM.bind] at hrun ⊢
    cases hm : m s with
    | error failure u => simp [hm] at hrun
    | ok b u =>
      simp only [hm] at hrun
      rw [ihm hm hfirst]
      exact ihf b hrun hsecond
  | nested span _ ih =>
    obtain ⟨hlt, hbelow⟩ := Site.forall_under_iff.mp hroom
    obtain ⟨-, u, hinner, rfl⟩ := nested_eq_ok_iff.mp hrun
    exact nested_eq_ok_iff.mpr ⟨hlt, _, ih hinner hbelow, rfl⟩

end Check

/-! ### Room -/

namespace State

variable {s : State} {span : Span}

/-- There is room for the expression: none of its nodes would pass the limit. -/
def HasRoom (s : State) (e : Expr) : Prop := ∀ n ∈ e.sites, s.depth + n.depth ≤ s.limit

instance (s : State) (e : Expr) : Decidable (s.HasRoom e) :=
  inferInstanceAs (Decidable (∀ n ∈ e.sites, s.depth + n.depth ≤ s.limit))

/-- The elements of an array that there is room for have room one level deeper. -/
theorem HasRoom.array {es : List Expr} (h : s.HasRoom (.array es span)) :
    s.depth < s.limit ∧ ∀ e ∈ es, s.deeper.HasRoom e := by
  rw [HasRoom, Expr.sites, Site.forall_under_iff] at h
  obtain ⟨hlt, hbelow⟩ := h
  exact ⟨hlt, fun e he n hn => hbelow n (Expr.sites_subset_exprsSites he hn)⟩

/-- So do the keys and the values of a map. -/
theorem HasRoom.map {items : List (Expr × Expr)} (h : s.HasRoom (.map items span)) :
    s.depth < s.limit ∧ ∀ p ∈ items, s.deeper.HasRoom p.1 ∧ s.deeper.HasRoom p.2 := by
  rw [HasRoom, Expr.sites, Site.forall_under_iff] at h
  obtain ⟨hlt, hbelow⟩ := h
  refine ⟨hlt, fun p hp => ?_⟩
  obtain ⟨hk, hv⟩ := Expr.sites_subset_entriesSites hp
  exact ⟨fun n hn => hbelow n (hk hn), fun n hn => hbelow n (hv hn)⟩

end State

end Shipshape
