import Mathlib.Algebra.BigOperators.Fin
import Mathlib.Data.Multiset.DershowitzManna
import Mathlib.Data.Set.Finite.Basic
import Mathlib.Order.WellFounded

/-! Work that is only ever replaced by smaller work, however much of it, comes to
an end. The work is what a family of queues holds. -/
namespace Descent

section Load

variable {ι α μ : Type} [Fintype ι]

/-- The weights of all items in all queues. -/
def load (weight : α → Multiset μ) (queues : ι → List α) : Multiset μ :=
  ∑ i, ((queues i).map weight).sum

variable (weight : α → Multiset μ) (queues : ι → List α)

variable {weight queues} in
/-- A weight is in the load when some queue holds an item of that weight. -/
theorem mem_load {y : μ} : y ∈ load weight queues ↔ ∃ i, ∃ item ∈ queues i, y ∈ weight item := by
  have hSum : ∀ items : List α, y ∈ (items.map weight).sum ↔ ∃ item ∈ items, y ∈ weight item := by
    intro items
    induction items with
    | nil => simp
    | cons item rest ih => simp [ih]
  simp [load, Multiset.mem_sum, hSum]

theorem load_append (others : ι → List α) :
    load weight (fun i => queues i ++ others i) = load weight queues + load weight others := by
  simp [load, Finset.sum_add_distrib]

variable [DecidableEq ι] {i : ι}

/-- Changing one queue exchanges its part of the load. -/
theorem load_update (items : List α) :
    load weight (Function.update queues i items) + ((queues i).map weight).sum =
      load weight queues + (items.map weight).sum := by
  have hUpdate : (fun j => ((Function.update queues i items j).map weight).sum) =
      Function.update (fun j => ((queues j).map weight).sum) i (items.map weight).sum := by
    funext j
    exact Function.apply_update (fun _ list => (list.map weight).sum) queues i items j
  unfold load
  rw [hUpdate, Finset.sum_update_of_mem (Finset.mem_univ i), add_assoc,
    ← Finset.sum_eq_sum_sdiff_singleton_add (Finset.mem_univ i), add_comm]

/-- The head of a queue leaves the load with its weight. -/
theorem load_rest {head : α} {rest : List α} (hQueue : queues i = head :: rest) :
    load weight queues = load weight (Function.update queues i rest) + weight head := by
  have h := load_update weight queues (i := i) rest
  rw [hQueue, List.map_cons, List.sum_cons, ← add_assoc] at h
  exact (add_right_cancel h).symm

/-- An item at the end of a queue joins the load with its weight. -/
theorem load_snoc (item : α) :
    load weight (Function.update queues i (queues i ++ [item])) =
      load weight queues + weight item := by
  have h := load_update weight queues (i := i) (queues i ++ [item])
  rw [List.map_append, List.sum_append, List.map_singleton, List.sum_singleton,
    add_comm _ (weight item), ← add_assoc] at h
  exact add_right_cancel h

theorem load_clear :
    load weight queues = load weight (Function.update queues i []) +
      ((queues i).map weight).sum := by
  rw [load_update]
  simp

end Load

section Replaced

variable {μ : Type} [Preorder μ] {before after taken : Multiset μ}

/-- Something is taken away, and what comes in its place is smaller. -/
def Replaced (before after taken : Multiset μ) : Prop :=
  ∃ rest new, before = rest + taken ∧ after = rest + new ∧ ∀ y ∈ new, ∃ z ∈ taken, y < z

theorem Replaced.refl (work : Multiset μ) : Replaced work work 0 :=
  ⟨work, 0, by simp, by simp, by simp⟩

theorem Replaced.removed (rest taken : Multiset μ) : Replaced (rest + taken) rest taken :=
  ⟨rest, 0, rfl, (add_zero rest).symm, by simp⟩

/-- If something was taken, the work has become smaller. -/
theorem Replaced.lt (h : Replaced before after taken) (hTaken : taken ≠ 0) :
    after.IsDershowitzMannaLT before := by
  obtain ⟨rest, new, rfl, rfl, hSmaller⟩ := h
  exact ⟨rest, new, taken, hTaken, rfl, rfl, hSmaller⟩

theorem Replaced.eq (h : Replaced before after 0) : after = before := by
  obtain ⟨rest, new, rfl, rfl, hSmaller⟩ := h
  have hNew : new = 0 := Multiset.eq_zero_of_forall_notMem fun y hy => by
    obtain ⟨z, hz, -⟩ := hSmaller y hy
    exact Multiset.notMem_zero z hz
  rw [hNew]

/-- From some step on nothing is taken away any more. -/
theorem finite_of_replaced [WellFoundedLT μ] {work taken : ℕ → Multiset μ} {start : ℕ}
    (h : ∀ n, start ≤ n → Replaced (work n) (work (n + 1)) (taken n)) :
    {n | taken n ≠ 0}.Finite := by
  obtain ⟨-, ⟨last, hStart, rfl⟩, hLeast⟩ :=
    (Multiset.wellFounded_isDershowitzMannaLT (α := μ)).has_min (work '' Set.Ici start)
      ⟨_, start, Set.mem_Ici.mpr le_rfl, rfl⟩
  have hIdle : ∀ n, last ≤ n → work n = work last → taken n = 0 := by
    intro n hLast hWork
    by_contra hTaken
    have hLess := (h n (hStart.trans hLast)).lt hTaken
    rw [hWork] at hLess
    exact hLeast _ ⟨n + 1, hStart.trans (hLast.trans n.le_succ), rfl⟩ hLess
  have hSame : ∀ n, last ≤ n → work n = work last := by
    intro n hLast
    induction n, hLast using Nat.le_induction with
    | base => rfl
    | succ n hLast ih =>
        have hNext := h n (hStart.trans hLast)
        rw [hIdle n hLast ih] at hNext
        exact hNext.eq.trans ih
  refine (Set.finite_lt_nat last).subset fun n hTaken => ?_
  by_contra hLate
  exact hTaken (hIdle n (not_lt.mp hLate) (hSame n (not_lt.mp hLate)))

/-- Nothing is less than no work. -/
theorem not_isDershowitzMannaLT_zero (work : Multiset μ) : ¬work.IsDershowitzMannaLT 0 := by
  rintro ⟨rest, new, taken, hTaken, -, hNone, -⟩
  exact hTaken (add_eq_zero.mp hNone.symm).2

end Replaced

/-- What never rises can only fall finitely often. -/
theorem finite_of_descends {α : Type} {smaller : α → α → Prop} (hWf : WellFounded smaller)
    (value : ℕ → α) {start : ℕ}
    (h : ∀ n, start ≤ n → value (n + 1) = value n ∨ smaller (value (n + 1)) (value n)) :
    {n | start ≤ n ∧ smaller (value (n + 1)) (value n)}.Finite := by
  obtain ⟨-, ⟨last, hStart, rfl⟩, hLeast⟩ :=
    hWf.has_min (value '' Set.Ici start) ⟨_, start, Set.mem_Ici.mpr le_rfl, rfl⟩
  have hSame : ∀ n, last ≤ n → value n = value last := by
    intro n hLast
    induction n, hLast using Nat.le_induction with
    | base => rfl
    | succ n hLast ih =>
        rcases h n (hStart.trans hLast) with hNext | hNext
        · exact hNext.trans ih
        · exact absurd (ih ▸ hNext) (hLeast _ ⟨n + 1, hStart.trans (hLast.trans n.le_succ), rfl⟩)
  refine (Set.finite_lt_nat last).subset fun n hn => ?_
  by_contra hLate
  have hAfter := hn.2
  rw [hSame n (not_lt.mp hLate)] at hAfter
  exact hLeast _ ⟨n + 1, hn.1.trans n.le_succ, rfl⟩ hAfter

end Descent
