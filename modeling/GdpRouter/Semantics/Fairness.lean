import GdpRouter.Semantics.Run
import Mathlib.Data.List.Infix
import Mathlib.Data.Nat.Init
import Mathlib.Tactic.ByContra

/-! Endless runs in which no task is passed over for ever. Whatever a queue holds comes out
of it in the end, in its order, and so it does out of queues one behind the other. -/
namespace Transition

variable {S L O α β : Type*}

/-- What has come out of the first so many steps. -/
def history (outs : ℕ → List α) (n : ℕ) : List α := (List.range n).flatMap outs

section History

variable (outs : ℕ → List α)

@[simp] theorem history_zero : history outs 0 = [] := rfl

theorem history_succ (n : ℕ) : history outs (n + 1) = history outs n ++ outs n := by
  simp [history, List.range_succ]

theorem history_flatMap (f : α → List β) (n : ℕ) :
    (history outs n).flatMap f = history (fun n => (outs n).flatMap f) n :=
  List.flatMap_assoc ..

/-- Nothing is taken out of a history. -/
theorem history_grows {n m : ℕ} (h : n ≤ m) : history outs n <+: history outs m := by
  induction m, h using Nat.le_induction with
  | base => exact List.prefix_refl _
  | succ m _ ih =>
      rw [history_succ]
      exact ih.trans (List.prefix_append _ _)

theorem Run.of_history {step : Step S L O} {states : ℕ → S} {chosen : ℕ → L} {outs : ℕ → List O}
    (hSteps : ∀ n, step (states n) (chosen n) (states (n + 1)) (outs n)) (n : ℕ) :
    Run step (states 0) ((List.range n).map chosen) (states n) (history outs n) :=
  .of_endless hSteps n

/-- What holds of the labels of a run, and of the one that it idles with. -/
theorem forall_chosen {labels : List L} {chosen : ℕ → L} {idle : L}
    (hLabels : (List.range labels.length).map chosen = labels)
    (hLate : ∀ n, labels.length ≤ n → chosen n = idle) {p : L → Prop}
    (hEach : ∀ label ∈ labels, p label) (hIdle : p idle) (n : ℕ) : p (chosen n) := by
  rcases Nat.lt_or_ge n labels.length with hEarly | hn
  · have hMem : chosen n ∈ (List.range labels.length).map chosen :=
      List.mem_map_of_mem (List.mem_range.mpr hEarly)
    rw [hLabels] at hMem
    exact hEach _ hMem
  · rw [hLate n hn]
    exact hIdle

end History

/-- Whatever has been given by some time comes out later, before anything else. -/
def Follows (given taken : ℕ → List α) : Prop := ∀ n, ∃ m, n ≤ m ∧ given n <+: taken m

section Follows

variable {given between taken : ℕ → List α}

/-- A chain of queues, each of which is emptied in the end, is emptied in the end. -/
theorem Follows.trans (h : Follows given between) (h' : Follows between taken) :
    Follows given taken := by
  intro n
  obtain ⟨m, hm, hFirst⟩ := h n
  obtain ⟨k, hk, hSecond⟩ := h' m
  exact ⟨k, Nat.le_trans hm hk, hFirst.trans hSecond⟩

theorem Follows.congr {given' taken' : ℕ → List α} (h : Follows given taken)
    (hGiven : ∀ n, given' n = given n) (hTaken : ∀ n, taken' n = taken n) :
    Follows given' taken' := by
  rw [funext hGiven, funext hTaken]
  exact h

/-- What is read off the items follows as the items do. -/
theorem Follows.flatMap (h : Follows given taken) (f : α → List β) :
    Follows (fun n => (given n).flatMap f) fun n => (taken n).flatMap f := by
  intro n
  obtain ⟨m, hm, hPrefix⟩ := h n
  exact ⟨m, hm, hPrefix.flatMap f⟩

/-- Some of the items follow as all do. -/
theorem Follows.filter (h : Follows given taken) (p : α → Bool) :
    Follows (fun n => (given n).filter p) fun n => (taken n).filter p := by
  intro n
  obtain ⟨m, hm, hPrefix⟩ := h n
  exact ⟨m, hm, hPrefix.filter p⟩

/-- A queue, with what leaves it at each step. If it is served again and again while it
holds something, all that it holds comes out. -/
theorem Follows.of_queue {held leaving : ℕ → List α}
    (hStep : ∀ n, held n <+: leaving n ++ held (n + 1))
    (hServed : ∀ n, held n ≠ [] → ∃ m, n ≤ m ∧ leaving m ≠ []) :
    Follows (fun n => history leaving n ++ held n) (history leaving) := by
  have hGrows : ∀ n m, n ≤ m → history leaving n ++ held n <+: history leaving m ++ held m := by
    intro n m hm
    induction m, hm using Nat.le_induction with
    | base => exact List.prefix_refl _
    | succ m _ ih =>
        rw [history_succ, List.append_assoc]
        exact ih.trans ((List.prefix_append_right_inj _).mpr (hStep m))
  -- As long as not all of it is out, something is held, and more comes out.
  have hCount : ∀ n count, ∃ m, n ≤ m ∧
      (history leaving n ++ held n <+: history leaving m ∨ count ≤ (history leaving m).length) := by
    intro n count
    induction count with
    | zero => exact ⟨n, Nat.le_refl n, .inr (Nat.zero_le _)⟩
    | succ count ih =>
        obtain ⟨m, hm, hOut | hLong⟩ := ih
        · exact ⟨m, hm, .inl hOut⟩
        · by_cases hHeld : held m = []
          · refine ⟨m, hm, .inl ?_⟩
            simpa [hHeld] using hGrows n m hm
          · obtain ⟨k, hk, hLeaving⟩ := hServed m hHeld
            have hLater := (history_grows leaving hk).length_le
            have hSome := List.length_pos_of_ne_nil hLeaving
            refine ⟨k + 1, by omega, .inr ?_⟩
            rw [history_succ, List.length_append]
            omega
  intro n
  obtain ⟨m, hm, hOut | hLong⟩ := hCount n (history leaving n ++ held n).length
  · exact ⟨m, hm, hOut⟩
  · exact ⟨m, hm, List.prefix_of_prefix_length_le (hGrows n m hm) (List.prefix_append _ _) hLong⟩

end Follows

section Fair

variable {step : Step S L O} {states : ℕ → S} {chosen : ℕ → L} {task : L → Prop}

/-- The task can take a step. -/
def Enabled (step : Step S L O) (task : L → Prop) (state : S) : Prop :=
  ∃ label next out, task label ∧ step state label next out

/-- If from some time on the task can always step, it does. -/
def WeaklyFair (step : Step S L O) (states : ℕ → S) (chosen : ℕ → L) (task : L → Prop) : Prop :=
  ∀ n, (∀ m, n ≤ m → Enabled step task (states m)) → ∃ m, n ≤ m ∧ task (chosen m)

/-- A task is treated fairly if it has nothing left to do some time. -/
theorem WeaklyFair.of_disabled (h : ∀ n, ∃ m, n ≤ m ∧ ¬Enabled step task (states m)) :
    WeaklyFair step states chosen task := by
  intro n hEnabled
  obtain ⟨m, hm, hDisabled⟩ := h n
  exact absurd (hEnabled m hm) hDisabled

/-- What only the task can end, and lets it step, lasts until the task steps. -/
theorem WeaklyFair.steps (hFair : WeaklyFair step states chosen task) (pending : ℕ → Prop)
    (hKept : ∀ n, pending n → ¬task (chosen n) → pending (n + 1))
    (hEnabled : ∀ n, pending n → Enabled step task (states n)) {n : ℕ} (h : pending n) :
    ∃ m, n ≤ m ∧ task (chosen m) ∧ pending m := by
  by_contra! hNever
  have hPending : ∀ m, n ≤ m → pending m := by
    intro m hm
    induction m, hm using Nat.le_induction with
    | base => exact h
    | succ m hm ih => exact hKept m ih fun hTask => hNever m hm hTask ih
  obtain ⟨m, hm, hTask⟩ := hFair n fun m hm => hEnabled m (hPending m hm)
  exact hNever m hm hTask (hPending m hm)

/-- A task that can step as long as a queue holds something, and takes from it. -/
theorem WeaklyFair.follows (hFair : WeaklyFair step states chosen task)
    {held leaving : ℕ → List α} (hStep : ∀ n, held n <+: leaving n ++ held (n + 1))
    (hEnabled : ∀ n, held n ≠ [] → Enabled step task (states n))
    (hTakes : ∀ n, task (chosen n) → leaving n ≠ []) :
    Follows (fun n => history leaving n ++ held n) (history leaving) := by
  refine .of_queue hStep fun n hHeld => ?_
  by_contra! hNone
  obtain ⟨m, hm, hTask, -⟩ := hFair.steps (fun m => n ≤ m ∧ held m ≠ [])
    (fun m ⟨hm, hSome⟩ _ => by
      refine ⟨Nat.le_succ_of_le hm, fun hEmpty => hSome ?_⟩
      have hPrefix := hStep m
      rw [hNone m hm, hEmpty] at hPrefix
      exact List.prefix_nil.mp hPrefix)
    (fun m h => hEnabled m h.2) ⟨Nat.le_refl n, hHeld⟩
  exact hTakes m hTask (hNone m hm)

end Fair

end Transition
