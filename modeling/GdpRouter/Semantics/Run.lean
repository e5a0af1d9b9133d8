import Mathlib.Data.List.Basic

/-! Labelled transitions with outputs. A label is what the environment chooses
or feeds in, the outputs are what the step emits. A step that is not defined,
because it is disabled or because the program would fault there, is no step. -/
namespace Transition

variable {S L O : Type*}

abbrev Step (S L O : Type*) := S → L → S → List O → Prop

/-- Finitely many steps with the given labels. Their outputs are concatenated. -/
inductive Run (step : Step S L O) : S → List L → S → List O → Prop where
  | nil (start : S) : Run step start [] start []
  | cons {start middle finish : S} {label : L} {labels : List L} {out rest : List O}
      (first : step start label middle out) (tail : Run step middle labels finish rest) :
      Run step start (label :: labels) finish (out ++ rest)

/-- Steps without an end, with these outputs. -/
def Endless (step : Step S L O) (start : S) (outs : ℕ → List O) : Prop :=
  ∃ (states : ℕ → S) (chosen : ℕ → L), states 0 = start ∧
    ∀ n, step (states n) (chosen n) (states (n + 1)) (outs n)

section Run

variable {step : Step S L O} {start middle finish : S} {labels : List L} {out : List O}

theorem Run.single {label : L} (h : step start label finish out) :
    Run step start [label] finish out := by
  simpa using Run.cons h (.nil finish)

/-- A run goes on with another one. -/
theorem Run.append {second : List L} {rest : List O} (left : Run step start labels middle out)
    (right : Run step middle second finish rest) :
    Run step start (labels ++ second) finish (out ++ rest) := by
  induction left with
  | nil => exact right
  | cons first _ ih =>
      rw [List.append_assoc]
      exact .cons first (ih right)

theorem Run.snoc {label : L} {last : List O} (prior : Run step start labels middle out)
    (h : step middle label finish last) :
    Run step start (labels ++ [label]) finish (out ++ last) :=
  prior.append (.single h)

/-- What an endless run has done after so many steps. -/
theorem Run.of_endless {states : ℕ → S} {chosen : ℕ → L} {outs : ℕ → List O}
    (hSteps : ∀ n, step (states n) (chosen n) (states (n + 1)) (outs n)) (n : ℕ) :
    Run step (states 0) ((List.range n).map chosen) (states n) ((List.range n).flatMap outs) := by
  induction n with
  | zero => exact .nil _
  | succ n ih => simpa [List.range_succ, List.flatMap_append] using ih.snoc (hSteps n)

/-- A run that can idle where it ends goes on for ever, and does nothing else then. -/
theorem Run.exists_steps {idle : L} (run : Run step start labels finish out)
    (hIdle : step finish idle finish []) :
    ∃ (states : ℕ → S) (chosen : ℕ → L) (outs : ℕ → List O), states 0 = start ∧
      (∀ n, step (states n) (chosen n) (states (n + 1)) (outs n)) ∧
      (List.range labels.length).map chosen = labels ∧
      (∀ n, labels.length ≤ n → states n = finish ∧ chosen n = idle) ∧
      ∀ seen ∈ out, ∃ n, seen ∈ outs n := by
  induction run with
  | nil start =>
      exact ⟨fun _ => start, fun _ => idle, fun _ => [], rfl, fun _ => hIdle, rfl,
        fun _ _ => ⟨rfl, rfl⟩, by simp⟩
  | @cons start middle finish label labels out rest first _ ih =>
      obtain ⟨states, chosen, outs, rfl, hSteps, hLabels, hLate, hSeen⟩ := ih hIdle
      refine ⟨fun n => n.casesOn start states, fun n => n.casesOn label chosen,
        fun n => n.casesOn out outs, rfl, fun n => ?_, ?_, fun n hn => ?_, fun seen hMem => ?_⟩
      · cases n with
        | zero => exact first
        | succ n => exact hSteps n
      · rw [List.length_cons, List.range_succ_eq_map, List.map_cons, List.map_map]
        exact congrArg (label :: ·) hLabels
      · cases n with
        | zero => cases hn
        | succ n => exact hLate n (Nat.le_of_succ_le_succ hn)
      · rcases List.mem_append.mp hMem with hFirst | hRest
        · exact ⟨0, hFirst⟩
        · obtain ⟨n, hn⟩ := hSeen seen hRest
          exact ⟨n + 1, hn⟩

theorem Run.exists_endless {idle : L} (run : Run step start labels finish out)
    (hIdle : step finish idle finish []) :
    ∃ outs, Endless step start outs ∧ ∀ seen ∈ out, ∃ n, seen ∈ outs n := by
  obtain ⟨states, chosen, outs, hStart, hSteps, -, -, hSeen⟩ := run.exists_steps hIdle
  exact ⟨outs, ⟨states, chosen, hStart, hSteps⟩, hSeen⟩

/-- Cut a run at any point of its label list. -/
theorem run_append_iff {first second : List L} :
    Run step start (first ++ second) finish out ↔
      ∃ middle left right, Run step start first middle left ∧
        Run step middle second finish right ∧ out = left ++ right := by
  constructor
  · intro h
    induction first generalizing start out with
    | nil => exact ⟨start, [], out, .nil start, h, rfl⟩
    | cons label labels ih =>
        rw [List.cons_append] at h
        cases h with
        | cons head tail =>
            obtain ⟨middle, left, right, hLeft, hRight, rfl⟩ := ih tail
            exact ⟨middle, _, right, .cons head hLeft, hRight, (List.append_assoc ..).symm⟩
  · rintro ⟨middle, left, right, hLeft, hRight, rfl⟩
    exact hLeft.append hRight

/-- A property of the state, of the labels so far and of the outputs so far
that holds at the start and survives every step holds throughout a run. -/
theorem Run.history_invariant (invariant : S → List L → List O → Prop)
    (hStart : invariant start [] [])
    (hStep : ∀ s labels out label t last, Run step start labels s out → invariant s labels out →
      step s label t last → invariant t (labels ++ [label]) (out ++ last))
    (run : Run step start labels finish out) : invariant finish labels out := by
  suffices h : ∀ s before emitted, Run step start before s emitted → invariant s before emitted →
      Run step s labels finish out → invariant finish (before ++ labels) (emitted ++ out) from
    h start [] [] (.nil start) hStart run
  intro s before emitted prior hPrior rest
  clear run hStart
  induction rest generalizing before emitted with
  | nil => simpa using hPrior
  | cons first _ ih =>
      have hNext := hStep _ _ _ _ _ _ prior hPrior first
      simpa using ih _ _ (prior.snoc first) hNext

/-- The same rule for a property of the state alone. -/
theorem Run.invariant (invariant : S → Prop) (hStart : invariant start)
    (hStep : ∀ s label t last, invariant s → step s label t last → invariant t)
    (run : Run step start labels finish out) : invariant finish :=
  run.history_invariant (fun s _ _ => invariant s) hStart
    fun s _ _ label t last _ => hStep s label t last

/-- If no step loses, repeats or reorders anything, what a run takes in is what it
gives out, followed by what it still holds. -/
theorem Run.conserves {α : Type*} {allowed : L → Prop} (held : S → List α)
    (entering leaving : O → List α)
    (hStep : ∀ s label t last, allowed label → step s label t last →
      held s ++ last.flatMap entering = last.flatMap leaving ++ held t)
    (hLabels : ∀ label ∈ labels, allowed label) (run : Run step start labels finish out) :
    held start ++ out.flatMap entering = out.flatMap leaving ++ held finish := by
  induction run with
  | nil => simp
  | cons first _ ih =>
      obtain ⟨hFirst, hRest⟩ := List.forall_mem_cons.mp hLabels
      rw [List.flatMap_append, List.flatMap_append, ← List.append_assoc,
        hStep _ _ _ _ hFirst first, List.append_assoc, ih hRest, List.append_assoc]

/-- If no step makes anything, all that a run gives out and still holds was held at first
or was taken in, however much of it was lost, repeated or moved about. -/
theorem Run.subset {α : Type*} (held : S → List α) (entering leaving : O → List α)
    (hStep : ∀ s label t last, step s label t last →
      last.flatMap leaving ++ held t ⊆ held s ++ last.flatMap entering)
    (run : Run step start labels finish out) :
    out.flatMap leaving ++ held finish ⊆ held start ++ out.flatMap entering := by
  induction run with
  | nil => simp
  | cons first _ ih =>
      have hFirst := hStep _ _ _ _ first
      intro item hItem
      simp only [List.flatMap_append, List.mem_append, List.subset_def] at *
      -- whatever the rest of the run gives or holds, the first step held or took in
      rcases hItem with (hGiven | hGiven) | hHeld
      · exact (hFirst (.inl hGiven)).imp_right .inl
      · exact (ih (.inl hGiven)).elim (fun hMiddle => (hFirst (.inr hMiddle)).imp_right .inl)
          fun hTaken => .inr (.inr hTaken)
      · exact (ih (.inr hHeld)).elim (fun hMiddle => (hFirst (.inr hMiddle)).imp_right .inl)
          fun hTaken => .inr (.inr hTaken)

/-- If no step takes anything in, what a run gives out and still holds was held at first,
in this order. -/
theorem Run.drains {α : Type*} (invariant : S → Prop) (held : S → List α) (leaving : O → List α)
    (hStart : invariant start)
    (hKeep : ∀ s label t last, invariant s → step s label t last → invariant t)
    (hStep : ∀ s label t last, invariant s → step s label t last →
      (last.flatMap leaving ++ held t).Sublist (held s))
    (run : Run step start labels finish out) :
    (out.flatMap leaving ++ held finish).Sublist (held start) := by
  induction run with
  | nil => simp
  | cons first _ ih =>
      have hRest := ih (hKeep _ _ _ _ hStart first)
      rw [List.flatMap_append, List.append_assoc]
      exact (hRest.append_left _).trans (hStep _ _ _ _ hStart first)

/-- If steps may lose things, but neither make any nor reorder them, what a run gives out
and still holds was held at first or was taken in, in this order. -/
theorem Run.sublist {α : Type*} {allowed : L → Prop} (held : S → List α)
    (entering leaving : O → List α)
    (hStep : ∀ s label t last, allowed label → step s label t last →
      (last.flatMap leaving ++ held t).Sublist (held s ++ last.flatMap entering))
    (hLabels : ∀ label ∈ labels, allowed label) (run : Run step start labels finish out) :
    (out.flatMap leaving ++ held finish).Sublist (held start ++ out.flatMap entering) := by
  induction run with
  | nil => simp
  | cons first _ ih =>
      obtain ⟨hFirst, hRest⟩ := List.forall_mem_cons.mp hLabels
      have hNow := hStep _ _ _ _ hFirst first
      rw [List.flatMap_append, List.flatMap_append, List.append_assoc, ← List.append_assoc _ _
        (List.flatMap entering _)]
      refine ((ih hRest).append_left _).trans ?_
      rw [← List.append_assoc]
      exact hNow.append_right _

/-- If steps may lose things, but never make any, no more is given out and still held
than there was at first and was taken in. -/
theorem Run.countP_le {α : Type*} {p : α → Bool} (held : S → List α)
    (entering leaving : O → List α)
    (hStep : ∀ s label t last, step s label t last →
      (last.flatMap leaving).countP p + (held t).countP p ≤
        (held s).countP p + (last.flatMap entering).countP p)
    (run : Run step start labels finish out) :
    (out.flatMap leaving).countP p + (held finish).countP p ≤
      (held start).countP p + (out.flatMap entering).countP p := by
  induction run with
  | nil => simp
  | cons first _ ih =>
      have hFirst := hStep _ _ _ _ first
      rw [List.flatMap_append, List.flatMap_append, List.countP_append, List.countP_append]
      omega

end Run

/-- Some run from an initial state ends here. -/
def Reachable (step : Step S L O) (initial : S → Prop) (state : S) : Prop :=
  ∃ start labels out, initial start ∧ Run step start labels state out

/-- What holds at the start and is kept by every step holds of all that is reachable. -/
theorem Reachable.invariant {step : Step S L O} {initial : S → Prop} {state : S}
    (invariant : S → Prop) (hStart : ∀ s, initial s → invariant s)
    (hStep : ∀ s label t last, invariant s → step s label t last → invariant t)
    (h : Reachable step initial state) : invariant state := by
  obtain ⟨start, labels, out, hInitial, run⟩ := h
  exact run.invariant invariant (hStart start hInitial) hStep

section Guarded

/-- The steps of `step` whose state and label meet a condition. -/
def Guarded (step : Step S L O) (condition : S → L → Prop) : Step S L O :=
  fun s label t out => step s label t out ∧ condition s label

/-- A guarded run is a run. -/
theorem Run.of_guarded {step : Step S L O} {condition : S → L → Prop} {start finish : S}
    {labels : List L} {out : List O} (run : Run (Guarded step condition) start labels finish out) :
    Run step start labels finish out := by
  induction run with
  | nil s => exact .nil s
  | cons first _ ih => exact .cons first.1 ih

/-- If a step is free of something exactly when it meets the condition, a run is free of
it exactly when all of its steps meet the condition. -/
theorem Run.free_iff_guarded {step : Step S L O} {condition : S → L → Prop} {bad : O → Prop}
    {start finish : S} {labels : List L} {out : List O} (invariant : S → Prop)
    (hStart : invariant start)
    (hKeep : ∀ s label t last, invariant s → step s label t last → invariant t)
    (hStep : ∀ s label t last, invariant s → step s label t last →
      ((∀ seen ∈ last, ¬bad seen) ↔ condition s label))
    (run : Run step start labels finish out) :
    (∀ seen ∈ out, ¬bad seen) ↔ Run (Guarded step condition) start labels finish out := by
  constructor
  · intro hFree
    induction run with
    | nil s => exact .nil s
    | cons first _ ih =>
        obtain ⟨hFirst, hRest⟩ := List.forall_mem_append.mp hFree
        have hCondition := (hStep _ _ _ _ hStart first).mp hFirst
        exact .cons ⟨first, hCondition⟩ (ih (hKeep _ _ _ _ hStart first) hRest)
  · intro guarded
    clear run
    induction guarded with
    | nil => simp
    | cons first _ ih =>
        have hFirst := (hStep _ _ _ _ hStart first.1).mpr first.2
        exact List.forall_mem_append.mpr ⟨hFirst, ih (hKeep _ _ _ _ hStart first.1)⟩

end Guarded

section Partial

/-- A partial function as a step relation: where it is undefined there is no step. -/
def OfOption (f : S → L → Option (S × List O)) : Step S L O :=
  fun s label t out => f s label = some (t, out)

/-- A function that may fault, as a step relation: faults are no steps. -/
def OfExcept {E : Type*} (f : S → L → Except E (S × List O)) : Step S L O :=
  OfOption fun s label => (f s label).toOption

theorem toOption_eq_some_iff {E α : Type*} {result : Except E α} {value : α} :
    result.toOption = some value ↔ result = .ok value := by
  cases result <;> simp [Except.toOption]

/-- A mapped result is fine when the result was. -/
theorem map_eq_ok_iff {E α β : Type*} {f : α → β} {result : Except E α} {value : β} :
    result.map f = .ok value ↔ ∃ inner, result = .ok inner ∧ f inner = value := by
  cases result with
  | error fault => simp [Except.map]
  | ok inner => simp [Except.map]

/-- Feed a whole list of labels, stopping where there is no step. -/
def runOption (f : S → L → Option (S × List O)) : S → List L → Option (S × List O)
  | state, [] => some (state, [])
  | state, label :: rest =>
      match f state label with
      | none => none
      | some (next, out) => (runOption f next rest).map fun last => (last.1, out ++ last.2)

variable {f : S → L → Option (S × List O)} {start finish : S} {labels : List L} {out : List O}

/-- Running the step function is a run of its relation. -/
theorem runOption_eq_some_iff :
    runOption f start labels = some (finish, out) ↔ Run (OfOption f) start labels finish out := by
  constructor
  · intro h
    induction labels generalizing start out with
    | nil =>
        obtain ⟨rfl, rfl⟩ := Prod.mk.inj (Option.some.inj h)
        exact .nil start
    | cons label rest ih =>
        simp only [runOption] at h
        cases hFirst : f start label with
        | none => simp [hFirst] at h
        | some result =>
            simp only [hFirst, Option.map_eq_some_iff, Prod.mk.injEq] at h
            obtain ⟨last, hRest, rfl, rfl⟩ := h
            exact .cons hFirst (ih hRest)
  · intro h
    induction h with
    | nil => rfl
    | cons first _ ih =>
        unfold OfOption at first
        simp [runOption, first, ih]

/-- The same, with a condition on the state and the label of each step. -/
def runGuarded (f : S → L → Option (S × List O)) (condition : S → L → Prop)
    [∀ s, DecidablePred (condition s)] : S → List L → Option (S × List O) :=
  runOption fun s label => if condition s label then f s label else none

/-- Running the step function under a guard is a guarded run. -/
theorem runGuarded_eq_some_iff {condition : S → L → Prop} [∀ s, DecidablePred (condition s)] :
    runGuarded f condition start labels = some (finish, out) ↔
      Run (Guarded (OfOption f) condition) start labels finish out := by
  have hSteps : OfOption (fun s label => if condition s label then f s label else none) =
      Guarded (OfOption f) condition := by
    funext s label t last
    simp [OfOption, Guarded, and_comm]
  rw [runGuarded, runOption_eq_some_iff, hSteps]

/-- If running the step function fails, there is no run. -/
theorem not_exists_run_of_runOption (h : runOption f start labels = none) :
    ¬ ∃ finish out, Run (OfOption f) start labels finish out := by
  rintro ⟨finish, out, run⟩
  rw [runOption_eq_some_iff.mpr run] at h
  cases h

/-- The labels determine the run. -/
theorem ofOption_functional {finish' : S} {out' : List O}
    (h : Run (OfOption f) start labels finish out)
    (h' : Run (OfOption f) start labels finish' out') : finish' = finish ∧ out' = out := by
  have hEq := (runOption_eq_some_iff.mpr h').symm.trans (runOption_eq_some_iff.mpr h)
  exact Prod.mk.inj (Option.some.inj hEq)

/-- A whole list of labels goes through exactly when no label, fed in the state
that the labels before it lead to, is undefined there. -/
theorem exists_run_ofOption_iff :
    (∃ finish out, Run (OfOption f) start labels finish out) ↔
      ∀ before label after state out, labels = before ++ label :: after →
        Run (OfOption f) start before state out → ∃ result, f state label = some result := by
  constructor
  · rintro ⟨finish, out, run⟩ before label after state prior rfl hPrior
    obtain ⟨middle, left, right, hLeft, hRight, rfl⟩ := run_append_iff.mp run
    obtain ⟨rfl, rfl⟩ := ofOption_functional hPrior hLeft
    cases hRight with
    | cons first _ => exact ⟨_, first⟩
  · intro h
    induction labels generalizing start with
    | nil => exact ⟨start, [], .nil start⟩
    | cons label rest ih =>
        obtain ⟨⟨next, out⟩, hFirst⟩ := h [] label rest start [] rfl (.nil start)
        obtain ⟨finish, tail, hTail⟩ := ih fun before other after state emitted hRest hPrior =>
          h (label :: before) other after state (out ++ emitted)
            (by rw [hRest, List.cons_append]) (.cons hFirst hPrior)
        exact ⟨finish, _, .cons hFirst hTail⟩

/-- A property of the state wherever a run with these labels, or with the first of
them, ends. -/
def Throughout (step : Step S L O) (start : S) (labels : List L) (kept : S → Prop) : Prop :=
  ∀ before after middle seen, labels = before ++ after → Run step start before middle seen →
    kept middle

theorem Throughout.head {step : Step S L O} {kept : S → Prop}
    (h : Throughout step start labels kept) : kept start :=
  h [] labels start [] rfl (.nil start)

/-- What holds throughout holds behind the first step. -/
theorem Throughout.tail {step : Step S L O} {kept : S → Prop} {next : S} {label : L}
    {last : List O} (h : Throughout step start (label :: labels) kept)
    (first : step start label next last) : Throughout step next labels kept := by
  intro before after middle seen hLabels hRun
  have hCons : label :: labels = (label :: before) ++ after := by rw [hLabels, List.cons_append]
  exact h _ after middle _ hCons (.cons first hRun)

/-- If a step keeps the property exactly when it is free of something, a run has it
throughout exactly when the whole run is free of that. -/
theorem Run.throughout_iff_free {kept : S → Prop} {bad : O → Prop} (invariant : S → Prop)
    (hStart : invariant start) (hKept : kept start)
    (hKeep : ∀ s label t last, invariant s → f s label = some (t, last) → invariant t)
    (hStep : ∀ s label t last, invariant s → kept s → f s label = some (t, last) →
      (kept t ↔ ∀ seen ∈ last, ¬bad seen))
    (run : Run (OfOption f) start labels finish out) :
    Throughout (OfOption f) start labels kept ↔ ∀ seen ∈ out, ¬bad seen := by
  induction run with
  | nil s =>
      constructor
      · intro _
        exact List.forall_mem_nil _
      · intro _ before after middle seen hLabels hRun
        obtain ⟨rfl, -⟩ := List.append_eq_nil_iff.mp hLabels.symm
        cases hRun
        exact hKept
  | @cons s t u label labels last rest first tail ih =>
      have hFirst := hStep _ _ _ _ hStart hKept first
      have hRest := ih (hKeep _ _ _ _ hStart first)
      rw [List.forall_mem_append]
      constructor
      · intro hAll
        have hLater := hAll.tail first
        exact ⟨hFirst.mp hLater.head, (hRest hLater.head).mp hLater⟩
      · intro ⟨hLast, hOut⟩ before after middle seen hLabels hRun
        have hNext := hFirst.mpr hLast
        cases hRun with
        | nil => exact hKept
        | @cons _ t' _ _ before last' seen' first' tail' =>
            obtain ⟨rfl, rfl⟩ := List.cons.inj hLabels
            obtain ⟨rfl, -⟩ := Prod.mk.inj (Option.some.inj (first'.symm.trans first))
            exact (hRest hNext).mpr hOut before after middle _ rfl tail'

end Partial

section Growth

variable {step : Step S L O} {start finish : S} {labels : List L} {out : List O} {kept : S → Prop}

/-- A count that grows with every step that keeps a property has grown by the
number of steps while the property lasts. -/
theorem Run.count_of_throughout (count : S → ℕ)
    (hCount : ∀ s label t last, kept s → step s label t last → kept t → count s < count t)
    (run : Run step start labels finish out) (hKept : Throughout step start labels kept) :
    count start + labels.length ≤ count finish := by
  induction run with
  | nil => exact Nat.le_refl _
  | cons first _ ih =>
      have hRest := hKept.tail first
      have hFirst := hCount _ _ _ _ hKept.head first hRest.head
      have hLater := ih hRest
      rw [List.length_cons]
      omega

variable (kept) in
/-- If the count stays small, the property is lost on the way. -/
theorem Run.exists_lost (count : S → ℕ)
    (hCount : ∀ s label t last, kept s → step s label t last → kept t → count s < count t)
    (run : Run step start labels finish out) (hLong : count finish + 1 < labels.length) :
    ∃ first rest middle seen, labels = first ++ rest ∧ first ≠ [] ∧
      Run step start first middle seen ∧ ¬kept middle := by
  by_contra hNever
  cases run with
  | nil => cases hLong
  | @cons _ next _ label labels out tail first hRest =>
      -- The property holds from the first step on, so the rest of them are counted.
      have hKept : Throughout step next labels kept := by
        intro before after middle seen hLabels hBefore
        by_contra hLost
        have hCons : label :: labels = (label :: before) ++ after := by
          rw [hLabels, List.cons_append]
        exact hNever ⟨_, after, middle, _, hCons, List.cons_ne_nil _ _, .cons first hBefore, hLost⟩
      have hGrown := hRest.count_of_throughout count hCount hKept
      rw [List.length_cons] at hLong
      omega

end Growth

end Transition
