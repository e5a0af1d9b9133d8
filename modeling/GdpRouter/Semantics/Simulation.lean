import GdpRouter.Semantics.Run

/-! One step relation simulated by the runs of another. A step may be matched by
no step at all, or by several. Labels and outputs are compared by what both sides
show of them. -/
namespace Transition

variable {S L O S' L' O' A B : Type*}

/-- Every step from related states is matched by a run to related states that is
given the same and shows the same. -/
structure Simulation (concrete : Step S L O) (abstract : Step S' L' O') (related : S → S' → Prop)
    (given : L → List A) (given' : L' → List A) (shown : O → List B) (shown' : O' → List B) :
    Prop where
  step : ∀ {s next : S} {t : S'} {label : L} {out : List O}, related s t →
    concrete s label next out → ∃ labels t' out', Run abstract t labels t' out' ∧
      related next t' ∧ labels.flatMap given' = given label ∧
        out'.flatMap shown' = out.flatMap shown

namespace Simulation

variable {concrete : Step S L O} {abstract : Step S' L' O'} {related : S → S' → Prop}
  {given : L → List A} {given' : L' → List A} {shown : O → List B} {shown' : O' → List B}

/-- What one step has, a whole run has. -/
theorem run (sim : Simulation concrete abstract related given given' shown shown')
    {start finish : S} {start' : S'} {labels : List L} {out : List O}
    (hStart : related start start') (run : Run concrete start labels finish out) :
    ∃ labels' finish' out', Run abstract start' labels' finish' out' ∧
      related finish finish' ∧ labels'.flatMap given' = labels.flatMap given ∧
        out'.flatMap shown' = out.flatMap shown := by
  induction run generalizing start' with
  | nil => exact ⟨[], start', [], .nil start', hStart, rfl, rfl⟩
  | cons first _ ih =>
      obtain ⟨before, middle, seen, hFirst, hMiddle, hGiven, hShown⟩ := sim.step hStart first
      obtain ⟨after, finish', rest, hRest, hFinish, hGivenRest, hShownRest⟩ := ih hMiddle
      refine ⟨before ++ after, finish', seen ++ rest, hFirst.append hRest, hFinish, ?_, ?_⟩
      · rw [List.flatMap_append, List.flatMap_cons, hGiven, hGivenRest]
      · rw [List.flatMap_append, List.flatMap_append, hShown, hShownRest]

/-- An endless run is matched step by step. -/
theorem endless (sim : Simulation concrete abstract related given given' shown shown')
    {states : ℕ → S} {chosen : ℕ → L} {outs : ℕ → List O} {start' : S'}
    (hStart : related (states 0) start')
    (hSteps : ∀ n, concrete (states n) (chosen n) (states (n + 1)) (outs n)) :
    ∃ (states' : ℕ → S') (labels' : ℕ → List L') (outs' : ℕ → List O'), states' 0 = start' ∧
      ∀ n, related (states n) (states' n) ∧
        Run abstract (states' n) (labels' n) (states' (n + 1)) (outs' n) ∧
        (labels' n).flatMap given' = given (chosen n) ∧
        (outs' n).flatMap shown' = (outs n).flatMap shown := by
  have hNext : ∀ n (t : { t // related (states n) t }), ∃ (t' : { t // related (states (n + 1)) t })
      (labels' : List L') (out' : List O'), Run abstract t labels' t' out' ∧
        labels'.flatMap given' = given (chosen n) ∧
          out'.flatMap shown' = (outs n).flatMap shown := by
    intro n t
    obtain ⟨labels', t', out', hRun, hRelated, hSame⟩ := sim.step t.2 (hSteps n)
    exact ⟨⟨t', hRelated⟩, labels', out', hRun, hSame⟩
  choose next labels' outs' hRun hGiven hShown using hNext
  let states' : ∀ n, { t // related (states n) t } :=
    fun n => Nat.rec (motive := fun n => { t // related (states n) t }) ⟨start', hStart⟩ next n
  exact ⟨fun n => states' n, fun n => labels' n (states' n), fun n => outs' n (states' n), rfl,
    fun n => ⟨(states' n).2, hRun n _, hGiven n _, hShown n _⟩⟩

end Simulation

end Transition
