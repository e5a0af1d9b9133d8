import Mathlib.Combinatorics.SimpleGraph.Acyclic
import Mathlib.Data.Fintype.Card

/-! Paths as the lists of vertices they visit. In an acyclic graph a path that
never turns straight back can always be extended. -/
namespace Forest

variable {V : Type} {G : SimpleGraph V} {last next : V} {visited : List V}

/-- A path that ends at `last`. -/
structure PathTo (G : SimpleGraph V) (last : V) (visited : List V) : Prop where
  nodup : visited.Nodup
  chain : visited.IsChain G.Adj
  ends : visited.getLast? = some last

theorem PathTo.single (G : SimpleGraph V) (vertex : V) : PathTo G vertex [vertex] :=
  ⟨List.nodup_singleton vertex, List.isChain_singleton vertex, rfl⟩

/-- A path goes on to a fresh neighbour. -/
theorem PathTo.snoc (h : PathTo G last visited) (hAdj : G.Adj last next)
    (hFresh : next ∉ visited) : PathTo G next (visited ++ [next]) where
  nodup := by
    rw [List.nodup_append]
    refine ⟨h.nodup, List.nodup_singleton next, ?_⟩
    rintro vertex hVertex other hOther rfl
    exact hFresh (List.mem_singleton.mp hOther ▸ hVertex)
  chain := by
    apply h.chain.append (List.isChain_singleton next)
    intro vertex hVertex other hOther
    rw [h.ends] at hVertex
    cases hVertex
    cases hOther
    exact hAdj
  ends := by simp

theorem PathTo.ne_nil (h : PathTo G last visited) : visited ≠ [] := by
  rintro rfl
  exact absurd h.ends (by simp)

theorem PathTo.length_le [Fintype V] (h : PathTo G last visited) :
    visited.length ≤ Fintype.card V := h.nodup.length_le_card

/-- The end of a path is not among the vertices before it. -/
theorem PathTo.not_mem_dropLast (h : PathTo G last visited) : last ∉ visited.dropLast := by
  have hSplit := List.dropLast_append_getLast? last h.ends
  have hNodup := h.nodup
  rw [← hSplit, List.nodup_append] at hNodup
  exact fun hMem => hNodup.2.2 last hMem last List.mem_cons_self rfl

/-- The vertices visited are those of a walk without repetition. -/
theorem PathTo.exists_walk (h : PathTo G last visited) :
    ∃ first, ∃ p : G.Walk first last, p.IsPath ∧ p.support = visited := by
  have hLast : visited.getLast h.ne_nil = last := by
    have hEnds := h.ends
    rw [List.getLast?_eq_some_getLast h.ne_nil] at hEnds
    exact Option.some.inj hEnds
  let p := (SimpleGraph.Walk.ofSupport visited h.ne_nil h.chain).copy rfl hLast
  have hSupport : p.support = visited := by simp [p]
  exact ⟨_, p, .mk' (by rw [hSupport]; exact h.nodup), hSupport⟩

/-- Only the vertex that the path just came from is both adjacent and visited:
another one would close a cycle. -/
theorem PathTo.came_from (h : PathTo G last visited) (hAcyclic : G.IsAcyclic)
    (hAdj : G.Adj last next) (hVisited : next ∈ visited) :
    ∃ before, visited = before ++ [next, last] := by
  obtain ⟨first, p, hPath, rfl⟩ := h.exists_walk
  have hBack : next = p.penultimate := hAcyclic.eq_penultimate_of_adj_end hPath hAdj hVisited
  have hNil : ¬p.Nil := by
    intro hNil
    rw [SimpleGraph.Walk.nil_iff_support_eq.mp hNil, List.mem_singleton] at hVisited
    exact hAdj.ne (hNil.eq.symm.trans hVisited.symm)
  have hShorter := p.dropLast.dropLast_support_concat
  rw [SimpleGraph.Walk.support_dropLast hNil, ← hBack] at hShorter
  refine ⟨p.support.dropLast.dropLast, ?_⟩
  calc
    p.support = p.support.dropLast ++ [last] := p.dropLast_support_concat.symm
    _ = (p.support.dropLast.dropLast ++ [next]) ++ [last] := by rw [hShorter]
    _ = p.support.dropLast.dropLast ++ [next, last] := by simp

end Forest
