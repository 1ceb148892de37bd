import AutomatonChart.Proofs.KeySplitting

/-! # A drawn automaton is deterministic

The keys of a description are distinct, and whichever comma divides a key, its parts can be joined
to it again. So no source has two transitions by one symbol, and since two labels never share an
identifier, the groups that leave one identifier share no symbol.
-/
namespace AutomatonChart

theorem Description.nodup_resolved (d : Description) :
    (d.resolved.map fun t => (t.source, t.symbol)).Nodup := by
  have hkeys := List.pairwise_map.mp d.transitions.nodup
  rw [List.Nodup, List.pairwise_map, resolved, List.pairwise_filterMap]
  apply hkeys.imp
  intro e f hne t ht u hu heq
  obtain ⟨hsource, hsymbol⟩ := Prod.mk.inj heq
  apply hne
  rw [eq_of_resolveEntry ht, eq_of_resolveEntry hu, hsource, hsymbol]

namespace GroupedTransitions
open OrderedMap
variable {d : Description} {ids : StateIds}

theorem nodup_placed (d : Description) (ids : StateIds) :
    ((placed d ids).map fun p => (p.1.1, p.2)).Nodup := by
  have hpairs := List.pairwise_map.mp d.nodup_resolved
  rw [List.Nodup, List.pairwise_map, placed, List.pairwise_filterMap]
  apply hpairs.imp
  intro t u hne p hp q hq heq
  obtain ⟨hends, hsymbol⟩ := Prod.mk.inj heq
  obtain ⟨htp, hts, -⟩ := place?_eq_some.mp hp
  obtain ⟨huq, hus, -⟩ := place?_eq_some.mp hq
  apply hne
  rw [StateIds.get?_injective hts (hends ▸ hus), htp, huq, hsymbol]

theorem placed_unique {p q : Endpoints × String} (hp : p ∈ placed d ids) (hq : q ∈ placed d ids)
    (hsource : p.1.1 = q.1.1) (hsymbol : p.2 = q.2) : p = q :=
  List.inj_on_of_nodup_map (nodup_placed d ids) hp hq (Prod.ext hsource hsymbol)

theorem nodup_symbols {g : Endpoints × List String} (hg : g ∈ (build d ids).toList) :
    g.2.Nodup := by
  rw [(mem_toList_build.mp hg).2, valuesOf]
  have hplaced : (placed d ids).Nodup := (nodup_placed d ids).of_map
  apply (hplaced.filter _).map_on
  intro p hp q hq hsymbol
  obtain ⟨hpm, hpe⟩ := List.mem_filter.mp hp
  obtain ⟨hqm, hqe⟩ := List.mem_filter.mp hq
  have hends : p.1 = q.1 := (of_decide_eq_true hpe).trans (of_decide_eq_true hqe).symm
  exact Prod.ext hends hsymbol

theorem ends_eq_of_common_symbol {g h : Endpoints × List String} (hg : g ∈ (build d ids).toList)
    (hh : h ∈ (build d ids).toList) (hsource : g.1.1 = h.1.1) {symbol : String}
    (hsg : symbol ∈ g.2) (hsh : symbol ∈ h.2) : g.1 = h.1 := by
  have hplaces := placed_unique ((mem_symbols hg).mp hsg) ((mem_symbols hh).mp hsh) hsource rfl
  exact (Prod.mk.inj hplaces).1

/-- Among the groups that leave one identifier, each symbol stands at one place only. -/
theorem symbol_stands_once (d : Description) (labels : List String) :
    let groups := (build d (.assign labels)).toList
    (∀ (i j p q : Nat) (g h : Endpoints × List String) (symbol : String),
        groups[i]? = some g → groups[j]? = some h → g.1.1 = h.1.1 →
        g.2[p]? = some symbol → h.2[q]? = some symbol → i = j ∧ p = q) ∧
      (∀ g ∈ groups, g.2.Nodup) ∧
      ∀ g ∈ groups, ∀ h ∈ groups, g.1.1 = h.1.1 → ∀ symbol ∈ g.2, symbol ∈ h.2 → g.1.2 = h.1.2 := by
  refine ⟨?_, fun g hg => nodup_symbols hg, ?_⟩
  · intro i j p q g h symbol hi hj hsource hp hq
    have hg := List.mem_of_getElem? hi
    have hh := List.mem_of_getElem? hj
    have hends := ends_eq_of_common_symbol hg hh hsource (List.mem_of_getElem? hp)
      (List.mem_of_getElem? hq)
    have hgh : g = h :=
      List.inj_on_of_nodup_map (build d (.assign labels)).groups.nodup hg hh hends
    subst hgh
    have hnodup : (build d (.assign labels)).toList.Nodup :=
      (build d (.assign labels)).groups.nodup.of_map
    have hil := (List.getElem?_eq_some_iff.mp hi).1
    have hpl := (List.getElem?_eq_some_iff.mp hp).1
    exact ⟨(List.getElem?_inj hil hnodup).mp (hi.trans hj.symm),
      (List.getElem?_inj hpl (nodup_symbols hg)).mp (hp.trans hq.symm)⟩
  · intro g hg h hh hsource symbol hsg hsh
    exact congrArg Prod.snd (ends_eq_of_common_symbol hg hh hsource hsg hsh)

def forkedExample : Description where
  states := ["q0", "q1"]
  transitions := .ofList [("q0,a", "q1"), ("q0,,", "q1"), ("q0,b", "q0")]

theorem forked_symbol_stands_once :
    ([⟨⟨⟨0⟩, ⟨1⟩⟩, ["a", ","]⟩, ⟨⟨⟨0⟩, ⟨0⟩⟩, ["b"]⟩] : List (Endpoints × List String)) =
        (build forkedExample (.assign ["q0", "q1"])).toList ∧
      ∀ i p : Nat, ∀ g, (build forkedExample (.assign ["q0", "q1"])).toList[i]? = some g →
        g.1.1 = ⟨0⟩ → g.2[p]? = some "," → i = 0 ∧ p = 1 := by
  refine ⟨by decide, fun i p g hi hsource hp => ?_⟩
  exact (symbol_stands_once forkedExample ["q0", "q1"]).1 i 0 p 1 g ((⟨0⟩, ⟨1⟩), ["a", ","]) "," hi
    (by decide) hsource hp (by decide)

end GroupedTransitions
end AutomatonChart
