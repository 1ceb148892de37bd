import AutomatonChart.Proofs.KeySplitting

/-! # Keys made from transitions

As long as symbols hold no comma, the key that joins a source to a symbol is cut again at the comma
that joined them, whatever commas the labels hold. So a description written with such keys gives
back the transitions that it was written from.
-/
namespace AutomatonChart

namespace Key

theorem cutLast_append {c : Char} (front : List Char) {back : List Char} (h : c ∉ back) :
    cutLast c (front ++ c :: back) = some (front, back) := by
  induction front with
  | nil => simp [cutLast, cutLast_eq_none.mpr h]
  | cons x rest ih => simp [cutLast, ih]

theorem split_join (source : String) {symbol : String} (h : ',' ∉ symbol.toList) :
    split (join source symbol) = some (source, symbol) := by
  have hj : (join source symbol).toList = source.toList ++ ',' :: symbol.toList := by simp [join]
  rw [split, hj, cutLast_append _ h, Option.map_some, texts, String.ofList_toList,
    String.ofList_toList]

/-- A declared source is never captured by another label. -/
theorem resolve_join {known : String → Bool} {source symbol : String}
    (hs : ',' ∉ symbol.toList) (hk : known source = true) :
    resolve known (join source symbol) = some (source, symbol) :=
  resolve_of_known_last (split_eq_getLast? _ ▸ split_join source hs) hk

theorem join_injective {p q : String × String} (hp : ',' ∉ p.2.toList) (hq : ',' ∉ q.2.toList)
    (h : join p.1 p.2 = join q.1 q.2) : p = q := by
  have hs := split_join p.1 hp
  rw [h, split_join q.1 hq] at hs
  exact (Option.some.inj hs).symm

end Key

namespace Transition

def key (t : Transition) : String := Key.join t.source t.symbol

def entry (t : Transition) : String × String := (t.key, t.target)

end Transition

theorem nodup_keys {ts : List Transition} (hs : ∀ t ∈ ts, ',' ∉ t.symbol.toList)
    (hp : (ts.map fun t => (t.source, t.symbol)).Nodup) : (ts.map Transition.key).Nodup := by
  have hkeys : ts.map Transition.key =
      (ts.map fun t => (t.source, t.symbol)).map fun p => Key.join p.1 p.2 := by
    rw [List.map_map]
    rfl
  rw [hkeys]
  apply hp.map_on
  intro p hpm q hqm he
  obtain ⟨t, ht, rfl⟩ := List.mem_map.mp hpm
  obtain ⟨u, hu, rfl⟩ := List.mem_map.mp hqm
  exact Key.join_injective (hs t ht) (hs u hu) he

namespace Description

theorem resolved_of_entries {d : Description} {ts : List Transition}
    (he : d.transitions.entries = ts.map Transition.entry)
    (ht : ∀ t ∈ ts, t.source ∈ d.states ∧ ',' ∉ t.symbol.toList) : d.resolved = ts := by
  rw [resolved, he, List.filterMap_map]
  have hsome : ∀ t ∈ ts, (d.resolveEntry ∘ Transition.entry) t = some t := by
    intro t hm
    obtain ⟨hs, hc⟩ := ht t hm
    change (Key.resolve d.declares (Key.join t.source t.symbol)).map _ = some t
    rw [Key.resolve_join hc (declares_iff.mpr hs)]
    rfl
  rw [List.filterMap_congr hsome, List.filterMap_some]

end Description

theorem StateIds.get?_assign_of_nodup {states : List String} (h : states.Nodup) {label : String}
    {i : Nat} : (assign states).get? label = some ⟨i⟩ ↔ states[i]? = some label := by
  rw [get?_eq_some, assign, OrderedSet.toList_ofList_of_nodup h]

/-- A list of transitions between declared states, with distinct pairs of source and symbol and no
comma in a symbol, is what a description with their keys resolves to, and its groups collect the
symbols from each state to each other one in the order of the list. -/
theorem keyed_transitions_faithful {states : List String} {ts : List Transition}
    (hstates : states.Nodup)
    (hts : ∀ t ∈ ts, t.source ∈ states ∧ t.target ∈ states ∧ ',' ∉ t.symbol.toList)
    (hpairs : (ts.map fun t => (t.source, t.symbol)).Nodup)
    (accepting : OrderedSet String) (start : Option String) :
    let d : Description := ⟨states, accepting, start, .ofList (ts.map Transition.entry)⟩
    let groups := (GroupedTransitions.build d (.assign states)).toList
    (ts.map Transition.key).Nodup ∧ d.transitions.entries = ts.map Transition.entry ∧
      d.resolved = ts ∧ ∀ i j : Nat,
        ((∃ symbols, ((⟨i⟩, ⟨j⟩), symbols) ∈ groups) ↔
          ∃ t ∈ ts, states[i]? = some t.source ∧ states[j]? = some t.target) ∧
        ∀ symbols, ((⟨i⟩, ⟨j⟩), symbols) ∈ groups → symbols = (ts.filter fun t =>
          states[i]? = some t.source ∧ states[j]? = some t.target).map Transition.symbol := by
  intro d groups
  have hkeys := nodup_keys (fun t ht => (hts t ht).2.2) hpairs
  have hentries : d.transitions.entries = ts.map Transition.entry := by
    apply OrderedMap.entries_ofList
    rw [List.map_map]
    exact hkeys
  have hresolved : d.resolved = ts :=
    Description.resolved_of_entries hentries fun t ht => ⟨(hts t ht).1, (hts t ht).2.2⟩
  have hends : ∀ (i j : Nat) (t : Transition),
      GroupedTransitions.endpoints? (.assign states) t = some (⟨i⟩, ⟨j⟩) ↔
        states[i]? = some t.source ∧ states[j]? = some t.target := by
    intro i j t
    rw [GroupedTransitions.endpoints?_eq_some]
    simp only [StateIds.get?_assign_of_nodup hstates]
  refine ⟨hkeys, hentries, hresolved, fun i j => ?_⟩
  simp only [groups, GroupedTransitions.mem_toList_build, GroupedTransitions.mem_ends_placed,
    GroupedTransitions.valuesOf_placed, hresolved, hends]
  constructor
  · constructor
    · rintro ⟨symbols, h, -⟩
      exact h
    · exact fun h => ⟨_, h, rfl⟩
  · exact fun symbols h => h.2

def prefixedTransitions : List Transition :=
  [⟨"a", "b", "a,b"⟩, ⟨"a,b", "", "a"⟩, ⟨"a", "x", "a,b"⟩]

theorem prefixed_transitions_faithful :
    let d : Description :=
      ⟨["a", "a,b"], .empty, none, .ofList (prefixedTransitions.map Transition.entry)⟩
    d.resolved = prefixedTransitions ∧
      ((⟨0⟩, ⟨1⟩), ["b", "x"]) ∈ (GroupedTransitions.build d (.assign ["a", "a,b"])).toList := by
  obtain ⟨-, -, hresolved, hgroups⟩ := @keyed_transitions_faithful ["a", "a,b"] prefixedTransitions
    (by decide) (by decide) (by decide) .empty none
  obtain ⟨symbols, hg⟩ := (hgroups 0 1).1.mpr ⟨⟨"a", "b", "a,b"⟩, by decide, by decide⟩
  have hsymbols : symbols = ["b", "x"] := (hgroups 0 1).2 symbols hg
  exact ⟨hresolved, hsymbols ▸ hg⟩

end AutomatonChart
