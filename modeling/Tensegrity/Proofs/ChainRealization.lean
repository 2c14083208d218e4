import Tensegrity.Proofs.Chains
import Tensegrity.Proofs.Placement

/-!
# Realizing a chain

A chain realizes as its root's own components, then each segment's, segment after segment. The
root's own components are a sphere on each joining node – when the specification has a sphere
builder under the empty tag set, since joining nodes carry no tags – and then one component for
each link, junction by junction and, within a junction, connector by connector. A segment is the
unit moved and tagged, which changes nothing of what realization makes of it (see
`Tensegrity.Proofs.Placement`): the same faults, and components of the same kind, tags and
builder, in the same order.

So a chain fails for a connector whose tags have no pair builder or whose cable does not
validate, which matters only when there is a junction, or for a fault of the unit, which
matters only when there is a segment; the fault reported is the first met in that order. Each
segment opens a group tagged with the unit's tags and its number, holding exactly the segment's
components, and followed by the unit's own groups moved to where the segment's components start.
-/

namespace Tensegrity

namespace BuildSpec

/-- A pair's fault is read off its tags alone. -/
theorem pairFault_congr (spec : BuildSpec) {p q : Pair} (h : p.tags = q.tags) :
    spec.pairFault p = spec.pairFault q := by
  unfold pairFault
  rw [h]

/-- **An untagged node is given a sphere** exactly when a sphere builder is registered under the
empty tag set: only an empty key is contained in the empty tag set. -/
theorem exists_sphere_empty_iff (spec : BuildSpec) :
    (∃ c, (Tags.empty, Builder.sphere c) ∈ spec.entries) ↔ ∃ k c, spec.bestNode .empty = some (k, .sphere c) := by
  constructor
  · rintro ⟨c, hc⟩
    have happ : Applies .empty false (Tags.empty, .sphere c) := ⟨rfl, rfl⟩
    rcases h : spec.bestNode .empty with _ | ⟨k, b⟩
    · exact absurd happ ((bestMatch_eq_none_iff spec).1 h _ hc)
    · have hk : b.forPairs = false := (bestMatch_applies spec h).2.1
      cases b with
      | sphere c' => exact ⟨k, c', rfl⟩
      | rod _ => cases hk
      | cable _ => cases hk
  · rintro ⟨k, c, h⟩
    obtain ⟨hmem, -, hk⟩ := bestMatch_applies spec h
    have hempty : k = .empty := by
      obtain ⟨ws⟩ := k
      cases ws with
      | nil => rfl
      | cons w ws => simp [Tags.contains, Tags.empty] at hk
    exact ⟨c, hempty ▸ hmem⟩

/-- The best node builder of the empty tag set, if any, is a sphere. -/
theorem bestNode_empty_cases (spec : BuildSpec) :
    spec.bestNode .empty = none ∨ ∃ k c, spec.bestNode .empty = some (k, .sphere c) := by
  rcases h : spec.bestNode .empty with _ | ⟨k, b⟩
  · exact .inl rfl
  · have hk : b.forPairs = false := (bestMatch_applies spec h).2.1
    cases b with
    | sphere c => exact .inr ⟨k, c, rfl⟩
    | rod _ => cases hk
    | cable _ => cases hk

end BuildSpec

namespace Structure

variable (spec : BuildSpec)

/-- A tree realizes exactly when it has no fault. -/
theorem exists_realize_eq_ok_iff (s : Structure) : (∃ R, s.realize spec = .ok R) ↔ s.faults spec = [] := by
  rw [realize_eq]
  cases s.faults spec <;> simp [Fault.firstOr]

/-- A group starting `x` further holds the same ids moved by `x`. -/
theorem groupOf_add (x y : Nat) (d : Structure) :
    groupOf spec (x + y) d = ⟨(groupOf spec y d).tags, (groupOf spec y d).components.map (· + x)⟩ := by
  simp only [groupOf, Group.mk.injEq, true_and]
  rw [← List.map_add_range']
  exact List.map_congr_left fun i _ => Nat.add_comm x i

/-- **The spheres of untagged nodes**: one on each node, from the builder under the empty tag
set, or none when there is no such builder. -/
theorem nodeSpheres_of_untagged {s : Structure} (h : ∀ nd ∈ s.nodes, nd.tags = .empty) :
    (∀ k c, spec.bestNode .empty = some (k, .sphere c) →
      Realization.nodeSpheres spec s = s.nodes.map fun nd => .rigid (.sphere .empty nd.position c)) ∧
    (spec.bestNode .empty = none → Realization.nodeSpheres spec s = []) := by
  constructor
  · intro k c hc
    rw [Realization.nodeSpheres, ← List.filterMap_eq_map']
    exact List.filterMap_congr fun nd hnd => by rw [h nd hnd, hc]
  · intro hnone
    rw [Realization.nodeSpheres, List.filterMap_eq_nil_iff]
    intro nd hnd
    rw [h nd hnd, hnone]

/-- A pair without a fault is built: the components of pairs none of which is refused are the
pairs' own, one for one. -/
theorem forall₂_pairBuilt (s : Structure) :
    ∀ {ps : List Pair}, (∀ p ∈ ps, spec.pairFault p = none) →
      List.Forall₂ (fun c p => s.pairBuilt spec p = some c) (ps.filterMap (s.pairBuilt spec)) ps
  | [], _ => .nil
  | p :: ps, h => by
    rcases Realization.pairComponent_cases spec s p with ⟨-, c, hc, -⟩ | ⟨f, hf, -⟩
    · rw [List.filterMap_cons_some hc]
      exact .cons hc (forall₂_pairBuilt s fun q hq => h q (List.mem_cons_of_mem p hq))
    · rw [h p List.mem_cons_self] at hf
      cases hf

end Structure

namespace Chain

variable (spec : BuildSpec)

/-- **The fault of a connector**: that of a pair with its tags, which has no pair builder or
whose cable does not validate. Which nodes the pair joins does not matter
(`BuildSpec.pairFault_congr`). -/
def connectorFault (c : Connector) : Option Fault := spec.pairFault ⟨0, 0, Tags.parse c.tags⟩

/-- Every connector builds exactly when a pair with its tags has a pair builder and the cable it
becomes, if any, validates. -/
theorem connectorFaults_eq_nil_iff (j : Junction) :
    j.connectors.filterMap (connectorFault spec) = [] ↔
      ∀ c ∈ j.connectors, (spec.bestPair (Tags.parse c.tags)).isSome ∧
        ∀ k cc, spec.bestPair (Tags.parse c.tags) = some (k, .cable cc) → cc.validate = .ok () := by
  rw [List.filterMap_eq_nil_iff]
  exact forall₂_congr fun c _ => Structure.pairFault_eq_none_iff spec _

/-! ## Segments -/

@[simp] theorem faults_segment (unit : Structure) (offset : Vec3) (i : Nat) :
    (segment unit offset i).faults spec = unit.faults spec := by
  simp [segment, Structure.translate]

/-- **A segment's components are the unit's**, built with the same builders in the same order. -/
theorem flatten_segment_builtWith (unit : Structure) (offset : Vec3) (i : Nat) :
    ((segment unit offset i).flatten spec).map Component.builtWith =
      (unit.flatten spec).map Component.builtWith := by
  rw [segment, Structure.translate, Structure.flatten_builtWith, Structure.flatten_addTags]

@[simp] theorem componentCount_segment (unit : Structure) (offset : Vec3) (i : Nat) :
    (segment unit offset i).componentCount spec = unit.componentCount spec := by
  simp [segment, Structure.translate]

/-- Segment `i` opens a group tagged with the unit's tags and its number. -/
theorem groupOf_segment (unit : Structure) (offset : Vec3) (i x : Nat) :
    Structure.groupOf spec x (segment unit offset i) =
      ⟨unit.tags.add ("segment " ++ Decimal.natText i), List.range' x (unit.componentCount spec)⟩ := by
  simp [Structure.groupOf, segment, Structure.translate]

/-- The groups within a segment are the unit's, at the same places. -/
theorem descendant_groups_segment (unit : Structure) (offset : Vec3) (i x : Nat) :
    (segment unit offset i).descendants.map
        (fun e => Structure.groupOf spec (x + (segment unit offset i).componentStart spec e.1) e.2) =
      unit.descendants.map fun e => Structure.groupOf spec (x + unit.componentStart spec e.1) e.2 := by
  simp [segment, Structure.translate, Structure.descendants_mapPositions, Function.comp_def]

/-- **The groups of consecutive segments**: each segment's group, then the unit's groups within
it, each segment's components starting one unit's count after the one before. -/
theorem groups_segments (unit : Structure) (offset : Vec3) : ∀ (k a start : Nat),
    (Structure.descendantsAmong ((List.range k).map fun i => segment unit offset (i + a))).map
        (fun e => Structure.groupOf spec
          (start + Structure.componentStartAmong spec ((List.range k).map fun i => segment unit offset (i + a)) e.1)
          e.2) =
      (List.range k).flatMap fun i =>
        Structure.groupOf spec (start + i * unit.componentCount spec) (segment unit offset (i + a)) ::
          unit.descendants.map fun e =>
            Structure.groupOf spec (start + i * unit.componentCount spec + unit.componentStart spec e.1) e.2
  | 0, _, _ => rfl
  | k + 1, a, start => by
    -- peel the first segment; the later ones are those numbered from `a + 1`
    have hsegs : ((List.range (k + 1)).map fun i => segment unit offset (i + a)) =
        segment unit offset a :: (List.range k).map fun i => segment unit offset (i + (a + 1)) := by
      rw [List.range_succ_eq_map, List.map_cons, List.map_map, Nat.zero_add]
      exact congrArg _ (List.map_congr_left fun i _ => by simp only [Function.comp_apply]; congr 1; omega)
    rw [hsegs, Structure.groups_cons, descendant_groups_segment, componentCount_segment,
      groups_segments unit offset k (a + 1) (start + unit.componentCount spec), List.range_succ_eq_map, List.flatMap_cons,
      List.flatMap_map]
    simp only [Nat.zero_mul, Nat.add_zero, Nat.zero_add, List.cons_append]
    refine congrArg _ (congrArg _ (List.flatMap_congr fun i _ => ?_))
    have hstart : start + unit.componentCount spec + i * unit.componentCount spec =
        start + (i + 1) * unit.componentCount spec := by
      rw [Nat.succ_mul]
      omega
    rw [hstart, Nat.succ_eq_add_one, show i + (a + 1) = i + 1 + a by omega]

/-! ## The faults of a chain -/

theorem filterMap_pairFault_of_forall₂ {s : Structure} :
    ∀ {ps : List Pair} {ls : List Link}, List.Forall₂ (Joins s) ps ls →
      ps.filterMap spec.pairFault = ls.filterMap fun l => spec.pairFault ⟨0, 0, Tags.parse l.tags⟩
  | [], [], .nil => rfl
  | p :: ps, l :: ls, .cons hp hrest => by
    rw [List.filterMap_cons, List.filterMap_cons, spec.pairFault_congr (q := ⟨0, 0, Tags.parse l.tags⟩) hp.1,
      filterMap_pairFault_of_forall₂ hrest]

/-- The wires' faults are the connectors'. -/
theorem filterMap_wires {unit : Structure} {j : Junction} {ws : List Wire} (h : wires unit j = .ok ws) :
    ws.filterMap (fun w => spec.pairFault ⟨0, 0, Tags.parse w.tags⟩) = j.connectors.filterMap (connectorFault spec) := by
  have hw := wires_eq_ok h
  clear h
  generalize j.connectors = cs at hw ⊢
  induction hw with
  | nil => rfl
  | cons hcw _ ih =>
    rw [List.filterMap_cons, List.filterMap_cons, hcw.2.2, ih]
    rfl

/-- **The faults of a chain**: those of its connectors at every junction, then those of the
unit in every segment. -/
theorem faults_replicate {unit chain : Structure} {n : Nat} {offset : Vec3} {j : Junction}
    (h : unit.replicate n offset j = .ok chain) :
    chain.faults spec = ((List.range (n - 1)).flatMap fun _ => j.connectors.filterMap (connectorFault spec)) ++
      (List.range n).flatMap fun _ => unit.faults spec := by
  obtain ⟨ws, hws, hJ⟩ := joined_replicate h
  rw [Structure.faults_eq, Structure.ownFaults, filterMap_pairFault_of_forall₂ spec hJ.pairs, hJ.children_eq,
    links, segments, List.filterMap_flatMap, List.flatMap_map]
  simp only [List.filterMap_map, Function.comp_def, wireLink, faults_segment, filterMap_wires spec hws]

/-- Copies of a list are empty exactly when there is none or the list is. -/
theorem flatMap_range_const_eq_nil {α : Type} (k : Nat) (l : List α) :
    ((List.range k).flatMap fun _ => l) = [] ↔ k = 0 ∨ l = [] := by
  cases k with
  | zero => simp
  | succ k =>
    simp only [List.flatMap_eq_nil_iff, List.mem_range, Nat.add_one_ne_zero, false_or]
    exact ⟨fun h => h 0 (Nat.succ_pos k), fun h _ _ => h⟩

theorem head?_flatMap_range_const {α : Type} {k : Nat} (hk : 0 < k) (l : List α) :
    ((List.range k).flatMap fun _ => l).head? = l.head? := by
  obtain ⟨k, rfl⟩ : ∃ m, k = m + 1 := ⟨k - 1, by omega⟩
  cases l with
  | nil => simp
  | cons a l => simp [List.range_succ_eq_map]

/-- **When a chain has no fault**: when no junction has a failing connector and no segment a
fault of the unit. -/
theorem faults_replicate_eq_nil {unit chain : Structure} {n : Nat} {offset : Vec3} {j : Junction}
    (h : unit.replicate n offset j = .ok chain) :
    chain.faults spec = [] ↔
      (n ≤ 1 ∨ j.connectors.filterMap (connectorFault spec) = []) ∧ (n = 0 ∨ unit.faults spec = []) := by
  rw [faults_replicate spec h, List.append_eq_nil_iff, flatMap_range_const_eq_nil, flatMap_range_const_eq_nil,
    Nat.sub_eq_zero_iff_le]

/-! ## A chain, realized -/

/-- **The components of a chain**: its own spheres and pair components, then each segment's. -/
theorem flatten_replicate {unit chain : Structure} {n : Nat} {offset : Vec3} {j : Junction}
    (h : unit.replicate n offset j = .ok chain) :
    chain.flatten spec = Realization.nodeSpheres spec chain ++ chain.pairs.filterMap (chain.pairBuilt spec) ++
      (List.range n).flatMap fun i => (segment unit offset (i + 1)).flatten spec := by
  obtain ⟨ws, -, hJ⟩ := joined_replicate h
  rw [Structure.flatten_eq, Structure.ownComponents, hJ.children_eq, segments, List.flatMap_map]

/-- **The groups of a chain**: for each segment in turn, its group, holding the unit's count of
components from where the segment's start, then the unit's groups moved there. -/
theorem groups_replicate {unit chain : Structure} {n : Nat} {offset : Vec3} {j : Junction}
    (h : unit.replicate n offset j = .ok chain) :
    chain.descendants.map (fun e => Structure.groupOf spec (chain.componentStart spec e.1) e.2) =
      (List.range n).flatMap fun i =>
        ⟨unit.tags.add ("segment " ++ Decimal.natText (i + 1)),
          List.range' ((chain.ownComponents spec).length + i * unit.componentCount spec) (unit.componentCount spec)⟩ ::
          (unit.descendants.map fun e => Structure.groupOf spec (unit.componentStart spec e.1) e.2).map fun g =>
            ⟨g.tags, g.components.map (· + ((chain.ownComponents spec).length + i * unit.componentCount spec))⟩ := by
  obtain ⟨ws, -, hJ⟩ := joined_replicate h
  -- a segment's components start after the chain's own
  rw [Structure.descendants_eq chain, List.map_congr_left fun e he =>
      congrArg (Structure.groupOf spec · e.2)
        (Structure.componentStart_eq_own_add spec (Structure.ne_nil_of_mem_descendantsAmong he)),
    hJ.children_eq, segments, groups_segments spec unit offset n 1]
  refine List.flatMap_congr fun i _ => ?_
  rw [groupOf_segment, List.map_map]
  refine congrArg₂ List.cons rfl (List.map_congr_left fun e _ => ?_)
  rw [Function.comp_apply, Structure.groupOf_add]

/-- **When a chain realizes**: when it has no segment, or when the unit realizes and, if there is
a junction with a connector, every connector builds. -/
theorem exists_realize_replicate_iff {unit chain : Structure} {n : Nat} {offset : Vec3} {j : Junction}
    (h : unit.replicate n offset j = .ok chain) :
    (∃ R, chain.realize spec = .ok R) ↔
      n = 0 ∨ (∃ R, unit.realize spec = .ok R) ∧
        (n = 1 ∨ j.connectors = [] ∨ j.connectors.filterMap (connectorFault spec) = []) := by
  rw [Structure.exists_realize_eq_ok_iff, Structure.exists_realize_eq_ok_iff, faults_replicate_eq_nil spec h]
  -- no connector at all is a case of no failing connector
  have hnil : j.connectors = [] → j.connectors.filterMap (connectorFault spec) = [] := fun hj => by
    rw [hj]
    rfl
  constructor
  · rintro ⟨hj, hu⟩
    rcases Nat.eq_zero_or_pos n with hn | hn
    · exact .inl hn
    · refine .inr ⟨hu.resolve_left (by omega), ?_⟩
      rcases hj with hj | hj
      · exact .inl (by omega)
      · exact .inr (.inr hj)
  · rintro (hn | ⟨hu, hj⟩)
    · exact ⟨.inl (by omega), .inl hn⟩
    · refine ⟨?_, .inr hu⟩
      rcases hj with hj | hj | hj
      · exact .inl (by omega)
      · exact .inr (hnil hj)
      · exact .inr hj

/-- **A failing connector stops a chain of two segments or more**, with the fault of the first
one: the first junction is realized before any segment. -/
theorem realize_replicate_of_connectorFault {unit chain : Structure} {n : Nat} {offset : Vec3} {j : Junction}
    (h : unit.replicate n offset j = .ok chain) (hn : 2 ≤ n) {f : Fault} {fs : List Fault}
    (hf : j.connectors.filterMap (connectorFault spec) = f :: fs) : chain.realize spec = .error f := by
  obtain ⟨m, rfl⟩ : ∃ m, n = m + 2 := ⟨n - 2, by omega⟩
  rw [Structure.realize_eq, faults_replicate spec h, show m + 2 - 1 = m + 1 from rfl, List.range_succ_eq_map,
    List.flatMap_cons, hf]
  rfl

/-- **Otherwise a chain fails as its unit does**: with one segment, or when every connector
builds, the first fault is the first segment's. -/
theorem realize_replicate_eq_error_iff {unit chain : Structure} {n : Nat} {offset : Vec3} {j : Junction}
    (h : unit.replicate n offset j = .ok chain) (hn : 1 ≤ n)
    (hj : n = 1 ∨ j.connectors.filterMap (connectorFault spec) = []) (e : Fault) :
    chain.realize spec = .error e ↔ unit.realize spec = .error e := by
  have hjunctions : ((List.range (n - 1)).flatMap fun _ => j.connectors.filterMap (connectorFault spec)) = [] :=
    (flatMap_range_const_eq_nil _ _).2 (hj.imp (by omega) id)
  rw [Structure.realize_eq, Structure.realize_eq, Fault.firstOr_eq_error, Fault.firstOr_eq_error,
    faults_replicate spec h, hjunctions, List.nil_append, head?_flatMap_range_const hn]

/-- **Realizing a chain.** Replicate a unit into `n` segments joined at each junction by the
connectors. The chain realizes exactly when it has no segment, or when the unit realizes and, if
there is a junction with a connector, every connector's tags have a pair builder whose cable, if
any, validates. With two segments or more, the fault of the first failing connector is the
chain's; with one segment, or when every connector builds, the chain fails exactly as the unit
does.

A chain that realizes, of a unit that does, gives its own spheres – one on each joining node
when a sphere builder is registered under the empty tag set, and none otherwise – then one
component for each of its pairs, which join the links junction by junction and connector by
connector, `m * (n - 1)` of them, and then each segment's components, built with the unit's
builders in the unit's order. Its groups are, for each segment in turn, the segment's group,
tagged with the unit's tags and the segment's number and holding exactly the segment's
components, followed by the unit's groups moved to where the segment's components start. -/
theorem replicate_realize {unit chain : Structure} {n : Nat} {offset : Vec3} {j : Junction}
    (spec : BuildSpec) (h : unit.replicate n offset j = .ok chain) :
    ((∃ R, chain.realize spec = .ok R) ↔
      n = 0 ∨ (∃ R, unit.realize spec = .ok R) ∧
        (n = 1 ∨ j.connectors = [] ∨ ∀ c ∈ j.connectors, (spec.bestPair (Tags.parse c.tags)).isSome ∧
          ∀ k cc, spec.bestPair (Tags.parse c.tags) = some (k, .cable cc) → cc.validate = .ok ())) ∧
    (2 ≤ n → ∀ f fs, j.connectors.filterMap (connectorFault spec) = f :: fs → chain.realize spec = .error f) ∧
    (1 ≤ n → (n = 1 ∨ j.connectors.filterMap (connectorFault spec) = []) →
      ∀ e, chain.realize spec = .error e ↔ unit.realize spec = .error e) ∧
    ∀ R Ru, chain.realize spec = .ok R → unit.realize spec = .ok Ru →
      let S := Realization.nodeSpheres spec chain
      let C := chain.pairs.filterMap (chain.pairBuilt spec)
      let start := fun i => S.length + C.length + i * Ru.components.length
      chain.children = segments unit offset n ∧
      R.components = S ++ C ++ (List.range n).flatMap (fun i => (segment unit offset (i + 1)).flatten spec) ∧
      ((∃ c, (Tags.empty, Builder.sphere c) ∈ spec.entries) →
        ∃ k c, spec.bestNode .empty = some (k, .sphere c) ∧
          S = chain.nodes.map fun nd => .rigid (.sphere .empty nd.position c)) ∧
      ((¬∃ c, (Tags.empty, Builder.sphere c) ∈ spec.entries) → S = []) ∧
      (∃ ws, wires unit j = .ok ws ∧ List.Forall₂ (Joins chain) chain.pairs (links unit offset n ws)) ∧
      List.Forall₂ (fun c p => chain.pairBuilt spec p = some c) C chain.pairs ∧
      C.length = j.connectors.length * (n - 1) ∧
      (∀ i, ((segment unit offset i).flatten spec).map Component.builtWith =
        Ru.components.map Component.builtWith) ∧
      R.groups = (List.range n).flatMap fun i =>
        ⟨unit.tags.add ("segment " ++ Decimal.natText (i + 1)), List.range' (start i) Ru.components.length⟩ ::
          Ru.groups.map fun g => ⟨g.tags, g.components.map (· + start i)⟩ := by
  obtain ⟨ws, hws, hJ⟩ := joined_replicate h
  refine ⟨?_, fun hn f fs hf => realize_replicate_of_connectorFault spec h hn hf,
    fun hn hj => realize_replicate_eq_error_iff spec h hn hj, ?_⟩
  · rw [exists_realize_replicate_iff spec h, connectorFaults_eq_nil_iff]
  · intro R Ru hR hRu
    rw [Structure.realize_eq, Fault.firstOr_eq_ok] at hR hRu
    obtain ⟨hcf, rfl⟩ := hR
    obtain ⟨-, rfl⟩ := hRu
    intro S C start
    have hpairs : ∀ p ∈ chain.pairs, spec.pairFault p = none :=
      (Structure.faults_eq_nil_iff spec chain).1 hcf chain (Structure.mem_subtree_self chain)
    have hC : List.Forall₂ (fun c p => chain.pairBuilt spec p = some c) C chain.pairs :=
      Structure.forall₂_pairBuilt spec chain hpairs
    have hstart : ∀ i, start i = (chain.ownComponents spec).length + i * unit.componentCount spec := fun i => by
      simp only [start, S, C, Structure.ownComponents, List.length_append, Structure.componentCount]
    refine ⟨hJ.children_eq, ?_, ?_, ?_, ⟨ws, hws, hJ.pairs⟩, hC, ?_,
      fun i => flatten_segment_builtWith spec unit offset i, ?_⟩
    · rw [flatten_replicate spec h, List.append_assoc]
    · intro hex
      obtain ⟨k, c, hkc⟩ := (BuildSpec.exists_sphere_empty_iff spec).1 hex
      exact ⟨k, c, hkc, (Structure.nodeSpheres_of_untagged spec hJ.untagged).1 k c hkc⟩
    · intro hnot
      refine (Structure.nodeSpheres_of_untagged spec hJ.untagged).2 ?_
      exact (BuildSpec.bestNode_empty_cases spec).resolve_right fun hex =>
        hnot ((BuildSpec.exists_sphere_empty_iff spec).2 hex)
    · rw [hC.length_eq, hJ.pairs.length_eq, length_links, (wires_eq_ok hws).length_eq, Nat.mul_comm]
    · rw [groups_replicate spec h]
      refine List.flatMap_congr fun i _ => ?_
      rw [hstart]
      rfl

/-- A unit of one rod, for the chains below. -/
def rodUnit : Structure :=
  { nodes := [.ofPosition ⟨0, 0, 0⟩, .ofPosition ⟨0, 1, 0⟩], pairs := [⟨0, 1, Tags.parse "rod"⟩] }

/-- A junction of one connector, tagged `wire`, from the top of a rod to the bottom of the next. -/
def wireJunction : Junction := ⟨[⟨.index 1, .index 0, "wire"⟩]⟩

/-- Two rods two apart, the top of the first wired to the bottom of the second. -/
def wiredRods : Structure :=
  { children := [segment rodUnit ⟨0, 2, 0⟩ 1, segment rodUnit ⟨0, 2, 0⟩ 2],
    nodes := [.ofPosition ((⟨0, 1, 0⟩ : Vec3) + (⟨0, 2, 0⟩ : Vec3) * Float32.ofNat 1),
      .ofPosition ((⟨0, 0, 0⟩ : Vec3) + (⟨0, 2, 0⟩ : Vec3) * Float32.ofNat 2)],
    pairs := [⟨0, 1, Tags.parse "wire"⟩] }

/-- Two rods wired by a connector that nothing builds: the chain is `wiredRods`, and it fails with
the wire's fault, though the rods would build. -/
theorem unbuilt_wire_stops_chain :
    rodUnit.replicate 2 ⟨0, 2, 0⟩ wireJunction = .ok wiredRods ∧
      wiredRods.realize (BuildSpec.empty.add "rod" (.rod {})) = .error (.unbound (Tags.parse "wire")) :=
  have h : rodUnit.replicate 2 ⟨0, 2, 0⟩ wireJunction = .ok wiredRods := by
    have hnodes : ∀ i, (segment rodUnit ⟨0, 2, 0⟩ i).nodes =
        [.ofPosition ((⟨0, 0, 0⟩ : Vec3) + (⟨0, 2, 0⟩ : Vec3) * Float32.ofNat i),
          .ofPosition ((⟨0, 1, 0⟩ : Vec3) + (⟨0, 2, 0⟩ : Vec3) * Float32.ofNat i)] := fun i => by
      simp [segment, Structure.translate, rodUnit, Structure.addTags, Node.mapPosition, Node.ofPosition]
    have hsame : Vec3.same ((⟨0, 1, 0⟩ : Vec3) + (⟨0, 2, 0⟩ : Vec3) * Float32.ofNat 1)
        ((⟨0, 0, 0⟩ : Vec3) + (⟨0, 2, 0⟩ : Vec3) * Float32.ofNat 2) = false := by decide
    have hjoints : (List.range' 1 (2 - 1)).zip ((segments rodUnit ⟨0, 2, 0⟩ 2).zip (segments rodUnit ⟨0, 2, 0⟩ 2).tail) =
        [(1, segment rodUnit ⟨0, 2, 0⟩ 1, segment rodUnit ⟨0, 2, 0⟩ 2)] := by
      rw [joints_eq]
      rfl
    unfold Structure.replicate
    rw [show wires rodUnit wireJunction = .ok [⟨1, 0, "wire"⟩] from rfl]
    simp only [bind, Except.bind]
    rw [← segments, hjoints]
    simp [Chain.joinAll, Chain.joinSegments, hnodes, hsame, Structure.connect, Structure.nodeAtOrAdd,
      Structure.nodeAt?, Structure.addNode, Structure.addNodeAt, Structure.addPair, Node.ofPosition]
    rfl
  ⟨h, (replicate_realize (BuildSpec.empty.add "rod" (.rod {})) h).2.1 (by decide) _ [] rfl⟩

end Chain

end Tensegrity
