import Mathlib
import Tensegrity.Preset
import Tensegrity.Proofs.ChainRealization
import Tensegrity.Proofs.Queries
import Tensegrity.Proofs.Building
import Tensegrity.Proofs.TagText

/-!
# The tetrahedral spine, built

A spine of `n` segments is a chain of the tetrahedral unit. Built with the spine's builders, it
makes, in realization order, the chain's own components and then each segment's. The chain's own
nodes are untagged and no sphere builder is registered, so its own components are one cable for
each junction connector, junction by junction: `6 * (n - 1)` of them. Each segment then makes the
unit's eight rods in the unit's order. Which builder a pair gets is read off its tags alone, so
the whole build is fixed by the connectors' and the unit's tags (`Preset.spineBuilds`): a muscle
whose tags hold `top` gets the stiff top muscle, `top muscle` being more specific than any side
key it could meet, and every other the side muscle; every rod gets the light rod, since no rod's
tags hold `static`.

Binding the six muscle groups then names, for each group, the one connector whose tags its query
reads, once in each junction. Each segment opens a group tagged with its number, holding its eight
rods, so a query for `segment` finds every segment's group and one for `segment k` finds segment
`k`'s alone: the words of `segment k` are `segment` and the digits of `k`.

`Preset.BuiltSpine` gathers what the built model holds. A spine is made when no two points its
junctions join coincide, which its single-precision positions decide; a spine of two segments
is (`Preset.tetraSpine_two`).
-/

namespace Tensegrity

/-- **What a pair with tags `t` builds**: the tags and the best pair builder, if there is one. -/
def BuildSpec.pairBuild (spec : BuildSpec) (t : Tags) : Option (Tags × Builder) :=
  (spec.bestPair t).map fun r => (t, r.2)

namespace Structure

/-- **A pair's component is built with its tags and its best pair builder.** -/
theorem pairBuilt_builtWith (spec : BuildSpec) (s : Structure) (p : Pair) :
    (s.pairBuilt spec p).map Component.builtWith = spec.pairBuild p.tags := by
  unfold pairBuilt BuildSpec.pairBuild
  cases hbest : spec.bestPair p.tags with
  | none => rfl
  | some r =>
    obtain ⟨k, b⟩ := r
    cases b with
    | rod c => rfl
    | cable c => rfl
    | sphere c =>
      -- a sphere is never the best pair builder
      have hpairs := BuildSpec.bestPair_forPairs spec hbest
      cases hpairs

/-- The components of a structure's pairs, read back, are what their tags build. -/
theorem pairs_builtWith (spec : BuildSpec) (s : Structure) :
    (s.pairs.filterMap (s.pairBuilt spec)).map Component.builtWith = (s.pairs.map (·.tags)).filterMap spec.pairBuild := by
  rw [List.map_filterMap, List.filterMap_map]
  exact List.filterMap_congr fun p _ => pairBuilt_builtWith spec s p

end Structure

/-- Lists related pointwise by equal images have equal images. -/
theorem map_eq_map_of_forall₂ {α β γ : Type} {R : α → β → Prop} {f : α → γ} {g : β → γ}
    (hfg : ∀ a b, R a b → f a = g b) : ∀ {l : List α} {l' : List β}, List.Forall₂ R l l' → l.map f = l'.map g
  | _, _, .nil => rfl
  | _, _, .cons hab h => by rw [List.map_cons, List.map_cons, hfg _ _ hab, map_eq_map_of_forall₂ hfg h]

/-- The cable a builder makes, if it makes one. -/
def Builder.cable? : Builder → Option CableConfig
  | .cable c => some c
  | _ => none

/-- A builder that makes a cable is that cable's builder. -/
theorem Builder.eq_cable_of_cable? {b : Builder} {k : CableConfig} (h : b.cable? = some k) : b = .cable k := by
  cases b with
  | cable c =>
    cases h
    rfl
  | rod c => cases h
  | sphere c => cases h

/-- What a component built with `e` is as a cable: its tags and configuration, if it is one. -/
def cableEntry (e : Tags × Builder) : Option (Tags × CableConfig) := e.2.cable?.map (e.1, ·)

/-- **The actuators are the components built as cables**, with their tags and configurations. -/
theorem actuators_builtWith (cs : List Component) :
    (cs.filterMap Component.actuator?).map (fun a => (a.tags, a.config)) =
      (cs.map Component.builtWith).filterMap cableEntry := by
  induction cs with
  | nil => rfl
  | cons c cs ih =>
    cases c with
    | rigid b =>
      -- a rigid body is built as a rod or a sphere, never as a cable
      have hnone : cableEntry (Component.rigid b).builtWith = none := by
        simp only [Component.builtWith]
        split <;> rfl
      rw [List.map_cons, List.filterMap_cons_none hnone, ← ih]
      rfl
    | actuator a =>
      have hact : (Component.actuator a).actuator? = some a := rfl
      have hcable : cableEntry (Component.actuator a).builtWith = some (a.tags, a.config) := rfl
      rw [List.filterMap_cons_some hact, List.map_cons, List.map_cons, List.filterMap_cons_some hcable, ih]

/-- A component is built with its own tags. -/
@[simp] theorem Component.builtWith_fst (c : Component) : c.builtWith.1 = c.tags := by
  cases c with
  | rigid b =>
    simp only [Component.builtWith]
    split <;> rfl
  | actuator a => rfl

/-- A component built as a cable is an actuator. -/
theorem Component.eq_actuator_of_cable {c : Component} {k : CableConfig} (h : c.builtWith.2 = .cable k) :
    ∃ a, c = .actuator a := by
  cases c with
  | rigid b =>
    simp only [Component.builtWith] at h
    split at h <;> cases h
  | actuator a => exact ⟨a, rfl⟩

namespace Model

/-- **A query finds as many ids as components whose tags contain it.** -/
theorem length_findIds (m : Model) (q : String) :
    (m.findIds q).length = (m.components.map Component.builtWith).countP fun e => e.1.contains (Tags.parse q) := by
  have h := congrArg List.length (map_component?_findIds m q)
  rw [List.length_map, List.length_map] at h
  rw [h, find, List.countP_map, List.countP_eq_length_filter]
  simp [Function.comp_def]

/-- **Binding labels in turn** changes nothing but the bindings. -/
theorem foldl_bind_eq (gs : List (String × String)) (m : Model) :
    gs.foldl (fun m g => (m.bind g.1 g.2).1) m = { m with bindings := (gs.foldl (fun m g => (m.bind g.1 g.2).1) m).bindings } := by
  induction gs generalizing m with
  | nil => rfl
  | cons g gs ih =>
    rw [List.foldl_cons, ih]
    -- a binding rewrites the bindings alone
    rfl

/-- Labels bound in turn leave every other label as it was. -/
theorem lookup_foldl_bind_of_not_mem (gs : List (String × String)) (m : Model) {l : String}
    (hl : l ∉ gs.map Prod.fst) : (gs.foldl (fun m g => (m.bind g.1 g.2).1) m).lookup l = m.lookup l := by
  induction gs generalizing m with
  | nil => rfl
  | cons g gs ih =>
    rw [List.map_cons, List.mem_cons, not_or] at hl
    rw [List.foldl_cons, ih _ hl.2, lookup_bind, if_neg (Ne.symm hl.1)]

/-- **Labels bound in turn, each once**, are each bound to what their query finds: a binding
does not change the components a later query reads. -/
theorem lookup_foldl_bind (gs : List (String × String)) (hgs : (gs.map Prod.fst).Nodup) (m : Model)
    {l q : String} (h : (l, q) ∈ gs) : (gs.foldl (fun m g => (m.bind g.1 g.2).1) m).lookup l = .ok (m.findIds q) := by
  induction gs generalizing m with
  | nil => cases h
  | cons g gs ih =>
    rw [List.map_cons, List.nodup_cons] at hgs
    rw [List.foldl_cons]
    rcases List.mem_cons.1 h with rfl | hmem
    · -- the label is bound here, and no later binding names it
      rw [lookup_foldl_bind_of_not_mem gs _ hgs.1, lookup_bind, if_pos rfl]
    · rw [ih hgs.2 _ hmem]
      rfl

end Model

/-! ## Segment numbers -/

/-- Digits are not blank. -/
theorem Text.isBlank_of_isDigit {c : Char} (h : c.isDigit = true) : Text.isBlank c = false := by
  simp only [Char.isDigit, Bool.and_eq_true, decide_eq_true_eq] at h
  have h1 : 48 ≤ c.toNat := h.1
  have h2 : c.toNat ≤ 57 := h.2
  simp [Text.isBlank, Text.blankRanges]
  omega

/-- The decimal text of a number is one word. -/
theorem Decimal.isWord_natText (k : Nat) : Text.IsWord (Decimal.natText k) :=
  Text.isWord_ofList Nat.toDigits_ne_nil fun _ hc =>
    Text.isBlank_of_isDigit (Nat.isDigit_of_mem_toDigits (by decide) (by decide) hc)

/-- **Numbers are told apart by their decimal text.** -/
theorem Decimal.natText_injective : Function.Injective Decimal.natText := by
  intro a b h
  have hdigits : Nat.toDigits 10 a = Nat.toDigits 10 b := by
    simpa [Decimal.natText] using congrArg String.toList h
  rw [← Nat.ofDigitChars_ten_toDigits (n := a), hdigits, Nat.ofDigitChars_ten_toDigits]

/-- A number's text is not the word `segment`, which is no digit. -/
theorem Decimal.natText_ne_segment (k : Nat) : Decimal.natText k ≠ "segment" := by
  intro h
  have hs : 's' ∈ Nat.toDigits 10 k := by
    have hs' : 's' ∈ (Decimal.natText k).toList := by
      rw [h]
      decide
    simpa [Decimal.natText] using hs'
  exact absurd (Nat.isDigit_of_mem_toDigits (by decide) (by decide) hs) (by decide)

/-- **The words of `segment k`** are `segment` and the digits of `k`. -/
theorem words_segment (k : Nat) : Text.words ("segment " ++ Decimal.natText k) = ["segment", Decimal.natText k] := by
  have hsplit : ("segment " : String) = "segment" ++ " " := by decide
  have hsegment : Text.words "segment" = ["segment"] := by decide
  rw [hsplit, Text.words_append_space, hsegment, Text.words_of_isWord (Decimal.isWord_natText k)]
  rfl

/-- Every segment's tags hold the word `segment`. -/
theorem segment_subset_segment_number (k : Nat) :
    (Tags.parse "segment").tokens ⊆ (Tags.parse ("segment " ++ Decimal.natText k)).tokens := by
  have hsegment : Text.words "segment" = ["segment"] := by decide
  intro w hw
  rw [Tags.mem_parse_tokens, hsegment, List.mem_singleton] at hw
  rw [Tags.mem_parse_tokens, words_segment, hw]
  exact List.mem_cons_self

/-- **The query `segment k` reads segment `j`'s tags exactly when `k = j`**: both hold `segment`,
and the number is the other word. -/
theorem segment_number_subset_iff (k j : Nat) :
    (Tags.parse ("segment " ++ Decimal.natText k)).tokens ⊆ (Tags.parse ("segment " ++ Decimal.natText j)).tokens ↔
      k = j := by
  constructor
  · intro h
    have hk : Decimal.natText k ∈ (Tags.parse ("segment " ++ Decimal.natText j)).tokens :=
      h ((Tags.mem_parse_tokens _ _).2 (by rw [words_segment]; exact List.mem_cons_of_mem _ List.mem_cons_self))
    rw [Tags.mem_parse_tokens, words_segment, List.mem_cons, List.mem_singleton] at hk
    rcases hk with hk | hk
    · exact absurd hk (Decimal.natText_ne_segment k)
    · exact Decimal.natText_injective hk
  · rintro rfl
    exact List.Subset.refl _

namespace Preset

/-- **What each junction of the spine builds**, connector by connector: a cable of the stiff top
muscle for each `top` muscle and of the softer side muscle for every other. -/
def junctionBuilds : List (Tags × Builder) :=
  [(.parse "outer right muscle", .cable (muscle 1355.8)), (.parse "outer left muscle", .cable (muscle 1355.8)),
   (.parse "outer top muscle", .cable (muscle 10000)), (.parse "inner right muscle", .cable (muscle 1355.8)),
   (.parse "inner left muscle", .cable (muscle 1355.8)), (.parse "inner top muscle", .cable (muscle 10000))]

/-- **What each segment of the spine builds**: the unit's eight rods, in the unit's order, each
a light rod. -/
def segmentBuilds : List (Tags × Builder) :=
  unitRods.map fun r => (.parse r.2.2, .rod { RodConfig.new 0.635 0.00311 with friction := 0.8 })

/-- **What a spine of `n` segments builds**, in order: the cables of each junction in turn, then
the rods of each segment in turn. -/
def spineBuilds (n : Nat) : List (Tags × Builder) :=
  (List.range (n - 1)).flatMap (fun _ => junctionBuilds) ++ (List.range n).flatMap fun _ => segmentBuilds

/-- The group segment `i + 1` of a spine of `n` opens: tagged with its number, holding its eight
rods, after the `6 * (n - 1)` cables and the rods of the segments before it. -/
def segmentGroup (n i : Nat) : Group :=
  ⟨.parse ("segment " ++ Decimal.natText (i + 1)), List.range' (6 * (n - 1) + i * 8) 8⟩

/-! ## The unit and the junction -/

/-- **The unit**: built without fault, untagged and without children, its pairs build without
fault and, under the spine's builders, it makes the eight rods of `segmentBuilds`. -/
theorem tetraUnit_layout : ∃ u, tetraUnit edge = .ok u ∧ u.tags = .empty ∧ u.children = [] ∧
    u.faults tetraSpineSpec = [] ∧ (u.flatten tetraSpineSpec).map Component.builtWith = segmentBuilds :=
  ⟨_, rfl, rfl, rfl, rfl, rfl⟩

/-- **The junction's connectors build** the cables of `junctionBuilds`, none refused. -/
theorem junction_builds :
    (tetraJunction.connectors.map fun c => Tags.parse c.tags).filterMap tetraSpineSpec.pairBuild = junctionBuilds ∧
      tetraJunction.connectors.filterMap (Chain.connectorFault tetraSpineSpec) = [] :=
  ⟨rfl, rfl⟩

/-- No sphere builder is registered, so untagged nodes make nothing. -/
theorem bestNode_empty : tetraSpineSpec.bestNode .empty = none := rfl

/-! ## Realizing a spine -/

section Realizing

variable {n : Nat} {u spine : Structure}

/-- A spine's pairs carry its junctions' connector tags, junction by junction. -/
theorem spine_pair_tags (h : (u.translate unitPosition).replicate n segmentOffset tetraJunction = .ok spine) :
    spine.pairs.map (·.tags) = (List.range (n - 1)).flatMap fun _ => tetraJunction.connectors.map fun c => Tags.parse c.tags := by
  obtain ⟨ws, hws, hJ⟩ := Chain.joined_replicate h
  -- each pair carries its link's tags, and each link its wire's, which are its connector's
  have hpairs : spine.pairs.map (·.tags) = (Chain.links (u.translate unitPosition) segmentOffset n ws).map
      fun l => Tags.parse l.tags :=
    map_eq_map_of_forall₂ (fun _ _ hj => hj.1) hJ.pairs
  have hwires : ws.map (fun w => Tags.parse w.tags) = tetraJunction.connectors.map fun c => Tags.parse c.tags :=
    (map_eq_map_of_forall₂ (fun _ _ hc => congrArg Tags.parse hc.2.2.symm) (Chain.wires_eq_ok hws)).symm
  rw [hpairs, Chain.links, List.map_flatMap]
  refine List.flatMap_congr fun i _ => ?_
  rw [List.map_map, ← hwires]
  rfl

/-- **A spine's own components are its junctions' cables**: what `junctionBuilds` says, once for
each junction. -/
theorem spine_own_builtWith (h : (u.translate unitPosition).replicate n segmentOffset tetraJunction = .ok spine) :
    (spine.ownComponents tetraSpineSpec).map Component.builtWith = (List.range (n - 1)).flatMap fun _ => junctionBuilds := by
  obtain ⟨ws, -, hJ⟩ := Chain.joined_replicate h
  have hspheres : Realization.nodeSpheres tetraSpineSpec spine = [] :=
    (Structure.nodeSpheres_of_untagged tetraSpineSpec hJ.untagged).2 bestNode_empty
  rw [Structure.ownComponents, hspheres, List.nil_append, Structure.pairs_builtWith, spine_pair_tags h,
    List.filterMap_flatMap, junction_builds.1]

/-- The moved unit keeps the unit's tags, children, faults and components. -/
theorem unit_moved (hu : tetraUnit edge = .ok u) :
    (u.translate unitPosition).tags = .empty ∧ (u.translate unitPosition).descendants = [] ∧
      (u.translate unitPosition).faults tetraSpineSpec = [] ∧
      ((u.translate unitPosition).flatten tetraSpineSpec).map Component.builtWith = segmentBuilds := by
  obtain ⟨u₀, hu₀, htags, hchildren, hfaults, hbuilds⟩ := tetraUnit_layout
  obtain rfl : u = u₀ := Except.ok.inj (hu.symm.trans hu₀)
  refine ⟨by rw [Structure.translate, Structure.mapPositions_tags, htags], ?_, ?_, ?_⟩
  · rw [Structure.translate, Structure.descendants_mapPositions, Structure.descendants_eq, hchildren]
    rfl
  · rw [Structure.translate, Structure.faults_mapPositions, hfaults]
  · rw [Structure.translate, Structure.flatten_builtWith, hbuilds]

/-- **A spine realizes as `spineBuilds` says**, with one group for each segment, holding its
rods. -/
theorem realize_spine (hu : tetraUnit edge = .ok u)
    (h : (u.translate unitPosition).replicate n segmentOffset tetraJunction = .ok spine) :
    ∃ R, spine.realize tetraSpineSpec = .ok R ∧ R.components.map Component.builtWith = spineBuilds n ∧
      R.groups = (List.range n).map (segmentGroup n) := by
  obtain ⟨htags, hdesc, hfaults, hbuilds⟩ := unit_moved hu
  have hnofault : spine.faults tetraSpineSpec = [] :=
    (Chain.faults_replicate_eq_nil tetraSpineSpec h).2 ⟨.inr junction_builds.2, .inr hfaults⟩
  have hcount : (u.translate unitPosition).componentCount tetraSpineSpec = 8 := by
    rw [Structure.componentCount, ← List.length_map, hbuilds]
    rfl
  have hown : (spine.ownComponents tetraSpineSpec).length = 6 * (n - 1) := by
    rw [← List.length_map, spine_own_builtWith h, List.length_flatMap]
    simp [junctionBuilds, Nat.mul_comm]
  refine ⟨_, by rw [Structure.realize_eq, hnofault]; rfl, ?_, ?_⟩
  · -- the spine's own cables, then each segment's rods
    rw [Chain.flatten_replicate tetraSpineSpec h, List.map_append, List.map_append, List.map_flatMap]
    rw [← List.map_append, ← Structure.ownComponents, spine_own_builtWith h, spineBuilds]
    congr 1
    refine List.flatMap_congr fun i _ => ?_
    rw [Chain.flatten_segment_builtWith, hbuilds]
  · -- one group for each segment, and none within it
    show spine.descendants.map _ = _
    rw [Chain.groups_replicate tetraSpineSpec h, hdesc, htags, hcount, hown, List.map_nil]
    rw [List.map_eq_flatMap]
    rfl

end Realizing

/-! ## Building a spine -/

/-- A handle does not change what a component was built with. -/
@[simp] theorem builtWith_withHandle (c : Component) (h : Nat) : (c.withHandle h).builtWith = c.builtWith := by
  cases c <;> rfl

/-- Installing keeps what every component was built with. -/
theorem installAll_builtWith (w : World) (cs : List Component) :
    (w.installAll cs).2.map Component.builtWith = cs.map Component.builtWith := by
  rw [World.installAll_snd]
  apply List.ext_getElem?
  intro i
  simp [List.getElem?_mapIdx, Function.comp_def]

/-- A spine is its unit, moved and replicated. -/
theorem tetraSpine_eq_ok {n : Nat} {spine : Structure} (h : tetraSpine n = .ok spine) :
    ∃ u, tetraUnit edge = .ok u ∧ (u.translate unitPosition).replicate n segmentOffset tetraJunction = .ok spine :=
  exists_of_bind_eq_ok h

/-- **Building a spine into an unbuilt model succeeds**: the model's components are what
`spineBuilds` says, in order, and its groups are the segments'. -/
theorem buildInto_spine {n : Nat} {spine : Structure} (h : tetraSpine n = .ok spine) {m : Model}
    (hm : m.built = false) (w : World) :
    ∃ m' w', m.buildInto spine tetraSpineSpec w = .ok (m', w') ∧
      m'.components.map Component.builtWith = spineBuilds n ∧ m'.groups = (List.range n).map (segmentGroup n) := by
  obtain ⟨u, hu, hrep⟩ := tetraSpine_eq_ok h
  obtain ⟨R, hR, hcomponents, hgroups⟩ := realize_spine hu hrep
  refine ⟨_, _, Model.buildInto_eq_ok hm hR, ?_, hgroups⟩
  show (w.installAll R.components).2.map Component.builtWith = spineBuilds n
  rw [installAll_builtWith, hcomponents]

/-! ## Actuators and rigid bodies -/

/-- The junction's cables: a `top` muscle is stiff, every other soft. -/
theorem junction_cables : junctionBuilds.filterMap cableEntry =
    (junctionBuilds.filterMap cableEntry).map fun e => (e.1, if "top" ∈ e.1.tokens then muscle 10000 else muscle 1355.8) :=
  rfl

/-- **The actuators of a built spine**: `6 * (n - 1)` of them, each a junction's cable, stiff
exactly when its tags hold `top`. -/
theorem actuators_spine {n : Nat} {m : Model} (h : m.components.map Component.builtWith = spineBuilds n) :
    m.actuators.length = 6 * (n - 1) ∧
      ∀ a ∈ m.actuators, a.config = if "top" ∈ a.tags.tokens then muscle 10000 else muscle 1355.8 := by
  have hcables : m.actuators.map (fun a => (a.tags, a.config)) =
      (List.range (n - 1)).flatMap fun _ => junctionBuilds.filterMap cableEntry := by
    rw [Model.actuators, actuators_builtWith, h, spineBuilds, List.filterMap_append, List.filterMap_flatMap,
      List.filterMap_flatMap]
    -- rods are no cables
    have hrods : segmentBuilds.filterMap cableEntry = [] := rfl
    simp [hrods]
  constructor
  · rw [← List.length_map, hcables, List.length_flatMap]
    simp [junctionBuilds, cableEntry, Builder.cable?, Nat.mul_comm]
  · intro a ha
    have hmem : (a.tags, a.config) ∈ junctionBuilds.filterMap cableEntry := by
      have hpair : (a.tags, a.config) ∈ m.actuators.map fun a => (a.tags, a.config) := List.mem_map_of_mem ha
      rw [hcables, List.mem_flatMap] at hpair
      obtain ⟨_, _, he⟩ := hpair
      exact he
    rw [junction_cables, List.mem_map] at hmem
    obtain ⟨e, -, he⟩ := hmem
    rw [Prod.mk.injEq] at he
    rw [← he.2, ← he.1]

/-- **The rigid bodies of a built spine**: `8` for each segment. -/
theorem rigids_spine {n : Nat} {m : Model} (h : m.components.map Component.builtWith = spineBuilds n) :
    m.rigids.length = 8 * n := by
  have htotal := World.length_rigids_add_actuators m.components
  have hlen : m.components.length = 6 * (n - 1) + 8 * n := by
    rw [← List.length_map, h, spineBuilds, List.length_append, List.length_flatMap, List.length_flatMap]
    simp [junctionBuilds, segmentBuilds, unitRods, Nat.mul_comm]
  rw [Model.rigids]
  have hact := (actuators_spine h).1
  rw [Model.actuators] at hact
  omega

/-! ## Muscle groups -/

/-- Binding the muscle groups is binding their labels in turn. -/
theorem bindMuscleGroups_eq (m : Model) :
    bindMuscleGroups m = muscleGroups.foldl (fun m g => (m.bind g.1 g.2).1) m := rfl

/-- **Binding the muscle groups changes nothing but the bindings.** -/
theorem bindMuscleGroups_eq_with (m : Model) :
    bindMuscleGroups m = { m with bindings := (bindMuscleGroups m).bindings } := by
  rw [bindMuscleGroups_eq]
  exact Model.foldl_bind_eq muscleGroups m

/-- Binding the muscle groups keeps the components. -/
@[simp] theorem bindMuscleGroups_components (m : Model) : (bindMuscleGroups m).components = m.components := by
  rw [bindMuscleGroups_eq_with]

/-- Binding the muscle groups keeps the groups. -/
@[simp] theorem bindMuscleGroups_groups (m : Model) : (bindMuscleGroups m).groups = m.groups := by
  rw [bindMuscleGroups_eq_with]

/-- The six labels differ. -/
theorem muscleGroups_labels_nodup : (muscleGroups.map Prod.fst).Nodup := by decide

/-- **How each group's query reads the spine**: one connector of a junction answers it, no rod
of a segment does, and the query holds the label's words. -/
theorem muscleGroups_answer : ∀ g ∈ muscleGroups,
    junctionBuilds.countP (fun e => e.1.contains (Tags.parse g.2)) = 1 ∧
    segmentBuilds.countP (fun e => e.1.contains (Tags.parse g.2)) = 0 ∧
    (Tags.parse g.2).contains (Tags.parse g.1) = true := by
  decide +kernel

/-- Every connector of a junction builds a cable. -/
theorem junction_cable {e : Tags × Builder} (he : e ∈ junctionBuilds) : ∃ k, e.2 = .cable k := by
  have hall : ∀ e ∈ junctionBuilds, (Builder.cable? e.2).isSome = true := by decide
  obtain ⟨k, hk⟩ := Option.isSome_iff_exists.1 (hall e he)
  exact ⟨k, Builder.eq_cable_of_cable? hk⟩

/-- A spine builds as many of what `p` picks as a junction does once for each junction and a
segment once for each segment. -/
theorem countP_spineBuilds (p : Tags × Builder → Bool) (n : Nat) :
    (spineBuilds n).countP p = (n - 1) * junctionBuilds.countP p + n * segmentBuilds.countP p := by
  simp [spineBuilds, List.countP_append, List.countP_flatMap, Function.comp_def]

/-- **What no rod answers is a junction's cable**: a component of a built spine whose tags hold a
query that no rod of a segment answers is built as one of a junction's connectors. -/
theorem mem_junctionBuilds_of_contains {n : Nat} {m : Model}
    (h : m.components.map Component.builtWith = spineBuilds n) {q : Tags}
    (hsegment : segmentBuilds.countP (fun e => e.1.contains q) = 0) {c : Component} (hc : c ∈ m.components)
    (hq : c.tags.contains q = true) : c.builtWith ∈ junctionBuilds := by
  have hmem : c.builtWith ∈ spineBuilds n := by
    rw [← h]
    exact List.mem_map_of_mem hc
  rw [spineBuilds, List.mem_append, List.mem_flatMap, List.mem_flatMap] at hmem
  rcases hmem with ⟨_, _, hj⟩ | ⟨_, _, hs⟩
  · exact hj
  · -- a rod would answer the query
    have hanswers : c.builtWith.1.contains q = true := by
      rw [Component.builtWith_fst]
      exact hq
    exact absurd hanswers (List.countP_eq_zero.1 hsegment _ hs)

/-- **Each muscle group of a built spine** is bound to `n - 1` distinct ids, each of an actuator
whose tags hold the group's label: one for each junction. -/
theorem muscle_group_bound {n : Nat} {m : Model} (h : m.components.map Component.builtWith = spineBuilds n)
    {l q : String} (hg : (l, q) ∈ muscleGroups) :
    ∃ ids, (bindMuscleGroups m).lookup l = .ok ids ∧ ids.length = n - 1 ∧ ids.Nodup ∧
      ∀ i ∈ ids, ∃ a, (bindMuscleGroups m).components[i]? = some (.actuator a) ∧
        (Tags.parse l).tokens ⊆ a.tags.tokens := by
  obtain ⟨hjunction, hsegment, hlabel⟩ := muscleGroups_answer (l, q) hg
  have hlookup : (bindMuscleGroups m).lookup l = .ok (m.findIds q) := by
    rw [bindMuscleGroups_eq]
    exact Model.lookup_foldl_bind muscleGroups muscleGroups_labels_nodup m hg
  refine ⟨m.findIds q, hlookup, ?_, (Model.findIds_ascending m q).imp Nat.ne_of_lt, fun i hi => ?_⟩
  · rw [Model.length_findIds, h, countP_spineBuilds, hjunction, hsegment]
    simp
  · obtain ⟨c, hc, hsub⟩ := (Model.mem_findIds m q i).1 hi
    have hq : c.tags.contains (Tags.parse q) = true := by
      rw [Tags.contains_eq]
      exact decide_eq_true hsub
    -- what the query finds is a junction's cable, so an actuator
    obtain ⟨k, hk⟩ := junction_cable (mem_junctionBuilds_of_contains h hsegment (List.mem_of_getElem? hc) hq)
    obtain ⟨a, rfl⟩ := Component.eq_actuator_of_cable hk
    rw [Tags.contains_eq, decide_eq_true_iff] at hlabel
    exact ⟨a, by rw [bindMuscleGroups_components]; exact hc, List.Subset.trans hlabel hsub⟩

/-! ## Segment groups -/

/-- **Every segment's group answers the query `segment`.** -/
theorem findGroups_segment {n : Nat} {m : Model} (h : m.groups = (List.range n).map (segmentGroup n)) :
    m.findGroups "segment" = m.groups := by
  rw [Model.findGroups_eq, List.filter_eq_self, h]
  intro g hg
  obtain ⟨i, -, rfl⟩ := List.mem_map.1 hg
  exact decide_eq_true (segment_subset_segment_number (i + 1))

/-- **The query `segment k` finds segment `k`'s group alone**, for every segment `k` of the spine. -/
theorem findGroups_segment_number {n k : Nat} {m : Model} (h : m.groups = (List.range n).map (segmentGroup n))
    (hk : 1 ≤ k) (hkn : k ≤ n) : m.findGroups ("segment " ++ Decimal.natText k) = [segmentGroup n (k - 1)] := by
  rw [Model.findGroups_eq, h, List.filter_map]
  have hpick : (List.range n).filter ((fun g => decide ((Tags.parse ("segment " ++ Decimal.natText k)).tokens ⊆
      g.tags.tokens)) ∘ segmentGroup n) = (List.range n).filter fun i => decide (i = k - 1) := by
    refine List.filter_congr fun i _ => ?_
    rw [Function.comp_apply, segmentGroup, decide_eq_decide, segment_number_subset_iff]
    omega
  rw [hpick, List.filter_eq, List.count_eq_one_of_mem List.nodup_range (List.mem_range.2 (by omega))]
  rfl

/-! ## The spine, built -/

/-- **What a model holds once a spine of `n` segments is built into it** and its muscle groups
are bound: the junctions' cables then the segments' rods, each muscle stiff exactly when it is a
`top` one, each group label bound to one actuator of each junction, and one group for each
segment that `segment` finds and `segment k` picks out. -/
structure BuiltSpine (n : Nat) (m : Model) : Prop where
  /-- Its components are built, in order, as `spineBuilds` says. -/
  builds : m.components.map Component.builtWith = spineBuilds n
  /-- Six actuators for each junction. -/
  actuators : m.actuators.length = 6 * (n - 1)
  /-- Eight rigid bodies for each segment. -/
  rigids : m.rigids.length = 8 * n
  /-- A muscle is the stiff top muscle exactly when its tags hold `top`. -/
  muscles : ∀ a ∈ m.actuators, a.config = if "top" ∈ a.tags.tokens then muscle 10000 else muscle 1355.8
  /-- Each muscle group is bound to `n - 1` distinct actuators, whose tags hold its label. -/
  bound : ∀ l q, (l, q) ∈ muscleGroups → ∃ ids, (bindMuscleGroups m).lookup l = .ok ids ∧ ids.length = n - 1 ∧
    ids.Nodup ∧ ∀ i ∈ ids, ∃ a, (bindMuscleGroups m).components[i]? = some (.actuator a) ∧
      (Tags.parse l).tokens ⊆ a.tags.tokens
  /-- `segment` finds each segment's group, of its eight rods. -/
  segments : (bindMuscleGroups m).findGroups "segment" = (List.range n).map (segmentGroup n)
  /-- `segment k` finds segment `k`'s group alone. -/
  segment : ∀ k, 1 ≤ k → k ≤ n → (bindMuscleGroups m).findGroups ("segment " ++ Decimal.natText k) = [segmentGroup n (k - 1)]

/-- A model with a spine's components and groups holds the built spine. -/
theorem builtSpine_of {n : Nat} {m : Model} (hbuilds : m.components.map Component.builtWith = spineBuilds n)
    (hgroups : m.groups = (List.range n).map (segmentGroup n)) : BuiltSpine n m := by
  -- binding the muscle groups keeps the segments' groups
  have hbound : (bindMuscleGroups m).groups = (List.range n).map (segmentGroup n) := by
    rw [bindMuscleGroups_groups, hgroups]
  exact ⟨hbuilds, (actuators_spine hbuilds).1, rigids_spine hbuilds, (actuators_spine hbuilds).2,
    fun _ _ hg => muscle_group_bound hbuilds hg, by rw [findGroups_segment hbound, hbound],
    fun _ hk hkn => findGroups_segment_number hbound hk hkn⟩

/-- **Building a spine of `n` segments into an unbuilt model succeeds**, with the spine's
builders. The model then holds `6 * (n - 1)` actuators, six for each junction, followed by
`8 * n` rods, the unit's eight in the unit's order for each segment. Every muscle whose tags hold
`top` is the stiff top muscle and every other the side muscle. Once the muscle groups are bound,
each of the six labels is bound to `n - 1` distinct actuators whose tags hold the label; the query
`segment` finds the `n` segments' groups of eight rods, and `segment k` finds segment `k`'s
group alone for every `1 ≤ k ≤ n`. -/
theorem spine_builds_muscles_then_rods {n : Nat} {spine : Structure} (h : tetraSpine n = .ok spine) {m : Model}
    (hm : m.built = false) (w : World) :
    ∃ m' w', m.buildInto spine tetraSpineSpec w = .ok (m', w') ∧ BuiltSpine n m' := by
  obtain ⟨m', w', hbuild, hbuilds, hgroups⟩ := buildInto_spine h hm w
  exact ⟨m', w', hbuild, builtSpine_of hbuilds hgroups⟩

/-- **A spine of two segments is made**: none of the six connectors of its junction joins two
coincident points. The unit and its moved copies have no children, so moving them is mapping
their nodes, and the rest is computation on single-precision numbers. -/
theorem tetraSpine_two : ∃ spine, tetraSpine 2 = .ok spine := by
  have h : (tetraSpine 2).toBool = true := by
    unfold tetraSpine
    rw [show tetraUnit edge = .ok _ from rfl]
    simp only [bind, Except.bind, Structure.replicate, Chain.segment, Structure.addTags, Structure.translate,
      Structure.mapPositions.eq_1, List.map_nil]
    decide +kernel
  cases hs : tetraSpine 2 with
  | ok spine => exact ⟨spine, rfl⟩
  | error f =>
    rw [hs] at h
    cases h

/-- A spine of two segments builds into the empty model: the six cables of its junction, then
sixteen rods, each muscle group bound to one cable. -/
theorem two_segment_spine_built :
    ∃ spine, tetraSpine 2 = .ok spine ∧ ({} : Model).built = false ∧
      ∃ m' w', ({} : Model).buildInto spine tetraSpineSpec {} = .ok (m', w') ∧ BuiltSpine 2 m' := by
  obtain ⟨spine, hspine⟩ := tetraSpine_two
  exact ⟨spine, hspine, rfl, spine_builds_muscles_then_rods hspine rfl {}⟩

end Preset

end Tensegrity
