import Mathlib
import Tensegrity.Proofs.Connecting

/-!
# When replication fails

Replicating a unit can be refused for two reasons, checked in this order. First, every role of
the junction is resolved against the unit, connector by connector and, within a connector, the
`from` role before the `to` role: a role that names no node of the unit – an index past its
last node, or tags that no node carries – stops replication with its own fault, whatever the
number of segments (`NodeRole.Names`, `NodeRole.missing`). Then neighbouring segments are
joined, junction by junction and connector by connector, and the first connector whose two
nodes stand at IEEE-equal points stops it with a fault naming the connector, its tags and the
two segments (`Junction.Clash`). Nothing else refuses it: each connection that follows the
check joins two points that are not IEEE-equal, and such a connection always succeeds
(`Structure.connect_of_not_same`).

`replicate_reports_first_fault` says all three: which fault, when, and success otherwise.
-/

namespace Tensegrity

namespace NodeRole

/-- **A role names a node** of the unit: an index below its node count, or tags that some node
carries. -/
def Names (unit : Structure) : NodeRole → Prop
  | .index i => i < unit.nodes.length
  | .tagged q => ∃ nd ∈ unit.nodes, nd.tags.contains q = true

instance (unit : Structure) (r : NodeRole) : Decidable (r.Names unit) :=
  match r with
  | .index i => inferInstanceAs (Decidable (i < unit.nodes.length))
  | .tagged q => inferInstanceAs (Decidable (∃ nd ∈ unit.nodes, nd.tags.contains q = true))

/-- **The fault of a role that names no node**: the index with the unit's node count, or the
tags. -/
def missing (unit : Structure) : NodeRole → Fault
  | .index i => .roleIndex i unit.nodes.length
  | .tagged q => .roleTags q

@[simp] theorem kind_missing (unit : Structure) (r : NodeRole) : (r.missing unit).kind = .unknownNodeRole := by
  cases r <;> rfl

/-- **Resolving a role fails** exactly when it names no node, with its fault. -/
theorem resolve_eq_error_iff {r : NodeRole} {unit : Structure} {e : Fault} :
    r.resolve unit = .error e ↔ ¬r.Names unit ∧ e = r.missing unit := by
  cases r with
  | index i =>
    dsimp only [resolve, Names, missing]
    by_cases h : i < unit.nodes.length
    · simp [h]
    · simp [h, eq_comm]
  | tagged q =>
    dsimp only [resolve, Names, missing]
    split
    · next x hf =>
      -- the node found carries the tags
      obtain ⟨hx, hcontains, -⟩ := List.findIdx?_eq_some_iff_getElem.1 hf
      simp only [reduceCtorEq, false_iff, not_and]
      intro hn
      exact absurd ⟨_, List.getElem_mem hx, hcontains⟩ hn
    · next hf =>
      have hnone := List.findIdx?_eq_none_iff.1 hf
      simp only [Except.error.injEq, eq_comm (a := e), iff_and_self]
      rintro - ⟨nd, hnd, hcontains⟩
      simp [hnone nd hnd] at hcontains

theorem names_of_resolve_eq_ok {r : NodeRole} {unit : Structure} {x : Nat} (h : r.resolve unit = .ok x) :
    r.Names unit := by
  by_contra hn
  rw [resolve_eq_error_iff.2 ⟨hn, rfl⟩] at h
  cases h

end NodeRole

/-- **The roles of a junction**, connector by connector, the `from` role before the `to` role. -/
def Junction.roles (j : Junction) : List NodeRole := j.connectors.flatMap fun c => [c.source, c.target]

namespace Chain

/-- Putting a value in front of a computed list fails exactly when computing the list does. -/
theorem cons_bind_eq_error {ε α : Type} (w : α) (x : Except ε (List α)) (e : ε) :
    (x >>= fun ws => pure (w :: ws)) = .error e ↔ x = .error e := by
  cases x <;> simp [bind, Except.bind, pure, Except.pure]

/-- **Resolving a junction fails** exactly when one of its roles names no node, with the fault
of the first such role. -/
theorem wires_eq_error_iff {unit : Structure} {j : Junction} {e : Fault} :
    wires unit j = .error e ↔
      ∃ r, j.roles.find? (fun r => !decide (r.Names unit)) = some r ∧ e = r.missing unit := by
  obtain ⟨cs⟩ := j
  unfold wires Junction.roles
  dsimp only
  induction cs with
  | nil => simp [pure, Except.pure]
  | cons c cs ih =>
    rw [List.mapM_cons, List.flatMap_cons]
    cases ha : c.source.resolve unit with
    | error f =>
      obtain ⟨hn, rfl⟩ := NodeRole.resolve_eq_error_iff.1 ha
      simp [hn, bind, Except.bind, eq_comm]
    | ok a =>
      have ha' := NodeRole.names_of_resolve_eq_ok ha
      cases hb : c.target.resolve unit with
      | error f =>
        obtain ⟨hn, rfl⟩ := NodeRole.resolve_eq_error_iff.1 hb
        simp [ha', hn, bind, Except.bind, eq_comm]
      | ok b =>
        have hb' := NodeRole.names_of_resolve_eq_ok hb
        -- both roles of the connector resolve, so the rest decides
        simp only [List.cons_append, List.nil_append, List.find?_cons, ha', hb', decide_true, Bool.not_true]
        rw [← ih]
        exact cons_bind_eq_error (⟨a, b, c.tags⟩ : Wire) _ e

/-- **Resolving a junction fails** exactly at a role that names no node after roles that all do,
with the fault of that role. -/
theorem wires_eq_error_iff_first {unit : Structure} {j : Junction} {e : Fault} :
    wires unit j = .error e ↔ ∃ pre r post, j.roles = pre ++ r :: post ∧ (∀ r' ∈ pre, r'.Names unit) ∧
      ¬r.Names unit ∧ e = r.missing unit := by
  rw [wires_eq_error_iff]
  constructor
  · rintro ⟨r, hr, rfl⟩
    obtain ⟨hr, pre, post, hroles, hpre⟩ := List.find?_eq_some_iff_append.1 hr
    exact ⟨pre, r, post, hroles, fun a ha => by simpa using hpre a ha, by simpa using hr, rfl⟩
  · rintro ⟨pre, r, post, hroles, hpre, hr, rfl⟩
    exact ⟨r, List.find?_eq_some_iff_append.2 ⟨by simpa using hr, pre, post, hroles,
      fun a ha => by simpa using hpre a ha⟩, rfl⟩

/-- **A junction resolves** exactly when every one of its roles names a node. -/
theorem wires_ok_iff {unit : Structure} {j : Junction} :
    (∃ ws, wires unit j = .ok ws) ↔ ∀ r ∈ j.roles, r.Names unit := by
  have hall : (∀ r ∈ j.roles, r.Names unit) ↔ j.roles.find? (fun r => !decide (r.Names unit)) = none := by
    simp [List.find?_eq_none]
  rw [hall]
  cases hw : wires unit j with
  | error f =>
    obtain ⟨r, hr, -⟩ := wires_eq_error_iff.1 hw
    simp [hr]
  | ok ws =>
    cases hr : j.roles.find? (fun r => !decide (r.Names unit)) with
    | none => simp
    | some r =>
      -- a role naming no node would have stopped the resolution
      have hrefused := wires_eq_error_iff.2 ⟨r, hr, rfl⟩
      rw [hw] at hrefused
      cases hrefused

/-! ## Joining the segments -/

/-- **Wire `w` would join coincident nodes** of `prev` and `next`: its two nodes stand at
IEEE-equal points. -/
def clashes (prev next : Structure) (w : Wire) : Bool :=
  (prev.positionOf w.source).same (next.positionOf w.target)

/-- One wire of a junction: refused when it clashes, and otherwise connected. -/
theorem joinSegments_cons (prev next : Structure) (i k : Nat) (s : Structure) (w : Wire) (ws : List Wire) :
    joinSegments prev.nodes next.nodes i k s (w :: ws) =
      if clashes prev next w then .error (.coincidentJoint k w.tags i)
      else s.connect (prev.positionOf w.source) (next.positionOf w.target) w.tags >>= fun r =>
        joinSegments prev.nodes next.nodes i (k + 1) r.1 ws :=
  rfl

/-- **A junction is refused** exactly when one of its wires clashes, with the fault of the first
that does. -/
theorem joinSegments_eq_error_iff (prev next : Structure) (i : Nat) :
    ∀ (ws : List Wire) (k : Nat) (s : Structure) (e : Fault),
      joinSegments prev.nodes next.nodes i k s ws = .error e ↔
        ∃ x w, ws.findIdx? (clashes prev next) = some x ∧ ws[x]? = some w ∧
          e = .coincidentJoint (k + x) w.tags i
  | [], k, s, e => by simp [joinSegments]
  | w :: ws, k, s, e => by
    rw [joinSegments_cons]
    cases hw : clashes prev next w with
    | true =>
      simp only [if_true, Except.error.injEq, List.findIdx?_cons, hw]
      simp [eq_comm]
    | false =>
      -- the wire's points are not IEEE-equal, so connecting them succeeds
      rw [if_neg (by simp), Structure.connect_of_not_same _ (by exact hw)]
      show joinSegments prev.nodes next.nodes i (k + 1) _ ws = .error e ↔ _
      rw [joinSegments_eq_error_iff prev next i ws (k + 1)]
      simp [List.findIdx?_cons, hw, Nat.add_assoc, Nat.add_comm 1]

/-- A junction is joined exactly when none of its wires clashes. -/
theorem joinSegments_ok_iff (prev next : Structure) (i k : Nat) (s : Structure) (ws : List Wire) :
    (∃ s', joinSegments prev.nodes next.nodes i k s ws = .ok s') ↔ ∀ w ∈ ws, clashes prev next w = false := by
  rw [← List.findIdx?_eq_none_iff]
  cases h : joinSegments prev.nodes next.nodes i k s ws with
  | ok s' =>
    simp only [Except.ok.injEq, exists_eq', true_iff]
    cases hx : ws.findIdx? (clashes prev next) with
    | none => rfl
    | some x =>
      -- a clash would have refused the junction
      obtain ⟨hxlt, -⟩ := List.findIdx?_eq_some_iff_getElem.1 hx
      have hw : ws[x]? = some ws[x] := List.getElem?_eq_getElem hxlt
      have hrefused := (joinSegments_eq_error_iff prev next i ws k s _).2 ⟨x, _, hx, hw, rfl⟩
      rw [h] at hrefused
      cases hrefused
  | error e =>
    obtain ⟨x, w, hx, -, -⟩ := (joinSegments_eq_error_iff prev next i ws k s e).1 h
    simp [hx]

/-- A refused junction stops the joining with its fault. -/
theorem joinAll_cons_of_error {ws : List Wire} {s p q : Structure} {i : Nat} {e : Fault}
    (rest : List (Nat × Structure × Structure)) (h : joinSegments p.nodes q.nodes i 0 s ws = .error e) :
    joinAll ws s ((i, p, q) :: rest) = .error e := by
  show (joinSegments _ _ i 0 s ws >>= _) = _
  rw [h]
  rfl

/-- A joined junction hands what it leaves to the next. -/
theorem joinAll_cons_of_ok {ws : List Wire} {s p q s₁ : Structure} {i : Nat}
    (rest : List (Nat × Structure × Structure)) (h : joinSegments p.nodes q.nodes i 0 s ws = .ok s₁) :
    joinAll ws s ((i, p, q) :: rest) = joinAll ws s₁ rest := by
  show (joinSegments _ _ i 0 s ws >>= _) = _
  rw [h]
  rfl

section Junctions

variable (unit : Structure) (offset : Vec3) (ws : List Wire)

/-- **The junctions from `lo` on**, `L` of them: junction `i` joins segment `i` to segment
`i + 1`. -/
def junctions (lo L : Nat) : List (Nat × Structure × Structure) :=
  (List.range' lo L).map fun i => (i, segment unit offset i, segment unit offset (i + 1))

theorem junctions_succ (lo L : Nat) :
    junctions unit offset lo (L + 1) =
      (lo, segment unit offset lo, segment unit offset (lo + 1)) :: junctions unit offset (lo + 1) L := by
  simp [junctions, List.range'_succ]

/-- **Wire `x` clashes at junction `i`.** -/
def ClashAt (i x : Nat) : Prop :=
  ∃ w, ws[x]? = some w ∧ clashes (segment unit offset i) (segment unit offset (i + 1)) w = true

/-- **Wire `x` at junction `i` is the first clash** among the junctions from `lo` to below `hi`,
junction by junction and, within a junction, wire by wire. -/
def FirstClash (lo hi i x : Nat) : Prop :=
  lo ≤ i ∧ i < hi ∧ ClashAt unit offset ws i x ∧
    ∀ i' x', lo ≤ i' → i' < hi → ClashAt unit offset ws i' x' → i < i' ∨ (i = i' ∧ x ≤ x')

variable {unit offset ws}

/-- The first clashing wire of a junction is the first clash from that junction on. -/
theorem firstClash_of_findIdx? {lo hi x : Nat} (hlt : lo < hi)
    (hx : ws.findIdx? (clashes (segment unit offset lo) (segment unit offset (lo + 1))) = some x) :
    FirstClash unit offset ws lo hi lo x := by
  obtain ⟨hxlt, hclash, hbefore⟩ := List.findIdx?_eq_some_iff_getElem.1 hx
  refine ⟨le_rfl, hlt, ⟨_, List.getElem?_eq_getElem hxlt, hclash⟩, fun i' x' hi' _ hc => ?_⟩
  rcases Nat.eq_or_lt_of_le hi' with rfl | hlt'
  · -- at the same junction, no earlier wire clashes
    obtain ⟨w', hw', hc'⟩ := hc
    refine .inr ⟨rfl, Nat.not_lt.1 fun hx' => ?_⟩
    have hw'' := (List.getElem?_eq_some_iff.1 hw').2
    have hfalse := hbefore x' hx'
    rw [hw'', hc'] at hfalse
    exact hfalse rfl
  · exact .inl hlt'

/-- Two first clashes are one. -/
theorem FirstClash.unique {lo hi i x i' x' : Nat} (h : FirstClash unit offset ws lo hi i x)
    (h' : FirstClash unit offset ws lo hi i' x') : i = i' ∧ x = x' := by
  have h₁ := h.2.2.2 i' x' h'.1 h'.2.1 h'.2.2.1
  have h₂ := h'.2.2.2 i x h.1 h.2.1 h.2.2.1
  omega

/-- **Past a junction with no clash**, the first clash from it is the first from the next one. -/
theorem firstClash_succ {lo hi i x : Nat} (hno : ∀ x, ¬ClashAt unit offset ws lo x) :
    FirstClash unit offset ws lo hi i x ↔ FirstClash unit offset ws (lo + 1) hi i x := by
  constructor
  · rintro ⟨hlo, hhi, hc, hfirst⟩
    have hne : i ≠ lo := by
      rintro rfl
      exact hno x hc
    exact ⟨by omega, hhi, hc, fun i' x' hi' => hfirst i' x' (by omega)⟩
  · rintro ⟨hlo, hhi, hc, hfirst⟩
    refine ⟨by omega, hhi, hc, fun i' x' hi' hi'' hc' => ?_⟩
    rcases Nat.eq_or_lt_of_le hi' with rfl | hlt
    · exact absurd hc' (hno x')
    · exact hfirst i' x' hlt hi'' hc'

theorem not_clashAt_of_forall {i : Nat}
    (h : ∀ w ∈ ws, clashes (segment unit offset i) (segment unit offset (i + 1)) w = false) (x : Nat) :
    ¬ClashAt unit offset ws i x := by
  rintro ⟨w, hw, hc⟩
  rw [h w (List.mem_of_getElem? hw)] at hc
  exact Bool.false_ne_true hc

/-- **The junctions are all joined** exactly when no wire clashes at any of them. -/
theorem joinAll_ok_iff : ∀ (L lo : Nat) (s : Structure),
    (∃ s', joinAll ws s (junctions unit offset lo L) = .ok s') ↔
      ∀ i x, lo ≤ i → i < lo + L → ¬ClashAt unit offset ws i x
  | 0, lo, s => by
    simp only [junctions, List.range'_zero, List.map_nil, joinAll, Except.ok.injEq, exists_eq', true_iff]
    intro i x hlo hhi
    omega
  | L + 1, lo, s => by
    rw [junctions_succ]
    cases h : joinSegments (segment unit offset lo).nodes (segment unit offset (lo + 1)).nodes lo 0 s ws with
    | error e =>
      -- the first junction is refused, at a clash
      have hjoin := joinAll_cons_of_error (junctions unit offset (lo + 1) L) h
      obtain ⟨x, w, hx, -, -⟩ := (joinSegments_eq_error_iff _ _ lo ws 0 s e).1 h
      simp only [hjoin, reduceCtorEq, exists_false, false_iff, not_forall, not_not]
      exact ⟨lo, x, le_rfl, by omega, (firstClash_of_findIdx? (show lo < lo + 1 by omega) hx).2.2.1⟩
    | ok s₁ =>
      have hjoin := joinAll_cons_of_ok (junctions unit offset (lo + 1) L) h
      have hno := not_clashAt_of_forall ((joinSegments_ok_iff _ _ lo 0 s ws).1 ⟨s₁, h⟩)
      rw [hjoin, joinAll_ok_iff L (lo + 1) s₁]
      constructor
      · intro hrest i x hi hi'
        rcases Nat.eq_or_lt_of_le hi with rfl | hlt
        · exact hno x
        · exact hrest i x hlt (by omega)
      · intro hall i x hi hi'
        exact hall i x (by omega) (by omega)

/-- **The junctions are refused** exactly when a wire clashes at one of them, with the fault of
the first clash. -/
theorem joinAll_eq_error_iff : ∀ (L lo : Nat) (s : Structure) (e : Fault),
    joinAll ws s (junctions unit offset lo L) = .error e ↔
      ∃ i x w, ws[x]? = some w ∧ FirstClash unit offset ws lo (lo + L) i x ∧ e = .coincidentJoint x w.tags i
  | 0, lo, s, e => by
    simp only [junctions, List.range'_zero, List.map_nil, joinAll, reduceCtorEq, false_iff]
    rintro ⟨i, x, w, -, ⟨hlo, hhi, -⟩, -⟩
    omega
  | L + 1, lo, s, e => by
    rw [junctions_succ]
    cases h : joinSegments (segment unit offset lo).nodes (segment unit offset (lo + 1)).nodes lo 0 s ws with
    | error e₀ =>
      have hjoin := joinAll_cons_of_error (junctions unit offset (lo + 1) L) h
      obtain ⟨x₀, w₀, hx₀, hw₀, rfl⟩ := (joinSegments_eq_error_iff _ _ lo ws 0 s e₀).1 h
      have hfirst := firstClash_of_findIdx? (show lo < lo + (L + 1) by omega) hx₀
      rw [hjoin, Except.error.injEq]
      constructor
      · rintro rfl
        exact ⟨lo, x₀, w₀, hw₀, hfirst, by rw [Nat.zero_add]⟩
      · -- any first clash is the one at this junction
        rintro ⟨i, x, w, hw, hf, rfl⟩
        obtain ⟨rfl, rfl⟩ := hf.unique hfirst
        rw [hw₀] at hw
        cases hw
        rw [Nat.zero_add]
    | ok s₁ =>
      have hjoin := joinAll_cons_of_ok (junctions unit offset (lo + 1) L) h
      have hno := not_clashAt_of_forall ((joinSegments_ok_iff _ _ lo 0 s ws).1 ⟨s₁, h⟩)
      rw [hjoin, joinAll_eq_error_iff L (lo + 1) s₁ e, show lo + 1 + L = lo + (L + 1) by omega]
      simp only [firstClash_succ hno]

end Junctions

/-! ## Replication -/

/-- Replication stops at a role that names no node, before any segment is built. -/
theorem replicate_of_wires_error {unit : Structure} {j : Junction} {f : Fault} (h : wires unit j = .error f)
    (n : Nat) (offset : Vec3) : unit.replicate n offset j = .error f := by
  unfold Structure.replicate
  rw [h]
  rfl

/-- **Replication, once the roles resolve**, joins the segments junction by junction. -/
theorem replicate_of_wires_ok {unit : Structure} {j : Junction} {ws : List Wire} (h : wires unit j = .ok ws)
    (n : Nat) (offset : Vec3) :
    unit.replicate n offset j = joinAll ws { children := segments unit offset n } (junctions unit offset 1 (n - 1)) := by
  have hjunctions : junctions unit offset 1 (n - 1) =
      (List.range (n - 1)).map fun i => (i + 1, segment unit offset (i + 1), segment unit offset (i + 2)) := by
    simp [junctions, List.range'_eq_map_range, Nat.add_comm 1]
  unfold Structure.replicate
  rw [h, hjunctions, ← joints_eq, segments]
  rfl

end Chain

/-- **Connector `k` clashes at junction `i`**: its roles resolve to nodes of the unit, and its
node in segment `i` and its node in segment `i + 1` stand at IEEE-equal points. -/
def Junction.Clash (j : Junction) (unit : Structure) (offset : Vec3) (i k : Nat) : Prop :=
  ∃ c a b, j.connectors[k]? = some c ∧ c.source.resolve unit = .ok a ∧ c.target.resolve unit = .ok b ∧
    ((Chain.segment unit offset i).positionOf a).same ((Chain.segment unit offset (i + 1)).positionOf b) = true

namespace Chain

variable {unit : Structure} {j : Junction} {ws : List Wire}

/-- A connector clashes exactly when its wire does. -/
theorem clash_iff_clashAt (hws : wires unit j = .ok ws) (offset : Vec3) (i k : Nat) :
    j.Clash unit offset i k ↔ ClashAt unit offset ws i k := by
  have hwires := wires_eq_ok hws
  constructor
  · rintro ⟨c, a, b, hc, ha, hb, hsame⟩
    obtain ⟨w, hw, hsa, hta, -⟩ := forall₂_getElem?_left hwires hc
    -- the wire holds the nodes the roles resolve to
    rw [ha] at hsa
    rw [hb] at hta
    cases hsa
    cases hta
    exact ⟨w, hw, hsame⟩
  · rintro ⟨w, hw, hclash⟩
    obtain ⟨c, hc, hsa, hta, -⟩ := forall₂_getElem? hwires hw
    exact ⟨c, w.source, w.target, hc, hsa, hta, hclash⟩

/-- The first clash, read on the connectors. -/
theorem firstClash_iff (hws : wires unit j = .ok ws) (offset : Vec3) (lo hi i x : Nat) :
    FirstClash unit offset ws lo hi i x ↔ lo ≤ i ∧ i < hi ∧ j.Clash unit offset i x ∧
      ∀ i' x', lo ≤ i' → i' < hi → j.Clash unit offset i' x' → i < i' ∨ (i = i' ∧ x ≤ x') := by
  simp only [FirstClash, clash_iff_clashAt hws]

/-- The fault of a wire's clash names its connector's tags. -/
theorem exists_wire_iff (hws : wires unit j = .ok ws) (x : Nat) (P : String → Prop) :
    (∃ w, ws[x]? = some w ∧ P w.tags) ↔ ∃ c, j.connectors[x]? = some c ∧ P c.tags := by
  have hwires := wires_eq_ok hws
  constructor
  · rintro ⟨w, hw, hp⟩
    obtain ⟨c, hc, -, -, htags⟩ := forall₂_getElem? hwires hw
    exact ⟨c, hc, htags ▸ hp⟩
  · rintro ⟨c, hc, hp⟩
    obtain ⟨w, hw, -, -, htags⟩ := forall₂_getElem?_left hwires hc
    exact ⟨w, hw, htags.symm ▸ hp⟩

/-- **Once the roles resolve, replication is refused** exactly at a clash, with the fault of the
first one, junction by junction and connector by connector. -/
theorem replicate_eq_error_iff_clash (hws : wires unit j = .ok ws) (n : Nat) (offset : Vec3) (e : Fault) :
    unit.replicate n offset j = .error e ↔ ∃ i k c, j.connectors[k]? = some c ∧ 1 ≤ i ∧ i < n ∧
      j.Clash unit offset i k ∧
      (∀ i' k', 1 ≤ i' → i' < n → j.Clash unit offset i' k' → i < i' ∨ (i = i' ∧ k ≤ k')) ∧
      e = .coincidentJoint k c.tags i := by
  -- the junctions run from `1` to `n - 1`, so a junction below `1 + (n - 1)` is one below `n`
  rw [replicate_of_wires_ok hws, joinAll_eq_error_iff]
  constructor
  · rintro ⟨i, x, w, hw, hf, rfl⟩
    obtain ⟨c, hc, htags⟩ := (exists_wire_iff hws x (fun t => w.tags = t)).1 ⟨w, hw, rfl⟩
    obtain ⟨hlo, hhi, hclash, hmin⟩ := (firstClash_iff hws offset _ _ i x).1 hf
    refine ⟨i, x, c, hc, hlo, by omega, hclash, fun i' x' hi' hi'' => hmin i' x' hi' (by omega), ?_⟩
    rw [htags]
  · rintro ⟨i, k, c, hc, hlo, hhi, hclash, hmin, rfl⟩
    obtain ⟨w, hw, htags⟩ := (exists_wire_iff hws k (fun t => t = c.tags)).2 ⟨c, hc, rfl⟩
    exact ⟨i, k, w, hw, (firstClash_iff hws offset _ _ i k).2
      ⟨hlo, by omega, hclash, fun i' x' hi' hi'' => hmin i' x' hi' (by omega)⟩, by rw [htags]⟩

/-- **Once the roles resolve, replication succeeds** exactly when no connector clashes at any
junction. -/
theorem replicate_ok_iff_no_clash (hws : wires unit j = .ok ws) (n : Nat) (offset : Vec3) :
    (∃ chain, unit.replicate n offset j = .ok chain) ↔ ∀ i k, 1 ≤ i → i < n → ¬j.Clash unit offset i k := by
  rw [replicate_of_wires_ok hws, joinAll_ok_iff]
  simp only [← clash_iff_clashAt hws offset]
  constructor
  · intro h i k hi hi'
    exact h i k hi (by omega)
  · intro h i k hi hi'
    exact h i k hi (by omega)

end Chain

/-- **When replication fails.** Replicating a unit into `n` segments is refused with a fault of
kind `unknownNodeRole` exactly when some role of the junction names no node of the unit – an
index past its last node, or tags no node carries – and then with the fault of the first such
role, connector by connector and `from` before `to`, whatever `n` is. Otherwise it is refused
with a fault of kind `invalidArgument` exactly when some connector `k` clashes at some junction
`i` (between segments `i` and `i + 1`, so `n ≥ 2`), and then with the fault of the first clash,
junction by junction and connector by connector, naming the connector, its tags and the segment.
Otherwise it succeeds: no connection made while joining is ever refused, and no other fault
is ever given. -/
theorem replicate_reports_first_fault (unit : Structure) (n : Nat) (offset : Vec3) (j : Junction) :
    (∀ e, unit.replicate n offset j = .error e ∧ e.kind = .unknownNodeRole ↔
      ∃ pre r post, j.roles = pre ++ r :: post ∧ (∀ r' ∈ pre, r'.Names unit) ∧ ¬r.Names unit ∧
        e = r.missing unit) ∧
    (∀ e, unit.replicate n offset j = .error e ∧ e.kind = .invalidArgument ↔
      (∀ r ∈ j.roles, r.Names unit) ∧ ∃ i k c, j.connectors[k]? = some c ∧ 1 ≤ i ∧ i < n ∧
        j.Clash unit offset i k ∧
        (∀ i' k', 1 ≤ i' → i' < n → j.Clash unit offset i' k' → i < i' ∨ (i = i' ∧ k ≤ k')) ∧
        e = .coincidentJoint k c.tags i) ∧
    ((∃ chain, unit.replicate n offset j = .ok chain) ↔
      (∀ r ∈ j.roles, r.Names unit) ∧ ∀ i k, 1 ≤ i → i < n → ¬j.Clash unit offset i k) ∧
    (∀ e, unit.replicate n offset j = .error e →
      (∃ r ∈ j.roles, e = r.missing unit) ∨ ∃ k t i, e = .coincidentJoint k t i) := by
  cases hws : Chain.wires unit j with
  | error f =>
    obtain ⟨pre, r₀, post, hroles, -, hr₀, rfl⟩ := Chain.wires_eq_error_iff_first.1 hws
    have hr₀mem : r₀ ∈ j.roles := by simp [hroles]
    have hnot : ¬∀ r ∈ j.roles, r.Names unit := fun h => hr₀ (h r₀ hr₀mem)
    rw [Chain.replicate_of_wires_error hws]
    refine ⟨fun e => ?_, fun e => ?_, ?_, fun e he => ?_⟩
    · -- the first role that names no node is the one that stopped the resolution
      rw [← Chain.wires_eq_error_iff_first, hws]
      simp only [Except.error.injEq]
      exact and_iff_left_of_imp fun he => he ▸ NodeRole.kind_missing unit r₀
    · simp only [Except.error.injEq, hnot, false_and, iff_false, not_and]
      rintro rfl
      simp
    · simp [hnot]
    · cases he
      exact .inl ⟨r₀, hr₀mem, rfl⟩
  | ok ws =>
    have hnames := Chain.wires_ok_iff.1 ⟨ws, hws⟩
    refine ⟨fun e => ?_, fun e => ?_, ?_, fun e he => ?_⟩
    · -- joining is refused only at a clash, never for a role
      rw [← Chain.wires_eq_error_iff_first, hws]
      simp only [reduceCtorEq, iff_false, not_and]
      intro hrep
      obtain ⟨i, k, c, -, -, -, -, -, rfl⟩ := (Chain.replicate_eq_error_iff_clash hws n offset e).1 hrep
      simp [Fault.kind]
    · rw [Chain.replicate_eq_error_iff_clash hws]
      constructor
      · exact fun h => ⟨hnames, h.1⟩
      · rintro ⟨-, h⟩
        refine ⟨h, ?_⟩
        obtain ⟨i, k, c, -, -, -, -, -, rfl⟩ := h
        rfl
    · rw [Chain.replicate_ok_iff_no_clash hws]
      exact ⟨fun h => ⟨hnames, h⟩, fun h => h.2⟩
    · obtain ⟨i, k, c, -, -, -, -, -, rfl⟩ := (Chain.replicate_eq_error_iff_clash hws n offset e).1 he
      exact .inr ⟨k, c.tags, i, rfl⟩

end Tensegrity
