import Tensegrity.Proofs.BestMatch
import Tensegrity.Proofs.Registry

/-!
# The most specific builder wins

A pair or a node asks the build specification for its best builder. The scan runs over the
entries in ascending order of their keys and, among the entries of the requested kind whose key
is contained in the target, replaces what it holds only by a key with strictly more words. So
what it finds is the entry with the most words, and of the keys with that many words the first
in key order, which is the least one (`IsBest`). Builders of the other kind take no part, and
the empty key, contained in every target and with no word, wins only when no other key applies.

The characterization needs the entries to be strictly ascending, which the entries of every
specification are: then the best entry is unique, and the scan finds it exactly
(`bestMatch_eq_some_iff`).
-/

namespace Tensegrity

namespace BuildSpec

/-- **The best entry** of a list for a target: an entry of the list that applies, whose key has
no fewer words than that of any entry that applies, and comes first in key order among the keys
that apply with as many words. -/
def IsBest (target : Tags) (forPairs : Bool) (es : List (Tags × Builder)) (r : Tags × Builder) : Prop :=
  r ∈ es ∧ Applies target forPairs r ∧
    ∀ e ∈ es, Applies target forPairs e → e.1.size ≤ r.1.size ∧ (e.1.size = r.1.size → (compare r.1 e.1).isLE)

variable {target : Tags} {forPairs : Bool}

/-! ## One step of the scan -/

/-- The scan passes an entry by exactly when it does not apply. -/
theorem passes_iff (e : Tags × Builder) :
    (e.2.forPairs != forPairs || !target.contains e.1) = true ↔ ¬Applies target forPairs e := by
  unfold Applies
  cases e.2.forPairs <;> cases forPairs <;> cases target.contains e.1 <;> simp

/-- With nothing found yet, the scan takes an entry exactly when it applies. -/
theorem considerEntry_none (e : Tags × Builder) :
    considerEntry target forPairs none e = if Applies target forPairs e then some e else none := by
  unfold considerEntry
  by_cases h : Applies target forPairs e
  · simp only [if_neg (fun hp => (passes_iff e).1 hp h), if_pos h]
  · simp only [if_pos ((passes_iff e).2 h), if_neg h]

/-- Holding `b`, the scan takes an entry exactly when it applies and has strictly more words. -/
theorem considerEntry_some (b e : Tags × Builder) :
    considerEntry target forPairs (some b) e =
      if Applies target forPairs e ∧ b.1.size < e.1.size then some e else some b := by
  unfold considerEntry
  by_cases h : Applies target forPairs e
  · simp only [if_neg (fun hp => (passes_iff e).1 hp h), h, true_and, gt_iff_lt]
  · simp only [if_pos ((passes_iff e).2 h), h, false_and, if_false]

/-! ## The best entry of a growing list -/

/-- The first entry that applies is the best so far. -/
theorem isBest_append_first {es : List (Tags × Builder)} {e : Tags × Builder}
    (hnone : ∀ e' ∈ es, ¬Applies target forPairs e') (he : Applies target forPairs e) :
    IsBest target forPairs (es ++ [e]) e := by
  refine ⟨by simp, he, fun e' he' ha => ?_⟩
  rcases List.mem_append.1 he' with he' | he'
  · exact absurd ha (hnone e' he')
  · rw [List.mem_singleton.1 he', Std.ReflOrd.compare_self]
    exact ⟨le_rfl, fun _ => rfl⟩

/-- An entry that does not apply changes nothing. -/
theorem IsBest.append_of_not_applies {es : List (Tags × Builder)} {r e : Tags × Builder}
    (h : IsBest target forPairs es r) (he : ¬Applies target forPairs e) :
    IsBest target forPairs (es ++ [e]) r := by
  obtain ⟨hr, hra, hmax⟩ := h
  refine ⟨List.mem_append_left _ hr, hra, fun e' he' ha => ?_⟩
  rcases List.mem_append.1 he' with he' | he'
  · exact hmax e' he' ha
  · exact absurd (List.mem_singleton.1 he' ▸ ha) he

/-- An entry with no more words than the best, and a larger key than every earlier one, changes
nothing: of two keys with as many words the earlier stays first. -/
theorem IsBest.append_of_size_le {es : List (Tags × Builder)} {r e : Tags × Builder}
    (h : IsBest target forPairs es r) (hs : Sorted (es ++ [e])) (hle : e.1.size ≤ r.1.size) :
    IsBest target forPairs (es ++ [e]) r := by
  obtain ⟨hr, hra, hmax⟩ := h
  refine ⟨List.mem_append_left _ hr, hra, fun e' he' ha => ?_⟩
  rcases List.mem_append.1 he' with he' | he'
  · exact hmax e' he' ha
  · rw [List.mem_singleton.1 he']
    -- the new entry comes after `r` in key order
    have hlt : compare r.1 e.1 = .lt := (List.pairwise_append.1 hs).2.2 r hr e (List.mem_singleton_self e)
    exact ⟨hle, fun _ => by rw [hlt]; rfl⟩

/-- An entry that applies with strictly more words than the best is the new best. -/
theorem IsBest.append_of_size_lt {es : List (Tags × Builder)} {r e : Tags × Builder}
    (h : IsBest target forPairs es r) (he : Applies target forPairs e) (hlt : r.1.size < e.1.size) :
    IsBest target forPairs (es ++ [e]) e := by
  obtain ⟨-, -, hmax⟩ := h
  refine ⟨by simp, he, fun e' he' ha => ?_⟩
  rcases List.mem_append.1 he' with he' | he'
  · have hle := (hmax e' he' ha).1
    exact ⟨by omega, fun h => by omega⟩
  · rw [List.mem_singleton.1 he', Std.ReflOrd.compare_self]
    exact ⟨le_rfl, fun _ => rfl⟩

/-! ## The scan -/

/-- **What the scan finds is the best entry** of strictly ascending entries. -/
theorem foldl_considerEntry_isBest {es : List (Tags × Builder)} (hs : Sorted es) {r : Tags × Builder}
    (h : es.foldl (considerEntry target forPairs) none = some r) : IsBest target forPairs es r := by
  induction es using List.reverseRecOn generalizing r with
  | nil => cases h
  | append_singleton es e ih =>
    have hs' : Sorted es := (List.pairwise_append.1 hs).1
    rw [List.foldl_append, List.foldl_cons, List.foldl_nil] at h
    cases hf : es.foldl (considerEntry target forPairs) none with
    | none =>
      -- nothing applied before `e`, so `e` is taken exactly when it applies
      rw [hf, considerEntry_none] at h
      split at h
      · next he =>
        cases h
        exact isBest_append_first (by simpa [foldl_considerEntry_eq_none_iff] using hf) he
      · cases h
    | some b =>
      have hb := ih hs' hf
      rw [hf, considerEntry_some] at h
      split at h
      · next hlt =>
        cases h
        exact hb.append_of_size_lt hlt.1 hlt.2
      · next hnot =>
        cases h
        by_cases he : Applies target forPairs e
        · exact hb.append_of_size_le hs (Nat.le_of_not_lt fun hlt => hnot ⟨he, hlt⟩)
        · exact hb.append_of_not_applies he

/-- Two keys each no later than the other are the same key. -/
theorem eq_of_isLE_compare {k k' : Tags} (h : (compare k k').isLE) (h' : (compare k' k).isLE) : k = k' := by
  apply Std.LawfulEqOrd.eq_of_compare
  rw [Std.OrientedOrd.eq_swap] at h'
  cases hc : compare k k' <;> simp_all

/-- **The best entry is unique** among strictly ascending entries. -/
theorem IsBest.unique {es : List (Tags × Builder)} (hs : Sorted es) {r r' : Tags × Builder}
    (h : IsBest target forPairs es r) (h' : IsBest target forPairs es r') : r = r' := by
  obtain ⟨hr, hra, hmax⟩ := h
  obtain ⟨hr', hra', hmax'⟩ := h'
  have hsize : r.1.size = r'.1.size := Nat.le_antisymm (hmax' r hr hra).1 (hmax r' hr' hra').1
  have hkey : r.1 = r'.1 := eq_of_isLE_compare ((hmax r' hr' hra').2 hsize.symm) ((hmax' r hr hra).2 hsize)
  -- distinct entries of strictly ascending entries have distinct keys
  have hfind := (mem_iff_find? hs).1 hr
  rw [hkey, (mem_iff_find? hs).1 hr'] at hfind
  exact (Option.some.inj hfind).symm

/-- **The scan finds exactly the best entry**: the entries are strictly ascending. -/
theorem bestMatch_eq_some_iff (spec : BuildSpec) (r : Tags × Builder) :
    spec.bestMatch target forPairs = some r ↔ IsBest target forPairs spec.entries r := by
  constructor
  · exact foldl_considerEntry_isBest spec.sorted
  · intro h
    -- the best entry applies, so the scan finds something, which is the best entry again
    cases hm : spec.bestMatch target forPairs with
    | none => exact absurd h.2.1 (((bestMatch_eq_none_iff spec).1 hm) r h.1)
    | some r' => exact congrArg some ((foldl_considerEntry_isBest spec.sorted hm).unique spec.sorted h)

/-- **The most specific builder wins.** For every specification, a pair finds no builder
exactly when no key of a rod or a cable is contained in its tags, and otherwise finds the best such entry: the one whose key has
the most words and, of the keys with as many words, the least key in the order of tag sets, which
compares their ascending word lists lexicographically. A node is matched likewise among the
sphere builders alone. -/
theorem most_specific_builder_wins (spec : BuildSpec) (target : Tags) :
    (spec.bestPair target = none ↔ ∀ e ∈ spec.entries, ¬Applies target true e) ∧
    (∀ r, spec.bestPair target = some r ↔ IsBest target true spec.entries r) ∧
    (spec.bestNode target = none ↔ ∀ e ∈ spec.entries, ¬Applies target false e) ∧
    (∀ r, spec.bestNode target = some r ↔ IsBest target false spec.entries r) :=
  ⟨bestMatch_eq_none_iff spec, bestMatch_eq_some_iff spec, bestMatch_eq_none_iff spec,
    bestMatch_eq_some_iff spec⟩

/-- Registered under `muscle` and `right muscle`, the cable of `right muscle` is the best pair
builder for `outer right muscle`: both keys apply, and it has more words. -/
theorem right_muscle_builder_wins :
    (registerAll [("muscle", .cable (.new 1 10 0)), ("right muscle", .cable (.new 2 10 0))]).bestPair
      (Tags.parse "outer right muscle") = some (Tags.parse "right muscle", .cable (.new 2 10 0)) := by
  refine ((most_specific_builder_wins _ _).2.1 _).2 ⟨?_, by decide, by decide⟩
  have hentries : (registerAll [("muscle", .cable (.new 1 10 0)), ("right muscle", .cable (.new 2 10 0))]).entries =
      [(Tags.parse "muscle", .cable (.new 1 10 0)), (Tags.parse "right muscle", .cable (.new 2 10 0))] := rfl
  rw [hentries]
  exact List.mem_cons_of_mem _ List.mem_cons_self

end BuildSpec

end Tensegrity
