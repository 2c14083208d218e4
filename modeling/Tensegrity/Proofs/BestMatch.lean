import Tensegrity.BuildSpec

/-!
# What a best match can be

The best-match scan of a build specification keeps, of the entries it has seen, the best one
that applies: an entry of the requested kind whose key is contained in the target. Two facts
about the scan are used wherever a realization is reasoned about. The scan finds nothing
exactly when no entry applies (`bestMatch_eq_none_iff`), and what it finds is an entry that
applies (`bestMatch_applies`). In particular a pair is never given a sphere builder, and a node
never a rod or a cable.
-/

namespace Tensegrity

namespace BuildSpec

/-- An entry **applies** to a target when it is of the requested kind and its key is contained
in the target. -/
def Applies (target : Tags) (forPairs : Bool) (e : Tags × Builder) : Prop :=
  e.2.forPairs = forPairs ∧ target.contains e.1 = true

instance (target : Tags) (forPairs : Bool) (e : Tags × Builder) : Decidable (Applies target forPairs e) :=
  inferInstanceAs (Decidable (_ ∧ _))

variable {target : Tags} {forPairs : Bool}

/-- One step of the scan finds nothing only when nothing was found before and the entry does
not apply. -/
theorem considerEntry_eq_none_iff {best : Option (Tags × Builder)} {e : Tags × Builder} :
    considerEntry target forPairs best e = none ↔ best = none ∧ ¬Applies target forPairs e := by
  unfold considerEntry Applies
  by_cases h : e.2.forPairs = forPairs ∧ target.contains e.1 = true
  · rw [if_neg (by simp [h.1, h.2])]
    cases best with
    | none => simp [h]
    | some b =>
      dsimp only
      split <;> simp
  · rw [if_pos (by cases hk : e.2.forPairs <;> cases forPairs <;> simp_all)]
    simp [h]

/-- One step of the scan keeps what it had or takes the entry, which then applies. -/
theorem considerEntry_eq_some {best : Option (Tags × Builder)} {e r : Tags × Builder}
    (h : considerEntry target forPairs best e = some r) :
    best = some r ∨ (r = e ∧ Applies target forPairs e) := by
  unfold considerEntry at h
  split at h
  · exact .inl h
  · next hk =>
    have happ : Applies target forPairs e := by simpa [Applies] using hk
    split at h
    · exact .inr ⟨(Option.some.inj h).symm, happ⟩
    · split at h
      · exact .inr ⟨(Option.some.inj h).symm, happ⟩
      · exact .inl h

theorem foldl_considerEntry_eq_none_iff (es : List (Tags × Builder)) (best : Option (Tags × Builder)) :
    es.foldl (considerEntry target forPairs) best = none ↔
      best = none ∧ ∀ e ∈ es, ¬Applies target forPairs e := by
  induction es generalizing best with
  | nil => simp
  | cons e es ih =>
    rw [List.foldl_cons, ih, considerEntry_eq_none_iff]
    simp only [List.mem_cons, forall_eq_or_imp, and_assoc]

theorem foldl_considerEntry_eq_some (es : List (Tags × Builder)) {best : Option (Tags × Builder)}
    {r : Tags × Builder} (h : es.foldl (considerEntry target forPairs) best = some r) :
    best = some r ∨ (r ∈ es ∧ Applies target forPairs r) := by
  induction es generalizing best with
  | nil => exact .inl h
  | cons e es ih =>
    rcases ih h with h' | ⟨hr, happ⟩
    · rcases considerEntry_eq_some h' with hb | ⟨rfl, happ⟩
      · exact .inl hb
      · exact .inr ⟨List.mem_cons_self, happ⟩
    · exact .inr ⟨List.mem_cons_of_mem _ hr, happ⟩

/-- **The scan finds nothing exactly when no entry applies.** -/
theorem bestMatch_eq_none_iff (spec : BuildSpec) :
    spec.bestMatch target forPairs = none ↔ ∀ e ∈ spec.entries, ¬Applies target forPairs e := by
  rw [bestMatch, foldl_considerEntry_eq_none_iff]
  simp

/-- **What the scan finds is an entry that applies.** -/
theorem bestMatch_applies (spec : BuildSpec) {r : Tags × Builder}
    (h : spec.bestMatch target forPairs = some r) : r ∈ spec.entries ∧ Applies target forPairs r := by
  rcases foldl_considerEntry_eq_some spec.entries h with h | h
  · cases h
  · exact h

/-- A pair is only ever given a rod or a cable. -/
theorem bestPair_forPairs (spec : BuildSpec) {r : Tags × Builder} (h : spec.bestPair target = some r) :
    r.2.forPairs = true :=
  (bestMatch_applies spec h).2.1

end BuildSpec

end Tensegrity
