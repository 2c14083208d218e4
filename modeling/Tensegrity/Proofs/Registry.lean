import Mathlib
import Tensegrity.BuildSpec

/-!
# Registration order does not matter

A build specification is filled by registering builders one after another, and each
registration replaces whatever was registered under the same set of words. What a sequence of
registrations leaves behind should therefore be the map from tag sets to builders in which the
last write wins, and nothing else: not the order of the calls, nor how their tag strings were
spelled.

The specification keeps its keys strictly ascending in the order of tag sets, a lawful order
(lexicographic on the ascending word lists, so two keys compare equal only when they are the
same set), and its type carries that. Looking a key up after a registration finds the new builder
under that key and the old entries under every other (`find?_insertEntry`). Two strictly
ascending lists of entries with the same lookups are the same list (`eq_of_find?_eq`), so the
specification, and with it every best match, is a function of the last-write map alone
(`registerAll_last_write_wins`).
-/

namespace Tensegrity

namespace BuildSpec

variable {k k' : Tags} {b : Builder}

/-- An entry with a smaller key has a different key. -/
theorem ne_of_keyLt {e e' : Tags × Builder} (h : KeyLt e e') : e.1 ≠ e'.1 := by
  intro heq
  unfold KeyLt at h
  rw [heq, Std.ReflOrd.compare_self] at h
  cases h

/-- **A lookup after a registration** finds the new builder under its key, and what was there
before under every other key. -/
theorem find?_insertEntry (es : List (Tags × Builder)) :
    (insertEntry k b es).find? (·.1 == k') = if k = k' then some (k, b) else es.find? (·.1 == k') := by
  induction es with
  | nil => by_cases h : k = k' <;> simp [insertEntry, h]
  | cons e rest ih =>
    unfold insertEntry
    split
    · by_cases h : k = k' <;> simp [h]
    · next heq =>
      -- the replaced entry has the new key, so a lookup of another key passes both by
      have hk : k = e.1 := Std.LawfulEqOrd.eq_of_compare heq
      by_cases h : k = k'
      · simp [h]
      · have he : (e.1 == k') = false := by simpa [← hk] using h
        simp [h, he]
    · next hgt =>
      have hne : e.1 ≠ k := fun he => by
        rw [he, Std.ReflOrd.compare_self] at hgt
        cases hgt
      rw [List.find?_cons, List.find?_cons, ih]
      by_cases h : k = k'
      · have he : (e.1 == k') = false := by simpa [← h] using hne
        simp [h, he]
      · simp [h]

/-- In well-kept entries an entry is found by its own key. -/
theorem mem_iff_find? {es : List (Tags × Builder)} (h : Sorted es) {e : Tags × Builder} :
    e ∈ es ↔ es.find? (·.1 == e.1) = some e := by
  refine ⟨fun he => ?_, List.mem_of_find?_eq_some⟩
  induction es with
  | nil => cases he
  | cons e' rest ih =>
    obtain ⟨hhead, hrest⟩ := List.pairwise_cons.1 h
    rcases List.mem_cons.1 he with rfl | he
    · simp
    · -- every later entry has a larger key than the first
      have hne : (e'.1 == e.1) = false := by simpa using ne_of_keyLt (hhead e he)
      rw [List.find?_cons, hne]
      exact ih hrest he

/-- **Well-kept entries are fixed by their lookups**: two lists of strictly ascending keys that
find the same entry under every key are the same list. -/
theorem eq_of_find?_eq {es es' : List (Tags × Builder)} (h : Sorted es) (h' : Sorted es')
    (hfind : ∀ k, es.find? (·.1 == k) = es'.find? (·.1 == k)) : es = es' :=
  List.Pairwise.eq_of_mem_iff h h' fun e => by rw [mem_iff_find? h, mem_iff_find? h', hfind]

/-- What a lookup of `k` finds is an entry under `k`, so the builder alone says what it is. -/
theorem find?_eq_map_snd (es : List (Tags × Builder)) (k : Tags) :
    es.find? (·.1 == k) = ((es.find? (·.1 == k)).map (·.2)).map (k, ·) := by
  cases h : es.find? (·.1 == k) with
  | none => rfl
  | some e =>
    have hk : e.1 = k := by simpa using List.find?_some h
    simp [← hk]

/-! ## Sequences of registrations -/

/-- **The specification of a sequence of registrations**, made in order on the empty one. -/
def registerAll (rs : List (String × Builder)) : BuildSpec :=
  rs.foldl (fun spec r => spec.add r.1 r.2) empty

/-- **The last write** under a key: the builder of the last registration whose words are the
key. -/
def lastWrite (rs : List (String × Builder)) (k : Tags) : Option Builder :=
  (rs.reverse.find? fun r => Tags.parse r.1 == k).map (·.2)

@[simp] theorem registerAll_nil : registerAll [] = empty := rfl

theorem registerAll_append_singleton (rs : List (String × Builder)) (r : String × Builder) :
    registerAll (rs ++ [r]) = (registerAll rs).add r.1 r.2 := by
  simp [registerAll, List.foldl_append]

theorem lastWrite_append_singleton (rs : List (String × Builder)) (r : String × Builder) (k : Tags) :
    lastWrite (rs ++ [r]) k = if Tags.parse r.1 = k then some r.2 else lastWrite rs k := by
  by_cases h : Tags.parse r.1 = k <;> simp [lastWrite, h]

/-- The last write is read off the registrations under the key alone. -/
theorem lastWrite_eq_filter (rs : List (String × Builder)) (k : Tags) :
    lastWrite rs k = ((rs.filter fun r => Tags.parse r.1 == k).getLast?).map (·.2) := by
  rw [lastWrite, List.getLast?_filter]

/-- **A registered specification holds the last write under every key.** -/
theorem lookup_registerAll (rs : List (String × Builder)) (k : Tags) :
    ((registerAll rs).entries.find? (·.1 == k)).map (·.2) = lastWrite rs k := by
  induction rs using List.reverseRecOn with
  | nil => rfl
  | append_singleton rs r ih =>
    rw [registerAll_append_singleton, lastWrite_append_singleton, add, find?_insertEntry]
    by_cases h : Tags.parse r.1 = k
    · simp [h]
    · simp only [h, if_false]
      exact ih

/-- A key is registered exactly when some registration has its words. -/
theorem mem_keys_registerAll (rs : List (String × Builder)) (k : Tags) :
    k ∈ (registerAll rs).entries.map (·.1) ↔ k ∈ rs.map fun r => Tags.parse r.1 := by
  have hlookup := lookup_registerAll rs k
  constructor
  · intro hk
    obtain ⟨e, he, rfl⟩ := List.mem_map.1 hk
    -- the key's lookup finds an entry, so some registration wrote it
    have hfound := (mem_iff_find? (registerAll rs).sorted).1 he
    rw [hfound, lastWrite] at hlookup
    obtain ⟨r, hr, -⟩ := Option.map_eq_some_iff.1 hlookup.symm
    have hkey : Tags.parse r.1 = e.1 := by simpa using List.find?_some hr
    exact List.mem_map.2 ⟨r, List.mem_reverse.1 (List.mem_of_find?_eq_some hr), hkey⟩
  · intro hk
    obtain ⟨r, hr, rfl⟩ := List.mem_map.1 hk
    -- some registration wrote the key, so its lookup finds an entry
    have hsome : (lastWrite rs (Tags.parse r.1)).isSome := by
      rw [lastWrite, Option.isSome_map]
      exact List.find?_isSome.2 ⟨r, List.mem_reverse.2 hr, by simp⟩
    rw [← hlookup, Option.isSome_map, List.find?_isSome] at hsome
    obtain ⟨e, he, hek⟩ := hsome
    exact List.mem_map.2 ⟨e, he, by simpa using hek⟩

/-- **A registered specification has one entry per distinct key.** -/
theorem size_registerAll (rs : List (String × Builder)) :
    (registerAll rs).size = (rs.map fun r => Tags.parse r.1).toFinset.card := by
  have hnodup : ((registerAll rs).entries.map (·.1)).Nodup :=
    (List.pairwise_map.2 ((registerAll rs).sorted.imp ne_of_keyLt))
  rw [size, ← List.length_map (f := (·.1)), ← List.toFinset_card_of_nodup hnodup]
  congr 1
  ext k
  simp only [List.mem_toFinset]
  exact mem_keys_registerAll rs k

/-- **Registrations with the same last writes give the same specification.** -/
theorem registerAll_eq_of_lastWrite_eq {rs rs' : List (String × Builder)}
    (h : ∀ k, lastWrite rs k = lastWrite rs' k) : registerAll rs = registerAll rs' := by
  apply BuildSpec.ext
  refine eq_of_find?_eq (registerAll rs).sorted (registerAll rs').sorted fun k => ?_
  rw [find?_eq_map_snd, find?_eq_map_snd (registerAll rs').entries, lookup_registerAll,
    lookup_registerAll, h]

/-- **Registration order does not matter.** Whatever sequence of registrations fills a
specification from the empty one, the builder found under a tag string is the one of the last
registration whose tag string has the same words, or none, and there are as many entries as
distinct sets of words. Two sequences with the same last write under every set of words give
the same specification, and so the same best pair and best node builder, key included, for
every target; in particular so do two sequences that register under each set of words the
same builders in the same order, however the registrations under different sets interleave. -/
theorem registerAll_last_write_wins :
    (∀ (rs : List (String × Builder)) (t : String), (registerAll rs).get? t = lastWrite rs (Tags.parse t)) ∧
    (∀ rs : List (String × Builder), (registerAll rs).size = (rs.map fun r => Tags.parse r.1).toFinset.card) ∧
    (∀ rs rs' : List (String × Builder), (∀ k, lastWrite rs k = lastWrite rs' k) →
      registerAll rs = registerAll rs' ∧ ∀ target, (registerAll rs).bestPair target = (registerAll rs').bestPair target ∧
        (registerAll rs).bestNode target = (registerAll rs').bestNode target) ∧
    (∀ rs rs' : List (String × Builder),
      (∀ k, rs.filter (fun r => Tags.parse r.1 == k) = rs'.filter (fun r => Tags.parse r.1 == k)) →
      ∀ target, (registerAll rs).bestPair target = (registerAll rs').bestPair target ∧
        (registerAll rs).bestNode target = (registerAll rs').bestNode target) := by
  -- a specification that is the same gives the same best matches
  have hbest : ∀ rs rs' : List (String × Builder), (∀ k, lastWrite rs k = lastWrite rs' k) →
      registerAll rs = registerAll rs' ∧ ∀ target, (registerAll rs).bestPair target = (registerAll rs').bestPair target ∧
        (registerAll rs).bestNode target = (registerAll rs').bestNode target := by
    intro rs rs' h
    have heq := registerAll_eq_of_lastWrite_eq h
    exact ⟨heq, fun target => by rw [heq]; exact ⟨rfl, rfl⟩⟩
  refine ⟨fun rs t => lookup_registerAll rs (Tags.parse t), size_registerAll, hbest, ?_⟩
  intro rs rs' hfilter
  refine (hbest rs rs' fun k => ?_).2
  rw [lastWrite_eq_filter, lastWrite_eq_filter, hfilter]

/-- Two cables registered under `left muscle` and `inner muscle`, in either order, give the
same best pair builder for `inner left muscle`. -/
theorem registration_order_tie_break :
    (∀ k, [("left muscle", Builder.cable (.new 1 10 0)), ("inner muscle", .cable (.new 2 10 0))].filter
        (fun r => Tags.parse r.1 == k) =
      [("inner muscle", Builder.cable (.new 2 10 0)), ("left muscle", .cable (.new 1 10 0))].filter
        (fun r => Tags.parse r.1 == k)) ∧
    (registerAll [("left muscle", .cable (.new 1 10 0)), ("inner muscle", .cable (.new 2 10 0))]).bestPair
        (Tags.parse "inner left muscle") =
      (registerAll [("inner muscle", .cable (.new 2 10 0)), ("left muscle", .cable (.new 1 10 0))]).bestPair
        (Tags.parse "inner left muscle") := by
  have hkeys : Tags.parse "left muscle" ≠ Tags.parse "inner muscle" := by decide
  have hfilter : ∀ k, [("left muscle", Builder.cable (.new 1 10 0)), ("inner muscle", .cable (.new 2 10 0))].filter
        (fun r => Tags.parse r.1 == k) =
      [("inner muscle", Builder.cable (.new 2 10 0)), ("left muscle", .cable (.new 1 10 0))].filter
        (fun r => Tags.parse r.1 == k) := by
    intro k
    cases h₁ : (Tags.parse "left muscle" == k) <;> cases h₂ : (Tags.parse "inner muscle" == k)
    · simp [List.filter, h₁, h₂]
    · simp [List.filter, h₁, h₂]
    · simp [List.filter, h₁, h₂]
    · -- both keys cannot be `k`: they differ
      exact absurd ((beq_iff_eq.1 h₁).trans (beq_iff_eq.1 h₂).symm) hkeys
  exact ⟨hfilter, (registerAll_last_write_wins.2.2.2 _ _ hfilter _).1⟩

end BuildSpec

end Tensegrity
