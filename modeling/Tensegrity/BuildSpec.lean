import Tensegrity.Material

/-!
# Build specifications

A build specification maps tag sets to builders. Registering a builder under a tag string
replaces whatever was registered under the same set of words, so the specification is a map
with the last write winning. Its entries are kept in strictly ascending order of their keys,
in the order of tag sets, and the type carries that: registering keeps it.

**Best match.** A pair asks for the best pair builder (rod or cable) and a node for the best
node builder (sphere). Among the entries of the right kind whose key is contained in the
target's tags, the key with the most words wins, and of keys with equally many words the
least one in the order of tag sets. Builders of the other kind never take part, and the empty
key is a catch-all of the lowest priority.
-/

namespace Tensegrity

namespace BuildSpec

/-- Entry `e` comes before `e'`: its key is the smaller. -/
def KeyLt (e e' : Tags × Builder) : Prop := compare e.1 e'.1 = .lt

instance : Std.Irrefl KeyLt where
  irrefl e h := by
    unfold KeyLt at h
    rw [Std.ReflOrd.compare_self] at h
    cases h

instance : Std.Antisymm KeyLt where
  antisymm e e' h h' := by
    unfold KeyLt at h h'
    rw [Std.OrientedOrd.eq_swap, h'] at h
    cases h

/-- **Well-kept entries**: keys strictly ascending, and so distinct. -/
def Sorted (es : List (Tags × Builder)) : Prop := es.Pairwise KeyLt

/-- Puts an entry in its place among ascending entries, replacing one with the same key. -/
def insertEntry (k : Tags) (b : Builder) : List (Tags × Builder) → List (Tags × Builder)
  | [] => [(k, b)]
  | (k', b') :: rest =>
    match compare k k' with
    | .lt => (k, b) :: (k', b') :: rest
    | .eq => (k, b) :: rest
    | .gt => (k', b') :: insertEntry k b rest

variable {k : Tags} {b : Builder}

/-- Every entry of an insertion is the new entry or an old one. -/
theorem mem_insertEntry {es : List (Tags × Builder)} {e : Tags × Builder} (h : e ∈ insertEntry k b es) :
    e = (k, b) ∨ e ∈ es := by
  induction es with
  | nil => simpa [insertEntry] using h
  | cons e' rest ih =>
    unfold insertEntry at h
    split at h
    · simpa using h
    · rcases List.mem_cons.1 h with h | h
      · exact .inl h
      · exact .inr (List.mem_cons_of_mem _ h)
    · rcases List.mem_cons.1 h with h | h
      · exact .inr (h ▸ List.mem_cons_self)
      · rcases ih h with h | h
        · exact .inl h
        · exact .inr (List.mem_cons_of_mem _ h)

/-- **Inserting keeps the keys strictly ascending.** -/
theorem sorted_insertEntry {es : List (Tags × Builder)} (h : Sorted es) : Sorted (insertEntry k b es) := by
  induction es with
  | nil => exact List.pairwise_singleton _ _
  | cons e rest ih =>
    obtain ⟨hhead, hrest⟩ := List.pairwise_cons.1 h
    unfold insertEntry
    split
    · -- the new key goes in front of a larger one, and so of all the rest
      next hlt =>
      refine List.Pairwise.cons (fun e' he' => ?_) h
      rcases List.mem_cons.1 he' with rfl | he'
      · exact hlt
      · exact Std.TransCmp.lt_trans hlt (hhead e' he')
    · -- the new entry replaces one with the same key
      next heq =>
      refine List.Pairwise.cons (fun e' he' => ?_) hrest
      have hk : k = e.1 := Std.LawfulEqOrd.eq_of_compare heq
      rw [KeyLt, hk]
      exact hhead e' he'
    · -- the new key is larger: it goes further on, still after `e`
      next hgt =>
      refine List.Pairwise.cons (fun e' he' => ?_) (ih hrest)
      rcases mem_insertEntry he' with rfl | he'
      · exact Std.OrientedCmp.lt_of_gt hgt
      · exact hhead e' he'

end BuildSpec

/-- **A build specification**: builders by key, keys strictly ascending. -/
@[ext]
structure BuildSpec where
  /-- The entries, in ascending order of their keys. -/
  entries : List (Tags × Builder)
  /-- Their keys are strictly ascending, and so distinct. -/
  sorted : BuildSpec.Sorted entries

namespace BuildSpec

/-- The specification without builders. -/
def empty : BuildSpec := ⟨[], .nil⟩

instance : Inhabited BuildSpec := ⟨empty⟩

/-- **Registers a builder** under the words of `tag`, replacing any builder under the same
words. -/
def add (spec : BuildSpec) (tag : String) (b : Builder) : BuildSpec :=
  ⟨insertEntry (Tags.parse tag) b spec.entries, sorted_insertEntry spec.sorted⟩

/-- The builder registered under the words of `tag`. -/
def get? (spec : BuildSpec) (tag : String) : Option Builder :=
  let k := Tags.parse tag
  (spec.entries.find? (·.1 == k)).map (·.2)

/-- The number of keys. -/
def size (spec : BuildSpec) : Nat := spec.entries.length

/-- Whether no builder is registered. -/
def isEmpty (spec : BuildSpec) : Bool := spec.entries.isEmpty

/-- One step of the best-match scan: an entry of the right kind whose key is contained in the
target replaces the best so far only when its key has strictly more words. -/
def considerEntry (target : Tags) (forPairs : Bool) (best : Option (Tags × Builder))
    (e : Tags × Builder) : Option (Tags × Builder) :=
  if e.2.forPairs != forPairs || !target.contains e.1 then best
  else match best with
    | none => some e
    | some b => if e.1.size > b.1.size then some e else best

/-- **The best match** among builders of one kind, scanning keys in ascending order. -/
def bestMatch (spec : BuildSpec) (target : Tags) (forPairs : Bool) : Option (Tags × Builder) :=
  spec.entries.foldl (considerEntry target forPairs) none

/-- The best rod or cable builder for a pair's tags. -/
def bestPair (spec : BuildSpec) (target : Tags) : Option (Tags × Builder) := spec.bestMatch target true

/-- The best sphere builder for a node's tags. -/
def bestNode (spec : BuildSpec) (target : Tags) : Option (Tags × Builder) := spec.bestMatch target false

end BuildSpec

end Tensegrity
