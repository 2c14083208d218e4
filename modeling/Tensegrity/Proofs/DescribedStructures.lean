import Tensegrity.Proofs.DescribedModels

/-!
# Which descriptions make a structure

A description names each rod and each muscle by two node numbers counted from one. Its
structure is made entry by entry, the rods first: an entry with a node number zero is refused
as such before anything else is checked, and any other entry must name two distinct nodes that
exist, or its pair is refused as invalid, with both numbers counted from zero and the node
count. Entries add pairs and never nodes, so every entry is checked against the node count of
the description.

An entry is read with the list it stands in and its position there (`Description.Entry`), so
that the fault it gives (`Entry.fault`) is a function of the entry alone. Reading one list is
then a search for its first entry that is not valid (`addEntries_of_find?_eq_some`), and the
whole description is a search over its rods followed by its muscles
(`Description.toStructure_first_invalid`).
-/

namespace Tensegrity

namespace Description

/-- **An entry of a description**: the tag of the list it stands in, its position there counted
from zero, and its two node numbers counted from one. -/
structure Entry where
  /-- `rod` or `muscle`. -/
  tag : String
  /-- Its position in its list. -/
  index : Nat
  /-- The first node number. -/
  first : Nat
  /-- The second node number. -/
  second : Nat

namespace Entry

/-- **A valid entry** names two distinct nodes among `n`, by numbers from one. -/
def Valid (n : Nat) (e : Entry) : Prop :=
  1 ≤ e.first ∧ e.first ≤ n ∧ 1 ≤ e.second ∧ e.second ≤ n ∧ e.first ≠ e.second

instance (n : Nat) (e : Entry) : Decidable (e.Valid n) :=
  inferInstanceAs (Decidable (1 ≤ e.first ∧ e.first ≤ n ∧ 1 ≤ e.second ∧ e.second ≤ n ∧ e.first ≠ e.second))

/-- Whether an entry is not valid among `n` nodes. -/
def invalid (n : Nat) (e : Entry) : Bool := !decide (e.Valid n)

/-- **Why an entry that is not valid is refused**: a node number zero is reported as such, with
the list, the position and both numbers; anything else as an invalid pair of the two nodes
counted from zero among `n`. -/
def fault (n : Nat) (e : Entry) : Fault :=
  if e.first = 0 ∨ e.second = 0 then .zeroNodeNumber e.tag e.index e.first e.second
  else .invalidPair (e.first - 1) (e.second - 1) n

end Entry

/-- The entries of one list tagged `tag`, numbered from `i`. -/
def entriesFrom (tag : String) : Nat → List (Nat × Nat) → List Entry
  | _, [] => []
  | i, e :: rest => ⟨tag, i, e.1, e.2⟩ :: entriesFrom tag (i + 1) rest

/-- **The entries of a description**: its rods, then its muscles, each list numbered from
zero. -/
def entries (d : Description) : List Entry := entriesFrom "rod" 0 d.rods ++ entriesFrom "muscle" 0 d.muscles

/-- The pairs a list of entries adds, each joining its two nodes counted from zero. -/
def pairsOf (tag : String) (es : List (Nat × Nat)) : List Pair :=
  es.map fun e => ⟨e.1 - 1, e.2 - 1, Tags.parse tag⟩

/-! ## One list -/

/-- **A valid entry adds its pair** and the rest of the list is read after it. -/
theorem addEntries_cons_of_valid {tag : String} {i : Nat} {s : Structure} {a b : Nat} {rest : List (Nat × Nat)}
    (h : (Entry.mk tag i a b).Valid s.nodes.length) :
    addEntries tag i s ((a, b) :: rest) =
      addEntries tag (i + 1) { s with pairs := s.pairs ++ pairsOf tag [(a, b)] } rest := by
  obtain ⟨ha, han, hb, hbn, hab⟩ : 1 ≤ a ∧ a ≤ s.nodes.length ∧ 1 ≤ b ∧ b ≤ s.nodes.length ∧ a ≠ b := h
  have hadd := Structure.addPair_of_valid (s := s) tag (show a - 1 ≠ b - 1 by omega) (by omega) (by omega)
  rw [addEntries, if_neg (by omega), hadd]
  rfl

/-- **An entry that is not valid is refused** with its fault, whatever follows it. -/
theorem addEntries_cons_of_invalid {tag : String} {i : Nat} {s : Structure} {a b : Nat} {rest : List (Nat × Nat)}
    (h : ¬(Entry.mk tag i a b).Valid s.nodes.length) :
    addEntries tag i s ((a, b) :: rest) = .error ((Entry.mk tag i a b).fault s.nodes.length) := by
  rw [addEntries, Entry.fault]
  by_cases hz : a = 0 ∨ b = 0
  · rw [if_pos hz, if_pos hz]
  · -- both numbers are at least one, so the pair itself is out of range or joins a node to itself
    rw [if_neg hz, if_neg hz]
    have hbad : a - 1 = b - 1 ∨ s.nodes.length ≤ a - 1 ∨ s.nodes.length ≤ b - 1 := by
      simp only [Entry.Valid] at h
      omega
    rw [Structure.addPair_of_invalid tag hbad]
    rfl

/-- **A list of valid entries adds their pairs**, in order. -/
theorem addEntries_of_valid {tag : String} (es : List (Nat × Nat)) :
    ∀ {i : Nat} {s : Structure}, (∀ e ∈ entriesFrom tag i es, e.Valid s.nodes.length) →
      addEntries tag i s es = .ok { s with pairs := s.pairs ++ pairsOf tag es } := by
  induction es with
  | nil =>
    intro i s _
    cases s
    simp [addEntries, pairsOf]
  | cons e rest ih =>
    intro i s h
    obtain ⟨a, b⟩ := e
    rw [addEntries_cons_of_valid (h _ List.mem_cons_self)]
    -- the rest is read against the same nodes
    rw [ih (s := { s with pairs := _ }) fun x hx => h x (List.mem_cons_of_mem _ hx)]
    simp [pairsOf]

/-- **A list is refused with the fault of its first entry that is not valid.** -/
theorem addEntries_of_find?_eq_some {tag : String} (es : List (Nat × Nat)) :
    ∀ {i : Nat} {s : Structure} {e : Entry}, (entriesFrom tag i es).find? (Entry.invalid s.nodes.length) = some e →
      addEntries tag i s es = .error (e.fault s.nodes.length) := by
  induction es with
  | nil =>
    intro i s e h
    cases h
  | cons x rest ih =>
    intro i s e h
    obtain ⟨a, b⟩ := x
    rw [entriesFrom, List.find?_cons] at h
    by_cases hv : (Entry.mk tag i a b).Valid s.nodes.length
    · -- the head adds its pair, and the first refused entry is further on, on the same nodes
      rw [show Entry.invalid s.nodes.length ⟨tag, i, a, b⟩ = false by simp [Entry.invalid, hv]] at h
      rw [addEntries_cons_of_valid hv]
      exact ih h
    · rw [show Entry.invalid s.nodes.length ⟨tag, i, a, b⟩ = true by simp [Entry.invalid, hv]] at h
      cases h
      exact addEntries_cons_of_invalid hv

/-! ## A whole description -/

/-- The description's nodes, untagged, and no pair yet. -/
def nodesOnly (d : Description) : Structure where
  nodes := d.nodes.map fun c => .ofPosition (entryPosition c)

/-- **A description reads its rods, then its muscles**, on its nodes. -/
theorem toStructure_eq (d : Description) :
    d.toStructure = addEntries "rod" 0 d.nodesOnly d.rods >>= fun s => addEntries "muscle" 0 s d.muscles := by
  unfold toStructure
  rw [foldl_appendNodes _ (fun c => .ofPosition (entryPosition c)) (fun s c => by obtain ⟨x, y, z⟩ := c; rfl)]
  rfl

@[simp] theorem nodesOnly_length (d : Description) : d.nodesOnly.nodes.length = d.nodes.length := by
  simp [nodesOnly]

/-- **A description whose entries are all valid makes the described structure.** -/
theorem toStructure_of_valid {d : Description} (h : ∀ e ∈ d.entries, e.Valid d.nodes.length) :
    d.toStructure = .ok d.structureOf := by
  have hrods : ∀ e ∈ entriesFrom "rod" 0 d.rods, e.Valid d.nodesOnly.nodes.length := fun e he =>
    by simpa using h e (List.mem_append_left _ he)
  have hmuscles : ∀ e ∈ entriesFrom "muscle" 0 d.muscles, e.Valid d.nodesOnly.nodes.length := fun e he =>
    by simpa using h e (List.mem_append_right _ he)
  rw [toStructure_eq, addEntries_of_valid _ hrods]
  show addEntries "muscle" 0 { d.nodesOnly with pairs := d.nodesOnly.pairs ++ pairsOf "rod" d.rods } d.muscles = _
  rw [addEntries_of_valid (s := { d.nodesOnly with pairs := d.nodesOnly.pairs ++ pairsOf "rod" d.rods }) _ hmuscles]
  simp [structureOf, nodesOnly, pairsOf]

/-- **A description with an entry that is not valid is refused with the fault of the first
one**, rods before muscles. -/
theorem toStructure_of_find?_eq_some {d : Description} {e : Entry}
    (h : d.entries.find? (Entry.invalid d.nodes.length) = some e) :
    d.toStructure = .error (e.fault d.nodes.length) := by
  rw [entries, List.find?_append] at h
  rw [toStructure_eq]
  cases hr : (entriesFrom "rod" 0 d.rods).find? (Entry.invalid d.nodes.length) with
  | some e' =>
    -- the first refused entry is a rod
    rw [hr, Option.some_or] at h
    cases h
    rw [← nodesOnly_length] at hr ⊢
    rw [addEntries_of_find?_eq_some _ hr]
    rfl
  | none =>
    -- every rod is valid, and the first refused entry is a muscle
    rw [hr, Option.none_or] at h
    have hrods : ∀ x ∈ entriesFrom "rod" 0 d.rods, x.Valid d.nodesOnly.nodes.length := by
      intro x hx
      simpa [Entry.invalid] using List.find?_eq_none.1 hr x hx
    rw [addEntries_of_valid _ hrods]
    show addEntries "muscle" 0 { d.nodesOnly with pairs := d.nodesOnly.pairs ++ pairsOf "rod" d.rods } d.muscles = _
    rw [← nodesOnly_length] at h ⊢
    exact addEntries_of_find?_eq_some _ h

/-- **Which descriptions make a structure.** A description makes a structure exactly when every
rod entry and then every muscle entry names two distinct nodes that exist by numbers from one,
and the structure is then the described one: the nodes at the given coordinates, in order and
untagged, no child and no tag of its own, and a pair for each rod (tagged `rod`) and then for
each muscle (tagged `muscle`), joining its nodes counted from zero. Otherwise the first entry
that is not valid, rods before muscles, decides the fault: a node number zero is reported with
the list, the entry's position there and both numbers, and any other entry as an invalid pair
of its numbers less one among the description's nodes. -/
theorem toStructure_first_invalid (d : Description) :
    (∀ s, d.toStructure = .ok s ↔ (∀ e ∈ d.entries, e.Valid d.nodes.length) ∧ s = d.structureOf) ∧
    ∀ pre e post, d.entries = pre ++ e :: post → (∀ x ∈ pre, x.Valid d.nodes.length) →
      ¬e.Valid d.nodes.length → d.toStructure = .error (e.fault d.nodes.length) := by
  constructor
  · intro s
    constructor
    · intro h
      cases hf : d.entries.find? (Entry.invalid d.nodes.length) with
      | none =>
        have hvalid : ∀ e ∈ d.entries, e.Valid d.nodes.length := by
          intro e he
          simpa [Entry.invalid] using List.find?_eq_none.1 hf e he
        rw [toStructure_of_valid hvalid, Except.ok.injEq] at h
        exact ⟨hvalid, h.symm⟩
      | some e =>
        rw [toStructure_of_find?_eq_some hf] at h
        cases h
    · rintro ⟨hvalid, rfl⟩
      exact toStructure_of_valid hvalid
  · intro pre e post hentries hpre he
    apply toStructure_of_find?_eq_some
    rw [List.find?_eq_some_iff_append]
    exact ⟨by simp [Entry.invalid, he], pre, post, hentries, fun x hx => by simp [Entry.invalid, hpre x hx]⟩

/-- A prism of three nodes whose second muscle has a node number zero and one past the last
node. -/
def prismWithZero : Description where
  nodes := [(0, 0, 0), (4, 0, 0), (0, 4, 0)]
  rods := [(1, 2)]
  muscles := [(2, 3), (0, 9)]
  rodRadius := 0.5
  rodDensity := 0.25
  stiffness := 500
  damping := 5
  pretension := 50

/-- The second muscle is the first entry that is not valid, and its zero is reported before
its number past the last node. -/
theorem zero_muscle_number_refused :
    prismWithZero.toStructure = .error (.zeroNodeNumber "muscle" 1 0 9) :=
  (toStructure_first_invalid prismWithZero).2 [⟨"rod", 0, 1, 2⟩, ⟨"muscle", 0, 2, 3⟩] ⟨"muscle", 1, 0, 9⟩ []
    rfl (by decide) (by decide)

end Description

end Tensegrity
