import Tensegrity.Text

/-!
# Tags

Every node, pair, structure and built component carries a set of **tags**: free-form words
such as `inner left muscle`. A tag string is read as the set of its words, so word order and
repetition do not matter, and a query matches a set when each of its words is in it.

`Tags` keeps its words as a list in ascending order without repeats, so that two strings with
the same words give equal values; the type carries this, and each way of adding words keeps it.
Its text is those words joined by single spaces, and tag sets are ordered by comparing their
word lists lexicographically.
-/

namespace Tensegrity

namespace Tags

/-- Inserts a word into an ascending list without repeats, keeping it so. -/
def insertToken (t : String) : List String → List String
  | [] => [t]
  | u :: us => if t < u then t :: u :: us else if t = u then u :: us else u :: insertToken t us

/-- A word is in a list after inserting `t` exactly when it is `t` or was there before. -/
theorem mem_insertToken {t w : String} {ws : List String} :
    w ∈ insertToken t ws ↔ w = t ∨ w ∈ ws := by
  induction ws with
  | nil => simp [insertToken]
  | cons u us ih =>
    unfold insertToken
    split
    · simp
    · split
      · next h => subst h; simp
      · simp only [List.mem_cons, ih]
        grind

/-- **Inserting keeps a list strictly ascending.** -/
theorem pairwise_insertToken (t : String) :
    ∀ {ws : List String}, ws.Pairwise (· < ·) → (insertToken t ws).Pairwise (· < ·)
  | [], _ => List.pairwise_singleton _ _
  | u :: us, h => by
    obtain ⟨hu, hus⟩ := List.pairwise_cons.1 h
    unfold insertToken
    split
    · next hlt =>
      refine List.Pairwise.cons (fun v hv => ?_) h
      rcases List.mem_cons.1 hv with rfl | hv
      · exact hlt
      · exact String.lt_trans hlt (hu v hv)
    · next hnlt =>
      split
      · exact h
      · next hne =>
        -- `t` goes further on, after `u`
        refine List.Pairwise.cons (fun v hv => ?_) (pairwise_insertToken t hus)
        rcases mem_insertToken.1 hv with rfl | hv
        · exact Std.lt_of_le_of_ne (String.not_lt.1 hnlt) (Ne.symm hne)
        · exact hu v hv

/-- A word is in a list after inserting a list of words exactly when it was there or is one of
them. -/
theorem mem_foldl_insertToken {w : String} :
    ∀ {ws acc : List String}, w ∈ ws.foldl (fun acc v => insertToken v acc) acc ↔ w ∈ acc ∨ w ∈ ws
  | [], acc => by simp
  | v :: vs, acc => by
    rw [List.foldl_cons, mem_foldl_insertToken, mem_insertToken, List.mem_cons]
    grind

/-- Inserting words one after another keeps a list strictly ascending. -/
theorem pairwise_foldl_insertToken :
    ∀ {ws acc : List String}, acc.Pairwise (· < ·) → (ws.foldl (fun acc v => insertToken v acc) acc).Pairwise (· < ·)
  | [], _, h => h
  | v :: vs, _, h => @pairwise_foldl_insertToken vs _ (pairwise_insertToken v h)

end Tags

/-- **A tag set**: distinct words in ascending order. -/
@[ext]
structure Tags where
  /-- The words, ascending, without repeats. -/
  tokens : List String
  /-- The words ascend strictly, so none repeats. -/
  ascending : tokens.Pairwise (· < ·)
  /-- Each is a word: non-empty, with no blank. -/
  words : ∀ w ∈ tokens, Text.IsWord w

/-- Tag sets are equal when their words are. -/
instance : DecidableEq Tags := fun t u =>
  if h : t.tokens = u.tokens then isTrue (Tags.ext h) else isFalse fun e => h (congrArg Tags.tokens e)

instance : Repr Tags := ⟨fun t p => reprPrec t.tokens p⟩

namespace Tags

/-- The empty tag set. -/
def empty : Tags := ⟨[], .nil, fun _ h => nomatch h⟩

instance : Inhabited Tags := ⟨empty⟩

/-- Adds each word of a list to a tag set. -/
def insertAll (t : Tags) (ws : List String) (hws : ∀ w ∈ ws, Text.IsWord w) : Tags :=
  ⟨ws.foldl (fun acc w => insertToken w acc) t.tokens, pairwise_foldl_insertToken t.ascending,
    fun w hw => (mem_foldl_insertToken.1 hw).elim (t.words w) (hws w)⟩

/-- **The tag set of a string**: its words. -/
def parse (s : String) : Tags := empty.insertAll (Text.words s) fun _ => Text.isWord_of_mem_words

/-- Adds the words of a string. -/
def add (t : Tags) (s : String) : Tags := t.insertAll (Text.words s) fun _ => Text.isWord_of_mem_words

/-- Adds the words of another tag set. -/
def extend (t u : Tags) : Tags := t.insertAll u.tokens u.words

/-- The tag set of a list of strings: the words of all of them. -/
def ofStrings (xs : List String) : Tags := xs.foldl add empty

/-- Whether every word of `q` is in `t`; the empty set is contained in every set. -/
def contains (t q : Tags) : Bool := q.tokens.all (t.tokens.contains ·)

/-- Whether every word of the query string is in `t`. -/
def matchesQuery (t : Tags) (q : String) : Bool := (Text.words q).all (t.tokens.contains ·)

/-- Whether the set holds `w` as one of its words. -/
def has (t : Tags) (w : String) : Bool := t.tokens.contains w

/-- The number of distinct words. -/
def size (t : Tags) : Nat := t.tokens.length

/-- Whether the set has no word. -/
def isEmpty (t : Tags) : Bool := t.tokens.isEmpty

/-- **The text of a tag set**: its words in ascending order, joined by single spaces. -/
def text (t : Tags) : String := " ".intercalate t.tokens

/-- Lexicographic comparison of ascending word lists; a proper prefix comes first. -/
def compareTokens : List String → List String → Ordering
  | [], [] => .eq
  | [], _ :: _ => .lt
  | _ :: _, [] => .gt
  | a :: as, b :: bs => match compare a b with
    | .eq => compareTokens as bs
    | o => o

/-- **The order of tag sets**: lexicographic on their ascending word lists. -/
def compare (t u : Tags) : Ordering := compareTokens t.tokens u.tokens

instance : Ord Tags := ⟨Tags.compare⟩

/-! ## The words of a tag set -/

/-- The empty set has no word. -/
@[simp] theorem tokens_empty : empty.tokens = [] := rfl

/-- A word is in a tag set after adding a list of words exactly when it was there or is one of
them. -/
theorem mem_insertAll {t : Tags} {ws : List String} {hws : ∀ w ∈ ws, Text.IsWord w} {w : String} :
    w ∈ (t.insertAll ws hws).tokens ↔ w ∈ t.tokens ∨ w ∈ ws :=
  @mem_foldl_insertToken w ws t.tokens

/-! ## The order of tag sets -/

/-- Comparing word lists one word at a time is the lexicographic order of lists. -/
theorem compareTokens_eq (a b : List String) : compareTokens a b = Ord.compare a b := by
  induction a generalizing b with
  | nil => cases b <;> rfl
  | cons x xs ih =>
    cases b with
    | nil => rfl
    | cons y ys =>
      rw [compareTokens, List.compare_cons_cons, ← ih]
      cases Ord.compare x y <;> rfl

/-- Tag sets compare as their word lists do. -/
theorem compare_eq_compare_tokens (t u : Tags) : Ord.compare t u = Ord.compare t.tokens u.tokens :=
  compareTokens_eq t.tokens u.tokens

/-- **Tag sets are ordered transitively**, as lexicographic word lists are. -/
instance : Std.TransOrd Tags where
  eq_swap {t u} := by
    simp only [compare_eq_compare_tokens]
    exact Std.OrientedCmp.eq_swap
  isLE_trans {t u v} := by
    simp only [compare_eq_compare_tokens]
    exact Std.TransCmp.isLE_trans

/-- **Two tag sets compare equal only when they are equal.** -/
instance : Std.LawfulEqOrd Tags where
  compare_self {t} := by
    rw [compare_eq_compare_tokens]
    exact Std.ReflOrd.compare_self
  eq_of_compare {t u} h := by
    rw [compare_eq_compare_tokens] at h
    exact Tags.ext (Std.LawfulEqOrd.eq_of_compare h)

end Tags

end Tensegrity
