import Mathlib
import Tensegrity.Proofs.TagText
import Tensegrity.Proofs.Registry

/-!
# The algebra of tag sets

A tag set answers three questions: whether a query string matches it, word by word
(`Tags.matchesQuery`); whether it contains another set (`Tags.contains`); and whether it holds a
given string as one of its words (`Tags.has`). The first two agree on every string, since a
string's set holds exactly its words; the third holds of a string exactly when the string is one
word, read as the set of itself, and that set is contained.

Words are added by two calls, the words of a string (`Tags.add`) or those of another set
(`Tags.extend`); `Tags.Edit` names one such call and `Tags.update` makes a list of them in turn.
After any calls the set holds its old words and the words of every call, and nothing else
(`mem_update`). A set is fixed by its words (`Tags.ext_of_mem_iff`), since it keeps them in
ascending order, so the result depends on the words added alone: neither the order of the calls
nor their repetition matters, and adding a string is extending by its set.

Tag sets are ordered by comparing their word lists lexicographically, which is a lawful total
order (`Tags.compare_eq_compare_tokens` and the order instances, in `Tensegrity.Tags`); two sets
compare equal exactly when they hold the same words.
-/

namespace Tensegrity

namespace Tags

/-! ## Matching -/

@[simp] theorem contains_iff {t u : Tags} : t.contains u = true ↔ ∀ w ∈ u.tokens, w ∈ t.tokens := by
  simp [contains]

@[simp] theorem matchesQuery_iff {t : Tags} {q : String} :
    t.matchesQuery q = true ↔ ∀ w ∈ Text.words q, w ∈ t.tokens := by
  simp [matchesQuery]

@[simp] theorem has_iff {t : Tags} {w : String} : t.has w = true ↔ w ∈ t.tokens := by
  simp [has]

/-- **A query string matches exactly when its set is contained.** -/
theorem matchesQuery_eq_contains_parse (t : Tags) (q : String) : t.matchesQuery q = t.contains (parse q) :=
  Bool.eq_iff_iff.2 (by simp [mem_parse_tokens])

/-- A word read alone is the set of that word. -/
theorem parse_of_isWord {w : String} (hw : Text.IsWord w) : (parse w).tokens = [w] := by
  rw [parse, tokens_insertAll, Text.words_of_isWord hw]
  rfl

/-- **A set has a string exactly when the string is one word and its set is contained.** The
words of a set are words, so a string it has reads as itself. -/
theorem has_iff_parse_singleton (t : Tags) (q : String) :
    t.has q = true ↔ (parse q).tokens = [q] ∧ t.contains (parse q) = true := by
  constructor
  · intro hq
    have hmem : q ∈ t.tokens := has_iff.1 hq
    have hparse : (parse q).tokens = [q] := parse_of_isWord (t.words q hmem)
    refine ⟨hparse, ?_⟩
    rw [contains_iff, hparse]
    simpa using hmem
  · rintro ⟨hparse, hc⟩
    rw [contains_iff, hparse] at hc
    exact has_iff.2 (hc q List.mem_cons_self)

/-! ## Adding words -/

/-- **One call that adds words** to a tag set: the words of a string, or those of another set. -/
inductive Edit where
  /-- Adds the words of a string. -/
  | add (s : String)
  /-- Adds the words of another set. -/
  | extend (u : Tags)

namespace Edit

/-- Makes the call. -/
def apply : Edit → Tags → Tags
  | .add s, t => t.add s
  | .extend u, t => t.extend u

/-- The words the call adds: those of its string's set, or of its set. -/
def tokens : Edit → List String
  | .add s => (parse s).tokens
  | .extend u => u.tokens

/-- **A call adds its words and nothing else.** -/
theorem mem_apply (e : Edit) (t : Tags) (w : String) : w ∈ (e.apply t).tokens ↔ w ∈ t.tokens ∨ w ∈ e.tokens := by
  cases e with
  | add s => rw [apply, tokens, mem_add_tokens, mem_parse_tokens]
  | extend u => rw [apply, tokens, mem_extend_tokens]

end Edit

/-- **Makes calls one after another.** -/
def update (t : Tags) (es : List Edit) : Tags := es.foldl (fun t e => e.apply t) t

@[simp] theorem update_nil (t : Tags) : t.update [] = t := rfl

@[simp] theorem update_cons (t : Tags) (e : Edit) (es : List Edit) : t.update (e :: es) = (e.apply t).update es := rfl

/-- **After any calls a set holds its old words and the words of every call**, and no other. -/
theorem mem_update (es : List Edit) (t : Tags) (w : String) :
    w ∈ (t.update es).tokens ↔ w ∈ t.tokens ∨ ∃ e ∈ es, w ∈ e.tokens := by
  induction es generalizing t with
  | nil => simp
  | cons e es ih =>
    rw [update_cons, ih, Edit.mem_apply]
    simp only [List.mem_cons, exists_eq_or_imp]
    tauto

/-- **A set is fixed by its words**: its word list is the ascending list of them. -/
theorem ext_of_mem_iff {t u : Tags} (h : ∀ w, w ∈ t.tokens ↔ w ∈ u.tokens) : t = u :=
  Tags.ext (t.ascending.eq_of_mem_iff u.ascending h)

/-- **Calls adding the same words give the same set**, whatever their order and repetition. -/
theorem update_eq_of_same_words (t : Tags) {es es' : List Edit}
    (h : ∀ w, (∃ e ∈ es, w ∈ e.tokens) ↔ ∃ e ∈ es', w ∈ e.tokens) : t.update es = t.update es' := by
  refine ext_of_mem_iff fun w => ?_
  rw [mem_update, mem_update, h]

/-- **Adding a string is extending by its set.** -/
theorem add_eq_extend_parse (t : Tags) (s : String) : t.add s = t.extend (parse s) := by
  have h : t.update [.add s] = t.update [.extend (parse s)] :=
    update_eq_of_same_words t (by simp [Edit.tokens])
  exact h

/-- **What matched still matches** after any calls. -/
theorem matchesQuery_update {t : Tags} {q : String} (h : t.matchesQuery q = true) (es : List Edit) :
    (t.update es).matchesQuery q = true := by
  rw [matchesQuery_iff] at h ⊢
  exact fun w hw => (mem_update es t w).2 (.inl (h w hw))

/-! ## The order of tag sets -/

/-- **Two sets compare equal exactly when they hold the same words.** -/
theorem compare_eq_eq_iff (t u : Tags) : Ord.compare t u = .eq ↔ ∀ w, w ∈ t.tokens ↔ w ∈ u.tokens := by
  rw [Std.LawfulEqOrd.compare_eq_iff_eq]
  exact ⟨fun h _ => h ▸ Iff.rfl, ext_of_mem_iff⟩

/-- **Matching, containment, adding words and the order of tag sets.** A query string matches a
set exactly when the set of its words is contained, and a set has a string exactly when that
string read alone is the set of itself, contained in it. After any calls adding the words of
strings or of other sets, the set holds its old words and the words of every call, and no other;
so two runs of calls adding the same words end alike, whatever the order and repetition of the
calls, adding a string is extending by its set, and a query that matched still matches. The
order of tag sets is a total order, the lexicographic comparison of their ascending word lists,
under which two sets are equal exactly when they hold the same words. -/
theorem tag_matching_and_merging :
    (∀ (t : Tags) q, t.matchesQuery q = t.contains (parse q)) ∧
    (∀ (t : Tags) q, t.has q = true ↔ (parse q).tokens = [q] ∧ t.contains (parse q) = true) ∧
    (∀ (t : Tags) es w, w ∈ (t.update es).tokens ↔ w ∈ t.tokens ∨ ∃ e ∈ es, w ∈ e.tokens) ∧
    (∀ (t : Tags) es es', (∀ w, (∃ e ∈ es, w ∈ e.tokens) ↔ ∃ e ∈ es', w ∈ e.tokens) → t.update es = t.update es') ∧
    (∀ (t : Tags) s, t.add s = t.extend (parse s)) ∧
    (∀ (t : Tags) q es, t.matchesQuery q = true → (t.update es).matchesQuery q = true) ∧
    Std.TransOrd Tags ∧ Std.LawfulEqOrd Tags ∧
    (∀ t u : Tags, Ord.compare t u = Ord.compare t.tokens u.tokens) ∧
    (∀ t u : Tags, Ord.compare t u = .eq ↔ ∀ w, w ∈ t.tokens ↔ w ∈ u.tokens) :=
  ⟨matchesQuery_eq_contains_parse, has_iff_parse_singleton, fun t es w => mem_update es t w,
    fun t _ _ h => update_eq_of_same_words t h, add_eq_extend_parse, fun _ _ es h => matchesQuery_update h es,
    inferInstance, inferInstance, compare_eq_compare_tokens, compare_eq_eq_iff⟩

/-- `inner left muscle` has `left`, which reads as itself; and adding `top left` then extending by
`outer` ends as extending by `outer`, then adding `top`, then `left top`. -/
theorem reordered_calls_agree :
    ((parse "inner left muscle").has "left" = true ↔
      (parse "left").tokens = ["left"] ∧ (parse "inner left muscle").contains (parse "left") = true) ∧
    (parse "inner left muscle").update [.add "top left", .extend (parse "outer")] =
      (parse "inner left muscle").update [.extend (parse "outer"), .add "top", .add "left top"] := by
  obtain ⟨-, hhas, -, hsame, -⟩ := tag_matching_and_merging
  have htopLeft : (parse "top left").tokens = ["left", "top"] := by decide
  have houter : (parse "outer").tokens = ["outer"] := by decide
  have htop : (parse "top").tokens = ["top"] := by decide
  have hleftTop : (parse "left top").tokens = ["left", "top"] := by decide
  refine ⟨hhas _ "left", hsame _ _ _ fun w => ?_⟩
  simp [Edit.tokens, htopLeft, houter, htop, hleftTop]
  tauto

end Tags

end Tensegrity
