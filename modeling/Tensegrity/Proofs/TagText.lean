import Mathlib
import Tensegrity.Document
import Tensegrity.Proofs.Utf8Order

/-!
# Tag sets read back from their text

Every tag set holds words, non-empty strings with no blank in them, in strictly ascending order;
the type carries both, and each way of adding words keeps them. The order of strings is that
of their UTF-8 bytes (`Text.lt_iff_utf8_lt`), so the words ascend byte by byte.

Everything else follows from two facts about cutting text into words. A blank ends the word
being read, so the words of strings joined by spaces are the words of each string in turn
(`Text.words_intercalate_space`), and a word is its own only word (`Text.words_of_isWord`).
Inserting a list of ascending words one after another after smaller ones appends them
(`Tags.foldl_insertToken_of_ascending`). Hence the text of a set reads back as the set
(`Tags.parse_text`), two strings have the same words exactly when their sets print alike, a list
of strings has the words of the strings joined by spaces, and a set read back from its own word
list is itself.
-/

namespace Tensegrity

namespace Text

/-! ## Cutting text into words -/

/-- A run of characters with no blank is read on after the carry, and closed at the end. -/
theorem wordsFrom_of_forall_not_blank {cs : List Char} (h : ∀ c ∈ cs, isBlank c = false)
    (carry : List Char) :
    wordsFrom cs carry = if carry ++ cs = [] then [] else [String.ofList (carry ++ cs)] := by
  induction cs generalizing carry with
  | nil => simp [wordsFrom]
  | cons c cs ih =>
    rw [wordsFrom, if_neg (by simp [h c List.mem_cons_self]),
      ih (fun d hd => h d (List.mem_cons_of_mem _ hd))]
    simp

/-- **A blank closes the word being read**: what stands before it and what stands after it are
cut into words apart. -/
theorem wordsFrom_append_blank {c : Char} (hc : isBlank c = true) (ds : List Char) :
    ∀ cs carry : List Char, wordsFrom (cs ++ c :: ds) carry = wordsFrom cs carry ++ wordsFrom ds []
  | [], carry => by
    rw [List.nil_append]
    by_cases h : carry = [] <;> simp [wordsFrom, hc, h]
  | d :: cs, carry => by
    rw [List.cons_append, wordsFrom, wordsFrom]
    by_cases hd : isBlank d = true
    · rw [if_pos hd, if_pos hd, wordsFrom_append_blank hc ds cs []]
      by_cases h : carry = [] <;> simp [h]
    · rw [if_neg hd, if_neg hd, wordsFrom_append_blank hc ds cs (carry ++ [d])]

/-- The words of `a ++ " " ++ b` are those of `a`, then those of `b`. -/
theorem words_append_space (a b : String) : words (a ++ " " ++ b) = words a ++ words b := by
  have hspace : (" " : String).toList = [' '] := by decide
  rw [words, String.toList_append, String.toList_append, hspace, List.append_assoc, List.singleton_append,
    wordsFrom_append_blank (by decide)]
  rfl

/-- **The words of strings joined by spaces** are the words of each string, in order. -/
theorem words_intercalate_space : ∀ xs : List String, words (" ".intercalate xs) = xs.flatMap words
  | [] => by simp [words, wordsFrom]
  | [x] => by simp
  | x :: y :: xs => by
    rw [String.intercalate_cons_cons, words_append_space, words_intercalate_space (y :: xs)]
    simp only [List.flatMap_cons]

/-- A word is its own only word. -/
theorem words_of_isWord {w : String} (hw : IsWord w) : words w = [w] := by
  rw [words, wordsFrom_of_forall_not_blank hw.2, List.nil_append,
    if_neg (by simpa using hw.1), String.ofList_toList]

/-- Words joined by spaces cut back into the same words. -/
theorem flatMap_words_of_isWord {ws : List String} (h : ∀ w ∈ ws, IsWord w) : ws.flatMap words = ws := by
  induction ws with
  | nil => rfl
  | cons w ws ih =>
    rw [List.flatMap_cons, words_of_isWord (h w List.mem_cons_self),
      ih (fun v hv => h v (List.mem_cons_of_mem _ hv))]
    rfl

end Text

namespace Tags

/-- The words of a tag set ascend in the order of their UTF-8 bytes too. -/
theorem utf8_ascending (t : Tags) : t.tokens.Pairwise fun a b => Text.utf8 a < Text.utf8 b :=
  t.ascending.imp fun hab => (Text.lt_iff_utf8_lt _ _).1 hab

/-! ## Inserting words -/

theorem tokens_insertAll (t : Tags) (ws : List String) (hws : ∀ w ∈ ws, Text.IsWord w) :
    (t.insertAll ws hws).tokens = ws.foldl (fun acc w => insertToken w acc) t.tokens := rfl

/-- A word above every word of a list goes at its end. -/
theorem insertToken_of_forall_lt {t : String} :
    ∀ {ws : List String}, (∀ u ∈ ws, u < t) → insertToken t ws = ws ++ [t]
  | [], _ => rfl
  | u :: us, h => by
    have hu := h u List.mem_cons_self
    unfold insertToken
    rw [if_neg (lt_asymm hu), if_neg (ne_of_gt hu), insertToken_of_forall_lt fun v hv => h v (List.mem_cons_of_mem _ hv)]
    rfl

/-- **Inserting ascending words** after smaller ones appends them. -/
theorem foldl_insertToken_of_ascending :
    ∀ {ws acc : List String}, (acc ++ ws).Pairwise (· < ·) → ws.foldl (fun acc w => insertToken w acc) acc = acc ++ ws
  | [], acc, _ => by simp
  | w :: ws, acc, h => by
    have hlt : ∀ u ∈ acc, u < w := fun u hu => (List.pairwise_append.1 h).2.2 u hu w List.mem_cons_self
    rw [List.foldl_cons, insertToken_of_forall_lt hlt, foldl_insertToken_of_ascending (by simpa using h)]
    simp

/-- Adding the words of strings one after another inserts the words of all of them. -/
theorem tokens_foldl_add (xs : List String) (t : Tags) :
    (xs.foldl add t).tokens = (xs.flatMap Text.words).foldl (fun acc w => insertToken w acc) t.tokens := by
  induction xs generalizing t with
  | nil => rfl
  | cons x xs ih => rw [List.foldl_cons, ih, List.flatMap_cons, List.foldl_append]; rfl

/-- **A list of strings has the words of the strings joined by spaces.** -/
theorem ofStrings_eq_parse (xs : List String) : ofStrings xs = parse (" ".intercalate xs) := by
  apply Tags.ext
  rw [ofStrings, tokens_foldl_add, parse, tokens_insertAll, Text.words_intercalate_space]

/-! ## Reading the text back -/

/-- **The text of a set reads back as the set.** -/
theorem parse_text (t : Tags) : parse t.text = t := by
  apply Tags.ext
  rw [parse, text, tokens_insertAll, Text.words_intercalate_space, Text.flatMap_words_of_isWord t.words,
    foldl_insertToken_of_ascending (by simpa using t.ascending)]
  rfl

/-- **Two strings have the same words exactly when their sets print alike.** -/
theorem parse_eq_parse_iff (s₁ s₂ : String) : parse s₁ = parse s₂ ↔ (parse s₁).text = (parse s₂).text :=
  ⟨congrArg text, fun h => by rw [← parse_text (parse s₁), h, parse_text (parse s₂)]⟩

/-- A set read back from its own word list is itself. -/
theorem ofStrings_tokens (t : Tags) : ofStrings t.tokens = t := by
  rw [ofStrings_eq_parse]
  exact parse_text t

/-- A list of strings read as strings. -/
theorem mapM_toText (xs : List String) : (xs.map Json.Datum.text).mapM Document.toText = some xs := by
  induction xs with
  | nil => rfl
  | cons x xs ih => simp [List.mapM_cons, ih, Document.toText]

/-- **A set, written as its word list, reads back as itself.** -/
theorem toTags_tokens (t : Tags) : Document.toTags (.items (t.tokens.map .text)) = some t := by
  show ofStrings <$> (t.tokens.map Json.Datum.text).mapM Document.toText = some t
  rw [mapM_toText]
  exact congrArg some (ofStrings_tokens t)

/-- The words of a string's tag set are its words. -/
theorem mem_parse_tokens (s w : String) : w ∈ (parse s).tokens ↔ w ∈ Text.words s := by
  rw [parse, mem_insertAll, tokens_empty]
  simp

/-- Adding a string adds its words and nothing else. -/
theorem mem_add_tokens (t : Tags) (s w : String) : w ∈ (t.add s).tokens ↔ w ∈ t.tokens ∨ w ∈ Text.words s :=
  mem_insertAll

/-- Extending by a set adds its words and nothing else. -/
theorem mem_extend_tokens (t u : Tags) (w : String) : w ∈ (t.extend u).tokens ↔ w ∈ t.tokens ∨ w ∈ u.tokens :=
  mem_insertAll

/-- **Tag sets read back from their text.** Every piece a string is cut into is a non-empty
word with no blank; a string's set holds exactly its words, adding a string or extending by a
set adds their words and nothing else, and a list of strings has the set of the strings joined
by spaces. So every tag set, however made (empty, read from a string, with words added, read
from a list of strings, a tag document or a JSON value), holds distinct words, ascending in the
order of their UTF-8 bytes. Its text is those words joined by single spaces, and it reads back
as the set, as does its word list written as a tag document; two strings have the same set
exactly when their sets print alike. -/
theorem tags_read_back :
    (∀ s, ∀ w ∈ Text.words s, Text.IsWord w) ∧
    (∀ s w, w ∈ (parse s).tokens ↔ w ∈ Text.words s) ∧
    (∀ (t : Tags) s w, w ∈ (t.add s).tokens ↔ w ∈ t.tokens ∨ w ∈ Text.words s) ∧
    (∀ (t u : Tags) w, w ∈ (t.extend u).tokens ↔ w ∈ t.tokens ∨ w ∈ u.tokens) ∧
    (∀ xs, ofStrings xs = parse (" ".intercalate xs)) ∧
    (∀ t : Tags, t.tokens.Pairwise (fun a b => Text.utf8 a < Text.utf8 b) ∧ t.text = " ".intercalate t.tokens ∧
      parse t.text = t ∧ Document.toTags (.items (t.tokens.map .text)) = some t) ∧
    (∀ s₁ s₂, parse s₁ = parse s₂ ↔ (parse s₁).text = (parse s₂).text) :=
  ⟨fun _ _ => Text.isWord_of_mem_words, mem_parse_tokens, mem_add_tokens, mem_extend_tokens, ofStrings_eq_parse,
    fun t => ⟨utf8_ascending t, rfl, parse_text t, toTags_tokens t⟩, parse_eq_parse_iff⟩

/-- `top  muscle muscle` has the set of `muscle top`, which prints so and reads back from its text
and from its word list. -/
theorem muscle_top_reads_back :
    (parse "top  muscle muscle").text = "muscle top" ∧
      parse (parse "top  muscle muscle").text = parse "top  muscle muscle" ∧
      Document.toTags (.items ((parse "top  muscle muscle").tokens.map .text)) = some (parse "top  muscle muscle") := by
  obtain ⟨-, -, -, -, -, hread, -⟩ := tags_read_back
  obtain ⟨-, -, htext, htags⟩ := hread (parse "top  muscle muscle")
  exact ⟨by decide, htext, htags⟩

end Tags

end Tensegrity
