import ApiDocs.Proofs.Navigation.Arrangement
import ApiDocs.Proofs.Slug.Projection

/-!
# Labels and slugs of operations

The label of an operation and its slug are chosen by two chains of alternatives: summary, operation
id, method and path.  The label takes the first that is not empty, the slug the first that has
letters or digits, and the label writes an operation id as a title and a method in capitals.  Still
they agree: the slug is the slug of the label (`slugify_operationLabel`), unless there is a summary
without letters or digits, which is a label but gives no slug.
-/

namespace ApiDocs.Navigation

open Slug

theorem firstNonEmpty_cons (text : Text) (texts : List Text) (default : Text) :
    firstNonEmpty (text :: texts) default
      = if text = [] then firstNonEmpty texts default else text := by
  cases text with
  | nil => rfl
  | cons p ps => rfl

theorem ofString_slugify_eq_nil {t : Text} : Text.ofString (slugify t) = [] ↔ slugify t = "" :=
  ⟨fun h => of_not_not fun hne => Text.ofString_ne_nil hne h, fun h => by rw [h]; rfl⟩

/-! ## 1. Method and path -/

/-- A word before a text with a space between the two is one word more. -/
theorem words_spaced {w : List Char} (h : IsWord w) (t : Text) :
    words (transliterate (Text.ofChars w ++ " " ++ t)) = w :: words (transliterate t) := by
  have hascii : ∀ c ∈ w ++ [' '], isAscii c = true := by
    refine List.forall_mem_append.mpr ⟨fun c hc => isAscii_of_isWordChar (h.isWordChar hc), ?_⟩
    exact List.forall_mem_singleton.mpr (by decide)
  rw [show Text.ofString " " = Text.ofChars [' '] from rfl, ← Text.ofChars_append,
    transliterate_append hascii, List.append_assoc, List.singleton_append,
    words_append (by decide), words_of_isWord h]
  rfl

/-- Only the small letters of the word get into the slug. -/
theorem slugify_spaced {v w : List Char} (hv : IsWord v) (hw : IsWord w)
    (hsame : v.map Char.toLower = w.map Char.toLower) (t : Text) :
    slugify (Text.ofChars v ++ " " ++ t) = slugify (Text.ofChars w ++ " " ++ t) := by
  rw [slugify_eq_joined, slugify_eq_joined, words_spaced hv, words_spaced hw, List.map_cons,
    List.map_cons, hsame]

/-- A method is a word, and in capitals one of the same small letters. -/
theorem exists_words_method {method : Text} (h : method ∈ methods) :
    ∃ v w, method = Text.ofChars v ∧ Text.upper method = Text.ofChars w ∧ IsWord v ∧ IsWord w ∧
      v.map Char.toLower = w.map Char.toLower := by
  have hall : ∀ method ∈ methods, method = Text.ofChars (Text.toChars method) ∧
      Text.upper method = Text.ofChars ((Text.toChars method).map Char.toUpper) ∧
      Text.toChars method ≠ [] ∧ (Text.toChars method).all Char.isLower = true ∧
      ((Text.toChars method).map Char.toUpper).all Char.isUpper = true := by
    decide
  obtain ⟨hself, hupper, hne, hsmall, hcapitals⟩ := hall method h
  refine ⟨_, _, hself, hupper, .small hne (List.all_eq_true.mp hsmall),
    .capitals (by simpa using hne) (List.all_eq_true.mp hcapitals), ?_⟩
  rw [List.map_map]
  exact List.map_congr_left fun c _ => (Char.toLower_toUpper_eq_toLower c).symm

/-- **A method in capitals before a path gives the slug of method and path.** -/
theorem slugify_upper_method {method : Text} (h : method ∈ methods) (path : Text) :
    slugify (Text.upper method ++ " " ++ path) = slugify (method ++ " " ++ path) := by
  obtain ⟨v, w, rfl, hupper, hv, hw, hsame⟩ := exists_words_method h
  rw [hupper]
  exact slugify_spaced hw hv hsame.symm path

/-- The slug of method and path is not empty. -/
theorem slugify_method_ne_empty {method : Text} (h : method ∈ methods) (path : Text) :
    slugify (method ++ " " ++ path) ≠ "" := by
  obtain ⟨v, _, rfl, -, hv, -, -⟩ := exists_words_method h
  rw [slugify_eq_empty.ne]
  exact fun hnil => List.cons_ne_nil _ _ ((words_spaced hv path).symm.trans hnil)

/-! ## 2. The two chains -/

variable {o : Operation}

/-- The slug of an operation without a summary. -/
theorem operationSlug_of_no_summary (h : slugify o.summary = "") :
    operationSlug o = if slugify (o.operationId.getD []) = "" then
        firstNonEmpty [slugify (o.method ++ " " ++ o.path)] o.method
      else Text.ofString (slugify (o.operationId.getD [])) := by
  rw [operationSlug, firstNonEmpty_cons, if_pos (ofString_slugify_eq_nil.mpr h),
    firstNonEmpty_cons]
  simp only [ofString_slugify_eq_nil]

/-- The label of an operation without a summary. -/
theorem operationLabel_of_no_summary (h : o.summary = []) :
    operationLabel o = if slugify (o.operationId.getD []) = "" then
        Text.upper o.method ++ " " ++ o.path
      else humanize (o.operationId.getD []) := by
  simp only [operationLabel, h, List.isEmpty_nil, Bool.not_true, Bool.false_eq_true, if_false,
    humanize_eq_empty]

theorem operationLabel_ne_nil : operationLabel o ≠ [] := by
  cases hsummary : o.summary with
  | nil =>
    rw [operationLabel_of_no_summary hsummary]
    split
    · simp [Text.ofString]
    next hid =>
      exact Text.ofString_ne_nil fun hempty => hid (humanize_eq_empty.mp hempty)
  | cons p ps => simp [operationLabel, hsummary]

/-- **Labels and slugs agree.**  The slug of the label of an operation is the slug of the operation,
unless it has a summary without letters or digits: a title has the slug of its text and is empty
only if that is, and a method in capitals before a path gives the slug of method and path.  Whatever
an operation has, neither its label nor its slug is empty. -/
theorem slugify_operationLabel (hmethod : o.method ∈ methods) :
    (o.summary = [] ∨ slugify o.summary ≠ "" →
      Text.ofString (slugify (operationLabel o)) = operationSlug o) ∧
    (∀ t : Text, slugify (humanize t) = slugify t ∧ (humanize t = "" ↔ slugify t = "")) ∧
    Text.ofString (slugify (Text.upper o.method ++ " " ++ o.path))
      = firstNonEmpty [slugify (o.method ++ " " ++ o.path)] o.method ∧
    operationLabel o ≠ [] ∧ operationSlug o ≠ [] := by
  have hpath : Text.ofString (slugify (Text.upper o.method ++ " " ++ o.path))
      = firstNonEmpty [slugify (o.method ++ " " ++ o.path)] o.method := by
    rw [firstNonEmpty_cons,
      if_neg (ofString_slugify_eq_nil.not.mpr (slugify_method_ne_empty hmethod o.path)),
      slugify_upper_method hmethod]
  refine ⟨fun hsummary => ?_, fun t => ⟨slugify_humanize t, humanize_eq_empty⟩, hpath,
    operationLabel_ne_nil, ?_⟩
  · by_cases hempty : o.summary = []
    · rw [operationLabel_of_no_summary hempty, operationSlug_of_no_summary (by rw [hempty]; rfl)]
      split
      · exact hpath
      · exact congrArg Text.ofString (slugify_humanize _)
    · have hslug := hsummary.resolve_left hempty
      rw [operationSlug, firstNonEmpty_cons, if_neg (ofString_slugify_eq_nil.not.mpr hslug)]
      simp [operationLabel, hempty]
  · have hmethods : ∀ method ∈ methods, method ≠ [] := by decide
    exact firstNonEmpty_ne_nil (hmethods o.method hmethod)

/-- An operation with no summary and an acronym in its id. -/
def keysOperation : Operation :=
  { method := "get", path := "/keys/\x7bid\x7d", operationId := some "listAPIKeys" }

/-- Label and slug both come from the id. -/
theorem slugify_operationLabel_keys :
    keysOperation.method ∈ methods ∧ operationLabel keysOperation = Text.ofString "List API Keys" ∧
    Text.ofString (slugify (operationLabel keysOperation)) = operationSlug keysOperation := by
  have hmethod : keysOperation.method ∈ methods := by decide
  exact ⟨hmethod, by decide +kernel, (slugify_operationLabel hmethod).1 (Or.inl rfl)⟩

end ApiDocs.Navigation
