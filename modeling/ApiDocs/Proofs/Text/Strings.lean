import ApiDocs.Text.File
import Mathlib.Logic.Function.Basic

/-!
# Strings as texts

Nothing is lost when a string is taken as a text, so different strings are different texts, and a
text that has a string has only one (`toString?_eq_some`).

A file that holds a text is read as that text, up to its line ends (`ofFile?_of_encode?`); where the
text has no carriage return, nothing changes at all (`unifyNewlines_append`).
-/

namespace ApiDocs.Text

/-! ## 1. Texts without halves -/

theorem ofString_injective : Function.Injective ofString := by
  intro a b h
  have := congrArg toString? h
  rwa [toString?_ofString, toString?_ofString, Option.some_inj] at this

theorem ofString_ne_nil {s : String} (h : s ≠ "") : ofString s ≠ [] :=
  fun hnil => h (ofString_injective hnil)

theorem ofChars_injective : Function.Injective ofChars := by
  intro as bs h
  have := congrArg chars? h
  rwa [chars?_ofChars, chars?_ofChars, Option.some_inj] at this

theorem ofString_ofList (cs : List Char) : ofString (String.ofList cs) = ofChars cs := by
  unfold ofString
  rw [String.toList_ofList]

/-- What stands in a text of several parts is a separator or a part. -/
theorem mem_intercalate {α : Type} {separator : List α} {a : α} : ∀ {parts : List (List α)},
    a ∈ List.intercalate separator parts → a ∈ separator ∨ ∃ part ∈ parts, a ∈ part
  | [], h => by simp at h
  | [part], h => Or.inr ⟨part, List.mem_cons_self, by simpa using h⟩
  | part :: next :: parts, h => by
    rw [List.intercalate_cons_cons, List.mem_append, List.mem_append] at h
    rcases h with (h | h) | h
    · exact Or.inr ⟨part, List.mem_cons_self, h⟩
    · exact Or.inl h
    · obtain h | ⟨other, hother, h⟩ := mem_intercalate h
      · exact Or.inl h
      · exact Or.inr ⟨other, List.mem_cons_of_mem part hother, h⟩

/-- A text has no half of a surrogate pair. -/
def HasNoHalves (t : Text) : Prop := ∀ p ∈ t, ∃ c, p = .char c

theorem hasNoHalves_ofChars (cs : List Char) : HasNoHalves (ofChars cs) := by
  intro p hp
  obtain ⟨c, -, rfl⟩ := List.mem_map.mp hp
  exact ⟨c, rfl⟩

theorem hasNoHalves_ofString (s : String) : HasNoHalves (ofString s) := hasNoHalves_ofChars s.toList

theorem HasNoHalves.mono {t u : Text} (h : HasNoHalves u) (hsub : t ⊆ u) : HasNoHalves t :=
  fun p hp => h p (hsub hp)

theorem ofChars_toChars {t : Text} (h : HasNoHalves t) : ofChars (toChars t) = t := by
  unfold ofChars toChars
  rw [List.map_map]
  have hsame : t.map (CodePoint.char ∘ CodePoint.toChar) = t.map id := by
    refine List.map_congr_left fun p hp => ?_
    obtain ⟨c, rfl⟩ := h p hp
    rfl
  rw [hsame, List.map_id]

theorem toChars_append (t u : Text) : toChars (t ++ u) = toChars t ++ toChars u :=
  List.map_append

@[simp] theorem toChars_ofChars (cs : List Char) : toChars (ofChars cs) = cs := by
  unfold toChars ofChars
  rw [List.map_map]
  exact List.map_id cs

theorem chars?_eq_some : ∀ {t : Text} {cs : List Char}, chars? t = some cs → t = ofChars cs
  | [], cs, h => by
    cases h
    rfl
  | .half n :: t, cs, h => by
    unfold chars? at h
    rw [List.mapM_cons] at h
    cases h
  | .char c :: t, cs, h => by
    unfold chars? at h
    rw [List.mapM_cons, CodePoint.char?_char, Option.bind_eq_bind, Option.bind_some] at h
    obtain ⟨rest, hrest, h⟩ := Option.bind_eq_some_iff.mp h
    cases h
    rw [chars?_eq_some hrest, ofChars_cons]

theorem replaceEach_append (f : Char → List Char) (t u : Text) :
    replaceEach f (t ++ u) = replaceEach f t ++ replaceEach f u :=
  List.flatMap_append

theorem replaceEach_char_cons (f : Char → List Char) (c : Char) (t : Text) :
    replaceEach f (.char c :: t) = ofChars (f c) ++ replaceEach f t := rfl

theorem replaceEach_half_cons (f : Char → List Char) (n : Fin 2048) (t : Text) :
    replaceEach f (.half n :: t) = .half n :: replaceEach f t := rfl

/-- A half stays where characters are replaced. -/
theorem HasNoHalves.of_replaceEach {f : Char → List Char} {t : Text}
    (h : HasNoHalves (replaceEach f t)) : HasNoHalves t := by
  intro p hp
  cases p with
  | char c => exact ⟨c, rfl⟩
  | half n => exact h (.half n) (List.mem_flatMap.mpr ⟨_, hp, List.mem_singleton_self _⟩)

theorem hasNoHalves_append {t u : Text} : HasNoHalves (t ++ u) ↔ HasNoHalves t ∧ HasNoHalves u :=
  List.forall_mem_append

theorem hasNoHalves_replaceEach {f : Char → List Char} {t : Text} :
    HasNoHalves (replaceEach f t) ↔ HasNoHalves t := by
  refine ⟨HasNoHalves.of_replaceEach, fun h p hp => ?_⟩
  obtain ⟨q, hq, hp⟩ := List.mem_flatMap.mp hp
  obtain ⟨c, rfl⟩ := h q hq
  exact hasNoHalves_ofChars (f c) p hp

/-- A text has at most one string: the one that it is the text of. -/
theorem toString?_eq_some {t : Text} {s : String} : toString? t = some s ↔ t = ofString s := by
  constructor
  · intro h
    obtain ⟨cs, hcs, rfl⟩ := Option.map_eq_some_iff.mp h
    rw [ofString_ofList]
    exact chars?_eq_some hcs
  · rintro rfl
    exact toString?_ofString s

/-! ## 2. Texts in files -/

theorem encode?_eq_some {t : Text} {bytes : ByteArray} :
    encode? t = some bytes ↔ ∃ s, t = ofString s ∧ bytes = s.toUTF8 := by
  unfold encode?
  rw [Option.map_eq_some_iff]
  constructor
  · rintro ⟨s, hs, rfl⟩
    exact ⟨s, toString?_eq_some.mp hs, rfl⟩
  · rintro ⟨s, hs, rfl⟩
    exact ⟨s, toString?_eq_some.mpr hs, rfl⟩

/-- **The texts that cannot be stored are those with a half.** -/
theorem encode?_eq_none {t : Text} : encode? t = none ↔ ¬ HasNoHalves t := by
  constructor
  · intro hnone h
    have hsome := encode?_eq_some.mpr ⟨String.ofList (toChars t),
      by rw [ofString_ofList, ofChars_toChars h], rfl⟩
    rw [hnone] at hsome
    cases hsome
  · intro h
    cases hsome : encode? t with
    | none => rfl
    | some bytes =>
      obtain ⟨s, rfl, -⟩ := encode?_eq_some.mp hsome
      exact absurd (hasNoHalves_ofString s) h

theorem decode?_toUTF8 (s : String) : decode? s.toUTF8 = some s := by
  have hvalid : s.toUTF8.IsValidUTF8 := s.isValidUTF8
  unfold decode? String.fromUTF8?
  rw [dif_pos hvalid]
  rfl

/-- **A file that holds a text is read as the text**, with its line ends unified. -/
theorem ofFile?_of_encode? {s : String} {bytes : ByteArray} (h : encode? (ofString s) = some bytes) :
    ofFile? bytes = some (String.ofList (unifyNewlines s.toList)) := by
  obtain ⟨s', hs, rfl⟩ := encode?_eq_some.mp h
  rw [← ofString_injective hs]
  unfold ofFile?
  rw [decode?_toUTF8]
  rfl

/-- Only carriage returns make a difference to the unifying of line ends. -/
theorem unifyNewlines_append : ∀ {cs : List Char} (rest : List Char), '\r' ∉ cs →
    unifyNewlines (cs ++ rest) = cs ++ unifyNewlines rest
  | [], _, _ => rfl
  | c :: cs, rest, h => by
    rw [List.mem_cons, not_or] at h
    have hc : c ≠ '\r' := Ne.symm h.1
    rw [List.cons_append, unifyNewlines.eq_def]
    split
    · next heq => cases heq
    · next heq => exact absurd (List.cons.inj heq).1 hc
    · next heq =>
      obtain ⟨rfl, rfl⟩ := List.cons.inj heq
      rw [if_neg hc, unifyNewlines_append rest h.2, List.cons_append]

theorem unifyNewlines_of_notMem {cs : List Char} (h : '\r' ∉ cs) : unifyNewlines cs = cs := by
  have := unifyNewlines_append [] h
  rwa [List.append_nil, show unifyNewlines [] = [] from rfl, List.append_nil] at this

end ApiDocs.Text
