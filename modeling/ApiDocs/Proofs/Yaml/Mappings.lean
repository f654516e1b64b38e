import ApiDocs.Proofs.Yaml.Scalars
import ApiDocs.Yaml.Block

/-!
# The lines of written mappings

A mapping of texts and of mappings is written over several lines, and none of them but the first can
start with a hyphen: a key starts with something else, and whatever continues a line is indented.
So the text of a mapping never looks like the end of the front matter that it stands in
(`writeMapping_spec`).

Lists are left out: their items start with hyphens.
-/

namespace ApiDocs.Yaml

open Pen

/-! ## 1. Keys -/

/-- A key that is written as it is, on the line of its value, and starts with neither a hyphen nor
a space. -/
structure IsPlainKey (k : String) : Prop where
  simple : Scalar.isSimpleKey ⟨k, .str, false⟩ = true
  plain : Scalar.chooseStyle true ⟨k, .str, false⟩ = .plain
  first : k.toList.head?.any (fun c => c != '-' && c != ' ') = true

variable {p : Pen} {column : Nat}

theorem isInside_key {k : String} (hk : IsPlainKey k) (h : p.IsTidy) (hcolumn : 0 < column) :
    (p.scalar column true ⟨k, .str, false⟩).IsInside := by
  rcases chooseStyle_str hk.plain with ⟨-, hresolves, cs, hcs, hplain⟩ | ⟨hbad, -⟩ | hbad
  · have hmark : Scalar.mark ⟨k, .str, false⟩ .plain = none := by
      unfold Scalar.mark
      rw [hresolves]
      rfl
    obtain rfl : k.toList = cs := Text.ofChars_injective hcs
    obtain ⟨c, hc, hfirst⟩ := (Option.any_eq_true _ _).mp hk.first
    simp only [Bool.and_eq_true, bne_iff_ne] at hfirst
    obtain ⟨rest, hrest⟩ := List.head?_eq_some_iff.mp hc
    have hcons : Text.ofString k = .char c :: Text.ofChars rest := by
      rw [Text.ofString, hrest, Text.ofChars_cons]
    unfold Pen.scalar
    dsimp only
    rw [hk.plain, hmark]
    refine h.plain hcolumn false (isSolid_of_allowsPlain hplain) hcons ?_ ?_
    · exact fun heq => hfirst.2 (CodePoint.char.inj heq)
    · exact fun heq => hfirst.1 (CodePoint.char.inj heq)
  · cases hbad
  · cases hbad

theorem isWritten_writeKey {k : String} (hk : IsPlainKey k) (h : p.IsTidy) (complex : Pen → Pen) :
    (writeKey column (.str k) complex p).IsWritten := by
  have hcolon : IsSolid (Text.ofString ":") := isSolid_ofString (by decide)
  have hscalar := isInside_key hk (h.indent column) (Nat.add_pos_right column (Nat.succ_pos 1))
  unfold writeKey Scalar.ofValue?
  dsimp only
  rw [if_pos hk.simple]
  exact ⟨hscalar.indicator hcolon false false false, fresh_indicator _ _ _ _⟩

/-! ## 2. Values -/

/-- A value that is a text, nothing, or entries of such values under plain keys. -/
inductive IsField : Value → Prop
  | str (s : Text) : IsField (.str s)
  | null : IsField .null
  | map {entries : List (Value × Value)} (hne : entries ≠ [])
    (hkeys : ∀ e ∈ entries, ∃ k : String, e.1 = .str k ∧ IsPlainKey k)
    (hvalues : ∀ e ∈ entries, IsField e.2) : IsField (.map entries)

/-- **Entries are written on lines of their own**, each of which ends inside. -/
theorem isWritten_writeEntries : ∀ {entries : List (Value × Value)} {p : Pen}, entries ≠ [] → p.IsTidy →
    (∀ e ∈ entries, ∃ k : String, e.1 = .str k ∧ IsPlainKey k) →
      (∀ e ∈ entries, ∀ q : Pen, q.IsWritten → (writeValue column .inMapping e.2 q).IsWritten) →
        (writeEntries column entries p).IsWritten
  | [], _, hne, _, _, _ => absurd rfl hne
  | (key, v) :: rest, p, _, h, hkeys, hvalues => by
    obtain ⟨k, hkey, hk⟩ := hkeys (key, v) List.mem_cons_self
    obtain rfl : key = .str k := hkey
    have hkey : (writeKey column (.str k) (writeValue column .inMapping (.str k)) p).IsWritten :=
      isWritten_writeKey hk h _
    have hfirst := hvalues (.str k, v) List.mem_cons_self _ hkey
    unfold writeEntries
    by_cases hrest : rest = []
    · subst hrest
      exact hfirst
    · exact isWritten_writeEntries hrest hfirst.toIsTidy
        (fun e he => hkeys e (List.mem_cons_of_mem _ he))
        fun e he => hvalues e (List.mem_cons_of_mem _ he)

theorem isWritten_writeValue {v : Value} (hv : IsField v) : ∀ {column : Nat} {p : Pen},
    p.IsWritten → (writeValue column .inMapping v p).IsWritten := by
  induction hv with
  | str s =>
    intro column p h
    exact h.scalar (Nat.add_pos_right column (Nat.succ_pos 1)) s
  | null =>
    intro column p h
    have hplain : Scalar.chooseStyle false ⟨"null", .null, false⟩ = .plain := by decide
    have hmark : Scalar.mark ⟨"null", .null, false⟩ .plain = none := by decide
    have hsolid : IsSolid (Text.ofString "null") := isSolid_ofString (by decide)
    show (p.scalar (column + indentStep) false ⟨"null", .null, false⟩).IsWritten
    unfold Pen.scalar
    dsimp only
    rw [hplain, hmark]
    exact h.plain (Nat.add_pos_right column (Nat.succ_pos 1)) true hsolid
  | @map entries hne hkeys _ ih =>
    intro column p h
    obtain ⟨first, rest, rfl⟩ := List.exists_cons_of_ne_nil hne
    exact isWritten_writeEntries hne h.toIsTidy hkeys fun e he q hq => ih e he hq

/-! ## 3. Whole texts -/

/-- **The text of a mapping** ends in a line feed, and before it no line but the first starts with a
hyphen. -/
theorem writeMapping_spec {entries : List (Value × Value)} (h : IsField (.map entries)) :
    ∃ body : Text, writeMapping entries = body ++ [.char '\n'] ∧ .char '\r' ∉ body ∧
      body.IsChain (fun before after => IsInner after before) := by
  cases h with
  | @map _ hne hkeys hvalues =>
    have hwritten : (writeEntries 0 entries {}).IsWritten :=
      isWritten_writeEntries hne isInside_empty.toIsTidy hkeys
        fun e he q hq => isWritten_writeValue (hvalues e he) hq
    have hdump : writeMapping entries = ((writeEntries 0 entries {}).indent 0).written.reverse := by
      obtain ⟨first, rest, rfl⟩ := List.exists_cons_of_ne_nil hne
      rfl
    have hbreak : ((writeEntries 0 entries {}).indent 0).written
        = .char '\n' :: (writeEntries 0 entries {}).written := by
      unfold Pen.indent
      rw [hwritten.used]
      rfl
    refine ⟨(writeEntries 0 entries {}).written.reverse, ?_, ?_, ?_⟩
    · rw [hdump, hbreak, List.reverse_cons]
    · exact fun hmem => hwritten.clean (List.mem_reverse.mp hmem)
    · exact List.isChain_reverse.mpr hwritten.lines

end ApiDocs.Yaml
