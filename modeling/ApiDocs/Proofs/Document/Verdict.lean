import ApiDocs.Document.Reading
import ApiDocs.Proofs.Outcome

/-!
# What the outcome of a reader says

A reader of a part of an API description has three outcomes: it succeeds, it finds the part
malformed, or it wants the text of a value that has none.  It *judges* a condition (`Judges`) if it
succeeds only where the condition holds and finds something malformed only where it does not hold;
and if a text is missing, that is the text of some part of the description (`Value.Part`).

Readers are put together from readers, and so are the conditions that they judge: one reader after
another judges both conditions (`Judges.bind`), and one for every element of a list judges the
condition of all elements (`judges_mapM`).  A reader that checks nothing judges `True`, and makes no
difference before or after another one (`Judges.after`, `Judges.before`).
-/

namespace ApiDocs

open Value (Entries lookup lookup?)

/-! ## 1. Parts of a value -/

/-- The value itself, the items of a list in it, and the keys and values of a mapping in it. -/
inductive Value.Part (root : Value) : Value → Prop
  | whole : Part root root
  | item {v w : Value} {items : List Value} (h : Part root v) (hitems : v.items? = some items)
    (hw : w ∈ items) : Part root w
  | key {v : Value} {entries : Entries} {e : Value × Value} (h : Part root v)
    (hentries : v.entries? = some entries) (he : e ∈ entries) : Part root e.1
  | value {v : Value} {entries : Entries} {e : Value × Value} (h : Part root v)
    (hentries : v.entries? = some entries) (he : e ∈ entries) : Part root e.2

/-- A part of a value, or null where there is nothing. -/
def Value.Holds (root v : Value) : Prop := v = .null ∨ root.Part v

/-- The keys and values of the entries are parts of a value. -/
def Value.HoldsEntries (root : Value) (es : Entries) : Prop :=
  ∀ e ∈ es, root.Part e.1 ∧ root.Part e.2

variable {root v w : Value} {es : Entries}

theorem Value.Holds.entries (h : root.Holds v) (hes : v.entries? = some es) :
    root.HoldsEntries es := by
  rcases h with rfl | h
  · cases hes
  · exact fun e he => ⟨.key h hes he, .value h hes he⟩

theorem Value.Holds.item {items : List Value} (h : root.Holds v) (hitems : v.items? = some items)
    (hw : w ∈ items) : root.Part w := by
  rcases h with rfl | h
  · cases hitems
  · exact .item h hitems hw

theorem exists_mem_of_lookup? {name : String} : ∀ {es : Entries}, lookup? name es = some v →
    ∃ k, (k, v) ∈ es
  | (k, w) :: es, h => by
    unfold lookup? at h
    split at h
    · cases h
      exact ⟨k, List.mem_cons_self⟩
    · obtain ⟨k', hk'⟩ := exists_mem_of_lookup? h
      exact ⟨k', List.mem_cons_of_mem _ hk'⟩

theorem Value.HoldsEntries.lookup (h : root.HoldsEntries es) (name : String) :
    root.Holds (lookup name es) := by
  unfold Value.lookup
  cases hfind : lookup? name es with
  | none => exact Or.inl rfl
  | some w =>
    obtain ⟨k, hk⟩ := exists_mem_of_lookup? hfind
    exact Or.inr (h _ hk).2

/-! ## 2. Judging -/

variable {α β : Type} {P Q : Prop} {x : Except Defect α}

/-- The outcome says whether a condition on a description holds, unless some part of the description
has no text. -/
def Judges (root : Value) (P : Prop) : Except Defect α → Prop
  | .ok _ => P
  | .error (.malformed _) => ¬ P
  | .error (.noText cause) => ∃ w, root.Part w ∧ w.text = .error cause
  | .error .unhashableParameter => False
  | .error (.parameterFields _) => False

theorem Judges.congr (h : Judges root P x) (hiff : P ↔ Q) : Judges root Q x := propext hiff ▸ h

/-- **One reader after another judges both conditions.**  The second may use what the first has
read. -/
theorem Judges.bind {f : α → Except Defect β} (hx : Judges root P x)
    (hf : ∀ a, x = .ok a → Judges root Q (f a)) : Judges root (P ∧ Q) (x >>= f) := by
  match x with
  | .ok a =>
    show Judges root (P ∧ Q) (f a)
    exact (hf a rfl).congr (and_iff_right hx).symm
  | .error (.malformed cause) => exact fun h => hx h.1
  | .error (.noText cause) => exact hx

/-- A reader after one that checks nothing. -/
theorem Judges.after {f : α → Except Defect β} (hx : Judges root True x)
    (hf : ∀ a, x = .ok a → Judges root Q (f a)) : Judges root Q (x >>= f) :=
  (hx.bind hf).congr (and_iff_right trivial)

/-- A reader that goes on without a check of its own. -/
theorem Judges.before {f : α → Except Defect β} (hx : Judges root P x)
    (hf : ∀ a, x = .ok a → Judges root True (f a)) : Judges root P (x >>= f) :=
  (hx.bind hf).congr (and_iff_left trivial)

theorem Judges.map (h : Judges root P x) (f : α → β) : Judges root P (x.map f) := by
  match x with
  | .ok a => exact h
  | .error (.malformed cause) => exact h
  | .error (.noText cause) => exact h

theorem judges_orMalformed (cause : Malformation) (a : Option α) :
    Judges root (∃ b, a = some b) (orMalformed cause a) := by
  cases a with
  | none =>
    rintro ⟨b, hb⟩
    cases hb
  | some b => exact ⟨b, rfl⟩

theorem of_orMalformed {cause : Malformation} {a : Option α} {b : α}
    (h : orMalformed cause a = .ok b) : a = some b := by
  cases a with
  | none => cases h
  | some c =>
    cases h
    rfl

/-- A shape that is asked for, and a condition on what has it. -/
theorem judges_exists (cause : Malformation) {a : Option α} {P : α → Prop}
    {f : α → Except Defect β} (hf : ∀ b, a = some b → Judges root (P b) (f b)) :
    Judges root (∃ b, a = some b ∧ P b) (orMalformed cause a >>= f) := by
  cases a with
  | none =>
    rintro ⟨b, hb, -⟩
    cases hb
  | some b =>
    refine Judges.congr (hf b rfl) ⟨fun h => ⟨b, rfl, h⟩, ?_⟩
    rintro ⟨c, hc, h⟩
    cases hc
    exact h

/-- **A reader for every element judges the condition of all elements.** -/
theorem judges_mapM {P : α → Prop} {f : α → Except Defect β} : ∀ {xs : List α},
    (∀ a ∈ xs, Judges root (P a) (f a)) → Judges root (∀ a ∈ xs, P a) (xs.mapM f)
  | [], _ => by
    rw [List.mapM_nil]
    exact fun _ ha => absurd ha List.not_mem_nil
  | a :: xs, h => by
    have hrest := judges_mapM fun b hb => h b (List.mem_cons_of_mem a hb)
    rw [List.mapM_cons, List.forall_mem_cons]
    exact (h a List.mem_cons_self).bind fun _ _ => hrest.map _

theorem judges_mapM_true {f : α → Except Defect β} {xs : List α}
    (h : ∀ a ∈ xs, Judges root True (f a)) : Judges root True (xs.mapM f) :=
  (judges_mapM (P := fun _ => True) h).congr (iff_of_true (fun _ _ => trivial) trivial)

/-! ## 3. Texts -/

theorem judges_written (h : root.Holds v) : Judges root True (written v) := by
  rcases h with rfl | h
  · exact trivial
  · unfold written
    cases hv : v.text with
    | ok t => exact trivial
    | error cause => exact ⟨v, h, hv⟩

theorem judges_trimmed (h : root.Holds v) : Judges root True (trimmed v) := by
  have hwritten := judges_written h
  unfold trimmed Value.textOrEmpty
  split
  · exact hwritten.map _
  · exact trivial

end ApiDocs
