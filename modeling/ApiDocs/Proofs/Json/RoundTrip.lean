import ApiDocs.Proofs.Json.Atoms

/-!
# Reading a printed value

What `Json.pretty` prints is read as the value again, for values that have no fractions in them
(`readText_pretty`), and so is what is printed further to the right (`read_write`).  The names of an
object have to be different, since only one of two members with the same name is read; lists and
objects must not be nested deeper than the reader goes, and integers must not have more digits than
it takes (`IsPlain`).

The writer and the reader go down the value in the same way, so the induction is on the depth.

Whether the text can be stored in UTF-8 is a matter of the strings alone, level by level
(`hasNoHalves_write_arr`, `hasNoHalves_write_obj`).
-/

namespace ApiDocs.Json

/-- A value that is made of words, integers, strings, lists and objects with different names, which
are nested at most `depth` deep. -/
inductive IsPlain : (depth : Nat) → Json → Prop
  | null {depth : Nat} : IsPlain depth .null
  | bool {depth : Nat} (b : Bool) : IsPlain depth (.bool b)
  | int {depth : Nat} {i : Int} (h : Text.isTooLong i.natAbs = false) : IsPlain depth (.int i)
  | str {depth : Nat} (s : Text) : IsPlain depth (.str s)
  | arr {depth : Nat} {items : List Json} (h : ∀ v ∈ items, IsPlain depth v) :
    IsPlain (depth + 1) (.arr items)
  | obj {depth : Nat} {members : List (Text × Json)} (hnames : (members.map Prod.fst).Nodup)
    (h : ∀ m ∈ members, IsPlain depth m.2) : IsPlain (depth + 1) (.obj members)

/-- What is nested less deeply may stand where more is allowed. -/
theorem IsPlain.mono {depth depth' : Nat} {v : Json} (h : IsPlain depth v) (hle : depth ≤ depth') :
    IsPlain depth' v := by
  induction h generalizing depth' with
  | null => exact .null
  | bool b => exact .bool b
  | int h => exact .int h
  | str s => exact .str s
  | arr _ ih =>
    obtain ⟨below, rfl⟩ : ∃ below, depth' = below + 1 := ⟨depth' - 1, by omega⟩
    exact .arr fun v hv => ih v hv (by omega)
  | obj hnames _ ih =>
    obtain ⟨below, rfl⟩ : ∃ below, depth' = below + 1 := ⟨depth' - 1, by omega⟩
    exact .obj hnames fun m hm => ih m hm (by omega)

/-! ## 1. Single steps of the reader -/

theorem starts_write {depth : Nat} {v : Json} (level : Nat) (h : IsPlain depth v) :
    Starts (write level v) := by
  cases h with
  | null => exact ⟨_, _, rfl, rfl, by decide, by decide⟩
  | bool b =>
    cases b with
    | false => exact ⟨_, _, rfl, rfl, by decide, by decide⟩
    | true => exact ⟨_, _, rfl, rfl, by decide, by decide⟩
  | @int _ i _ => exact starts_int i
  | str s => exact ⟨_, _, rfl, rfl, by decide, by decide⟩
  | @arr _ items _ =>
    unfold write
    cases writeItems (level + 1) items with
    | nil => exact ⟨_, _, rfl, rfl, by decide, by decide⟩
    | cons => exact ⟨_, _, rfl, rfl, by decide, by decide⟩
  | @obj _ members _ _ =>
    unfold write
    cases writeMembers (level + 1) members with
    | nil => exact ⟨_, _, rfl, rfl, by decide, by decide⟩
    | cons => exact ⟨_, _, rfl, rfl, by decide, by decide⟩

theorem starts_writeMember (level : Nat) (m : Text × Json) : Starts (writeMember level m) :=
  ⟨_, _, rfl, rfl, by decide, by decide⟩

theorem readValue_bracket (limit depth : Nat) (t : Text) :
    readValue limit (depth + 1) (.char '[' :: t) = match skipBlanks t with
      | .char ']' :: rest => .ok (.arr [], rest)
      | rest => (readItems (readValue limit depth) limit rest).map (fun r => (.arr r.1, r.2)) :=
  rfl

theorem readValue_brace (limit depth : Nat) (t : Text) :
    readValue limit (depth + 1) (.char '{' :: t) = match skipBlanks t with
      | .char '}' :: rest => .ok (.obj [], rest)
      | rest => (readMembers (readValue limit depth) limit rest).map (fun r =>
        (.obj (Keyed.ofList (· == ·) r.1), r.2)) :=
  rfl

theorem readValue_quote (limit depth : Nat) (t : Text) :
    readValue limit depth (.char '"' :: t) = match readString? t with
      | some (s, rest) => .ok (.str s, rest)
      | none => .error .malformed := by
  cases depth <;> rfl

theorem readName_quote (t : Text) : readName (.char '"' :: t) = match readString? t with
    | some (name, rest) => match skipBlanks rest with
      | .char ':' :: rest => .ok (name, skipBlanks rest)
      | _ => .error .malformed
    | none => .error .malformed :=
  rfl

theorem readValue_items (limit depth level : Nat) {t : Text} (h : Starts t) :
    readValue limit (depth + 1) (.char '[' :: (newLine level ++ t)) =
      (readItems (readValue limit depth) limit t).map (fun r => (.arr r.1, r.2)) := by
  rw [readValue_bracket, skipBlanks_newLine, h.skipBlanks]
  obtain ⟨x, tail, rfl, -, hx, -⟩ := h
  split
  · next heq => exact absurd (List.cons.inj heq).1 hx
  · rfl

theorem readValue_members (limit depth level : Nat) {t : Text} (h : Starts t) :
    readValue limit (depth + 1) (.char '{' :: (newLine level ++ t)) =
      (readMembers (readValue limit depth) limit t).map (fun r =>
        (.obj (Keyed.ofList (· == ·) r.1), r.2)) := by
  rw [readValue_brace, skipBlanks_newLine, h.skipBlanks]
  obtain ⟨x, tail, rfl, -, -, hx⟩ := h
  split
  · next heq => exact absurd (List.cons.inj heq).1 hx
  · rfl

theorem writeString_append (s rest : Text) : writeString s ++ rest
    = .char '"' :: (Text.replaceEach escapeChar s ++ .char '"' :: rest) := by
  unfold writeString
  rw [List.cons_append, List.cons_append, List.append_assoc, List.singleton_append]

theorem takes_string (limit depth : Nat) (s : Text) :
    Takes (readValue limit depth) (writeString s) (.str s) := by
  intro rest _
  rw [writeString_append, readValue_quote, readString_writeString]

theorem takesMember_writeMember {item : ValueReader} {level : Nat} {m : Text × Json}
    (hitem : Takes item (write level m.2) m.2) (hstart : Starts (write level m.2)) :
    TakesMember item (writeMember level m) m := by
  intro rest hrest
  refine ⟨write level m.2 ++ rest, ?_, hitem rest hrest⟩
  unfold writeMember
  rw [List.append_assoc, writeString_append, readName_quote, readString_writeString,
    List.cons_append, List.cons_append]
  dsimp only
  rw [skipBlanks_cons rfl]
  exact congrArg (fun after => Except.ok (m.1, after)) (hstart.append rest).skipBlanks

/-! ## 2. Values -/

theorem write_str (level : Nat) (s : Text) : write level (.str s) = writeString s := rfl

theorem write_arr (level : Nat) (items : List Json) :
    write level (.arr items) = block level '[' ']' (items.map (write (level + 1))) := by
  unfold write
  rw [writeItems_eq_map]

theorem write_obj (level : Nat) (members : List (Text × Json)) :
    write level (.obj members) = block level '{' '}' (members.map (writeMember (level + 1))) := by
  unfold write
  rw [writeMembers_eq_map]

theorem infix_writeMember (level : Nat) (m : Text × Json) :
    write level m.2 <:+: writeMember level m :=
  ((List.suffix_cons _ _).trans ((List.suffix_cons _ _).trans (List.suffix_append _ _))).isInfix

/-- **A value is taken off the front of what goes on after its text.** -/
theorem readValue_write (limit : Nat) {depth : Nat} {v : Json} (h : IsPlain depth v) :
    ∀ level : Nat, (write level v).length ≤ limit →
      Takes (readValue limit depth) (write level v) v := by
  induction h with
  | null => exact fun _ _ => takes_null limit _
  | bool b =>
    intro level _
    have hword : write level (.bool b) = if b then Text.ofString "true" else "false" := by
      cases b <;> rfl
    rw [hword]
    exact takes_bool limit _ b
  | int h => exact fun _ _ => takes_int limit _ h
  | str s => exact fun _ _ => takes_string limit _ s
  | @arr depth items hplain ih =>
    intro level hlimit rest _
    by_cases hnil : items = []
    · subst hnil
      rfl
    have hne : items.map (write (level + 1)) ≠ [] := fun h => hnil (List.map_eq_nil_iff.mp h)
    rw [write_arr] at hlimit ⊢
    have hitems : ∀ v ∈ items, Takes (readValue limit depth) (write (level + 1) v) v ∧
        Starts (write (level + 1) v) := by
      intro v hv
      have hinfix := infix_block level '[' ']' (List.mem_map_of_mem (f := write (level + 1)) hv)
      exact ⟨ih v hv (level + 1) (Nat.le_trans hinfix.length_le hlimit),
        starts_write (level + 1) (hplain v hv)⟩
    have hlength := Nat.le_trans (length_le_block level '[' ']' _) hlimit
    rw [List.length_map] at hlength
    have hjoin := readItems_join level (level + 1) rest hnil hlength hitems
    rw [block_append level '[' ']' hne, readValue_items limit depth (level + 1)]
    · exact congrArg (Except.map _) hjoin
    · obtain ⟨first, others, rfl⟩ := List.exists_cons_of_ne_nil hnil
      exact ((hitems first List.mem_cons_self).2.joinWith _).append _
  | @obj depth members hnames hplain ih =>
    intro level hlimit rest _
    by_cases hnil : members = []
    · subst hnil
      rfl
    have hne : members.map (writeMember (level + 1)) ≠ [] :=
      fun h => hnil (List.map_eq_nil_iff.mp h)
    rw [write_obj] at hlimit ⊢
    have hmembers : ∀ m ∈ members,
        TakesMember (readValue limit depth) (writeMember (level + 1) m) m ∧
          Starts (writeMember (level + 1) m) := by
      intro m hm
      have hinfix := infix_block level '{' '}'
        (List.mem_map_of_mem (f := writeMember (level + 1)) hm)
      have hvalue := infix_writeMember (level + 1) m
      have htakes := ih m hm (level + 1) (Nat.le_trans (hvalue.trans hinfix).length_le hlimit)
      exact ⟨takesMember_writeMember htakes (starts_write (level + 1) (hplain m hm)),
        starts_writeMember (level + 1) m⟩
    have hlength := Nat.le_trans (length_le_block level '{' '}' _) hlimit
    rw [List.length_map] at hlength
    have hjoin := readMembers_join level (level + 1) rest hnil hlength hmembers
    rw [block_append level '{' '}' hne, readValue_members limit depth (level + 1)]
    · refine (congrArg (Except.map _) hjoin).trans ?_
      exact congrArg (fun ms => Except.ok (Json.obj ms, rest)) (Keyed.ofList_of_nodup hnames)
    · obtain ⟨first, others, rfl⟩ := List.exists_cons_of_ne_nil hnil
      exact ((hmembers first List.mem_cons_self).2.joinWith _).append _

/-! ## 3. Whole texts -/

theorem stops_of_skipBlanks {t : Text} (h : skipBlanks t = []) : Stops t := by
  cases t with
  | nil => exact stops_nil
  | cons x t =>
    refine stops_cons ?_ t
    cases hgap : x.isIn isGap with
    | false =>
      rw [skipBlanks_cons hgap] at h
      cases h
    | true =>
      cases x with
      | half n => cases hgap
      | char c =>
        simp only [CodePoint.isIn_char, isGap, Bool.or_eq_true, beq_iff_eq] at hgap
        obtain ((rfl | rfl) | rfl) | rfl := hgap <;> rfl

/-- **A value is read back from a text that ends in white space**, at whatever level it was
printed. -/
theorem readText_write {v : Json} (level : Nat) {t : Text} (h : IsPlain maxNesting v)
    (hblanks : skipBlanks t = []) : readText (write level v ++ t) = .ok v := by
  have hlength : (write level v).length ≤ (write level v ++ t).length + 1 := by
    rw [List.length_append]
    omega
  have hvalue := readValue_write ((write level v ++ t).length + 1) h level hlength t
    (stops_of_skipBlanks hblanks)
  unfold readText
  rw [((starts_write level h).append t).skipBlanks, hvalue]
  dsimp only [bind, Except.bind]
  rw [hblanks]
  rfl

theorem read_write {v : Json} {level : Nat} {s : String} {blanks : List Char}
    (h : IsPlain maxNesting v) (hblanks : skipBlanks (Text.ofChars blanks) = [])
    (hs : Text.ofString s = write level v ++ Text.ofChars blanks) : read s = .ok v := by
  unfold read
  rw [hs]
  exact readText_write level h hblanks

/-- **A printed value is read as the value.** -/
theorem readText_pretty {v : Json} (h : IsPlain maxNesting v) : readText (pretty v) = .ok v := by
  have hread := readText_write (t := []) 0 h rfl
  rwa [List.append_nil] at hread

theorem read_pretty {v : Json} {s : String} (h : IsPlain maxNesting v)
    (hs : Text.ofString s = pretty v ++ Text.ofString "\n") : read s = .ok v :=
  read_write h rfl hs

/-! ## 4. Texts that can be stored -/

theorem hasNoHalves_writeString {s : Text} :
    Text.HasNoHalves (writeString s) ↔ Text.HasNoHalves s := by
  have hquote : Text.HasNoHalves [.char '"'] := Text.hasNoHalves_ofChars ['"']
  rw [show writeString s = [.char '"'] ++ Text.replaceEach escapeChar s ++ [.char '"'] from rfl,
    Text.hasNoHalves_append, Text.hasNoHalves_append, Text.hasNoHalves_replaceEach]
  simp only [hquote, true_and, and_true]

/-- Brackets, commas and line starts can be stored. -/
theorem hasNoHalves_block (level : Nat) (left right : Char) {parts : List Text} :
    Text.HasNoHalves (block level left right parts) ↔ ∀ part ∈ parts, Text.HasNoHalves part :=
  ⟨fun h _ hpart => h.mono (infix_block level left right hpart).subset,
    forall_mem_block level fun c _ => ⟨c, rfl⟩⟩

/-- **A list can be stored if its items can.** -/
theorem hasNoHalves_write_arr (level : Nat) {items : List Json} :
    Text.HasNoHalves (write level (.arr items)) ↔
      ∀ v ∈ items, Text.HasNoHalves (write (level + 1) v) := by
  rw [write_arr, hasNoHalves_block, List.forall_mem_map]

/-- **An object can be stored if the names and the values of its members can.** -/
theorem hasNoHalves_write_obj (level : Nat) {members : List (Text × Json)} :
    Text.HasNoHalves (write level (.obj members)) ↔
      ∀ m ∈ members, Text.HasNoHalves m.1 ∧ Text.HasNoHalves (write (level + 1) m.2) := by
  have hcolon : Text.HasNoHalves [.char ':', .char ' '] := Text.hasNoHalves_ofChars [':', ' ']
  have hmember : ∀ m : Text × Json, Text.HasNoHalves (writeMember (level + 1) m) ↔
      Text.HasNoHalves m.1 ∧ Text.HasNoHalves (write (level + 1) m.2) := by
    intro m
    rw [show writeMember (level + 1) m = writeString m.1 ++ ([.char ':', .char ' ']
      ++ write (level + 1) m.2) from rfl, Text.hasNoHalves_append, Text.hasNoHalves_append,
      hasNoHalves_writeString]
    exact and_congr_right fun _ => and_iff_right hcolon
  rw [write_obj, hasNoHalves_block, List.forall_mem_map]
  exact forall₂_congr fun m _ => hmember m

end ApiDocs.Json
