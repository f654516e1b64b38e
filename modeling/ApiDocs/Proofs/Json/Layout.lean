import ApiDocs.Proofs.Json.Strings
import ApiDocs.Proofs.Keyed

/-!
# The layout of printed values

A list or an object is printed as its parts, each on a line of its own, with commas between them.
The text of a part stands in the text of the whole (`infix_block`), and besides the parts there are
only brackets, commas and line starts (`forall_mem_block`).  A reader that takes each part off the
front of a text takes all of them, whatever a part is: `readItems_join` for lists,
`readMembers_join` for objects.  After a part there is a comma or the start of a line, so that a
number at its end does not go on (`Stops`).
-/

namespace ApiDocs.Json

/-! ## 1. Parts of a value -/

/-- Induction over a value: a list or an object has a property if its parts have it. -/
theorem induct {motive : Json → Prop} (null : motive .null) (bool : ∀ b, motive (.bool b))
    (int : ∀ i, motive (.int i)) (float : ∀ x, motive (.float x)) (str : ∀ s, motive (.str s))
    (arr : ∀ items, (∀ v ∈ items, motive v) → motive (.arr items))
    (obj : ∀ members, (∀ m ∈ members, motive m.2) → motive (.obj members)) : ∀ v, motive v
  | .null => null
  | .bool b => bool b
  | .int i => int i
  | .float x => float x
  | .str s => str s
  | .arr items => arr items fun v hv =>
    have := List.sizeOf_lt_of_mem hv
    induct null bool int float str arr obj v
  | .obj members => obj members fun m hm =>
    have := List.sizeOf_lt_of_mem hm
    induct null bool int float str arr obj m.2
  termination_by v => sizeOf v
  decreasing_by
  · simp only [Json.arr.sizeOf_spec]
    omega
  · obtain ⟨name, v⟩ := m
    simp only [Prod.mk.sizeOf_spec, Json.obj.sizeOf_spec] at this ⊢
    omega

theorem writeItems_eq_map (level : Nat) : ∀ items : List Json,
    writeItems level items = items.map (write level)
  | [] => rfl
  | v :: items => congrArg (write level v :: ·) (writeItems_eq_map level items)

/-- A member of an object, on its line. -/
def writeMember (level : Nat) (m : Text × Json) : Text :=
  writeString m.1 ++ .char ':' :: .char ' ' :: write level m.2

theorem writeMembers_eq_map (level : Nat) : ∀ members : List (Text × Json),
    writeMembers level members = members.map (writeMember level)
  | [] => rfl
  | m :: members => congrArg (writeMember level m :: ·) (writeMembers_eq_map level members)

/-! ## 2. Texts of several parts -/

theorem infix_joinWith {separator part : Text} : ∀ {parts : List Text}, part ∈ parts →
    part <:+: Text.joinWith separator parts
  | [_], h => by
    have hjoin := List.mem_singleton.mp h
    exact ⟨[], [], by rw [hjoin, Text.joinWith, List.intercalate_singleton]; simp⟩
  | first :: second :: parts, h => by
    rw [Text.joinWith, List.intercalate_cons_cons]
    rcases List.mem_cons.mp h with rfl | h
    · exact (List.prefix_append _ _).isInfix.trans (List.prefix_append _ _).isInfix
    · exact (infix_joinWith h).trans (List.suffix_append _ _).isInfix

theorem length_le_joinWith {separator : Text} (h : separator ≠ []) : ∀ parts : List Text,
    parts.length ≤ (Text.joinWith separator parts).length + 1
  | [] => Nat.zero_le _
  | [_] => Nat.succ_le_succ (Nat.zero_le _)
  | first :: second :: parts => by
    have ih := length_le_joinWith h (second :: parts)
    have hpos := List.length_pos_iff.mpr h
    unfold Text.joinWith at ih ⊢
    rw [List.intercalate_cons_cons, List.length_append, List.length_append, List.length_cons]
    omega

theorem block_of_ne_nil (level : Nat) (left right : Char) {parts : List Text} (h : parts ≠ []) :
    block level left right parts =
      .char left :: newLine (level + 1) ++ Text.joinWith (.char ',' :: newLine (level + 1)) parts
        ++ newLine level ++ [.char right] := by
  cases parts with
  | nil => exact absurd rfl h
  | cons => rfl

theorem block_append (level : Nat) (left right : Char) {parts : List Text} (h : parts ≠ [])
    (rest : Text) : block level left right parts ++ rest =
      .char left :: (newLine (level + 1) ++
        (Text.joinWith (.char ',' :: newLine (level + 1)) parts
          ++ (newLine level ++ .char right :: rest))) := by
  rw [block_of_ne_nil level left right h]
  simp only [List.append_assoc, List.cons_append, List.nil_append]

theorem infix_block (level : Nat) (left right : Char) {part : Text} {parts : List Text}
    (h : part ∈ parts) : part <:+: block level left right parts := by
  have hjoin := @infix_joinWith (.char ',' :: newLine (level + 1)) part parts h
  rw [block_of_ne_nil level left right (List.ne_nil_of_mem h), List.append_assoc]
  exact (hjoin.trans (List.suffix_append _ _).isInfix).trans (List.prefix_append _ _).isInfix

/-- **What holds of the characters of the layout and of the parts holds of the whole.** -/
theorem forall_mem_block (level : Nat) {left right : Char} {P : CodePoint → Prop}
    (hlayout : ∀ c ∈ [left, right, ',', '\n', ' '], P (.char c)) {parts : List Text}
    (hparts : ∀ part ∈ parts, ∀ p ∈ part, P p) : ∀ p ∈ block level left right parts, P p := by
  have hleft : P (.char left) := hlayout left (by simp)
  have hright : P (.char right) := hlayout right (by simp)
  have hline : ∀ level, ∀ p ∈ newLine level, P p := by
    intro level p hp
    obtain ⟨c, hc, rfl⟩ := List.mem_map.mp hp
    rcases List.mem_cons.mp hc with rfl | hc
    · exact hlayout '\n' (by simp)
    · rw [List.eq_of_mem_replicate hc]
      exact hlayout ' ' (by simp)
  by_cases hnil : parts = []
  · rw [hnil]
    exact List.forall_mem_cons.mpr ⟨hleft, List.forall_mem_singleton.mpr hright⟩
  · rw [block_of_ne_nil level left right hnil]
    simp only [List.cons_append, List.append_assoc, List.forall_mem_cons, List.forall_mem_append]
    refine ⟨hleft, hline _, fun p hp => ?_, hline _, hright, fun _ hp => absurd hp List.not_mem_nil⟩
    rcases Text.mem_intercalate hp with hp | ⟨part, hpart, hp⟩
    · rcases List.mem_cons.mp hp with rfl | hp
      · exact hlayout ',' (by simp)
      · exact hline _ p hp
    · exact hparts part hpart p hp

theorem length_le_block (level : Nat) (left right : Char) (parts : List Text) :
    parts.length ≤ (block level left right parts).length := by
  by_cases h : parts = []
  · rw [h]
    exact Nat.zero_le _
  · have hjoin := @length_le_joinWith (.char ',' :: newLine (level + 1)) (List.cons_ne_nil _ _) parts
    rw [block_of_ne_nil level left right h]
    simp only [List.length_append, List.length_cons]
    omega

/-! ## 3. Control characters -/

/-- The only control characters of a text are line feeds. -/
def IsLaidOut (t : Text) : Prop := ∀ p ∈ t, p = .char '\n' ∨ 0x20 ≤ p.toNat

theorem isLaidOut_append {t u : Text} (ht : IsLaidOut t) (hu : IsLaidOut u) : IsLaidOut (t ++ u) :=
  fun p hp => (List.mem_append.mp hp).elim (ht p) (hu p)

/-- No control character stands in a string. -/
theorem le_of_mem_writeString {s : Text} {x : CodePoint} (h : x ∈ writeString s) :
    0x20 ≤ x.toNat := by
  rcases List.mem_append.mp h with h | h
  · rcases List.mem_cons.mp h with rfl | h
    · decide
    · obtain ⟨y, -, hy⟩ := List.mem_flatMap.mp h
      cases y with
      | char c =>
        obtain ⟨d, hd, rfl⟩ := List.mem_map.mp hy
        exact le_of_mem_escapeChar hd
      | half n =>
        rw [List.mem_singleton.mp hy]
        exact Nat.le_trans (by decide) (Nat.le_add_right 0xD800 n.val)
  · rw [List.mem_singleton.mp h]
    decide

theorem isLaidOut_writeString (s : Text) : IsLaidOut (writeString s) :=
  fun _ hx => Or.inr (le_of_mem_writeString hx)

/-! ## 4. Reading several parts -/

/-- What may stand in a number after its first digit. -/
def continuesNumber (c : Char) : Bool := Text.isDigit c || c == '.' || c == 'e' || c == 'E'

/-- A number before the text does not go on in it. -/
def Stops (t : Text) : Prop := ∀ x ∈ t.head?, x.isIn continuesNumber = false

/-- The text starts with something other than white space and a closing bracket. -/
def Starts (t : Text) : Prop :=
  ∃ x tail, t = x :: tail ∧ x.isIn isGap = false ∧ x ≠ .char ']' ∧ x ≠ .char '}'

/-- The reader takes a value off the front of any text in which it does not go on. -/
def Takes (item : ValueReader) (t : Text) (v : Json) : Prop :=
  ∀ rest, Stops rest → item (t ++ rest) = .ok (v, rest)

/-- The text is a name and what the reader takes as its value. -/
def TakesMember (item : ValueReader) (t : Text) (m : Text × Json) : Prop :=
  ∀ rest, Stops rest →
    ∃ after, readName (t ++ rest) = .ok (m.1, after) ∧ item after = .ok (m.2, rest)

theorem stops_nil : Stops [] := nofun

theorem stops_cons {x : CodePoint} (h : x.isIn continuesNumber = false) (t : Text) :
    Stops (x :: t) := by
  intro y hy
  cases hy
  exact h

theorem stops_newLine (level : Nat) (t : Text) : Stops (newLine level ++ t) := stops_cons rfl _

theorem skipBlanks_cons {x : CodePoint} (h : x.isIn isGap = false) (t : Text) :
    skipBlanks (x :: t) = x :: t :=
  List.dropWhile_cons_of_neg (ne_true_of_eq_false h)

theorem Starts.skipBlanks {t : Text} (h : Starts t) : skipBlanks t = t := by
  obtain ⟨x, tail, rfl, hgap, -⟩ := h
  exact skipBlanks_cons hgap tail

theorem Starts.append {t : Text} (h : Starts t) (more : Text) : Starts (t ++ more) := by
  obtain ⟨x, tail, rfl, hx⟩ := h
  exact ⟨x, tail ++ more, rfl, hx⟩

theorem Starts.joinWith {t separator : Text} (h : Starts t) :
    ∀ parts : List Text, Starts (Text.joinWith separator (t :: parts))
  | [] => by
    unfold Text.joinWith
    rwa [List.intercalate_singleton]
  | next :: parts => by
    unfold Text.joinWith
    rw [List.intercalate_cons_cons, List.append_assoc]
    exact h.append _

theorem skipBlanks_newLine (level : Nat) (t : Text) :
    skipBlanks (newLine level ++ t) = skipBlanks t := by
  refine List.dropWhile_append_of_pos fun x hx => ?_
  obtain ⟨c, hc, rfl⟩ := List.mem_map.mp hx
  rcases List.mem_cons.mp hc with rfl | hc
  · rfl
  · rw [List.eq_of_mem_replicate hc]
    rfl

variable {item : ValueReader}

theorem readItems_last {t after rest : Text} {v : Json} (limit : Nat)
    (hitem : item t = .ok (v, after)) (hclose : skipBlanks after = .char ']' :: rest) :
    readItems item (limit + 1) t = .ok ([v], rest) := by
  unfold readItems
  rw [hitem]
  dsimp only [bind, Except.bind]
  rw [hclose]
  rfl

theorem readItems_more {t after more rest : Text} {v : Json} {vs : List Json} {limit : Nat}
    (hitem : item t = .ok (v, after)) (hcomma : skipBlanks after = .char ',' :: more)
    (hmore : readItems item limit (skipBlanks more) = .ok (vs, rest)) :
    readItems item (limit + 1) t = .ok (v :: vs, rest) := by
  rw [readItems, hitem]
  dsimp only [bind, Except.bind]
  rw [hcomma]
  simp only [hmore]
  rfl

/-- **The items of a list are read one after another**, whatever text stands for an item. -/
theorem readItems_join {text : Json → Text} (outer inner : Nat) (rest : Text) :
    ∀ {items : List Json} {limit : Nat}, items ≠ [] → items.length ≤ limit →
      (∀ v ∈ items, Takes item (text v) v ∧ Starts (text v)) →
        readItems item limit (Text.joinWith (.char ',' :: newLine inner) (items.map text)
            ++ (newLine outer ++ .char ']' :: rest)) = .ok (items, rest)
  | [], _, h, _, _ => absurd rfl h
  | _ :: _, 0, _, h, _ => absurd h (Nat.not_succ_le_zero _)
  | [v], limit + 1, _, _, hitems => by
    rw [Text.joinWith, List.map_singleton, List.intercalate_singleton]
    refine readItems_last limit
      ((hitems v (List.mem_singleton_self v)).1 _ (stops_newLine outer _)) ?_
    rw [skipBlanks_newLine]
    exact skipBlanks_cons rfl rest
  | v :: next :: items, limit + 1, _, hlimit, hitems => by
    have ih := @readItems_join text outer inner rest (next :: items) limit (List.cons_ne_nil _ _)
      (Nat.le_of_succ_le_succ hlimit) fun w hw => hitems w (List.mem_cons_of_mem v hw)
    have hnext := (hitems next (List.mem_cons_of_mem v List.mem_cons_self)).2
    rw [Text.joinWith, List.map_cons, List.map_cons, List.intercalate_cons_cons, List.append_assoc,
      List.append_assoc, List.cons_append]
    refine readItems_more ((hitems v List.mem_cons_self).1 _ (stops_cons rfl _))
      (skipBlanks_cons rfl _) ?_
    rw [skipBlanks_newLine]
    exact (congrArg (readItems item limit) ((hnext.joinWith _).append _).skipBlanks).trans ih

theorem readMembers_last {t mid after rest : Text} {m : Text × Json} (limit : Nat)
    (hname : readName t = .ok (m.1, mid)) (hitem : item mid = .ok (m.2, after))
    (hclose : skipBlanks after = .char '}' :: rest) :
    readMembers item (limit + 1) t = .ok ([m], rest) := by
  unfold readMembers
  rw [hname]
  dsimp only [bind, Except.bind]
  rw [hitem]
  dsimp only
  rw [hclose]
  rfl

theorem readMembers_more {t mid after more rest : Text} {m : Text × Json}
    {ms : List (Text × Json)} {limit : Nat} (hname : readName t = .ok (m.1, mid))
    (hitem : item mid = .ok (m.2, after)) (hcomma : skipBlanks after = .char ',' :: more)
    (hmore : readMembers item limit (skipBlanks more) = .ok (ms, rest)) :
    readMembers item (limit + 1) t = .ok (m :: ms, rest) := by
  rw [readMembers, hname]
  dsimp only [bind, Except.bind]
  rw [hitem]
  dsimp only
  rw [hcomma]
  simp only [hmore]
  rfl

/-- **The members of an object are read one after another**, whatever text stands for a member. -/
theorem readMembers_join {text : Text × Json → Text} (outer inner : Nat) (rest : Text) :
    ∀ {members : List (Text × Json)} {limit : Nat}, members ≠ [] → members.length ≤ limit →
      (∀ m ∈ members, TakesMember item (text m) m ∧ Starts (text m)) →
        readMembers item limit (Text.joinWith (.char ',' :: newLine inner) (members.map text)
            ++ (newLine outer ++ .char '}' :: rest)) = .ok (members, rest)
  | [], _, h, _, _ => absurd rfl h
  | _ :: _, 0, _, h, _ => absurd h (Nat.not_succ_le_zero _)
  | [m], limit + 1, _, _, hmembers => by
    obtain ⟨mid, hname, hitem⟩ :=
      (hmembers m (List.mem_singleton_self m)).1 _ (stops_newLine outer _)
    rw [Text.joinWith, List.map_singleton, List.intercalate_singleton]
    refine readMembers_last limit hname hitem ?_
    rw [skipBlanks_newLine]
    exact skipBlanks_cons rfl rest
  | m :: next :: members, limit + 1, _, hlimit, hmembers => by
    have ih := @readMembers_join text outer inner rest (next :: members) limit
      (List.cons_ne_nil _ _) (Nat.le_of_succ_le_succ hlimit)
      fun other ho => hmembers other (List.mem_cons_of_mem m ho)
    have hnext := (hmembers next (List.mem_cons_of_mem m List.mem_cons_self)).2
    obtain ⟨mid, hname, hitem⟩ := (hmembers m List.mem_cons_self).1 _ (stops_cons (x := .char ',') rfl _)
    rw [Text.joinWith, List.map_cons, List.map_cons, List.intercalate_cons_cons, List.append_assoc,
      List.append_assoc, List.cons_append]
    refine readMembers_more hname hitem (skipBlanks_cons rfl _) ?_
    rw [skipBlanks_newLine]
    exact (congrArg (readMembers item limit) ((hnext.joinWith _).append _).skipBlanks).trans ih

end ApiDocs.Json
