import ApiDocs.Proofs.Document.Methods
import ApiDocs.Proofs.Document.Shape
import ApiDocs.Proofs.Document.Verdict
import ApiDocs.Proofs.Value.Keys

/-!
# The operations of a description, one for each declaration

A path item declares an operation under each key that names a method (`declarationsIn`), and a
description is read by reading its declarations one after another (`readPaths_eq`).  What a
declaration is read to depends on its own parts and on the dialect alone, so descriptions with the
same declarations have the same operations, whatever else stands in their path items.

**Every key of a path item wants a text,** also one that is passed over, since only its text tells
that it is no method.  A description is not read if some key has none (`HasWrittenKeys`).
-/

namespace ApiDocs

open Value (Entries lookup lookup?)

/-! ## 1. Declarations -/

/-- The method that a key of a path item names, in whatever case. -/
def namedMethod? (key : Value) : Option Text :=
  key.text.toOption.bind (fun t => methodOf? (Text.lower t))

/-- What stands under the name of a method in a path item. -/
structure Declaration where
  path : Value
  method : Text
  /-- The parameters of the path item. -/
  shared : Value
  operation : Value

/-- The declarations of a path item, in the order of its keys. -/
def declarationsIn (path : Value) (item : Entries) : List Declaration :=
  item.filterMap fun e => (namedMethod? e.1).map (⟨path, ·, lookup "parameters" item, e.2⟩)

/-- The declarations of all path items, in the order of the paths. -/
def declarations (paths : Entries) : List Declaration :=
  paths.flatMap fun e => declarationsIn e.1 (e.2.entries?.getD [])

/-- The operation that is declared. -/
def Declaration.read (dialect : Dialect) (c : Declaration) : Except Defect Operation := do
  let path ← written c.path
  let operation ← orMalformed (.operationNotMapping ⟨c.method, path⟩) c.operation.entries?
  readOperation dialect c.shared c.method path operation

/-- A path item whose keys have texts. -/
def HasWrittenKeys (v : Value) : Prop :=
  ∃ item, v.entries? = some item ∧ ∀ e ∈ item, ∃ t, e.1.text = .ok t

variable {dialect : Dialect} {path shared key v : Value} {item paths : Entries}

theorem namedMethod?_eq_some {method : Text} : namedMethod? key = some method ↔
    ∃ t, key.text = .ok t ∧ method ∈ methods ∧ Text.lower t = method := by
  unfold namedMethod?
  cases key.text with
  | error cause => exact ⟨fun h => (by cases h), fun ⟨_, h, _⟩ => (by cases h)⟩
  | ok t =>
    exact methodOf?_eq_some.trans
      ⟨fun h => ⟨t, rfl, h⟩, fun ⟨_, ht, h⟩ => (by cases ht; exact h)⟩

/-- An operation has the method and the path that it is declared under. -/
theorem Declaration.method_path_of_read {c : Declaration} {o : Operation}
    (h : c.read dialect = .ok o) : o.method = c.method ∧ c.path.text = .ok o.path := by
  obtain ⟨path, hpath, h⟩ := bind_eq_ok.mp h
  obtain ⟨operation, -, h⟩ := bind_eq_ok.mp h
  obtain ⟨hmethod, rfl⟩ := method_path_of_readOperation h
  exact ⟨hmethod, mapError_eq_ok.mp hpath⟩

/-! ## 2. Reading declarations -/

/-- A key that has a text is a method with its declaration, or passed over. -/
theorem readMember_eq (hkey : ∃ t, key.text = .ok t) :
    readMember dialect path shared key v = match namedMethod? key with
      | some method => (Declaration.read dialect ⟨path, method, shared, v⟩).map some
      | none => .ok none := by
  obtain ⟨t, ht⟩ := hkey
  have hread : readKey key = .ok (Text.lower t) := by
    unfold readKey written
    rw [ht]
    rfl
  have hnamed : namedMethod? key = methodOf? (Text.lower t) := by
    unfold namedMethod?
    rw [ht]
    rfl
  unfold readMember
  rw [hread, hnamed]
  show (match methodOf? (Text.lower t) with | some _ => _ | none => _) = _
  cases methodOf? (Text.lower t) with
  | none => rfl
  | some method =>
    show _ = some <$> Declaration.read dialect ⟨path, method, shared, v⟩
    unfold Declaration.read
    simp only [map_bind, bind_pure_comp]

theorem readPathItem_eq (hkeys : ∀ e ∈ item, ∃ t, e.1.text = .ok t) :
    readPathItem dialect path item
      = (declarationsIn path item).mapM (Declaration.read dialect) := by
  unfold declarationsIn
  rw [← mapM_filterMap fun e he => ?_]
  · rfl
  · dsimp only
    rw [readMember_eq (hkeys e he)]
    cases namedMethod? e.1 <;> rfl

/-- **A description is read declaration by declaration.** -/
theorem readPaths_eq (hpaths : ∀ e ∈ paths, HasWrittenKeys e.2) :
    readPaths dialect paths = (declarations paths).mapM (Declaration.read dialect) := by
  unfold declarations
  rw [← mapM_flatMap fun e he => ?_]
  · rfl
  · obtain ⟨item, hitem, hkeys⟩ := hpaths e he
    dsimp only
    rw [hitem]
    exact readPathItem_eq hkeys

theorem exists_text_of_readMember {o : Option Operation}
    (h : readMember dialect path shared key v = .ok o) : ∃ t, key.text = .ok t := by
  obtain ⟨_, hkey, -⟩ := bind_eq_ok.mp h
  unfold readKey written at hkey
  cases htext : key.text with
  | error cause =>
    rw [htext] at hkey
    cases hkey
  | ok t => exact ⟨t, rfl⟩

/-- Path items that were read are mappings, and their keys have texts. -/
theorem hasWrittenKeys_of_readPaths {os : List Operation}
    (h : readPaths dialect paths = .ok os) : ∀ e ∈ paths, HasWrittenKeys e.2 := by
  intro e he
  obtain ⟨items, hitems, -⟩ := bind_eq_ok.mp h
  obtain ⟨read, -, hread⟩ := exists_of_mem_right (mapM_eq_ok.mp hitems).flip he
  dsimp only at hread
  split at hread
  · next item hitem =>
    obtain ⟨members, hmembers, -⟩ := bind_eq_ok.mp hread
    refine ⟨item, hitem, fun m hm => ?_⟩
    obtain ⟨o, -, ho⟩ := exists_of_mem_right (mapM_eq_ok.mp hmembers).flip hm
    exact exists_text_of_readMember ho
  · obtain ⟨_, -, hread⟩ := bind_eq_ok.mp hread
    cases hread

theorem readPaths_append {paths' : Entries} : readPaths dialect (paths ++ paths') = (do
    let os ← readPaths dialect paths
    let os' ← readPaths dialect paths'
    return os ++ os') := by
  unfold readPaths
  rw [List.mapM_append]
  simp only [bind_assoc, pure_bind, List.flatten_append]

/-! ## 3. What is passed over -/

/-- Path items with the same operations under the same keys, in the same order, and with the same
parameters.  They may differ in all other keys, and in where the parameters stand. -/
structure SameOperations (item item' : Entries) : Prop where
  operations : item'.filter (fun e => (namedMethod? e.1).isSome)
    = item.filter (fun e => (namedMethod? e.1).isSome)
  parameters : lookup "parameters" item' = lookup "parameters" item

/-- Entries of a description that stand under one path, with path items of the same operations. -/
def SamePath (e e' : Value × Value) : Prop :=
  e'.1 = e.1 ∧ ∃ item item', e.2.entries? = some item ∧ e'.2.entries? = some item' ∧
    SameOperations item item'

theorem declarationsIn_eq_filter : declarationsIn path item =
    (item.filter fun e => (namedMethod? e.1).isSome).filterMap fun e =>
      (namedMethod? e.1).map (⟨path, ·, lookup "parameters" item, e.2⟩) := by
  rw [List.filterMap_filter]
  refine List.filterMap_congr fun e _ => ?_
  cases namedMethod? e.1 <;> rfl

theorem SameOperations.declarationsIn {item' : Entries} (h : SameOperations item item')
    (path : Value) : declarationsIn path item' = ApiDocs.declarationsIn path item := by
  rw [declarationsIn_eq_filter, declarationsIn_eq_filter, h.operations, h.parameters]

theorem declarations_congr {paths paths' : Entries} (h : List.Forall₂ SamePath paths paths') :
    declarations paths' = declarations paths := by
  unfold declarations
  induction h with
  | nil => rfl
  | cons hfirst _ ih =>
    obtain ⟨hpath, item, item', hitem, hitem', hsame⟩ := hfirst
    rw [List.flatMap_cons, List.flatMap_cons, ih, hpath, hitem, hitem']
    exact congrArg (· ++ _) (hsame.declarationsIn _)

/-! ### Changes that make no difference -/

theorem SameOperations.symm {item' : Entries} (h : SameOperations item item') :
    SameOperations item' item := ⟨h.operations.symm, h.parameters.symm⟩

theorem SameOperations.trans {item' item'' : Entries} (h : SameOperations item item')
    (h' : SameOperations item' item'') : SameOperations item item'' :=
  ⟨h'.operations.trans h.operations, h'.parameters.trans h.parameters⟩

theorem filter_append_cons {before after : Entries} {e : Value × Value}
    (h : namedMethod? e.1 = none) :
    (before ++ e :: after).filter (fun e => (namedMethod? e.1).isSome)
      = (before ++ after).filter (fun e => (namedMethod? e.1).isSome) := by
  rw [List.filter_append, List.filter_append, List.filter_cons_of_neg]
  rw [h]
  exact Bool.false_ne_true

/-- An entry under another key may stand anywhere, or be missing. -/
theorem SameOperations.insert {before after : Entries} {e : Value × Value}
    (hmethod : namedMethod? e.1 = none) (hparameters : e.1 ≠ .str "parameters") :
    SameOperations (before ++ after) (before ++ e :: after) where
  operations := filter_append_cons hmethod
  parameters := Value.lookup_append_cons_ne hparameters

/-- The parameters may stand anywhere. -/
theorem SameOperations.move {before middle after : Entries} {v : Value}
    (h : ∀ e ∈ before ++ middle, e.1 ≠ .str "parameters") :
    SameOperations (before ++ (.str "parameters", v) :: (middle ++ after))
      (before ++ middle ++ (.str "parameters", v) :: after) where
  operations := by
    have hnone : namedMethod? (.str "parameters") = none := by decide
    rw [filter_append_cons hnone, filter_append_cons hnone, List.append_assoc]
  parameters := by
    rw [Value.lookup_append_cons_self h, Value.lookup_append_cons_self]
    exact fun e he => h e (List.mem_append_left middle he)

/-! ## 4. Descriptions -/

theorem ofEntries_eq_ok {entries : Entries} {d : Document} :
    Document.ofEntries dialect entries = .ok d ↔ dialect = d.dialect ∧
      ∃ paths, entriesOrEmpty? (lookup "paths" entries) = some paths ∧
        readPaths dialect paths = .ok d.operations ∧
        readInfo (lookup "info" entries) = .ok d.info ∧
        readTags (lookup "tags" entries) = .ok d.tags := by
  unfold Document.ofEntries
  constructor
  · intro h
    obtain ⟨paths, hpaths, h⟩ := bind_eq_ok.mp h
    obtain ⟨operations, hoperations, h⟩ := bind_eq_ok.mp h
    obtain ⟨info, hinfo, h⟩ := bind_eq_ok.mp h
    obtain ⟨tags, htags, h⟩ := bind_eq_ok.mp h
    cases h
    exact ⟨rfl, paths, of_orMalformed hpaths, hoperations, hinfo, htags⟩
  · rintro ⟨rfl, paths, hpaths, hoperations, hinfo, htags⟩
    rw [hpaths]
    refine bind_eq_ok.mpr ⟨paths, rfl, bind_eq_ok.mpr ⟨_, hoperations, bind_eq_ok.mpr ?_⟩⟩
    exact ⟨_, hinfo, bind_eq_ok.mpr ⟨_, htags, rfl⟩⟩

/-- What it takes for a value to be read as a description, part by part. -/
theorem ofValue_eq_ok {entries : Entries} {d : Document} (hentries : v.entries? = some entries) :
    Document.ofValue v = .ok d ↔ Dialect.ofEntries? entries = .ok (some d.dialect) ∧
      ∃ paths, entriesOrEmpty? (lookup "paths" entries) = some paths ∧
        readPaths d.dialect paths = .ok d.operations ∧
        readInfo (lookup "info" entries) = .ok d.info ∧
        readTags (lookup "tags" entries) = .ok d.tags := by
  have hread : Document.ofValue v = .ok d ↔ ∃ dialect,
      Dialect.ofEntries? entries = .ok (some dialect) ∧
        Document.ofEntries dialect entries = .ok d := by
    unfold Document.ofValue
    rw [hentries]
    show ((Dialect.ofEntries? entries).mapError Defect.noText >>= fun found =>
      orMalformed .unknownDialect found >>= fun dialect => Document.ofEntries dialect entries)
        = .ok d ↔ _
    rw [bind_eq_ok]
    constructor
    · rintro ⟨found, hfound, h⟩
      cases found with
      | none => cases h
      | some dialect => exact ⟨dialect, mapError_eq_ok.mp hfound, h⟩
    · rintro ⟨dialect, hdialect, h⟩
      exact ⟨some dialect, mapError_eq_ok.mpr hdialect, h⟩
  rw [hread]
  constructor
  · rintro ⟨dialect, hdialect, h⟩
    obtain ⟨rfl, hparts⟩ := ofEntries_eq_ok.mp h
    exact ⟨hdialect, hparts⟩
  · rintro ⟨hdialect, hparts⟩
    exact ⟨d.dialect, hdialect, ofEntries_eq_ok.mpr ⟨rfl, hparts⟩⟩

/-- The entries of a description with other paths. -/
def withPaths (paths entries : Entries) : Entries :=
  Keyed.put Value.sameKey (.str "paths") (.map paths) entries

theorem ofValue_withPaths {entries : Entries} {d : Document} :
    Document.ofValue (.map (withPaths paths entries)) = .ok d ↔
      Dialect.ofEntries? entries = .ok (some d.dialect) ∧
        readPaths d.dialect paths = .ok d.operations ∧
        readInfo (lookup "info" entries) = .ok d.info ∧
        readTags (lookup "tags" entries) = .ok d.tags := by
  have hdialect : Dialect.ofEntries? (withPaths paths entries) = Dialect.ofEntries? entries := by
    unfold Dialect.ofEntries? withPaths
    rw [Value.lookup_put_ne (by decide), Value.lookup_put_ne (by decide)]
  have hpaths : entriesOrEmpty? (lookup "paths" (withPaths paths entries)) = some paths := by
    unfold withPaths
    rw [Value.lookup_put_self]
    cases paths <;> rfl
  rw [ofValue_eq_ok (Value.entries?_map _), hdialect, hpaths]
  unfold withPaths
  rw [Value.lookup_put_ne (by decide), Value.lookup_put_ne (by decide)]
  simp only [Option.some.injEq, exists_eq_left']

/-- **The paths of two lists are read one list after the other.** -/
theorem ofValue_append_paths {paths' entries : Entries} {d : Document} :
    Document.ofValue (.map (withPaths (paths ++ paths') entries)) = .ok d ↔
      ∃ os os', Document.ofValue (.map (withPaths paths entries)) = .ok { d with operations := os } ∧
        Document.ofValue (.map (withPaths paths' entries)) = .ok { d with operations := os' } ∧
        d.operations = os ++ os' := by
  have happend : readPaths d.dialect (paths ++ paths') = .ok d.operations ↔
      ∃ os, readPaths d.dialect paths = .ok os ∧
        ∃ os', readPaths d.dialect paths' = .ok os' ∧ d.operations = os ++ os' := by
    rw [readPaths_append, bind_eq_ok]
    refine exists_congr fun os => and_congr_right fun _ => ?_
    rw [bind_eq_ok]
    refine exists_congr fun os' => and_congr_right fun _ => ?_
    exact ⟨fun h => (Except.ok.inj h).symm, fun h => congrArg _ h.symm⟩
  simp only [ofValue_withPaths, happend]
  constructor
  · rintro ⟨hdialect, ⟨os, hos, os', hos', happ⟩, hinfo, htags⟩
    exact ⟨os, os', ⟨hdialect, hos, hinfo, htags⟩, ⟨hdialect, hos', hinfo, htags⟩, happ⟩
  · rintro ⟨os, os', ⟨hdialect, hos, hinfo, htags⟩, ⟨-, hos', -, -⟩, happ⟩
    exact ⟨hdialect, ⟨os, hos, os', hos', happ⟩, hinfo, htags⟩

/-- **The operations of a description are those that its path items declare.**  There is one for
each key that names a method, in the order of the paths and of their keys, and it is read from its
own declaration.  So the operations of two lists of paths follow each other, and a description stays
as it is if its path items change in other keys, all of which have texts, or if their parameters
move. -/
theorem operations_declared {entries : Entries} {d : Document}
    (hentries : v.entries? = some entries) (hread : Document.ofValue v = .ok d) :
    (∀ key method, namedMethod? key = some method ↔
      ∃ t, key.text = .ok t ∧ method ∈ methods ∧ Text.lower t = method) ∧
    List.Forall₂ (fun c o => c.read d.dialect = .ok o ∧ o.method = c.method ∧
        c.path.text = .ok o.path)
      (declarations (mapped (lookup "paths" entries))) d.operations ∧
    (∀ paths paths' d', Document.ofValue (.map (withPaths (paths ++ paths') entries)) = .ok d' ↔
      ∃ os os', Document.ofValue (.map (withPaths paths entries)) = .ok { d' with operations := os } ∧
        Document.ofValue (.map (withPaths paths' entries)) = .ok { d' with operations := os' } ∧
        d'.operations = os ++ os') ∧
    ∀ paths', List.Forall₂ SamePath (mapped (lookup "paths" entries)) paths' →
      (∀ e ∈ paths', HasWrittenKeys e.2) →
        Document.ofValue (.map (withPaths paths' entries)) = .ok d := by
  obtain ⟨hdialect, paths, hpaths, hoperations, hinfo, htags⟩ := (ofValue_eq_ok hentries).mp hread
  rw [mapped_of_eq_some hpaths]
  have hdeclared := hoperations
  rw [readPaths_eq (hasWrittenKeys_of_readPaths hoperations)] at hdeclared
  refine ⟨fun _ _ => namedMethod?_eq_some, ?_, fun _ _ _ => ofValue_append_paths,
    fun paths' hsame hkeys => ?_⟩
  · refine (mapM_eq_ok.mp hdeclared).imp fun {c o} hco => ?_
    exact ⟨hco, Declaration.method_path_of_read hco⟩
  · refine ofValue_withPaths.mpr ⟨hdialect, ?_, hinfo, htags⟩
    rw [readPaths_eq hkeys, declarations_congr hsame]
    exact hdeclared

/-- A path item that spells one method in two ways, around its parameters. -/
def twoSpellings : Entries := [
  (.str "GET", .map [(.str "summary", .str "First")]),
  (.str "parameters", .list [.map [(.str "name", .str "q")]]),
  (.str "get", .map [(.str "summary", .str "Second")])]

/-- The path item with the parameters at the front, and with an unsupported method and a number
among its keys. -/
def twoSpellingsMoved : Entries := [
  (.str "parameters", .list [.map [(.str "name", .str "q")]]),
  (.str "head", .null),
  (.str "GET", .map [(.str "summary", .str "First")]),
  (.int 200, .str "x"),
  (.str "get", .map [(.str "summary", .str "Second")])]

theorem sameOperations_twoSpellings : SameOperations twoSpellings twoSpellingsMoved := by
  have hmove : SameOperations
      ([] ++ (.str "parameters", .list [.map [(.str "name", .str "q")]])
        :: ([(.str "GET", .map [(.str "summary", .str "First")])]
          ++ [(.str "get", .map [(.str "summary", .str "Second")])])) twoSpellings := by
    refine SameOperations.move fun e he => ?_
    obtain rfl := List.mem_singleton.mp he
    exact fun h => absurd (Value.str.inj h) (by decide)
  have hhead : SameOperations _ ([(.str "parameters", .list [.map [(.str "name", .str "q")]])]
      ++ (.str "head", .null) :: [(.str "GET", .map [(.str "summary", .str "First")]),
        (.str "get", .map [(.str "summary", .str "Second")])]) :=
    .insert (by decide) fun h => absurd (Value.str.inj h) (by decide)
  have hnumber : SameOperations _ ([(.str "parameters", .list [.map [(.str "name", .str "q")]]),
      (.str "head", .null), (.str "GET", .map [(.str "summary", .str "First")])]
      ++ (.int 200, .str "x") :: [(.str "get", .map [(.str "summary", .str "Second")])]) :=
    .insert (by decide +kernel) fun h => by cases h
  exact hmove.symm.trans (hhead.trans hnumber)

/-- A description with one path. -/
def onePath (item : Entries) : Entries := [
  (.str "openapi", .str "3.0.0"), (.str "paths", .map [(.str "/a", .map item)])]

/-- Both spellings are operations, and stay what they are. -/
theorem operations_declared_twoSpellings :
    ∃ d, Document.ofValue (.map (onePath twoSpellings)) = .ok d ∧
      List.Forall₂ (fun c o => c.read d.dialect = .ok o ∧ o.method = c.method ∧
        c.path.text = .ok o.path) (declarations [(.str "/a", .map twoSpellings)]) d.operations ∧
      Document.ofValue (.map (withPaths [(.str "/a", .map twoSpellingsMoved)]
        (onePath twoSpellings))) = .ok d := by
  have hread : (Document.ofValue (.map (onePath twoSpellings))).map (fun _ => ()) = .ok () := by
    decide +kernel
  have hkeys : ∀ e ∈ twoSpellingsMoved, ∃ t, e.1.text = .ok t := by
    simp only [twoSpellingsMoved, List.forall_mem_cons]
    exact ⟨⟨_, rfl⟩, ⟨_, rfl⟩, ⟨_, rfl⟩, ⟨"200", by decide +kernel⟩, ⟨_, rfl⟩,
      fun _ h => absurd h List.not_mem_nil⟩
  cases hd : Document.ofValue (.map (onePath twoSpellings)) with
  | error cause =>
    rw [hd] at hread
    cases hread
  | ok d =>
    obtain ⟨-, hdeclared, -, hsame⟩ := operations_declared (Value.entries?_map _) hd
    refine ⟨d, rfl, hdeclared, hsame _ (.cons ⟨rfl, _, _, rfl, rfl, ?_⟩ .nil) fun e he => ?_⟩
    · exact sameOperations_twoSpellings
    · obtain rfl := List.mem_singleton.mp he
      exact ⟨_, rfl, hkeys⟩

/-- A path item with one operation, and the same with a number of too many digits as a key. -/
def plainItem : Entries := [(.str "get", .map [])]

def longKeyItem : Entries := (.int (Int.ofNat (Nat.pow 16 3572)), .str "x") :: plainItem

/-- **A key that is passed over wants a text**: a number with too many digits among the keys of a
path item keeps the description from being read. -/
theorem not_operations_declared_longKey :
    ¬ ∀ (v : Value) (entries : Entries) (d : Document), v.entries? = some entries →
      Document.ofValue v = .ok d → ∀ paths',
        List.Forall₂ SamePath (mapped (lookup "paths" entries)) paths' →
          Document.ofValue (.map (withPaths paths' entries)) = .ok d := by
  intro h
  have hread : (Document.ofValue (.map (onePath plainItem))).map (fun _ => ()) = .ok () := by
    decide +kernel
  have hrefused : (Document.ofValue (.map (withPaths [(.str "/a", .map longKeyItem)]
      (onePath plainItem)))).map (fun _ => ()) = .error (.noText .longInteger) := by
    decide +kernel
  have hkey : namedMethod? (.int (Int.ofNat (Nat.pow 16 3572))) = none := by decide +kernel
  have hsame : SameOperations ([] ++ plainItem) ([] ++ (.int _, .str "x") :: plainItem) :=
    .insert hkey fun hstr => by cases hstr
  cases hd : Document.ofValue (.map (onePath plainItem)) with
  | error cause =>
    rw [hd] at hread
    cases hread
  | ok d =>
    have hchanged := h _ _ d (Value.entries?_map _) hd [(.str "/a", .map longKeyItem)]
      (.cons ⟨rfl, plainItem, longKeyItem, rfl, rfl, hsame⟩ .nil)
    rw [hchanged] at hrefused
    cases hrefused

end ApiDocs
