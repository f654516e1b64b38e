import ApiDocs.Proofs.Document.Operations
import ApiDocs.Proofs.Document.Parameters
import ApiDocs.Proofs.Document.Refusals

/-!
# One description in two dialects

The version of a description says in which dialect it is written, and the dialect says where the
request body of an operation is looked for: under a key of its own in one dialect, among the
parameters in the other.  It says nothing else.  So a description that is given a version of either
dialect in turn is read to the same title page, tags and operations, up to the request bodies
(`ofValue_dialects`).

The bodies are looked at in the middle of reading an operation, and a malformed one is seen in its
own dialect only.  Then one reading is refused and the other may go on, so the general statement is
about two readings that both succeed.  Where no body is to be found in either dialect
(`HasNoBodies`), the two readings take the same course and refuse the same descriptions for the same
reasons.

Both statements come from one walk through the readers: `Agree` has the second for readings that are
`strict`, and all of them are if there are no bodies.
-/

namespace ApiDocs

open Value (Entries lookup lookup? hasKey)

/-! ## 1. Versions -/

/-- The key under which a description of the dialect declares its version. -/
def Dialect.versionKey : Dialect → String
  | .openapi3 => "openapi"
  | .swagger2 => "swagger"

/-- The digit that versions of the dialect start with. -/
def Dialect.versionDigit : Dialect → Char
  | .openapi3 => '3'
  | .swagger2 => '2'

/-- The entries have no version of either dialect. -/
def HasNoVersion (entries : Entries) : Prop :=
  ∀ dialect : Dialect, hasKey dialect.versionKey entries = false

/-- Entries to which a version of the dialect has been added, in any place. -/
inductive AddsVersion (dialect : Dialect) : Entries → Entries → Prop
  | insert {before after : Entries} {version : Value}
    (h : versionStartsWith dialect.versionDigit version = .ok true) :
    AddsVersion dialect (before ++ after)
      (before ++ (.str dialect.versionKey, version) :: after)

variable {entries versioned : Entries} {dialect : Dialect}

theorem AddsVersion.lookup_ne (h : AddsVersion dialect entries versioned) {name : String}
    (hname : name ≠ dialect.versionKey) : lookup name versioned = lookup name entries := by
  obtain ⟨_⟩ := h
  refine Value.lookup_append_cons_ne fun heq => hname ?_
  exact (Text.ofString_injective (Value.str.inj heq)).symm

/-- The added version is the one that is found. -/
theorem AddsVersion.lookup_self (h : AddsVersion dialect entries versioned)
    (hnone : HasNoVersion entries) :
    versionStartsWith dialect.versionDigit (lookup dialect.versionKey versioned) = .ok true := by
  obtain ⟨hversion⟩ := h
  rw [Value.lookup_append_cons_self]
  · exact hversion
  · exact fun e he => (Value.hasKey_eq_false (hnone dialect)).2 e (List.mem_append_left _ he)

theorem AddsVersion.detect?_eq {v : Value} (h : AddsVersion dialect entries versioned)
    (hnone : HasNoVersion entries) (hv : v.entries? = some versioned) :
    Dialect.detect? v = .ok (some dialect) := by
  have hself := h.lookup_self hnone
  unfold Dialect.detect? Dialect.ofEntries?
  rw [hv]
  dsimp only
  cases dialect with
  | openapi3 =>
    rw [show versionStartsWith '3' (lookup "openapi" versioned) = .ok true from hself]
    rfl
  | swagger2 =>
    have hother : lookup "openapi" versioned = .null :=
      (h.lookup_ne (by decide)).trans (Value.hasKey_eq_false (hnone .openapi3)).1
    rw [hother, show versionStartsWith '2' (lookup "swagger" versioned) = .ok true from hself]
    rfl

/-- A version has no influence but that of its dialect. -/
theorem AddsVersion.ofValue_eq {v : Value} (h : AddsVersion dialect entries versioned)
    (hnone : HasNoVersion entries) (hv : v.entries? = some versioned) :
    Document.ofValue v = Document.ofEntries dialect entries := by
  have hne : ∀ name ∈ ["paths", "info", "tags"], name ≠ dialect.versionKey := by
    cases dialect <;> decide
  rw [ApiDocs.ofValue_eq hv (h.detect?_eq hnone hv)]
  unfold Document.ofEntries
  rw [h.lookup_ne (hne "paths" (by decide)), h.lookup_ne (hne "info" (by decide)),
    h.lookup_ne (hne "tags" (by decide))]

/-! ## 2. Operations -/

/-- The operation without its request body. -/
def Operation.withoutBody (o : Operation) : Operation := { o with requestBody := none }

/-- Two operations that differ at most in their request bodies; `strict` ones have none. -/
structure SameUpToBody (strict : Prop) (o o' : Operation) : Prop where
  same : o'.withoutBody = o.withoutBody
  none : strict → o.requestBody = none ∧ o'.requestBody = none

/-- Neither dialect finds a request body in the operation. -/
structure HasNoBody (shared : Value) (operation : Entries) : Prop where
  requestBody : (lookup "requestBody" operation).isNull = true
  parameters : ∀ p ∈ declaredParameters (listed shared ++ listed (lookup "parameters" operation)),
    lookup "in" p ≠ .str "body"

/-- Neither dialect finds a request body in an operation of the path item. -/
def ItemHasNoBody (item : Entries) : Prop :=
  ∀ m ∈ item, IsMethodKey m.1 → ∀ operation, m.2.entries? = some operation →
    HasNoBody (lookup "parameters" item) operation

/-- Neither dialect finds a request body in an operation of the description. -/
def HasNoBodies (entries : Entries) : Prop :=
  ∀ e ∈ mapped (lookup "paths" entries), ∀ item, e.2.entries? = some item → ItemHasNoBody item

variable {strict : Prop} {shared : Value} {operation : Entries} (d d' : Dialect)

theorem readBody_eq_none {o : OperationName} {merged : List Entries}
    (h : HasNoBody shared operation)
    (hmerge : mergeParameters (listed shared) (listed (lookup "parameters" operation))
      = .ok merged) : readBody d o operation merged = .ok none := by
  cases d with
  | openapi3 =>
    show readRequestBody o (lookup "requestBody" operation) = _
    unfold readRequestBody
    rw [if_pos h.requestBody]
    rfl
  | swagger2 =>
    show readBodyParameter o merged = _
    have hnone : merged.find? (fun p => (lookup "in" p).sameKey (.str "body")) = none := by
      refine List.find?_eq_none.mpr fun p hp hbody => ?_
      rw [← mergedParameters_of_eq_ok hmerge] at hp
      exact h.parameters p (mem_mergedParameters hp) (Value.sameKey_str_iff.mp hbody)
    unfold readBodyParameter
    rw [hnone]

/-- **The dialect decides about the request body of an operation, and about nothing else.** -/
theorem agree_readOperation (method path : Text)
    (h : strict → HasNoBody shared operation) :
    Agree strict (SameUpToBody strict) (readOperation d shared method path operation)
      (readOperation d' shared method path operation) := by
  rw [readOperation_eq, readOperation_eq]
  dsimp only
  refine agree_bind_self fun tags _ => agree_bind_self fun declared hdeclared =>
    agree_bind_self fun own hown => ?_
  obtain rfl := listed_of_eq_some (of_orMalformed hdeclared)
  obtain rfl := listed_of_eq_some (of_orMalformed hown)
  refine agree_bind_self fun merged hmerge => ?_
  have hbody : Agree strict (fun body body' => strict → body = none ∧ body' = none)
      (readBody d ⟨method, path⟩ operation merged)
      (readBody d' ⟨method, path⟩ operation merged) := by
    by_cases hstrict : strict
    · rw [readBody_eq_none d (h hstrict) hmerge, readBody_eq_none d' (h hstrict) hmerge]
      exact agree_ok fun _ => ⟨rfl, rfl⟩
    · exact ⟨fun _ _ _ _ hs => absurd hs hstrict, fun hs => absurd hs hstrict⟩
  refine hbody.bind fun body body' hnone => ?_
  refine agree_bind_self fun operationId _ => agree_bind_self fun summary _ =>
    agree_bind_self fun description _ => agree_bind_self fun tags _ =>
    agree_bind_self fun parameters _ => agree_bind_self fun responses _ => ?_
  exact agree_ok ⟨rfl, hnone⟩

/-! ## 3. Descriptions -/

theorem agree_readMember (path : Value) {key v : Value}
    (h : strict → IsMethodKey key → ∀ operation, v.entries? = some operation →
      HasNoBody shared operation) :
    Agree strict (Option.Rel (SameUpToBody strict)) (readMember d path shared key v)
      (readMember d' path shared key v) := by
  unfold readMember
  refine agree_bind_self fun t ht => ?_
  cases hmethod : methodOf? t with
  | none =>
    -- the key is passed over, whatever stands under it
    exact agree_ok .none
  | some method =>
    have hkey : IsMethodKey key := (isMethodKey_iff ht).mpr ⟨method, hmethod⟩
    refine agree_bind_self fun path _ => agree_bind_self fun operation hoperation => ?_
    have hnone : strict → HasNoBody shared operation :=
      fun hs => h hs hkey operation (of_orMalformed hoperation)
    exact (agree_readOperation d d' method path hnone).bind fun o o' ho => agree_ok (.some ho)

theorem agree_readPathItem (path : Value) {item : Entries} (h : strict → ItemHasNoBody item) :
    Agree strict (List.Forall₂ (SameUpToBody strict)) (readPathItem d path item)
      (readPathItem d' path item) := by
  unfold readPathItem
  refine (agree_mapM fun e he => agree_readMember d d' path fun hs => h hs e he).bind
    fun members members' hmembers => agree_ok ?_
  exact List.rel_filterMap (fun _ _ hm => hm) hmembers

theorem agree_readPaths {paths : Entries}
    (h : strict → ∀ e ∈ paths, ∀ item, e.2.entries? = some item → ItemHasNoBody item) :
    Agree strict (List.Forall₂ (SameUpToBody strict)) (readPaths d paths)
      (readPaths d' paths) := by
  unfold readPaths
  refine (agree_mapM (R := List.Forall₂ (SameUpToBody strict)) fun e he => ?_).bind
    fun items items' hitems => agree_ok (List.rel_flatten hitems)
  dsimp only
  cases hitem : e.2.entries? with
  | none =>
    refine agree_bind_self fun path _ => ?_
    exact ⟨fun _ _ ha _ => (by cases ha), fun _ => .error _⟩
  | some item => exact agree_readPathItem d d' e.1 fun hs => h hs e he item hitem

/-- Two descriptions that differ at most in the request bodies of their operations. -/
structure SameButBodies (strict : Prop) (d d' : Document) : Prop where
  info : d'.info = d.info
  tags : d'.tags = d.tags
  operations : List.Forall₂ (SameUpToBody strict) d.operations d'.operations

theorem agree_ofEntries (h : strict → HasNoBodies entries) :
    Agree strict (SameButBodies strict) (Document.ofEntries d entries)
      (Document.ofEntries d' entries) := by
  unfold Document.ofEntries
  refine agree_bind_self fun paths hpaths => ?_
  obtain rfl := mapped_of_eq_some (of_orMalformed hpaths)
  refine (agree_readPaths d d' h).bind fun operations operations' hoperations => ?_
  refine agree_bind_self fun info _ => agree_bind_self fun tags _ => ?_
  exact agree_ok ⟨rfl, rfl, hoperations⟩

theorem SameUpToBody.eq {o o' : Operation} (h : SameUpToBody strict o o') (hstrict : strict) :
    o' = o := by
  obtain ⟨hnone, hnone'⟩ := h.none hstrict
  have hsame := h.same
  unfold Operation.withoutBody at hsame
  cases o
  cases o'
  cases hnone
  cases hnone'
  exact hsame

theorem map_withoutBody_eq {os os' : List Operation}
    (h : List.Forall₂ (SameUpToBody strict) os os') :
    os'.map Operation.withoutBody = os.map Operation.withoutBody := by
  rw [← List.forall₂_eq_eq_eq, List.forall₂_map_left_iff, List.forall₂_map_right_iff]
  exact h.flip.imp fun {_ _} ho => ho.same

/-- **The dialect matters for request bodies only.**  Let a description without a version be given a
version of either dialect.  If it is read in both, the two readings have the same title page, tags
and operations, the request bodies of these apart.  If no operation has a request body in either
dialect, it is read in both or refused in both, for the same reason, and the readings are the
same. -/
theorem ofValue_dialects {newer older : Entries} {v w : Value} (hnone : HasNoVersion entries)
    (hnewer : AddsVersion .openapi3 entries newer) (hv : v.entries? = some newer)
    (holder : AddsVersion .swagger2 entries older) (hw : w.entries? = some older)
    :
    (∀ d d', Document.ofValue v = .ok d → Document.ofValue w = .ok d' →
      d.dialect = .openapi3 ∧ d'.dialect = .swagger2 ∧ d'.info = d.info ∧ d'.tags = d.tags ∧
        d'.operations.map Operation.withoutBody = d.operations.map Operation.withoutBody) ∧
    (HasNoBodies entries →
      Document.ofValue w
        = (Document.ofValue v).map (fun d => { d with dialect := .swagger2 }) ∧
      ∀ d, Document.ofValue v = .ok d → ∀ o ∈ d.operations, o.requestBody = none) := by
  rw [hnewer.ofValue_eq hnone hv, holder.ofValue_eq hnone hw]
  have hagree : Agree (HasNoBodies entries) (SameButBodies (HasNoBodies entries))
      (Document.ofEntries .openapi3 entries)
      (Document.ofEntries .swagger2 entries) := agree_ofEntries _ _ id
  refine ⟨fun d d' hd hd' => ?_, fun hbodies => ?_⟩
  · have hsame := hagree.1 d d' hd hd'
    exact ⟨dialect_of_ofEntries hd, dialect_of_ofEntries hd', hsame.info, hsame.tags,
      map_withoutBody_eq hsame.operations⟩
  · generalize hd : Document.ofEntries .openapi3 entries = x at hagree ⊢
    generalize hd' : Document.ofEntries .swagger2 entries = y at hagree ⊢
    cases hagree.2 hbodies with
    | error defect => exact ⟨rfl, fun _ h => by cases h⟩
    | @ok d d' hsame =>
      refine ⟨congrArg Except.ok ?_, fun c hc o ho => ?_⟩
      · have hoperations : d'.operations = d.operations := by
          rw [← List.forall₂_eq_eq_eq]
          exact hsame.operations.flip.imp fun {_ _} h => h.eq hbodies
        have hdialect := dialect_of_ofEntries hd'
        obtain ⟨dialect, info, tags, operations⟩ := d'
        cases hdialect
        cases hoperations
        cases hsame.info
        cases hsame.tags
        rfl
      · cases hc
        obtain ⟨o', -, h⟩ := exists_of_mem_right hsame.operations.flip ho
        exact (h.none hbodies).1

/-- A description without a version, in which no operation has a request body. -/
def searchEntries : Entries := [
  (.str "info", .map [(.str "title", .str "Food")]),
  (.str "paths", .map [(.str "/food", .map [
    (.str "parameters", .list [.map [(.str "name", .str "body"), (.str "in", .str "header")]]),
    (.str "GET", .map [(.str "requestBody", .null), (.str "tags", .list [.str "Search"])])])])]

/-- The first version stands in front and is a text, the second is a number and stands behind. -/
theorem ofValue_dialects_search : ∃ d,
    Document.ofValue (.map ((.str "openapi", .str "3.1.0") :: searchEntries)) = .ok d ∧
    Document.ofValue (.map (searchEntries ++ [(.str "swagger", .int 2)]))
      = .ok { d with dialect := .swagger2 } ∧
    d.operations.map (·.parameters.map (·.location)) = [[Text.ofString "header"]] := by
  have hnone : HasNoVersion searchEntries := fun dialect => by cases dialect <;> rfl
  have hnewer : AddsVersion .openapi3 ([] ++ searchEntries)
      ([] ++ (.str "openapi", .str "3.1.0") :: searchEntries) := .insert rfl
  have holder : AddsVersion .swagger2 (searchEntries ++ [])
      (searchEntries ++ (.str "swagger", .int 2) :: []) := .insert (by decide +kernel)
  have hbodies : HasNoBodies searchEntries := by
    intro e he item hitem m hm _ operation hoperation
    obtain rfl := List.mem_singleton.mp he
    cases hitem
    rcases List.mem_pair.mp hm with rfl | rfl
    · cases hoperation
    · cases hoperation
      refine ⟨rfl, fun p hp => ?_⟩
      obtain rfl := List.mem_singleton.mp hp
      exact fun h => absurd (Value.str.inj h) (by decide)
  have hread : (Document.ofValue (.map ((.str "openapi", .str "3.1.0") :: searchEntries))).map
      (fun d => d.operations.map (·.parameters.map (·.location))) = .ok [[Text.ofString "header"]] := by
    decide +kernel
  obtain ⟨-, hsame⟩ := ofValue_dialects (v := .map _) (w := .map _) hnone hnewer rfl
    (List.append_nil searchEntries ▸ holder) rfl
  obtain ⟨d, hd, hlocations⟩ := map_eq_ok.mp hread
  refine ⟨d, hd, ?_, hlocations⟩
  rw [(hsame hbodies).1, show Document.ofValue (.map ([] ++ (.str "openapi", .str "3.1.0")
    :: searchEntries)) = .ok d from hd]
  rfl

end ApiDocs
