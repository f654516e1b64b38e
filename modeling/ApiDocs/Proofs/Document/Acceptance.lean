import ApiDocs.Proofs.Document.Shape
import ApiDocs.Proofs.Document.Verdict
import ApiDocs.Proofs.Keyed

/-!
# Which descriptions are accepted

Every reader judges the shape of what it reads, so a value that has the shape of an API description
is read and any other is reported as malformed (`ofValue_judges`), whichever of its defects comes
first.  There is one way out: a text may be wanted of something that has none, an integer with too
many digits or a collection that is nested too deeply.

The parameters are taken to be proper (`ParametersAreProper`): those that are not are refused with
errors of their own, which are no malformations.
-/

namespace ApiDocs

open Value (Entries lookup lookup? hasKey)

variable {root v : Value}

/-! ## 1. Lists and mappings -/

theorem Value.Holds.mapped (h : root.Holds v) : root.HoldsEntries (mapped v) := by
  unfold ApiDocs.mapped entriesOrEmpty?
  split
  · cases hes : v.entries? with
    | none => exact fun _ he => absurd he List.not_mem_nil
    | some es => exact h.entries hes
  · exact fun _ he => absurd he List.not_mem_nil

theorem Value.Holds.listed (h : root.Holds v) : ∀ w ∈ listed v, root.Part w := by
  unfold ApiDocs.listed listOrEmpty?
  split
  · cases hitems : v.items? with
    | none => exact fun _ hw => absurd hw List.not_mem_nil
    | some items => exact fun w hw => h.item hitems hw
  · exact fun _ hw => absurd hw List.not_mem_nil

theorem judges_mapping (cause : Malformation) :
    Judges root (IsMappingOrFalse v) (orMalformed cause (entriesOrEmpty? v)) :=
  (judges_orMalformed cause _).congr isMappingOrFalse_iff

theorem judges_list (cause : Malformation) :
    Judges root (IsListOrFalse v) (orMalformed cause (listOrEmpty? v)) :=
  (judges_orMalformed cause _).congr isListOrFalse_iff

/-! ## 2. Parameters -/

theorem mem_declaredParameters {declarations : List Value} {p : Entries}
    (h : p ∈ declaredParameters declarations) : ∃ w ∈ declarations, w.entries? = some p :=
  List.mem_filterMap.mp (List.mem_of_mem_filter h)

theorem mem_mergedParameters {shared own : Value} {p : Entries}
    (h : p ∈ mergedParameters shared own) :
    p ∈ declaredParameters (listed shared ++ listed own) := by
  have := Keyed.map_snd_ofList_subset sameParameter _ h
  rw [List.map_map] at this
  obtain ⟨q, hq, rfl⟩ := List.mem_map.mp this
  exact hq

theorem holdsEntries_of_mem_mergedParameters {shared own : Value} {p : Entries}
    (hshared : root.Holds shared) (hown : root.Holds own) (h : p ∈ mergedParameters shared own) :
    root.HoldsEntries p := by
  obtain ⟨w, hw, hp⟩ := mem_declaredParameters (mem_mergedParameters h)
  have hpart : root.Part w :=
    (List.mem_append.mp hw).elim (hshared.listed w) (hown.listed w)
  exact Value.Holds.entries (Or.inr hpart) hp

/-- The location of a proper parameter is a text. -/
theorem IsProper.declaredLocation {p : Entries} (h : IsProper p) :
    ∃ s, declaredLocation p = .str s := by
  unfold ApiDocs.declaredLocation
  rcases h.location with hnone | ⟨s, hs⟩
  · exact ⟨_, by rw [hnone, Option.getD_none]⟩
  · exact ⟨s, by rw [hs, Option.getD_some]⟩

/-- The type of a proper parameter is a text. -/
theorem IsProper.declaredType {p schema : Entries} (h : IsProper p)
    (hschema : entriesOrEmpty? (lookup "schema" p) = some schema) :
    ∃ s, declaredType schema p = .str s := by
  have htext : ∀ w, IsTextOrFalse w → w.isTruthy = true → ∃ s, w = .str s := by
    rintro w (hfalse | hs) htrue
    · rw [hfalse] at htrue
      cases htrue
    · exact hs
  have htype : IsTextOrFalse (lookup "type" schema) := by
    unfold entriesOrEmpty? at hschema
    split at hschema
    · exact h.schemaType schema hschema
    · cases hschema
      exact Or.inl rfl
  unfold ApiDocs.declaredType
  split
  · next htrue => exact htext _ htype htrue
  split
  · next htrue => exact htext _ h.type htrue
  · exact ⟨_, rfl⟩

theorem mergeParameters_eq {shared own : Value}
    (hproper : ∀ p ∈ declaredParameters (listed shared ++ listed own), IsProper p) :
    mergeParameters (listed shared) (listed own) = .ok (mergedParameters shared own) := by
  have hkeys : (declaredParameters (listed shared ++ listed own)).all hasHashableKey = true := by
    refine List.all_eq_true.mpr fun p hp => ?_
    obtain ⟨s, hs⟩ := (hproper p hp).declaredLocation
    unfold hasHashableKey parameterKey
    rw [hs, (hproper p hp).name]
    rfl
  unfold mergeParameters
  dsimp only
  rw [if_pos hkeys]
  rfl

theorem judges_readParameter (o : OperationName) {p : Entries} (hproper : IsProper p)
    (hp : root.HoldsEntries p) :
    Judges root (IsMappingOrFalse (lookup "schema" p)) (readParameter o p) := by
  unfold readParameter
  refine (judges_written (hp.lookup "name")).after fun name _ => ?_
  refine (judges_mapping _).before fun schema hschema => ?_
  refine (judges_trimmed (hp.lookup "description")).after fun description _ => ?_
  obtain ⟨location, hlocation⟩ := hproper.declaredLocation
  obtain ⟨typeName, htype⟩ := hproper.declaredType (of_orMalformed hschema)
  rw [hlocation, htype]
  exact trivial

theorem judges_readParameters (o : OperationName) {merged : List Entries}
    (hproper : ∀ p ∈ merged, IsProper p) (hparts : ∀ p ∈ merged, root.HoldsEntries p) :
    Judges root (∀ p ∈ merged, isBodyPart p = false → IsMappingOrFalse (lookup "schema" p))
      (readParameters o merged) := by
  refine (judges_mapM (P := fun p => IsMappingOrFalse (lookup "schema" p)) fun p hp => ?_).congr ?_
  · have hmem := List.mem_of_mem_filter hp
    exact judges_readParameter o (hproper p hmem) (hparts p hmem)
  · refine ⟨fun h p hp hbody => h p (List.mem_filter.mpr ⟨hp, ?_⟩), fun h p hp => ?_⟩
    · rw [hbody]
      rfl
    · obtain ⟨hmem, hbody⟩ := List.mem_filter.mp hp
      exact h p hmem (by simpa using hbody)

/-! ## 3. Request bodies -/

theorem judges_readSchema (o : OperationName) (v : Value) :
    Judges root (IsMappingOrNull v) (readSchema o v) := by
  unfold readSchema IsMappingOrNull IsMapping
  split
  · next hnull => exact Or.inl hnull
  · next hnull =>
    exact ((judges_orMalformed _ _).map _).congr (or_iff_right hnull).symm

theorem judges_readContent (o : OperationName) (content : Entries) :
    Judges root (∀ e ∈ content, IsMapping e.2) (readContent o content) :=
  judges_mapM fun _ _ => (judges_orMalformed _ _).map _

/-- The media types that were read are those of the content, with their entries. -/
theorem forall₂_of_readContent {o : OperationName} {content : Entries}
    {read : List (Value × Entries)} (h : readContent o content = .ok read) :
    List.Forall₂ (fun e r => r.1 = e.1 ∧ e.2.entries? = some r.2) content read := by
  refine (mapM_eq_ok.mp h).imp fun {e r} her => ?_
  dsimp only at her
  cases hmapping : e.2.entries? with
  | none =>
    rw [hmapping] at her
    cases her
  | some es =>
    rw [hmapping] at her
    cases her
    exact ⟨rfl, rfl⟩

theorem find?_of_forall₂ (name : String) {content : Entries} {read : List (Value × Entries)}
    (h : List.Forall₂ (fun e r => r.1 = e.1 ∧ e.2.entries? = some r.2) content read) :
    Keyed.find? Value.sameKey (.str name) read = (lookup? name content).bind Value.entries? := by
  induction h with
  | nil => rfl
  | @cons e r content read hfirst _ ih =>
    obtain ⟨k, v⟩ := e
    obtain ⟨k', es⟩ := r
    obtain ⟨rfl, hes⟩ : k' = k ∧ v.entries? = some es := hfirst
    unfold Keyed.find? lookup?
    split
    · exact hes.symm
    · exact ih

/-- The schema is taken from the media type that is shown. -/
theorem chosenMedia?_of_readContent {o : OperationName} {content : Entries}
    {read : List (Value × Entries)} (h : readContent o content = .ok read) :
    chosenMedia? read = (shownMedia? content).bind Value.entries? := by
  have hread := forall₂_of_readContent h
  have hmapping : ∀ name w, lookup? name content = some w → ∃ es, w.entries? = some es := by
    intro name w hw
    obtain ⟨k, hk⟩ := exists_mem_of_lookup? hw
    obtain ⟨r, -, -, hr⟩ := exists_of_mem_right hread.flip hk
    exact ⟨r.2, hr⟩
  have hhead : read.head?.map Prod.snd = (content.head?.map Prod.snd).bind Value.entries? := by
    cases hread with
    | nil => rfl
    | cons hfirst _ => exact hfirst.2.symm
  have hjson := find?_of_forall₂ "application/json" hread
  have hform := find?_of_forall₂ "multipart/form-data" hread
  unfold chosenMedia? shownMedia? preferredMedia
  rw [List.findSome?_cons, List.findSome?_cons, List.findSome?_nil, hjson, hform]
  cases hfirst : lookup? "application/json" content with
  | some w =>
    obtain ⟨es, hes⟩ := hmapping _ w hfirst
    simp [hes]
  | none =>
    cases hsecond : lookup? "multipart/form-data" content with
    | some w =>
      obtain ⟨es, hes⟩ := hmapping _ w hsecond
      simp [hes]
    | none => simpa using hhead

theorem judges_readRequestBody (o : OperationName) (v : Value) :
    Judges root (IsRequestBody v) (readRequestBody o v) := by
  unfold readRequestBody IsRequestBody
  split
  · next hnull => exact Or.inl hnull
  · next hnull =>
    refine Judges.congr (judges_exists _ fun body _ => ?_) (or_iff_right hnull).symm
    refine (judges_mapping _).bind fun content hcontent => ?_
    obtain rfl := mapped_of_eq_some (of_orMalformed hcontent)
    refine (judges_readContent o _).bind fun read hread => ?_
    rw [chosenMedia?_of_readContent hread]
    cases hshown : shownMedia? (mapped (lookup "content" body)) with
    | none =>
      rintro media es hmedia
      cases hmedia
    | some media =>
      rw [Option.bind_some]
      cases hes : media.entries? with
      | none =>
        rintro w es hw hnone
        cases hw
        rw [hes] at hnone
        cases hnone
      | some es =>
        refine (judges_readSchema o _).congr ⟨?_, fun h => h media es rfl hes⟩
        rintro h w es' hw hes'
        cases hw
        rw [hes] at hes'
        cases hes'
        exact h

theorem judges_readBodyParameter (o : OperationName) (merged : List Entries) :
    Judges root (IsBodyParameter merged) (readBodyParameter o merged) := by
  unfold readBodyParameter IsBodyParameter
  cases hfind : merged.find? (fun p => (lookup "in" p).sameKey (.str "body")) with
  | none =>
    rintro p hp
    cases hp
  | some p =>
    refine (judges_readSchema o _).congr ⟨?_, fun h => h p rfl⟩
    rintro h q hq
    cases hq
    exact h

/-- The request body, wherever the dialect has it. -/
def readBody (dialect : Dialect) (o : OperationName) (operation : Entries)
    (merged : List Entries) : Except Defect (Option Entries) :=
  match dialect with
  | .openapi3 => readRequestBody o (lookup "requestBody" operation)
  | .swagger2 => readBodyParameter o merged

theorem judges_readBody (dialect : Dialect) (o : OperationName) (shared : Value)
    (operation : Entries) :
    Judges root (HasRequestBody dialect shared operation)
      (readBody dialect o operation (mergedParameters shared (lookup "parameters" operation))) := by
  cases dialect with
  | openapi3 => exact judges_readRequestBody o _
  | swagger2 => exact judges_readBodyParameter o _

/-! ## 4. Operations -/

theorem judges_readResponses (o : OperationName) (hv : root.Holds v) :
    Judges root (IsMappingOrFalse v) (readResponses o v) := by
  unfold readResponses
  refine (judges_mapping _).before fun entries hentries => ?_
  obtain rfl := mapped_of_eq_some (of_orMalformed hentries)
  have hresponse : ∀ e ∈ mapped v, Judges root True (readResponse e.2) := by
    intro e he
    have hpart := (hv.mapped e he).2
    unfold readResponse
    split
    · next r hr => exact judges_trimmed ((Value.Holds.entries (Or.inr hpart) hr).lookup _)
    · exact trivial
  refine Judges.map (x := List.mapM _ _) (judges_mapM_true fun e he => ?_) _
  refine (hresponse e he).after fun description _ => ?_
  exact (judges_written (Or.inr (hv.mapped e he).1)).map _

theorem judges_readOperationId (hv : root.Holds v) : Judges root True (readOperationId v) := by
  unfold readOperationId
  split
  · exact trivial
  · exact (judges_written hv).map _

theorem readOperation_eq (dialect : Dialect) (shared : Value) (method path : Text)
    (operation : Entries) : readOperation dialect shared method path operation = (do
      let o : OperationName := ⟨method, path⟩
      let tags ← orMalformed (.tagsNotList o) (listOrEmpty? (lookup "tags" operation))
      let shared ← orMalformed (.parametersNotList o) (listOrEmpty? shared)
      let own ← orMalformed (.parametersNotList o) (listOrEmpty? (lookup "parameters" operation))
      let merged ← mergeParameters shared own
      let requestBody ← readBody dialect o operation merged
      let operationId ← readOperationId (lookup "operationId" operation)
      let summary ← trimmed (lookup "summary" operation)
      let description ← trimmed (lookup "description" operation)
      let tags ← tags.mapM written
      let parameters ← readParameters o merged
      let responses ← readResponses o (lookup "responses" operation)
      return {
        method, path, operationId, summary, description, tags, parameters, requestBody, responses
        deprecated := (lookup "deprecated" operation).isTruthy }) := by
  cases dialect with
  | openapi3 => rfl
  | swagger2 => rfl

/-- **An operation is read if it has the shape of one.** -/
theorem judges_readOperation (dialect : Dialect) {shared : Value} (method path : Text)
    {operation : Entries} (hshared : root.Holds shared) (hoperation : root.HoldsEntries operation)
    (hproper : ∀ p ∈ declaredParameters (listed shared ++ listed (lookup "parameters" operation)),
      IsProper p) :
    Judges root (IsOperation dialect shared operation)
      (readOperation dialect shared method path operation) := by
  have hmerged : ∀ p ∈ mergedParameters shared (lookup "parameters" operation), IsProper p :=
    fun p hp => hproper p (mem_mergedParameters hp)
  have hparts : ∀ p ∈ mergedParameters shared (lookup "parameters" operation),
      root.HoldsEntries p :=
    fun p hp => holdsEntries_of_mem_mergedParameters hshared (hoperation.lookup _) hp
  have htags : ∀ tags, listOrEmpty? (lookup "tags" operation) = some tags →
      Judges root True (tags.mapM written) := by
    rintro tags h
    obtain rfl := listed_of_eq_some h
    exact judges_mapM_true fun w hw =>
      judges_written (Or.inr ((hoperation.lookup "tags").listed w hw))
  -- the parts of the shape in the order in which they are checked
  have hshape : (IsListOrFalse (lookup "tags" operation) ∧ IsListOrFalse shared ∧
      IsListOrFalse (lookup "parameters" operation) ∧ HasRequestBody dialect shared operation ∧
      (∀ p ∈ mergedParameters shared (lookup "parameters" operation), isBodyPart p = false →
        IsMappingOrFalse (lookup "schema" p)) ∧ IsMappingOrFalse (lookup "responses" operation)) ↔
      IsOperation dialect shared operation :=
    ⟨fun ⟨h₁, h₂, h₃, h₄, h₅, h₆⟩ => ⟨h₁, h₂, h₃, h₄, h₅, h₆⟩,
      fun h => ⟨h.tags, h.sharedParameters, h.ownParameters, h.body, h.schemas, h.responses⟩⟩
  rw [readOperation_eq]
  dsimp only
  refine Judges.congr ?_ hshape
  refine (judges_list _).bind fun tags hlist => ?_
  refine (judges_list _).bind fun declared hdeclared => ?_
  refine (judges_list _).bind fun own hown => ?_
  obtain rfl := listed_of_eq_some (of_orMalformed hdeclared)
  obtain rfl := listed_of_eq_some (of_orMalformed hown)
  rw [mergeParameters_eq hproper]
  refine Judges.after (x := .ok _) trivial fun merged hmerge => ?_
  cases hmerge
  refine Judges.bind (judges_readBody dialect _ shared operation) fun body _ => ?_
  refine (judges_readOperationId (hoperation.lookup _)).after fun operationId _ => ?_
  refine (judges_trimmed (hoperation.lookup _)).after fun summary _ => ?_
  refine (judges_trimmed (hoperation.lookup _)).after fun description _ => ?_
  refine (htags tags (of_orMalformed hlist)).after fun texts _ => ?_
  refine (judges_readParameters _ hmerged hparts).bind fun parameters _ => ?_
  exact (judges_readResponses _ (hoperation.lookup _)).map _

/-! ## 5. Path items -/

theorem judges_readKey {key : Value} (h : root.Holds key) : Judges root True (readKey key) :=
  (judges_written h).map _

/-- A key that was read names a method if its text in small letters is one. -/
theorem isMethodKey_iff {key : Value} {t : Text} (h : readKey key = .ok t) :
    IsMethodKey key ↔ ∃ method, methodOf? t = some method := by
  obtain ⟨u, hu, rfl⟩ : ∃ u, key.text = .ok u ∧ t = Text.lower u := by
    unfold readKey written at h
    cases hu : key.text with
    | error cause =>
      rw [hu] at h
      cases h
    | ok u =>
      rw [hu] at h
      cases h
      exact ⟨u, rfl, rfl⟩
  unfold IsMethodKey
  rw [hu]
  constructor
  · rintro ⟨_, hu', hmethod⟩
    cases hu'
    exact ⟨_, methodOf?_eq_some.mpr ⟨hmethod, rfl⟩⟩
  · rintro ⟨method, hfind⟩
    obtain ⟨hmethod, hlower⟩ := methodOf?_eq_some.mp hfind
    exact ⟨u, rfl, hlower ▸ hmethod⟩

/-- **Under the name of a method there has to be an operation**; other keys may hold anything. -/
theorem judges_readMember (dialect : Dialect) {path shared key v : Value}
    (hpath : root.Holds path) (hshared : root.Holds shared) (hkey : root.Holds key)
    (hv : root.Holds v)
    (hproper : IsMethodKey key → ∀ operation, v.entries? = some operation →
      ∀ p ∈ declaredParameters (listed shared ++ listed (lookup "parameters" operation)),
        IsProper p) :
    Judges root (IsMethodKey key → ∃ operation, v.entries? = some operation ∧
      IsOperation dialect shared operation) (readMember dialect path shared key v) := by
  unfold readMember
  refine (judges_readKey hkey).after fun t ht => ?_
  have hmethod := isMethodKey_iff ht
  cases hfound : methodOf? t with
  | none =>
    have hno : ¬ IsMethodKey key := by
      rw [hmethod, hfound]
      rintro ⟨_, h⟩
      cases h
    refine Judges.congr (P := True) ?_ ⟨fun _ h => absurd h hno, fun _ => trivial⟩
    exact trivial
  | some method =>
    have hyes : IsMethodKey key := hmethod.mpr ⟨method, hfound⟩
    refine Judges.congr ?_ (forall_prop_of_true hyes).symm
    refine (judges_written hpath).after fun path _ => ?_
    refine judges_exists _ fun operation hoperation => ?_
    exact (judges_readOperation dialect method path hshared (hv.entries hoperation)
      (hproper hyes operation hoperation)).map _

theorem judges_readPathItem (dialect : Dialect) {path : Value} {item : Entries}
    (hpath : root.Holds path) (hitem : root.HoldsEntries item) (hproper : ItemIsProper item) :
    Judges root (∀ e ∈ item, IsMethodKey e.1 → ∃ operation, e.2.entries? = some operation ∧
      IsOperation dialect (lookup "parameters" item) operation)
      (readPathItem dialect path item) := by
  unfold readPathItem
  refine Judges.map (judges_mapM fun e he => ?_) _
  exact judges_readMember dialect hpath (hitem.lookup _) (Or.inr (hitem e he).1)
    (Or.inr (hitem e he).2) (hproper e he)

theorem judges_readPaths (dialect : Dialect) {paths : Entries}
    (hpaths : root.HoldsEntries paths)
    (hproper : ∀ e ∈ paths, ∀ item, e.2.entries? = some item → ItemIsProper item) :
    Judges root (∀ e ∈ paths, IsPathItem dialect e.2) (readPaths dialect paths) := by
  unfold readPaths
  refine Judges.map (judges_mapM fun e he => ?_) _
  obtain ⟨hpath, hitem⟩ := hpaths e he
  dsimp only
  cases hentries : e.2.entries? with
  | none =>
    refine (judges_written (Or.inr hpath)).after fun path _ => ?_
    rintro ⟨item, hsome, -⟩
    rw [hentries] at hsome
    cases hsome
  | some item =>
    refine (judges_readPathItem dialect (Or.inr hpath)
      (Value.Holds.entries (Or.inr hitem) hentries) (hproper e he item hentries)).congr ?_
    unfold IsPathItem
    rw [hentries]
    simp

/-! ## 6. Descriptions -/

theorem judges_readInfo (hv : root.Holds v) : Judges root True (readInfo v) := by
  unfold readInfo
  cases hinfo : v.entries? with
  | none => exact trivial
  | some info =>
    have hparts := hv.entries hinfo
    refine (judges_trimmed (hparts.lookup _)).after fun title _ => ?_
    refine (judges_trimmed (hparts.lookup _)).after fun version _ => ?_
    exact (judges_trimmed (hparts.lookup _)).map _

theorem judges_readTags (hv : root.Holds v) : Judges root (IsListOrNull v) (readTags v) := by
  unfold readTags IsListOrNull
  split
  · next hnull => exact Or.inl hnull
  · next hnull =>
    refine Judges.congr ?_ (or_iff_right hnull).symm
    refine (judges_orMalformed _ _).before fun items hitems => judges_mapM_true fun t ht => ?_
    obtain ⟨w, hw, ht⟩ := mem_declaredParameters ht
    have hparts := Value.Holds.entries (Or.inr (hv.item (of_orMalformed hitems) hw)) ht
    refine (judges_written (hparts.lookup _)).after fun name _ => ?_
    exact (judges_trimmed (hparts.lookup _)).map _

/-- **A description is read if it has the shape of one.** -/
theorem judges_ofEntries (dialect : Dialect) {entries : Entries}
    (hentries : root.HoldsEntries entries) (hproper : ParametersAreProper entries) :
    Judges root (IsDescription dialect entries) (Document.ofEntries dialect entries) := by
  unfold Document.ofEntries
  have hshape : (IsMappingOrFalse (lookup "paths" entries) ∧
      (∀ e ∈ mapped (lookup "paths" entries), IsPathItem dialect e.2) ∧
      IsListOrNull (lookup "tags" entries)) ↔ IsDescription dialect entries :=
    ⟨fun ⟨h₁, h₂, h₃⟩ => ⟨h₁, h₂, h₃⟩, fun h => ⟨h.paths, h.items, h.tags⟩⟩
  refine Judges.congr ?_ hshape
  refine (judges_mapping _).bind fun paths hpaths => ?_
  obtain rfl := mapped_of_eq_some (of_orMalformed hpaths)
  refine (judges_readPaths dialect (hentries.lookup "paths").mapped hproper).bind
    fun operations _ => ?_
  refine (judges_readInfo (hentries.lookup _)).after fun info _ => ?_
  exact (judges_readTags (hentries.lookup _)).map _

/-- A loaded value of a known dialect is read as its entries are. -/
theorem ofValue_eq {entries : Entries} {dialect : Dialect} (hentries : v.entries? = some entries)
    (hdialect : Dialect.detect? v = .ok (some dialect)) :
    Document.ofValue v = Document.ofEntries dialect entries := by
  unfold Dialect.detect? at hdialect
  rw [hentries] at hdialect
  unfold Document.ofValue
  rw [hentries]
  show (Dialect.ofEntries? entries).mapError Defect.noText >>= (fun found =>
    orMalformed .unknownDialect found >>= fun dialect => Document.ofEntries dialect entries)
      = _
  rw [show Dialect.ofEntries? entries = .ok (some dialect) from hdialect]
  rfl

theorem dialect_of_ofEntries {entries : Entries} {dialect : Dialect}
    {d : Document} (h : Document.ofEntries dialect entries = .ok d) :
    d.dialect = dialect := by
  unfold Document.ofEntries at h
  iterate 4 obtain ⟨_, -, h⟩ := bind_eq_ok.mp h
  cases h
  rfl

/-- **Which loaded values are accepted.**  A value of a known dialect, whose declared parameters are
proper, is read exactly if it has the shape of a description.  If it has not, it is reported as
malformed, and the message starts with the name of the source.  The only other outcome is that a
part of the value has no text. -/
theorem ofValue_judges {entries : Entries} {dialect : Dialect}
    (hentries : v.entries? = some entries) (hdialect : Dialect.detect? v = .ok (some dialect))
    (hproper : ParametersAreProper entries) :
    ((∃ d, Document.ofValue v = .ok d ∧ d.dialect = dialect) ∧
      IsDescription dialect entries) ∨
    ((∃ cause, Document.ofValue v = .error (.malformed cause) ∧
      ∀ source : Text, source ≠ [] →
        cause.messageIn (some source) = source ++ ": " ++ cause.message) ∧
      ¬ IsDescription dialect entries) ∨
    ∃ cause w, Document.ofValue v = .error (.noText cause) ∧ v.Part w ∧
      w.text = .error cause := by
  have hparts : v.HoldsEntries entries := Value.Holds.entries (Or.inr .whole) hentries
  have hjudges := judges_ofEntries dialect hparts hproper
  rw [ofValue_eq hentries hdialect]
  match hread : Document.ofEntries dialect entries with
  | .ok d =>
    rw [hread] at hjudges
    exact Or.inl ⟨⟨d, rfl, dialect_of_ofEntries hread⟩, hjudges⟩
  | .error (.malformed cause) =>
    rw [hread] at hjudges
    refine Or.inr (Or.inl ⟨⟨cause, rfl, fun source hsource => ?_⟩, hjudges⟩)
    unfold Malformation.messageIn
    dsimp only
    rw [if_neg (by simpa using hsource)]
  | .error (.noText cause) =>
    rw [hread] at hjudges
    obtain ⟨w, hpart, htext⟩ := hjudges
    exact Or.inr (Or.inr ⟨cause, w, rfl, hpart, htext⟩)
  | .error .unhashableParameter =>
    rw [hread] at hjudges
    exact hjudges.elim
  | .error (.parameterFields _) =>
    rw [hread] at hjudges
    exact hjudges.elim

/-- A description in the older dialect, in which the parameter of the path item is no body that
could be read, and the operation replaces it. -/
def replacedBody : Entries := [
  (.str "swagger", .str "2.0"),
  (.str "paths", .map [(.str "/a", .map [
    (.str "parameters", .list [
      .map [(.str "name", .str "b"), (.str "in", .str "body"), (.str "schema", .str "text")]]),
    (.str "POST", .map [(.str "parameters", .list [
      .map [(.str "name", .str "b"), (.str "in", .str "body"), (.str "schema", .map [])]])])])])]

/-- What is replaced is not looked at. -/
theorem ofValue_judges_replacedBody :
    (∃ d, Document.ofValue (.map replacedBody) = .ok d ∧ d.dialect = .swagger2) ∧
      IsDescription .swagger2 replacedBody := by
  have hproper : ParametersAreProper replacedBody := by
    intro e he item hitem m hm _ operation hoperation p hp
    obtain rfl := List.mem_singleton.mp he
    cases hitem
    rcases List.mem_pair.mp hm with rfl | rfl
    · cases hoperation
    · cases hoperation
      rcases List.mem_pair.mp hp with rfl | rfl
      · exact ⟨rfl, Or.inr ⟨_, rfl⟩, Or.inl rfl, fun _ h => by cases h⟩
      · refine ⟨rfl, Or.inr ⟨_, rfl⟩, Or.inl rfl, fun _ h => ?_⟩
        cases h
        exact Or.inl rfl
  have hread : (Document.ofValue (.map replacedBody)).map (fun _ => ()) = .ok () := by
    decide +kernel
  rcases ofValue_judges rfl (show Dialect.detect? (.map replacedBody) = .ok (some .swagger2)
    from rfl) hproper with haccepted | ⟨⟨cause, herror, -⟩, -⟩ | ⟨cause, w, herror, -⟩
  · exact haccepted
  · rw [herror] at hread
    cases hread
  · rw [herror] at hread
    cases hread

/-- A description with an operation id of more digits than are written. -/
def longId : Entries := [
  (.str "openapi", .str "3.0.0"),
  (.str "paths", .map [(.str "/a", .map [
    (.str "get", .map [(.str "operationId", .int (Int.ofNat (Nat.pow 16 3572)))])])])]

/-- **Not every value of a known dialect is read or malformed**: a number that is too long for a
text is neither. -/
theorem not_ofValue_judges_longId :
    ¬ ∀ (v : Value) (entries : Entries) (dialect : Dialect), v.entries? = some entries →
      Dialect.detect? v = .ok (some dialect) → ParametersAreProper entries →
        ((∃ d, Document.ofValue v = .ok d) ↔ IsDescription dialect entries) ∧
        (¬ IsDescription dialect entries →
          ∃ cause, Document.ofValue v = .error (.malformed cause)) := by
  intro h
  have hproper : ParametersAreProper longId := by
    intro e he item hitem m hm _ operation hoperation p hp
    obtain rfl := List.mem_singleton.mp he
    cases hitem
    obtain rfl := List.mem_singleton.mp hm
    cases hoperation
    exact absurd hp List.not_mem_nil
  have hread : (Document.ofValue (.map longId)).map (fun _ => ())
      = .error (.noText .longInteger) := by
    decide +kernel
  obtain ⟨hiff, hother⟩ := h (.map longId) longId .openapi3 rfl rfl hproper
  by_cases hshape : IsDescription .openapi3 longId
  · obtain ⟨d, hd⟩ := hiff.mpr hshape
    rw [hd] at hread
    cases hread
  · obtain ⟨cause, hcause⟩ := hother hshape
    rw [hcause] at hread
    cases hread

end ApiDocs
