import ApiDocs.Command.Run
import ApiDocs.Proofs.Document.Acceptance

/-!
# How reading a description ends

A file either holds a description or is reported as malformed, with a message for the user.  There
are other ways out, and `Document.Escapes` lists them all: the path cannot name a file, the text is
YAML that cannot be loaded, a text is wanted of a value that has none, and a parameter of an
operation is unfit (`HasUnfitParameter`).  A parameter is unfit if its name or location cannot be
part of a key, or if its location or type is no text, which includes the lists of types that the
newer dialect allows.  `ofText_outcome` says that nothing else can happen, and that no description
with an unfit parameter is read.

The readers are gone through once more, as in `Judges`, but with an eye on the parameters only: a
reader *vets* the defects that the parameters in its part give reason for (`Vets`).
-/

namespace ApiDocs

open Value (Entries lookup lookup?)

/-! ## 1. Vetting -/

section Vetting

variable {root : Value} {α β : Type} {B C : Defect → Prop} {x : Except Defect α}

/-- A success says that there is no reason `B` to refuse a parameter, and a refusal that there is
the one that it gives.  Malformations say nothing about the parameters. -/
def Vets (root : Value) (B : Defect → Prop) : Except Defect α → Prop
  | .ok _ => ∀ defect, ¬ B defect
  | .error (.malformed _) => True
  | .error (.noText cause) => ∃ w, root.Part w ∧ w.text = .error cause
  | .error defect => B defect

theorem Vets.congr (h : Vets root B x) (hiff : ∀ defect, B defect ↔ C defect) : Vets root C x := by
  have hBC : B = C := funext fun defect => propext (hiff defect)
  exact hBC ▸ h

/-- A reader that refuses no parameter. -/
theorem Judges.vets {P : Prop} (h : Judges root P x) : Vets root (fun _ => False) x := by
  match x with
  | .ok a => exact fun _ hdefect => hdefect
  | .error (.malformed cause) => exact trivial
  | .error (.noText cause) => exact h

/-- **One reader after another vets for both.** -/
theorem Vets.bind {f : α → Except Defect β} (hx : Vets root B x)
    (hf : ∀ a, x = .ok a → Vets root C (f a)) :
    Vets root (fun defect => B defect ∨ C defect) (x >>= f) := by
  match x with
  | .ok a =>
    show Vets root (fun defect => B defect ∨ C defect) (f a)
    exact (hf a rfl).congr fun defect => (or_iff_right (hx defect)).symm
  | .error (.malformed cause) => exact trivial
  | .error (.noText cause) => exact hx
  | .error .unhashableParameter => exact Or.inl hx
  | .error (.parameterFields _) => exact Or.inl hx

/-- A reader after one that refuses no parameter. -/
theorem Vets.after {f : α → Except Defect β} (hx : Vets root (fun _ => False) x)
    (hf : ∀ a, x = .ok a → Vets root C (f a)) : Vets root C (x >>= f) :=
  (hx.bind hf).congr fun _ => or_iff_right id

/-- A reader that goes on without refusing a parameter. -/
theorem Vets.before {f : α → Except Defect β} (hx : Vets root B x)
    (hf : ∀ a, x = .ok a → Vets root (fun _ => False) (f a)) : Vets root B (x >>= f) :=
  (hx.bind hf).congr fun _ => or_iff_left id

theorem Vets.map (h : Vets root B x) (f : α → β) : Vets root B (x.map f) := by
  match x with
  | .ok a => exact h
  | .error (.malformed cause) => exact h
  | .error (.noText cause) => exact h
  | .error .unhashableParameter => exact h
  | .error (.parameterFields _) => exact h

theorem vets_none {a : α} : Vets root (fun _ => False) (.ok a : Except Defect α) :=
  fun _ hdefect => hdefect

/-- A shape that is asked for, and the reasons in what has it. -/
theorem vets_exists (cause : Malformation) {a : Option α} {B : α → Defect → Prop}
    {f : α → Except Defect β} (hf : ∀ b, a = some b → Vets root (B b) (f b)) :
    Vets root (fun defect => ∃ b, a = some b ∧ B b defect) (orMalformed cause a >>= f) := by
  cases a with
  | none => exact trivial
  | some b => exact (hf b rfl).congr fun defect => by simp

/-- **A reader for every element vets for all of them.** -/
theorem vets_mapM {B : α → Defect → Prop} {f : α → Except Defect β} : ∀ {xs : List α},
    (∀ a ∈ xs, Vets root (B a) (f a)) →
      Vets root (fun defect => ∃ a ∈ xs, B a defect) (xs.mapM f)
  | [], _ => by
    rw [List.mapM_nil]
    exact fun _ ⟨_, ha, _⟩ => List.not_mem_nil ha
  | a :: xs, h => by
    have hrest := vets_mapM fun b hb => h b (List.mem_cons_of_mem a hb)
    rw [List.mapM_cons]
    refine Vets.congr ((h a List.mem_cons_self).bind fun _ _ => hrest.map _) fun defect => ?_
    exact (List.exists_mem_cons_iff (fun b => B b defect) a xs).symm

end Vetting

/-! ## 2. Parameters -/

variable {root v : Value}

/-- What is wrong with the fields of a parameter that have to be texts. -/
def fieldComplaints (p : Entries) : List Record.Complaint :=
  Record.complaints "location" (Record.text (declaredLocation p)) ++
    Record.complaints "param_type" (Record.text (declaredType (mapped (lookup "schema" p)) p))

/-- One of the parameters that an operation has by itself and from its path item is unfit, for the
reason given. -/
inductive HasUnfitParameter (shared own : Value) : Defect → Prop
  | key {p : Entries} (hp : p ∈ declaredParameters (listed shared ++ listed own))
    (hkey : hasHashableKey p = false) : HasUnfitParameter shared own .unhashableParameter
  | fields {p : Entries} (hp : p ∈ mergedParameters shared own) (hbody : isBodyPart p = false)
    (hfields : fieldComplaints p ≠ []) :
    HasUnfitParameter shared own (.parameterFields (fieldComplaints p))

theorem vets_mergeParameters (shared own : Value) :
    Vets root (fun defect => defect = .unhashableParameter ∧
      ∃ p ∈ declaredParameters (listed shared ++ listed own), hasHashableKey p = false)
      (mergeParameters (listed shared) (listed own)) := by
  unfold mergeParameters
  dsimp only
  split
  · next hkeys =>
    rintro _ ⟨-, p, hp, hkey⟩
    rw [List.all_eq_true.mp hkeys p hp] at hkey
    cases hkey
  · next hkeys => exact ⟨rfl, by simpa using hkeys⟩

theorem mergedParameters_of_eq_ok {shared own : Value} {merged : List Entries}
    (h : mergeParameters (listed shared) (listed own) = .ok merged) :
    mergedParameters shared own = merged := by
  unfold mergeParameters at h
  dsimp only at h
  split at h
  · cases h
    rfl
  · cases h

theorem vets_readParameter (o : OperationName) {p : Entries} (hp : root.HoldsEntries p) :
    Vets root (fun defect => fieldComplaints p ≠ [] ∧ defect = .parameterFields (fieldComplaints p))
      (readParameter o p) := by
  unfold readParameter
  refine (judges_written (hp.lookup "name")).vets.after fun name _ => ?_
  refine (judges_mapping _).vets.after fun schema hschema => ?_
  refine (judges_trimmed (hp.lookup "description")).vets.after fun description _ => ?_
  obtain rfl := mapped_of_eq_some (of_orMalformed hschema)
  unfold fieldComplaints
  cases hlocation : Record.text (declaredLocation p) with
  | error problem => exact ⟨List.cons_ne_nil _ _, rfl⟩
  | ok location =>
    cases htype : Record.text (declaredType (mapped (lookup "schema" p)) p) with
    | error problem => exact ⟨List.cons_ne_nil _ _, rfl⟩
    | ok typeName => exact fun _ hdefect => hdefect.1 rfl

theorem vets_readParameters (o : OperationName) {shared own : Value}
    (hparts : ∀ p ∈ mergedParameters shared own, root.HoldsEntries p) :
    Vets root (fun defect => ∃ p ∈ mergedParameters shared own, isBodyPart p = false ∧
      fieldComplaints p ≠ [] ∧ defect = .parameterFields (fieldComplaints p))
      (readParameters o (mergedParameters shared own)) := by
  refine (vets_mapM fun p hp => vets_readParameter o (hparts p (List.mem_of_mem_filter hp))).congr
    fun defect => exists_congr fun p => ?_
  rw [List.mem_filter, and_assoc, Bool.not_eq_true']

/-! ## 3. Operations -/

/-- **An operation is read only if its parameters are fit.** -/
theorem vets_readOperation (dialect : Dialect) {shared : Value} (method path : Text)
    {operation : Entries} (hshared : root.Holds shared)
    (hoperation : root.HoldsEntries operation) :
    Vets root (HasUnfitParameter shared (lookup "parameters" operation))
      (readOperation dialect shared method path operation) := by
  have hparts : ∀ p ∈ mergedParameters shared (lookup "parameters" operation),
      root.HoldsEntries p :=
    fun p hp => holdsEntries_of_mem_mergedParameters hshared (hoperation.lookup _) hp
  have htags : ∀ w ∈ listed (lookup "tags" operation), Judges root True (written w) :=
    fun w hw => judges_written (Or.inr ((hoperation.lookup "tags").listed w hw))
  -- the two places where a parameter can be refused, in the order in which they come
  have hreasons : ∀ defect,
      ((defect = .unhashableParameter ∧ ∃ p ∈ declaredParameters
        (listed shared ++ listed (lookup "parameters" operation)), hasHashableKey p = false) ∨
      ∃ p ∈ mergedParameters shared (lookup "parameters" operation), isBodyPart p = false ∧
        fieldComplaints p ≠ [] ∧ defect = .parameterFields (fieldComplaints p)) ↔
      HasUnfitParameter shared (lookup "parameters" operation) defect := by
    intro defect
    constructor
    · rintro (⟨rfl, p, hp, hkey⟩ | ⟨p, hp, hbody, hfields, rfl⟩)
      · exact .key hp hkey
      · exact .fields hp hbody hfields
    · rintro (⟨hp, hkey⟩ | ⟨hp, hbody, hfields⟩)
      · exact Or.inl ⟨rfl, _, hp, hkey⟩
      · exact Or.inr ⟨_, hp, hbody, hfields, rfl⟩
  rw [readOperation_eq]
  dsimp only
  refine Vets.congr ?_ hreasons
  refine (judges_list _).vets.after fun tags hlist => ?_
  refine (judges_list _).vets.after fun declared hdeclared => ?_
  refine (judges_list _).vets.after fun own hown => ?_
  obtain rfl := listed_of_eq_some (of_orMalformed hlist)
  obtain rfl := listed_of_eq_some (of_orMalformed hdeclared)
  obtain rfl := listed_of_eq_some (of_orMalformed hown)
  refine (vets_mergeParameters _ _).bind fun merged hmerged => ?_
  obtain rfl := mergedParameters_of_eq_ok hmerged
  refine (judges_readBody dialect _ shared operation).vets.after fun body _ => ?_
  refine (judges_readOperationId (hoperation.lookup _)).vets.after fun operationId _ => ?_
  refine (judges_trimmed (hoperation.lookup _)).vets.after fun summary _ => ?_
  refine (judges_trimmed (hoperation.lookup _)).vets.after fun description _ => ?_
  refine (judges_mapM_true htags).vets.after fun texts _ => ?_
  refine (vets_readParameters _ hparts).before fun parameters _ => ?_
  exact ((judges_readResponses _ (hoperation.lookup _)).map _).vets

/-- An operation of the path item has an unfit parameter. -/
def ItemRefuses (item : Entries) (defect : Defect) : Prop :=
  ∃ e ∈ item, IsMethodKey e.1 ∧ ∃ operation, e.2.entries? = some operation ∧
    HasUnfitParameter (lookup "parameters" item) (lookup "parameters" operation) defect

theorem vets_readMember (dialect : Dialect) {path shared key v : Value}
    (hpath : root.Holds path) (hshared : root.Holds shared) (hkey : root.Holds key)
    (hv : root.Holds v) :
    Vets root (fun defect => IsMethodKey key ∧ ∃ operation, v.entries? = some operation ∧
      HasUnfitParameter shared (lookup "parameters" operation) defect)
      (readMember dialect path shared key v) := by
  unfold readMember
  refine (judges_readKey hkey).vets.after fun t ht => ?_
  have hmethod := isMethodKey_iff ht
  cases hfound : methodOf? t with
  | none =>
    have hno : ¬ IsMethodKey key := by
      rw [hmethod, hfound]
      rintro ⟨_, h⟩
      cases h
    exact Vets.congr (B := fun _ => False) vets_none fun _ =>
      (iff_false_intro fun h => hno h.1).symm
  | some method =>
    have hyes : IsMethodKey key := hmethod.mpr ⟨method, hfound⟩
    refine Vets.congr ?_ fun _ => (and_iff_right hyes).symm
    refine (judges_written hpath).vets.after fun path _ => ?_
    refine vets_exists _ fun operation hoperation => ?_
    exact (vets_readOperation dialect method path hshared (hv.entries hoperation)).map _

theorem vets_readPathItem (dialect : Dialect) {path : Value} {item : Entries}
    (hpath : root.Holds path) (hitem : root.HoldsEntries item) :
    Vets root (ItemRefuses item) (readPathItem dialect path item) := by
  unfold readPathItem
  refine Vets.map (vets_mapM fun e he => ?_) _
  exact vets_readMember dialect hpath (hitem.lookup _) (Or.inr (hitem e he).1)
    (Or.inr (hitem e he).2)

/-! ## 4. Descriptions -/

/-- An operation of the description has an unfit parameter. -/
def Refuses (entries : Entries) (defect : Defect) : Prop :=
  ∃ e ∈ mapped (lookup "paths" entries), ∃ item, e.2.entries? = some item ∧ ItemRefuses item defect

theorem vets_readPaths (dialect : Dialect) {paths : Entries}
    (hpaths : root.HoldsEntries paths) :
    Vets root (fun defect => ∃ e ∈ paths, ∃ item, e.2.entries? = some item ∧
      ItemRefuses item defect) (readPaths dialect paths) := by
  unfold readPaths
  refine Vets.map (vets_mapM fun e he => ?_) _
  obtain ⟨hpath, hitem⟩ := hpaths e he
  dsimp only
  cases hentries : e.2.entries? with
  | none => exact (judges_written (Or.inr hpath)).vets.after fun path _ => trivial
  | some item =>
    refine (vets_readPathItem dialect (Or.inr hpath)
      (Value.Holds.entries (Or.inr hitem) hentries)).congr fun defect => ?_
    simp

theorem vets_ofEntries (dialect : Dialect) {entries : Entries}
    (hentries : root.HoldsEntries entries) :
    Vets root (Refuses entries) (Document.ofEntries dialect entries) := by
  unfold Document.ofEntries
  refine (judges_mapping _).vets.after fun paths hpaths => ?_
  obtain rfl := mapped_of_eq_some (of_orMalformed hpaths)
  refine (vets_readPaths dialect (hentries.lookup "paths").mapped).before
    fun operations _ => ?_
  refine (judges_readInfo (hentries.lookup _)).vets.after fun info _ => ?_
  exact ((judges_readTags (hentries.lookup _)).map _).vets

/-! ## 5. How reading ends -/

/-- The defects of a loaded value that are no malformations, each with what is the reason for it. -/
inductive Value.Escapes (v : Value) : Defect → Prop
  | noText {w : Value} {cause : Value.NoText} (hpart : v.Part w) (htext : w.text = .error cause) :
    Escapes v (.noText cause)
  | parameter {entries : Entries} {defect : Defect} (hentries : v.entries? = some entries)
    (hrefuses : Refuses entries defect) : Escapes v defect

/-- The faults of the text of a file that are no malformations, each with what is the reason for
it. -/
inductive Document.Escapes : Except TextFault String → Document.Fault → Prop
  | path {fault : FileFault} (hname : fault.isNameFault = true) :
    Escapes (.error (.file fault)) (.path fault)
  | load {s : String} {fault : Yaml.Fault} (hload : Yaml.load s = .error fault)
    (hfault : fault ≠ .malformed) : Escapes (.ok s) (.load fault)
  | value {s : String} {v : Value} {defect : Defect} (hload : Yaml.load s = .ok v)
    (hvalue : v.Escapes defect) : Escapes (.ok s) (.defect defect)

theorem vets_ofEntries? {entries : Entries} (hentries : root.HoldsEntries entries) :
    Vets root (fun _ => False) ((Dialect.ofEntries? entries).mapError Defect.noText) := by
  have hversion : ∀ digit name, Vets root (fun _ => False)
      ((versionStartsWith digit (lookup name entries)).mapError Defect.noText) := by
    intro digit name
    unfold versionStartsWith
    split
    · exact vets_none
    · have hwritten := judges_written (hentries.lookup name)
      unfold written at hwritten
      cases htext : (lookup name entries).text with
      | ok t => exact vets_none
      | error cause =>
        rw [htext] at hwritten
        exact hwritten
  have hopenapi := hversion '3' "openapi"
  have hswagger := hversion '2' "swagger"
  unfold Dialect.ofEntries?
  cases hnew : versionStartsWith '3' (lookup "openapi" entries) with
  | error cause =>
    rw [hnew] at hopenapi
    exact hopenapi
  | ok isNew =>
    cases isNew with
    | true => exact vets_none
    | false =>
      cases hold : versionStartsWith '2' (lookup "swagger" entries) with
      | error cause =>
        rw [hold] at hswagger
        exact hswagger
      | ok isOld =>
        cases isOld with
        | true => exact vets_none
        | false => exact vets_none

theorem vets_ofValue {entries : Entries} (hentries : v.entries? = some entries) :
    Vets v (Refuses entries) (Document.ofValue v) := by
  have hparts : v.HoldsEntries entries := Value.Holds.entries (Or.inr .whole) hentries
  unfold Document.ofValue
  rw [hentries]
  refine (judges_orMalformed _ (some entries)).vets.after fun entries' hsome => ?_
  cases hsome
  refine (vets_ofEntries? hparts).after fun found _ => ?_
  refine (judges_orMalformed _ found).vets.after fun dialect _ => ?_
  exact vets_ofEntries dialect hparts

/-- A loaded value is read, or it is malformed, or it has a defect of another kind and there is a
reason for it. -/
theorem ofValue_outcome (v : Value) :
    (∃ d entries, Document.ofValue v = .ok d ∧ v.entries? = some entries ∧
      ∀ defect, ¬ Refuses entries defect) ∨
    (∃ cause, Document.ofValue v = .error (.malformed cause)) ∨
    ∃ defect, Document.ofValue v = .error defect ∧ v.Escapes defect := by
  cases hentries : v.entries? with
  | none =>
    refine Or.inr (Or.inl ⟨.unknownDialect, ?_⟩)
    unfold Document.ofValue
    rw [hentries]
    rfl
  | some entries =>
    have hvets := vets_ofValue hentries
    match hread : Document.ofValue v with
    | .ok d =>
      rw [hread] at hvets
      exact Or.inl ⟨d, entries, rfl, rfl, hvets⟩
    | .error (.malformed cause) => exact Or.inr (Or.inl ⟨cause, rfl⟩)
    | .error (.noText cause) =>
      rw [hread] at hvets
      obtain ⟨w, hpart, htext⟩ := hvets
      exact Or.inr (Or.inr ⟨_, rfl, .noText hpart htext⟩)
    | .error .unhashableParameter =>
      rw [hread] at hvets
      exact Or.inr (Or.inr ⟨_, rfl, .parameter hentries hvets⟩)
    | .error (.parameterFields _) =>
      rw [hread] at hvets
      exact Or.inr (Or.inr ⟨_, rfl, .parameter hentries hvets⟩)

/-- The message of a malformation starts with the source, if that has a name. -/
theorem messageIn_eq (cause : Malformation) {source : Text} (h : source ≠ []) :
    cause.messageIn (some source) = source ++ ": " ++ cause.message := by
  unfold Malformation.messageIn
  dsimp only
  rw [if_neg (by simpa using h)]

/-- A defect that is no malformation has no message for the user. -/
theorem Value.Escapes.message? {defect : Defect} (h : v.Escapes defect) (file : Location) :
    (Command.Failure.document file (.defect defect)).message? = none := by
  rcases h with _ | ⟨-, e, -, item, -, m, -, -, operation, -, hunfit⟩
  · rfl
  · cases hunfit with
    | key => rfl
    | fields => rfl

theorem Document.Escapes.message? {text : Except TextFault String} {fault : Document.Fault}
    (h : Document.Escapes text fault) (file : Location) :
    (Command.Failure.document file fault).message? = none := by
  cases h with
  | path => rfl
  | load => rfl
  | value _ hvalue => exact hvalue.message? file

/-- The text of a file denotes a value, or it is malformed, or it escapes. -/
theorem load_outcome (text : Except TextFault String) :
    (∃ s v, text = .ok s ∧ Yaml.load s = .ok v ∧ Document.load text = .ok v) ∨
    (∃ cause, Document.load text = .error (.malformed cause)) ∨
    ∃ fault, Document.load text = .error fault ∧ Document.Escapes text fault := by
  match text with
  | .error .notUtf8 => exact Or.inr (Or.inl ⟨.unreadable, rfl⟩)
  | .error (.file fault) =>
    dsimp only [Document.load]
    cases hname : fault.isNameFault with
    | true => exact Or.inr (Or.inr ⟨_, rfl, .path hname⟩)
    | false => exact Or.inr (Or.inl ⟨.unreadable, rfl⟩)
  | .ok s =>
    dsimp only [Document.load]
    cases hload : Yaml.load s with
    | ok v => exact Or.inl ⟨s, v, rfl, hload, rfl⟩
    | error fault =>
      cases fault with
      | malformed => exact Or.inr (Or.inl ⟨.notYaml, rfl⟩)
      | _ => exact Or.inr (Or.inr ⟨_, rfl, .load hload (by rintro ⟨⟩)⟩)

theorem ofText_of_load {text : Except TextFault String} (h : Document.load text = .ok v) :
    Document.ofText text = (Document.ofValue v).mapError .defect := by
  unfold Document.ofText
  rw [h]
  rfl

theorem ofText_of_load_error {text : Except TextFault String} {fault : Document.Fault}
    (h : Document.load text = .error fault) : Document.ofText text = .error fault := by
  unfold Document.ofText
  rw [h]
  rfl

/-- The text of a file is read, or it is malformed, or it has a fault of another kind and there is a
reason for it. -/
theorem ofText_outcome (text : Except TextFault String) :
    (∃ s v entries d, text = .ok s ∧ Yaml.load s = .ok v ∧ v.entries? = some entries ∧
      Document.ofText text = .ok d ∧ ∀ defect, ¬ Refuses entries defect) ∨
    (∃ cause, Document.ofText text = .error (.malformed cause)) ∨
    ∃ fault, Document.ofText text = .error fault ∧ Document.Escapes text fault := by
  rcases load_outcome text with ⟨s, v, rfl, hload, hv⟩ | ⟨cause, hcause⟩ | ⟨fault, hfault, hescapes⟩
  · rw [ofText_of_load hv]
    rcases ofValue_outcome v with ⟨d, entries, hread, hentries, hfit⟩ | ⟨cause, hread⟩ |
      ⟨defect, hread, hescapes⟩
    · exact Or.inl ⟨s, v, entries, d, rfl, hload, hentries, by rw [hread]; rfl, hfit⟩
    · exact Or.inr (Or.inl ⟨cause, by rw [hread]; rfl⟩)
    · exact Or.inr (Or.inr ⟨_, by rw [hread]; rfl, .value hload hescapes⟩)
  · exact Or.inr (Or.inl ⟨cause, ofText_of_load_error hcause⟩)
  · exact Or.inr (Or.inr ⟨fault, ofText_of_load_error hfault, hescapes⟩)

/-- **How reading a description ends.**  Every loaded value, and every text of a file, is read or
malformed, and then the message starts with the name of the source, or it escapes for one of the
listed reasons, and then there is no message for the user.  Nothing is read that has an unfit
parameter. -/
theorem description_outcomes (v : Value) (text : Except TextFault String)
    (file : Location) :
    ((∃ d entries, Document.ofValue v = .ok d ∧ v.entries? = some entries ∧
        ∀ defect, ¬ Refuses entries defect) ∨
      (∃ cause, Document.ofValue v = .error (.malformed cause) ∧ ∀ source : Text,
        source ≠ [] → cause.messageIn (some source) = source ++ ": " ++ cause.message) ∨
      ∃ defect, Document.ofValue v = .error defect ∧ v.Escapes defect) ∧
    ((∃ s w entries d, text = .ok s ∧ Yaml.load s = .ok w ∧ w.entries? = some entries ∧
        Document.ofText text = .ok d ∧ ∀ defect, ¬ Refuses entries defect) ∨
      (∃ cause, Document.ofText text = .error (.malformed cause) ∧
        (Command.Failure.document file (.malformed cause)).message?
          = some (cause.messageIn (some file.text))) ∨
      ∃ fault, Document.ofText text = .error fault ∧ Document.Escapes text fault ∧
        (Command.Failure.document file fault).message? = none) := by
  constructor
  · rcases ofValue_outcome v with hread | ⟨cause, hread⟩ | hescapes
    · exact Or.inl hread
    · exact Or.inr (Or.inl ⟨cause, hread, fun source => messageIn_eq cause⟩)
    · exact Or.inr (Or.inr hescapes)
  · rcases ofText_outcome text with hread | ⟨cause, hread⟩ | ⟨fault, hread, hescapes⟩
    · exact Or.inl hread
    · exact Or.inr (Or.inl ⟨cause, hread, rfl⟩)
    · exact Or.inr (Or.inr ⟨fault, hread, hescapes, hescapes.message? file⟩)

/-- A description with a parameter that may be null, in the way of the newer dialect. -/
def nullableParameter : String :=
  "openapi: 3.1.0\npaths:\n  /a:\n    get:\n      parameters:\n" ++
    "      - name: q\n        schema:\n          type: [string, 'null']\n"

/-- A description with a date that the calendar does not have. -/
def impossibleDate : String := "openapi: 3.0.0\ninfo:\n  version: 2024-13-45\n"

/-- **Not every text is read or malformed**: a list of types is refused in another way, and so is an
impossible date. -/
theorem not_description_outcomes_nullable :
    ¬ (∀ text : Except TextFault String, (∃ d, Document.ofText text = .ok d) ∨
      ∃ cause, Document.ofText text = .error (.malformed cause)) ∧
    (Document.ofText (.ok nullableParameter)).map (fun _ => ())
      = .error (.defect (.parameterFields [⟨"param_type", .notText⟩])) ∧
    (Document.ofText (.ok impossibleDate)).map (fun _ => ()) = .error (.load .impossibleTime) := by
  have hlist : (Document.ofText (.ok nullableParameter)).map (fun _ => ())
      = .error (.defect (.parameterFields [⟨"param_type", .notText⟩])) := by
    decide +kernel
  refine ⟨fun h => ?_, hlist, by decide +kernel⟩
  rcases h (.ok nullableParameter) with ⟨d, hd⟩ | ⟨cause, hcause⟩
  · rw [hd] at hlist
    cases hlist
  · rw [hcause] at hlist
    cases hlist

end ApiDocs
