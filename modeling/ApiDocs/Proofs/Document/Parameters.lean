import ApiDocs.Proofs.Document.Acceptance
import ApiDocs.Proofs.Keyed.Repeated
import ApiDocs.Proofs.Value.Keys

/-!
# The parameters of an operation

An operation has the parameters of its path item and its own.  A parameter that is declared again,
with the same name in the same location, stays where it was declared first and is what it was
declared to be last; since the declarations of the path item come first, an operation replaces
parameters of its path item, and leaves the others as they are (`parameters_merged`).

Names and locations are compared as keys are, by quantity, so they have to be exact
(`hasExactKey`).
-/

namespace ApiDocs

open Value (Entries lookup lookup?)

variable {shared own : List Value} {merged : List Entries} {p : Entries}

/-! ## 1. Keys of parameters -/

/-- Whether the numbers in name and location of the parameter are in the normal form. -/
def hasExactKey (p : Entries) : Bool := (parameterKey p).1.isExact && (parameterKey p).2.isExact

/-- The declarations of parameters that have not been declared before. -/
def firstDeclarations (ps : List Entries) : List Entries :=
  Keyed.firsts sameParameter parameterKey ps

/-- The last declaration of the parameter that a declaration is about. -/
def lastDeclaration? (p : Entries) (ps : List Entries) : Option Entries :=
  Keyed.last? sameParameter parameterKey (parameterKey p) ps

theorem isComparison_parameterKey {ps : List Entries}
    (hhashable : ∀ p ∈ ps, hasHashableKey p = true)
    (hexact : ∀ p ∈ ps, hasExactKey p = true) :
    Keyed.IsComparison sameParameter parameterKey (fun k => (k.1.quantity, k.2.quantity)) ps := by
  intro p hp q hq
  obtain ⟨hpname, hplocation⟩ := (Bool.and_eq_true _ _).mp (hhashable p hp)
  obtain ⟨hqname, hqlocation⟩ := (Bool.and_eq_true _ _).mp (hhashable q hq)
  obtain ⟨hpname', hplocation'⟩ := (Bool.and_eq_true _ _).mp (hexact p hp)
  obtain ⟨hqname', hqlocation'⟩ := (Bool.and_eq_true _ _).mp (hexact q hq)
  unfold sameParameter
  rw [Bool.and_eq_true, Value.sameKey_iff hpname hqname hpname' hqname',
    Value.sameKey_iff hplocation hqlocation hplocation' hqlocation', Prod.mk.injEq]

/-! ## 2. Merging -/

/-- What it takes for parameters to be merged, and what they are merged to. -/
theorem mergeParameters_eq_ok : mergeParameters shared own = .ok merged ↔
    (∀ p ∈ declaredParameters (shared ++ own), hasHashableKey p = true) ∧
      merged = Keyed.merge sameParameter parameterKey (declaredParameters (shared ++ own)) := by
  unfold mergeParameters Keyed.merge
  dsimp only
  rw [← List.all_eq_true]
  by_cases h : (declaredParameters (shared ++ own)).all hasHashableKey = true
  · rw [if_pos h, and_iff_right h, Except.ok.injEq, eq_comm]
  · rw [if_neg h]
    exact ⟨fun herror => (by cases herror), fun hall => absurd hall.1 h⟩

theorem declaredParameters_append : declaredParameters (shared ++ own)
    = declaredParameters shared ++ declaredParameters own := by
  unfold declaredParameters
  rw [List.filterMap_append, List.filter_append]

/-- **What an operation declares replaces what its path item declares**, in its place; what is
declared by the operation alone comes behind. -/
theorem exists_inPlace_added {s o : List Entries}
    (h : Keyed.IsComparison sameParameter parameterKey
      (fun k => (k.1.quantity, k.2.quantity)) (s ++ o)) :
    ∃ inPlace added, Keyed.merge sameParameter parameterKey (s ++ o) = inPlace ++ added ∧
      List.Forall₂ (fun p q => (lastDeclaration? p o).or (lastDeclaration? p s) = some q)
        (firstDeclarations s) inPlace ∧
      List.Forall₂ (fun p q => lastDeclaration? p o = some q)
        (firstDeclarations (o.filter fun q =>
          !s.any fun p => sameParameter (parameterKey p) (parameterKey q))) added := by
  have hmerge := Keyed.forall₂_merge h
  rw [Keyed.firsts_append h] at hmerge
  refine ⟨_, _, (List.take_append_drop (firstDeclarations s).length _).symm, ?_, ?_⟩
  · refine (List.forall₂_take_append _ _ _ hmerge.flip).flip.imp fun {p q} hpq => ?_
    unfold lastDeclaration?
    rw [← Keyed.last?_append]
    exact hpq.2
  · -- none of them is declared by the path item, so the last declaration is the operation's
    have hnew : ∀ p ∈ firstDeclarations (o.filter fun q =>
        !s.any fun p => sameParameter (parameterKey p) (parameterKey q)),
        lastDeclaration? p s = none := by
      intro p hp
      obtain ⟨hpo, hpnew⟩ := List.mem_filter.mp (Keyed.firsts_subset _ hp)
      refine Keyed.last?_eq_none fun q hq => Bool.eq_false_iff.mpr fun hsame => ?_
      have hp' : p ∈ s ++ o := List.mem_append_right s hpo
      have hq' : q ∈ s ++ o := List.mem_append_left o hq
      have hqp : sameParameter (parameterKey q) (parameterKey p) = true :=
        (h q hq' p hp').mpr ((h p hp' q hq').mp hsame).symm
      rw [List.any_eq_true.mpr ⟨q, hq, hqp⟩] at hpnew
      cases hpnew
    have hadded := (List.forall₂_drop_append _ _ _ hmerge.flip).flip
    refine ((List.forall₂_and_left _ _).mpr ⟨hnew, hadded⟩).imp fun {p q} hpq => ?_
    obtain ⟨hnone, -, hlast⟩ := hpq
    unfold lastDeclaration? at hnone ⊢
    rwa [Keyed.last?_append, hnone, Option.or_none] at hlast

/-! ## 3. What an operation makes of them -/

/-- What a parameter takes from its declaration: it is required as declared, and otherwise if its
location is the path.  A location in bytes is read as the text that they spell, but not compared as
one, so it is no path. -/
structure IsDeclaredAs (p : Entries) (q : Parameter) : Prop where
  name : (lookup "name" p).text = .ok q.name
  location : Record.text (declaredLocation p) = .ok q.location
  required : ∀ v, lookup? "required" p = some v → q.required = v.isTruthy
  requiredInPath : lookup? "required" p = none →
    (q.required = true ↔ declaredLocation p = .str "path")

theorem isDeclaredAs_of_readParameter {o : OperationName} {q : Parameter}
    (h : readParameter o p = .ok q) : IsDeclaredAs p q := by
  unfold readParameter at h
  obtain ⟨name, hname, h⟩ := bind_eq_ok.mp h
  obtain ⟨schema, -, h⟩ := bind_eq_ok.mp h
  obtain ⟨description, -, h⟩ := bind_eq_ok.mp h
  split at h
  · next location typeName hlocation _ =>
    cases h
    refine ⟨mapError_eq_ok.mp hname, hlocation, fun v hv => ?_, fun hnone => ?_⟩
    · unfold declaredRequired
      rw [hv]
    · unfold declaredRequired
      rw [hnone]
      exact Value.sameKey_str_iff
  · cases h

/-- Only a declared location can be the body. -/
theorem sameKey_declaredLocation_body :
    (lookup "in" p).sameKey (.str "body") = (declaredLocation p).sameKey (.str "body") := by
  unfold lookup declaredLocation
  cases lookup? "in" p with
  | none => decide
  | some v => rfl

theorem eq_entries?_of_readSchema {o : OperationName} {v : Value} {body : Option Entries}
    (h : readSchema o v = .ok body) : body = v.entries? := by
  unfold readSchema at h
  split at h
  · next hnull =>
    cases h
    cases v <;> first | rfl | cases hnull
  · obtain ⟨es, hes, rfl⟩ := map_eq_ok.mp h
    exact (of_orMalformed hes).symm

theorem eq_of_readBodyParameter {o : OperationName} {body : Option Entries}
    (h : readBodyParameter o merged = .ok body) :
    body = (merged.find? fun p => (declaredLocation p).sameKey (.str "body")).bind
      fun p => (lookup "schema" p).entries? := by
  unfold readBodyParameter at h
  simp only [sameKey_declaredLocation_body] at h
  cases hfind : merged.find? fun p => (declaredLocation p).sameKey (.str "body") with
  | none =>
    rw [hfind] at h
    cases h
    rfl
  | some p =>
    rw [hfind] at h
    exact eq_entries?_of_readSchema h

/-- An operation that is read has read its merged parameters. -/
theorem parameters_of_readOperation {dialect : Dialect} {sharedValue : Value} {method path : Text}
    {operation : Entries} {o : Operation}
    (h : readOperation dialect sharedValue method path operation = .ok o)
    (hshared : listOrEmpty? sharedValue = some shared)
    (hown : listOrEmpty? (lookup "parameters" operation) = some own)
    (hmerge : mergeParameters shared own = .ok merged) :
    readParameters ⟨method, path⟩ merged = .ok o.parameters ∧
      readBody dialect ⟨method, path⟩ operation merged = .ok o.requestBody := by
  rw [readOperation_eq] at h
  dsimp only at h
  obtain ⟨tags, -, h⟩ := bind_eq_ok.mp h
  obtain ⟨declared, hdeclared, h⟩ := bind_eq_ok.mp h
  obtain ⟨own', hown', h⟩ := bind_eq_ok.mp h
  rw [hshared] at hdeclared
  rw [hown] at hown'
  cases hdeclared
  cases hown'
  rw [hmerge] at h
  obtain ⟨merged', hmerged', h⟩ := bind_eq_ok.mp h
  cases hmerged'
  obtain ⟨body, hbody, h⟩ := bind_eq_ok.mp h
  iterate 4 obtain ⟨_, -, h⟩ := bind_eq_ok.mp h
  obtain ⟨parameters, hparameters, h⟩ := bind_eq_ok.mp h
  obtain ⟨responses, -, h⟩ := bind_eq_ok.mp h
  cases h
  exact ⟨hparameters, hbody⟩

/-- **The parameters of an operation, from path item and operation.**  The merged list has one
parameter for each name and location that is declared, in the order of the first declarations, each
as it is declared last: the parameters of the path item in their places, replaced by what the
operation declares in their stead, and behind them those of the operation alone.  The operation has
these parameters, without those of the body, in their order; in the older dialect its request body
is the schema of the first of them that is located in the body. -/
theorem parameters_merged (hmerge : mergeParameters shared own = .ok merged)
    (hexact : ∀ p ∈ declaredParameters (shared ++ own), hasExactKey p = true) :
    merged.Pairwise (fun p q => sameParameter (parameterKey p) (parameterKey q) = false) ∧
    (∀ p ∈ declaredParameters (shared ++ own), ∃ q ∈ merged,
      sameParameter (parameterKey p) (parameterKey q) = true) ∧
    List.Forall₂ (fun p q => lastDeclaration? p (declaredParameters (shared ++ own)) = some q)
      (firstDeclarations (declaredParameters (shared ++ own))) merged ∧
    (∃ inPlace added, merged = inPlace ++ added ∧
      List.Forall₂ (fun p q => (lastDeclaration? p (declaredParameters own)).or
          (lastDeclaration? p (declaredParameters shared)) = some q)
        (firstDeclarations (declaredParameters shared)) inPlace ∧
      List.Forall₂ (fun p q => lastDeclaration? p (declaredParameters own) = some q)
        (firstDeclarations ((declaredParameters own).filter fun q =>
          !(declaredParameters shared).any fun p =>
            sameParameter (parameterKey p) (parameterKey q))) added) ∧
    ∀ (dialect : Dialect) (sharedValue : Value) (method path : Text)
      (operation : Entries) (o : Operation),
      readOperation dialect sharedValue method path operation = .ok o →
      listOrEmpty? sharedValue = some shared →
      listOrEmpty? (lookup "parameters" operation) = some own →
        List.Forall₂ IsDeclaredAs (merged.filter fun p => !isBodyPart p) o.parameters ∧
        (dialect = .swagger2 → o.requestBody =
          (merged.find? fun p => (declaredLocation p).sameKey (.str "body")).bind
            fun p => (lookup "schema" p).entries?) := by
  obtain ⟨hhashable, hmerged⟩ := mergeParameters_eq_ok.mp hmerge
  have hcomparison := isComparison_parameterKey hhashable hexact
  have hlevels := hcomparison
  rw [declaredParameters_append] at hlevels
  refine ⟨?_, ?_, ?_, ?_, ?_⟩
  · rw [hmerged]
    exact Keyed.pairwise_merge hcomparison
  · rw [hmerged]
    exact Keyed.exists_mem_merge hcomparison
  · rw [hmerged]
    exact (Keyed.forall₂_merge hcomparison).imp fun {_ _} hpq => hpq.2
  · rw [hmerged, declaredParameters_append]
    exact exists_inPlace_added hlevels
  · intro dialect sharedValue method path operation o hread hshared hown
    obtain ⟨hparameters, hbody⟩ := parameters_of_readOperation hread hshared hown hmerge
    refine ⟨(mapM_eq_ok.mp hparameters).imp fun {_ _} => isDeclaredAs_of_readParameter, ?_⟩
    rintro rfl
    exact eq_of_readBodyParameter hbody

/-- Parameters of a path item, one of which is a mere reference. -/
def sharedIds : List Value := [
  .map [(.str "$ref", .str "#/parameters/page")],
  .map [(.str "name", .int 1), (.str "in", .str "path")],
  .map [(.str "name", .str "q"), (.str "required", .bool true)]]

/-- Parameters of an operation, which declares the first two anew, one of them twice. -/
def ownIds : List Value := [
  .str "none",
  .map [(.str "name", .bool true), (.str "in", .str "path"), (.str "required", .bool false)],
  .map [(.str "name", .str "b"), (.str "in", .str "body"), (.str "schema", .map [])],
  .map [(.str "name", .str "q"), (.str "in", .str "query")],
  .map [(.str "name", .float (.ofInt 1) 0), (.str "in", .str "path")]]

def mergedIds : List Entries := [
  [(.str "name", .float (.ofInt 1) 0), (.str "in", .str "path")],
  [(.str "name", .str "q"), (.str "in", .str "query")],
  [(.str "name", .str "b"), (.str "in", .str "body"), (.str "schema", .map [])]]

/-- One, true and `1.0` are one name. -/
theorem parameters_merged_ids : mergeParameters sharedIds ownIds = .ok mergedIds ∧
    List.Forall₂ (fun p q => lastDeclaration? p (declaredParameters (sharedIds ++ ownIds)) = some q)
      (firstDeclarations (declaredParameters (sharedIds ++ ownIds))) mergedIds ∧
    ∃ o, readOperation .swagger2 (.list sharedIds) "get" "/a" [(.str "parameters", .list ownIds)]
        = .ok o ∧ o.parameters.map Parameter.required = [true, false] ∧
      List.Forall₂ IsDeclaredAs (mergedIds.filter fun p => !isBodyPart p) o.parameters ∧
      o.requestBody = some [] := by
  have hmerge : mergeParameters sharedIds ownIds = .ok mergedIds := rfl
  have hexact : (declaredParameters (sharedIds ++ ownIds)).all hasExactKey = true := by
    decide +kernel
  have hread : (readOperation .swagger2 (.list sharedIds) "get" "/a"
      [(.str "parameters", .list ownIds)]).map (fun o => o.parameters.map Parameter.required)
        = .ok [true, false] := by
    decide +kernel
  obtain ⟨-, -, hlast, -, hoperation⟩ :=
    parameters_merged hmerge (List.all_eq_true.mp hexact)
  refine ⟨hmerge, hlast, ?_⟩
  cases ho : readOperation .swagger2 (.list sharedIds) "get" "/a"
      [(.str "parameters", .list ownIds)] with
  | error cause =>
    rw [ho] at hread
    cases hread
  | ok o =>
    rw [ho] at hread
    obtain ⟨hparameters, hbody⟩ := hoperation _ _ _ _ _ o ho rfl rfl
    exact ⟨o, rfl, Except.ok.inj hread, hparameters, hbody rfl⟩

end ApiDocs
