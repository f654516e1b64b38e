import ApiDocs.Document.File
import ApiDocs.Proofs.Outcome

/-!
# The operations of a description that was read

Every operation comes from a key of a path item that names one of the five methods, so an operation
of a description that was read has one of them (`method_mem_of_ofValue`).
-/

namespace ApiDocs

/-! ## 1. Path items -/

theorem method_path_of_readOperation {dialect : Dialect} {shared : Value} {method path : Text}
    {operation : Value.Entries} {o : Operation}
    (h : readOperation dialect shared method path operation = .ok o) :
    o.method = method ∧ o.path = path := by
  unfold readOperation at h
  iterate 4 obtain ⟨_, -, h⟩ := bind_eq_ok.mp h
  -- The dialects find the request body in different places and go on alike.
  cases dialect
  all_goals
    iterate 7 obtain ⟨_, -, h⟩ := bind_eq_ok.mp h
    cases h
    exact ⟨rfl, rfl⟩

theorem method_of_readMember {dialect : Dialect} {path shared key v : Value}
    {o : Operation} (h : readMember dialect path shared key v = .ok (some o)) :
    o.method ∈ methods := by
  unfold readMember at h
  obtain ⟨key, -, h⟩ := bind_eq_ok.mp h
  cases hmethod : methodOf? key with
  | none =>
    rw [hmethod] at h
    cases h
  | some method =>
    rw [hmethod] at h
    obtain ⟨_, -, h⟩ := bind_eq_ok.mp h
    obtain ⟨_, -, h⟩ := bind_eq_ok.mp h
    obtain ⟨o', ho, h⟩ := bind_eq_ok.mp h
    cases h
    rw [(method_path_of_readOperation ho).1]
    exact List.mem_of_find?_eq_some hmethod

theorem method_of_readPathItem {dialect : Dialect} {path : Value}
    {item : Value.Entries} {os : List Operation}
    (h : readPathItem dialect path item = .ok os) : ∀ o ∈ os, o.method ∈ methods := by
  unfold readPathItem at h
  obtain ⟨members, hmembers, h⟩ := bind_eq_ok.mp h
  cases h
  intro o ho
  obtain ⟨member, hmember, hsome⟩ := List.mem_filterMap.mp ho
  obtain rfl : member = some o := hsome
  obtain ⟨_, -, hread⟩ := exists_of_mem_right (mapM_eq_ok.mp hmembers) hmember
  exact method_of_readMember hread

/-! ## 2. Descriptions -/

theorem method_of_readPaths {dialect : Dialect} {paths : Value.Entries}
    {os : List Operation} (h : readPaths dialect paths = .ok os) :
    ∀ o ∈ os, o.method ∈ methods := by
  unfold readPaths at h
  obtain ⟨items, hitems, h⟩ := bind_eq_ok.mp h
  cases h
  intro o ho
  obtain ⟨item, hitem, ho⟩ := List.mem_flatten.mp ho
  obtain ⟨⟨path, v⟩, -, hread⟩ := exists_of_mem_right (mapM_eq_ok.mp hitems) hitem
  dsimp only at hread
  split at hread
  · exact method_of_readPathItem hread o ho
  · obtain ⟨_, -, hread⟩ := bind_eq_ok.mp hread
    cases hread

/-- **An operation of a description that was read has one of the five methods.** -/
theorem method_mem_of_ofValue {v : Value} {d : Document}
    (h : Document.ofValue v = .ok d) : ∀ o ∈ d.operations, o.method ∈ methods := by
  unfold Document.ofValue at h
  obtain ⟨entries, -, h⟩ := bind_eq_ok.mp h
  obtain ⟨found, -, h⟩ := bind_eq_ok.mp h
  obtain ⟨dialect, -, h⟩ := bind_eq_ok.mp h
  unfold Document.ofEntries at h
  obtain ⟨paths, -, h⟩ := bind_eq_ok.mp h
  obtain ⟨operations, hoperations, h⟩ := bind_eq_ok.mp h
  obtain ⟨_, -, h⟩ := bind_eq_ok.mp h
  obtain ⟨_, -, h⟩ := bind_eq_ok.mp h
  cases h
  exact method_of_readPaths hoperations

theorem method_mem_of_ofText {text : Except TextFault String} {d : Document}
    (h : Document.ofText text = .ok d) : ∀ o ∈ d.operations, o.method ∈ methods := by
  obtain ⟨v, -, h⟩ := bind_eq_ok.mp h
  exact method_mem_of_ofValue (mapError_eq_ok.mp h)

end ApiDocs
