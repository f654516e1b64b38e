import ApiDocs.Page.Section
import ApiDocs.Proofs.Json.Lines
import ApiDocs.Proofs.Value.Json

/-!
# The schema of a request body

The schema stands in a block of code, as JSON over several lines.  **It cannot end the block:** no
line of it starts with backticks, since before every backtick there is a quote on the same line.  And
**it is shown as it is:** what is read from the text is the schema, with its keys in their order, if
it is made of what JSON has.
-/

namespace ApiDocs.Page

open Text

/-- A line that opens or closes a block of code: three backticks after spaces. -/
def isFence (line : Text) : Bool := fence.isPrefixOf (line.dropWhile (· == .char ' '))

theorem isFence_eq_false_of_mem_lines {t line : Text} (h : Json.IsQuoted t) (hline : line ∈ lines t) :
    isFence line = false := by
  have hhead := h.head_ne hline
  unfold isFence
  cases hrest : line.dropWhile (· == .char ' ') with
  | nil => rfl
  | cons x rest =>
    rw [hrest] at hhead
    have hx : CodePoint.char '`' ≠ x := fun heq => hhead (congrArg some heq.symm)
    refine Bool.eq_false_iff.mpr fun hprefix => hx ?_
    exact beq_iff_eq.mp (Bool.and_eq_true_iff.mp hprefix).1

/-- A text whose lines open and close no block makes no difference to where blocks open and close. -/
theorem filter_isFence_lines {text : Text} (h : ∀ line ∈ lines text, isFence line = false)
    (before after : List Text) :
    (lines (joinWith [.char '\n'] (before ++ text :: after))).filter isFence =
      (before.flatMap lines).filter isFence ++ (after.flatMap lines).filter isFence := by
  have hnone : (lines text).filter isFence = [] :=
    List.filter_eq_nil_iff.mpr fun line hline => ne_true_of_eq_false (h line hline)
  rw [lines_joinWith (List.append_ne_nil_of_right_ne_nil _ (List.cons_ne_nil _ _)),
    List.flatMap_append, List.flatMap_cons, List.filter_append, List.filter_append, hnone,
    List.nil_append]

/-- **The schema of a request body stays in its block and is shown as it is.**  Of all lines of the
section only the two around the schema open or close a block. -/
theorem requestBodySection_shows {o : Operation} {schema : Value.Entries} {shown : List Text}
    (hbody : o.requestBody = some schema) (h : requestBodySection o = .ok shown) :
    ∃ text, shown = heading 2 "Request Body" ++ [fence ++ "json", text, fence, []] ∧
      (∀ line ∈ lines text, isFence line = false) ∧
      (lines (joinWith [.char '\n'] shown)).filter isFence = [fence ++ "json", fence] ∧
      (Value.IsJson (.map schema) →
        (Json.readText text).map Value.ofJson = .ok (.map schema)) := by
  unfold requestBodySection at h
  rw [hbody] at h
  obtain ⟨json, hjson, h⟩ := bind_eq_ok.mp h
  cases h
  have hlines : ∀ line ∈ lines json.pretty, isFence line = false :=
    fun line => isFence_eq_false_of_mem_lines (Json.isQuoted_write 0 json)
  refine ⟨json.pretty, rfl, hlines, ?_, fun hschema => Value.readText_toJson hschema hjson⟩
  have hopen : ((heading 2 "Request Body" ++ [fence ++ "json"]).flatMap lines).filter isFence
      = [fence ++ "json"] := by decide
  have hclose : ([fence, []].flatMap lines).filter isFence = [fence] := by decide
  have hblock := filter_isFence_lines hlines (heading 2 "Request Body" ++ [fence ++ "json"])
    [fence, []]
  rw [hopen, hclose, List.append_assoc] at hblock
  exact hblock

/-- An example with backticks, line feeds and a brace in a key and in a text. -/
def fencedExample : Value.Entries :=
  [(.str "```", .list [.str "\n```\n\x7d", .int (-3), .bool true, .null])]

/-- An operation with that example in its schema. -/
def fencedOperation : Operation where
  method := "post"
  path := "/notes"
  requestBody := some [(.str "type", .str "object"), (.str "example", .map fencedExample)]

theorem isJson_fencedExample : Value.IsJson (.map fencedExample) := by
  have hitems : ∀ v ∈ [Value.str "\n```\n\x7d", .int (-3), .bool true, .null], Value.IsJson v := by
    simp only [List.forall_mem_cons]
    exact ⟨.str _, .int _, .bool _, .null, nofun⟩
  exact .map (List.forall_mem_singleton.mpr ⟨_, rfl⟩) (List.nodup_singleton _)
    (List.forall_mem_singleton.mpr (.list hitems))

theorem requestBodySection_shows_fences : ∃ schema text shown,
    fencedOperation.requestBody = some schema ∧ requestBodySection fencedOperation = .ok shown ∧
      shown = heading 2 "Request Body" ++ [fence ++ "json", text, fence, []] ∧
      (lines (joinWith [.char '\n'] shown)).filter isFence = [fence ++ "json", fence] ∧
      (Json.readText text).map Value.ofJson = .ok (.map schema) := by
  have hrenders : requestBodySection fencedOperation
      = .ok ((requestBodySection fencedOperation).toOption.getD []) :=
    eq_ok_getD (by decide +kernel)
  have hnames : ([ofString "type", ofString "example"].map Value.str).Nodup :=
    List.Nodup.map (fun _ _ => Value.str.inj) (by decide)
  obtain ⟨text, hshown, -, hfences, hread⟩ := requestBodySection_shows rfl hrenders
  refine ⟨_, text, _, rfl, hrenders, hshown, hfences, hread (.map ?_ hnames ?_)⟩
  · simp only [List.forall_mem_cons]
    exact ⟨⟨_, rfl⟩, ⟨_, rfl⟩, nofun⟩
  · simp only [List.forall_mem_cons]
    exact ⟨.str _, isJson_fencedExample, nofun⟩

end ApiDocs.Page
