import ApiDocs.Page.Section
import ApiDocs.Proofs.Page.Markup

/-!
# The shape of tables

A reader of the page cuts a line of a table at the pipes that are not escaped (`splitCells`), so a
line is a row of the table if it has as many cells as there are columns, and no line end.

The rows are put together from texts between spaces and pipes.  A pipe of the row itself comes after
a space and is never escaped, so the row is cut there and, besides, wherever one of its texts is cut
(`splitCells_row`).  **A row has its shape exactly if all its texts fit into a cell**
(`isRow_row`).  Descriptions are made to fit, as long as no pipe in them was escaped before
(`fits_cell`).  The names, locations and types of parameters and the statuses of responses stand in
the row as they are, so there it depends on the document (`sections_show`).
-/

namespace ApiDocs.Page

open Text

/-! ## 1. Cells -/

/-- A pipe with an even number of backslashes before it, which is not escaped. -/
def isDelimiter (m : CodePoint × Nat) : Bool := m.1.isIn isPipe && m.2 % 2 == 0

/-- A line cut at its pipes that are not escaped. -/
def splitCells (line : Text) : List Text :=
  ((withRuns 0 line).splitOnP isDelimiter).map (List.map Prod.fst)

/-- A text in a cell stands between two spaces. -/
def padded (t : Text) : Text := .char ' ' :: (t ++ [.char ' '])

theorem map_fst_withRuns : ∀ (t : Text) (n : Nat), (withRuns n t).map Prod.fst = t
  | [], _ => rfl
  | x :: t, n => congrArg (x :: ·) (map_fst_withRuns t (extend n x))

theorem length_splitCells (t : Text) :
    (splitCells t).length = (runs isPipe t).countP (fun k => k % 2 == 0) + 1 := by
  unfold splitCells runs
  rw [List.length_map, length_splitOnP, List.countP_map, List.countP_filter]
  refine congrArg (· + 1) (congrFun (congrArg List.countP (funext fun m => ?_)) _)
  exact Bool.and_comm _ _

/-- A text whose pipes are all escaped is not cut. -/
theorem splitCells_of_allEscaped {t : Text} (h : AllEscaped isPipe t) : splitCells t = [t] := by
  have hnone : ∀ m ∈ withRuns 0 t, isDelimiter m = false := by
    rintro ⟨x, k⟩ hm
    cases hx : x.isIn isPipe with
    | false => simp [isDelimiter, hx]
    | true =>
      have hk : k ∈ runs isPipe t :=
        List.mem_map.mpr ⟨(x, k), List.mem_filter.mpr ⟨hm, hx⟩, rfl⟩
      have hodd := allEscaped_iff.mp h k hk
      simp [isDelimiter, hodd]
  unfold splitCells
  rw [List.splitOnP_eq_singleton hnone, List.map_singleton, map_fst_withRuns]

theorem length_splitCells_eq_one {t : Text} :
    (splitCells t).length = 1 ↔ AllEscaped isPipe t := by
  constructor
  · intro h
    rw [length_splitCells, Nat.add_eq_right, List.countP_eq_zero] at h
    refine allEscaped_iff.mpr fun k hk => ?_
    have hne := h k hk
    simp only [beq_iff_eq] at hne
    omega
  · intro h
    rw [splitCells_of_allEscaped h]
    rfl

/-- A line is cut at each pipe that an even number of backslashes stands before. -/
theorem splitCells_append_pipe {t : Text} (h : trailing t % 2 = 0) (u : Text) :
    splitCells (t ++ .char '|' :: u) = splitCells t ++ splitCells u := by
  have hslash : CodePoint.char '|' ≠ .char '\\' := by decide
  have hpipe : isDelimiter (.char '|', trailing t) = true := by
    simp [isDelimiter, isPipe, h]
  unfold splitCells
  rw [withRuns_append_cons hslash, List.splitOnP_append_cons _ _ hpipe, List.map_append]

/-- What a text is enclosed in does not count, if it is neither a pipe nor a backslash. -/
theorem allEscaped_enclosed {x : CodePoint} (hslash : x ≠ .char '\\')
    (hx : x.isIn isPipe = false) (t : Text) :
    AllEscaped isPipe (x :: (t ++ [x])) ↔ AllEscaped isPipe t := by
  have hruns : runs isPipe (x :: (t ++ [x])) = runs isPipe t := by
    have hfirst := runs_append_cons hslash hx [] (t ++ [x])
    have hlast := runs_append_cons hslash hx t []
    rw [hlast] at hfirst
    exact hfirst.trans (List.append_nil _)
  rw [allEscaped_iff, allEscaped_iff, hruns]

/-! ## 2. Rows -/

theorem joinWith_bars (t : Text) : ∀ cells : List Text,
    .char ' ' :: (joinWith (ofString " | ") (t :: cells) ++ ofString " |")
      = (t :: cells).flatMap (fun c => padded c ++ [.char '|'])
  | [] => by
    unfold joinWith
    rw [List.intercalate_singleton]
    simp [padded, ofString, ofChars]
  | u :: cells => by
    have ih := joinWith_bars u cells
    unfold joinWith at ih ⊢
    rw [List.intercalate_cons_cons, List.flatMap_cons, ← ih]
    simp [padded, ofString, ofChars]

/-- A row has a pipe in front and one after each of its texts. -/
theorem row_eq_bars {cells : List Text} (h : cells ≠ []) :
    row cells = .char '|' :: cells.flatMap (fun c => padded c ++ [.char '|']) := by
  obtain ⟨t, cells, rfl⟩ := List.exists_cons_of_ne_nil h
  rw [← joinWith_bars]
  rfl

/-- **A row is cut between its texts, and where these are cut.** -/
theorem splitCells_row {cells : List Text} (h : cells ≠ []) :
    splitCells (row cells) = [] :: cells.flatMap (fun c => splitCells (padded c)) ++ [[]] := by
  have hbars : ∀ cells : List Text,
      splitCells (cells.flatMap (fun c => padded c ++ [.char '|']))
        = cells.flatMap (fun c => splitCells (padded c)) ++ [[]] := by
    intro cells
    induction cells with
    | nil => rfl
    | cons c cells ih =>
      have hspace : trailing (padded c) % 2 = 0 :=
        congrArg (· % 2) (trailing_concat (x := .char ' ') (by decide) (.char ' ' :: c))
      rw [List.flatMap_cons, List.append_assoc, List.singleton_append,
        splitCells_append_pipe hspace, ih, List.flatMap_cons, List.append_assoc]
  have hfirst := splitCells_append_pipe (t := []) rfl
    (cells.flatMap (fun c => padded c ++ [.char '|']))
  rw [row_eq_bars h, ← List.nil_append (_ :: _), hfirst, hbars]
  rfl

/-- Each text is at least one cell, so there are as many cells as texts only if no text is cut. -/
theorem length_flatMap_splitCells : ∀ cells : List Text,
    cells.length ≤ (cells.flatMap (fun c => splitCells (padded c))).length ∧
      ((cells.flatMap (fun c => splitCells (padded c))).length = cells.length ↔
        ∀ c ∈ cells, AllEscaped isPipe c)
  | [] => by simp
  | c :: cells => by
    obtain ⟨hle, heq⟩ := length_flatMap_splitCells cells
    have hfirst : (splitCells (padded c)).length = 1 ↔ AllEscaped isPipe c :=
      length_splitCells_eq_one.trans (allEscaped_enclosed (by decide) rfl c)
    have hpos : 1 ≤ (splitCells (padded c)).length := by
      rw [length_splitCells]
      omega
    rw [List.flatMap_cons, List.length_append, List.length_cons, List.forall_mem_cons, ← hfirst,
      ← heq]
    omega

variable {ends : Char → Bool}

/-- A text that fits into a cell: it has no line end, and its pipes are escaped. -/
structure Fits (ends : Char → Bool) (t : Text) : Prop where
  oneLine : ∀ x ∈ t, x.isIn ends = false
  escaped : AllEscaped isPipe t

/-- A line as the row of a table with a number of columns: it has no line end, and it is cut into
that many cells between the pipes at its two ends. -/
structure IsRow (ends : Char → Bool) (columns : Nat) (line : Text) : Prop where
  oneLine : ∀ x ∈ line, x.isIn ends = false
  cells : ∃ cells, splitCells line = [] :: cells ++ [[]] ∧ cells.length = columns

/-- The cells of a row in its shape are its texts, each between two spaces. -/
theorem splitCells_row_of_fits {cells : List Text} (h : cells ≠ [])
    (hfits : ∀ c ∈ cells, Fits ends c) :
    splitCells (row cells) = [] :: cells.map padded ++ [[]] := by
  have hcut : ∀ c ∈ cells, splitCells (padded c) = [padded c] := fun c hc =>
    splitCells_of_allEscaped ((allEscaped_enclosed (by decide) rfl c).mpr (hfits c hc).escaped)
  rw [splitCells_row h, List.flatMap_def, List.map_congr_left hcut, ← List.flatMap_def,
    ← List.map_eq_flatMap]

section LineEnds

variable (hends : ∀ c, ends c = true → isLineEnd c = true)

include hends

theorem isIn_ends_of_isLineEnd {x : CodePoint} (h : x.isIn isLineEnd = false) :
    x.isIn ends = false := by
  cases x with
  | half n => rfl
  | char c => exact Bool.eq_false_iff.mpr fun hc => Bool.eq_false_iff.mp h (hends c hc)

theorem oneLine_row {cells : List Text} (h : cells ≠ []) :
    (∀ x ∈ row cells, x.isIn ends = false) ↔ ∀ c ∈ cells, ∀ x ∈ c, x.isIn ends = false := by
  have hspace : CodePoint.isIn ends (.char ' ') = false := isIn_ends_of_isLineEnd hends rfl
  have hpipe : CodePoint.isIn ends (.char '|') = false := isIn_ends_of_isLineEnd hends rfl
  have hpart : ∀ c : Text, (∀ x ∈ padded c ++ [.char '|'], x.isIn ends = false) ↔
      ∀ x ∈ c, x.isIn ends = false := by
    intro c
    unfold padded
    rw [List.forall_mem_append, List.forall_mem_cons, List.forall_mem_append,
      List.forall_mem_singleton, List.forall_mem_singleton]
    simp only [hspace, hpipe, and_true, true_and]
  rw [row_eq_bars h, List.forall_mem_cons, List.forall_mem_flatMap]
  simp only [hpart, hpipe, true_and]

/-- **A row has its shape exactly if all its texts fit.** -/
theorem isRow_row {cells : List Text} (h : cells ≠ []) :
    IsRow ends cells.length (row cells) ↔ ∀ c ∈ cells, Fits ends c := by
  have hcells : (∃ parts, splitCells (row cells) = [] :: parts ++ [[]] ∧
      parts.length = cells.length) ↔ ∀ c ∈ cells, AllEscaped isPipe c := by
    rw [← (length_flatMap_splitCells cells).2, splitCells_row h]
    constructor
    · rintro ⟨parts, hparts, hlength⟩
      have hsame := (List.cons.inj (List.append_cancel_right hparts)).2
      rw [hsame, hlength]
    · exact fun hlength => ⟨_, rfl, hlength⟩
  constructor
  · rintro ⟨hline, hcut⟩ c hc
    exact ⟨(oneLine_row hends h).mp hline c hc, hcells.mp hcut c hc⟩
  · intro hfits
    exact ⟨(oneLine_row hends h).mpr fun c hc => (hfits c hc).oneLine,
      hcells.mpr fun c hc => (hfits c hc).escaped⟩

/-! ## 3. Texts that fit -/

/-- The backticks of a code span make no difference. -/
theorem fits_code {t : Text} : Fits ends (code t) ↔ Fits ends t := by
  have hcode : code t = .char '`' :: (t ++ [.char '`']) := rfl
  have htick : CodePoint.isIn ends (.char '`') = false := isIn_ends_of_isLineEnd hends rfl
  have hline : (∀ x ∈ code t, x.isIn ends = false) ↔ ∀ x ∈ t, x.isIn ends = false := by
    rw [hcode, List.forall_mem_cons, List.forall_mem_append, List.forall_mem_singleton]
    simp only [htick, and_true, true_and]
  have hescaped : AllEscaped isPipe (code t) ↔ AllEscaped isPipe t :=
    allEscaped_enclosed (by decide) rfl t
  exact ⟨fun h => ⟨hline.mp h.oneLine, hescaped.mp h.escaped⟩,
    fun h => ⟨hline.mpr h.oneLine, hescaped.mpr h.escaped⟩⟩

/-- A cell is on one line: white space is folded, and escaping puts none into the text. -/
theorem oneLine_cell (t : Text) : ∀ x ∈ cell t, x.isIn ends = false := by
  intro x hx
  refine isIn_ends_of_isLineEnd hends ?_
  rcases mem_of_mem_escapePipes hx with rfl | hx
  · rfl
  rcases mem_of_mem_escapeMdx hx with hx | ⟨hx, -⟩
  · exact (by decide : ∀ y ∈ ofString "\\&lgt;", y.isIn isLineEnd = false) x hx
  rcases mem_squeeze hx with rfl | hblank
  · rfl
  cases x with
  | half n => rfl
  | char c =>
    exact Bool.eq_false_iff.mpr fun hc => Bool.eq_false_iff.mp hblank (isBlank_of_isLineEnd hc)

/-- **A description fits if no pipe in it was escaped before.** -/
theorem fits_cell {t : Text} : Fits ends (cell t) ↔ NoneEscaped isPipe t :=
  ⟨fun h => (allEscaped_iff_noneEscaped (runs_cell_pipe t)).mp h.escaped,
    fun h => ⟨oneLine_cell hends t, (allEscaped_iff_noneEscaped (runs_cell_pipe t)).mpr h⟩⟩

/-- A text without pipes and line ends fits. -/
theorem fits_of_plain {t : Text} (h : ∀ x ∈ t, x.isIn isLineEnd = false ∧ x.isIn isPipe = false) :
    Fits ends t := by
  constructor
  · exact fun x hx => isIn_ends_of_isLineEnd hends (h x hx).1
  · rintro before c after rfl hc
    have hplain := (h (.char c) (List.mem_append_right before List.mem_cons_self)).2
    rw [CodePoint.isIn_char, hc] at hplain
    cases hplain

/-! ## 4. Sections -/

variable {α : Type}

/-- A section that shows items as the rows of a table.  Each item has its row, in the order of the
items, below a row of the names of the columns and one that rules it off; without items there is no
section.  A row has its shape exactly if `fits` holds of its item, and then its cells are the texts
of the item. -/
structure Shows (ends : Char → Bool) (title : Text) (columns : List Text) (texts : α → List Text)
    (fits : α → Prop) (items : List α) (lines : List Text) : Prop where
  lines_of_nil : items = [] → lines = []
  lines_of_ne_nil : items ≠ [] → ∃ ruler, IsRow ends columns.length ruler ∧ lines =
    heading 2 title ++ row columns :: ruler :: items.map (fun item => row (texts item)) ++ [[]]
  header : IsRow ends columns.length (row columns) ∧
    splitCells (row columns) = [] :: columns.map padded ++ [[]]
  isRow_iff : ∀ item ∈ items, IsRow ends columns.length (row (texts item)) ↔ fits item
  cells : ∀ item ∈ items, fits item →
    splitCells (row (texts item)) = [] :: (texts item).map padded ++ [[]]

/-- **A table shows its items, if each has a text for every column.** -/
theorem table_shows (title : Text) {columns : List Text} (hne : columns ≠ [])
    (hcolumns : ∀ c ∈ columns, Fits ends c) (texts : α → List Text) {fits : α → Prop}
    (htexts : ∀ item, (texts item).length = columns.length)
    (hfits : ∀ item, (∀ t ∈ texts item, Fits ends t) ↔ fits item) (items : List α) :
    Shows ends title columns texts fits items
      (table title columns (items.map fun item => row (texts item))) := by
  have hdashes : ∀ c ∈ columns.map (fun _ => ofString "---"), Fits ends c := by
    rw [List.forall_mem_map]
    exact fun _ _ => fits_of_plain hends (by decide)
  have hruler := (isRow_row hends fun hnil => hne (List.map_eq_nil_iff.mp hnil)).mpr hdashes
  have hitem : ∀ item, texts item ≠ [] := by
    intro item hnil
    have hlength := htexts item
    rw [hnil] at hlength
    exact hne (List.length_eq_zero_iff.mp hlength.symm)
  constructor
  case lines_of_nil =>
    rintro rfl
    rfl
  case lines_of_ne_nil =>
    intro h
    rw [List.length_map] at hruler
    refine ⟨_, hruler, if_neg fun hempty => h ?_⟩
    exact List.map_eq_nil_iff.mp (List.isEmpty_iff.mp hempty)
  case header => exact ⟨(isRow_row hends hne).mpr hcolumns, splitCells_row_of_fits hne hcolumns⟩
  case isRow_iff =>
    intro item _
    rw [← htexts item]
    exact (isRow_row hends (hitem item)).trans (hfits item)
  case cells =>
    intro item _ h
    exact splitCells_row_of_fits (hitem item) ((hfits item).mpr h)

/-- The texts in the row of a parameter. -/
def parameterTexts (p : Parameter) : List Text :=
  [code p.name, p.location, p.typeName, if p.required then "yes" else "no", cell p.description]

/-- The texts in the row of a response. -/
def responseTexts (response : Text × Text) : List Text := [code response.1, cell response.2]

/-- A parameter whose row keeps its shape. -/
structure ParameterFits (ends : Char → Bool) (p : Parameter) : Prop where
  name : Fits ends p.name
  location : Fits ends p.location
  typeName : Fits ends p.typeName
  description : NoneEscaped isPipe p.description

/-- A response whose row keeps its shape. -/
structure ResponseFits (ends : Char → Bool) (response : Text × Text) : Prop where
  status : Fits ends response.1
  description : NoneEscaped isPipe response.2

theorem forall_fits_parameterTexts (p : Parameter) :
    (∀ t ∈ parameterTexts p, Fits ends t) ↔ ParameterFits ends p := by
  have hrequired : Fits ends (if p.required then ofString "yes" else ofString "no") := by
    split
    · exact fits_of_plain hends (by decide)
    · exact fits_of_plain hends (by decide)
  unfold parameterTexts
  simp only [List.forall_mem_cons, fits_code hends, fits_cell hends, hrequired, true_and]
  constructor
  · rintro ⟨hname, hlocation, htype, hdescription, -⟩
    exact ⟨hname, hlocation, htype, hdescription⟩
  · rintro ⟨hname, hlocation, htype, hdescription⟩
    exact ⟨hname, hlocation, htype, hdescription, fun _ h => absurd h List.not_mem_nil⟩

theorem forall_fits_responseTexts (response : Text × Text) :
    (∀ t ∈ responseTexts response, Fits ends t) ↔ ResponseFits ends response := by
  unfold responseTexts
  simp only [List.forall_mem_cons, fits_code hends, fits_cell hends]
  constructor
  · rintro ⟨hstatus, hdescription, -⟩
    exact ⟨hstatus, hdescription⟩
  · rintro ⟨hstatus, hdescription⟩
    exact ⟨hstatus, hdescription, fun _ h => absurd h List.not_mem_nil⟩

/-- **The tables of an operation show its parameters and its responses.**  Every parameter and every
response has its row, which is in shape exactly if the names, types and statuses in it fit, and no
pipe of the description was escaped before. -/
theorem sections_show (o : Operation) :
    Shows ends "Parameters" ["Name", "In", "Type", "Required", "Description"] parameterTexts
        (ParameterFits ends) o.parameters (parameterSection o) ∧
      Shows ends "Responses" ["Status", "Description"] responseTexts (ResponseFits ends)
        o.responses (responseSection o) := by
  constructor
  · have hcolumns : ∀ c ∈ ["Name", "In", "Type", "Required", "Description"].map ofString,
        ∀ x ∈ c, x.isIn isLineEnd = false ∧ x.isIn isPipe = false := by decide
    exact table_shows hends "Parameters" (List.cons_ne_nil _ _)
      (fun c hc => fits_of_plain hends (hcolumns c hc)) parameterTexts (fun _ => rfl)
      (forall_fits_parameterTexts hends) o.parameters
  · have hcolumns : ∀ c ∈ ["Status", "Description"].map ofString,
        ∀ x ∈ c, x.isIn isLineEnd = false ∧ x.isIn isPipe = false := by decide
    exact table_shows hends "Responses" (List.cons_ne_nil _ _)
      (fun c hc => fits_of_plain hends (hcolumns c hc)) responseTexts (fun _ => rfl)
      (forall_fits_responseTexts hends) o.responses

end LineEnds

theorem sections_show_choice :
    (∀ c, isNewline c = true → isLineEnd c = true) ∧
      IsRow isNewline 5 (parameterRow
        { name := "sort", location := "query", description := "up | down\nor none" }) ∧
      IsRow isNewline 2 (responseRow ("200", "a | b")) := by
  have hends : ∀ c, isNewline c = true → isLineEnd c = true := fun c => isLineEnd_of_isNewline
  have hshow := sections_show hends
    { method := "get"
      path := "/food"
      parameters := [{ name := "sort", location := "query", description := "up | down\nor none" }]
      responses := [("200", "a | b")] }
  refine ⟨hends, ?_, ?_⟩
  · refine (hshow.1.isRow_iff _ List.mem_cons_self).mpr ⟨?_, ?_, ?_, ?_⟩
    · exact ⟨by decide, allEscaped_iff.mpr (by decide)⟩
    · exact ⟨by decide, allEscaped_iff.mpr (by decide)⟩
    · exact ⟨by decide, allEscaped_iff.mpr (by decide)⟩
    · exact noneEscaped_iff.mpr (by decide)
  · refine (hshow.2.isRow_iff _ List.mem_cons_self).mpr ⟨?_, ?_⟩
    · exact ⟨by decide, allEscaped_iff.mpr (by decide)⟩
    · exact noneEscaped_iff.mpr (by decide)

theorem not_isRow_parameterRow_pipe :
    ¬ ∀ o : Operation, (∀ p ∈ o.parameters, IsRow isNewline 5 (parameterRow p)) ∧
      ∀ response ∈ o.responses, IsRow isNewline 2 (responseRow response) := by
  intro h
  have hrow := (h
    { method := "get"
      path := "/food"
      parameters := [{ name := "a|b", location := "query" }] }).1 _ List.mem_cons_self
  obtain ⟨cells, hcells, hlength⟩ := hrow.cells
  have hcount := congrArg List.length hcells
  rw [length_splitCells, List.cons_append, List.length_cons, List.length_append, hlength] at hcount
  exact absurd hcount (by decide)

end ApiDocs.Page
