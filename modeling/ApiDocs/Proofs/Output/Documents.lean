import ApiDocs.Output.Documents
import ApiDocs.Proofs.Outcome
import ApiDocs.Proofs.Output.Frame
import ApiDocs.Proofs.Page.Pages

/-!
# The documents of a directory

The ids of the documents of a directory are read from the files below it, one by one
(`run_documentIds`); each depends on where its file stands and on what is in the file (`idOf`).

The files that are listed below a directory are the ones that are found there (`mem_filesBelowAt`).
A directory may be missing and yet be the way to something; `IsVacant` says that nothing stands below
its place.

A file that a page is written to is a document, with the id of the page if the slug is its own id
(`documentId_fileName`).
-/

namespace ApiDocs.Output

open FileSystem Navigation

variable {P : Text → Prop} {directory : Location} {base : List Text} {fs fs' : FileSystem}

/-! ## 1. Ids of documents -/

/-- The id of the document under some names below a directory. -/
def idOf (fs : FileSystem) (directory : Location) (idPrefix : Text) (names : List Text) :
    Except DocumentFault Text := do
  let own ← fileId (FileAccess.textOf
    (fs.contentAt { directory with parts := directory.parts ++ names }))
  return documentId idPrefix names own

theorem run_idsOf (directory : Location) (idPrefix : Text) : ∀ files : List (List Text),
    fs.run (idsOf directory idPrefix files) = (files.mapM (idOf fs directory idPrefix), fs)
  | [] => rfl
  | names :: files => by
    have hrest := run_idsOf directory idPrefix files
    unfold idsOf
    rw [List.mapM_cons, run_bind, run_lift, runPlain_readText]
    dsimp only
    rw [run_bind, run_mk, runPlain_pure]
    unfold idOf
    cases fileId (FileAccess.textOf
        (fs.contentAt { directory with parts := directory.parts ++ names })) with
    | error fault => rfl
    | ok own =>
      dsimp only
      rw [run_bind, hrest]
      show _ = ((do
        let id ← (pure (documentId idPrefix names own) : Except DocumentFault Text)
        let ids ← files.mapM (idOf fs directory idPrefix)
        pure (id :: ids) : Except DocumentFault (List Text)), fs)
      rw [pure_bind]
      cases files.mapM (idOf fs directory idPrefix) <;> rfl

/-- **The ids of a directory** are those of its documents. -/
theorem run_documentIds (hdir : fs.HasDirectory directory) (idPrefix : Text) :
    fs.run (documentIds directory idPrefix)
      = ((documents (fs.filesBelowAt directory)).mapM (idOf fs directory idPrefix), fs) := by
  have hfound : fs.run ((FileAccess.isDirectory directory :
      ExceptT FileFault (StateM FileSystem) Bool).adapt DocumentFault.directory) = (.ok true, fs) := by
    rw [run_adapt, run_isDirectory, kindAt_eq_directory.mpr hdir]
    rfl
  unfold documentIds
  rw [run_bind_ok hfound, if_pos rfl, run_bind, run_lift, runPlain_filesBelow]
  exact run_idsOf directory idPrefix _

theorem mem_documents {files : List (List Text)} {names : List Text} :
    names ∈ documents files ↔ names ∈ files ∧ isDocument (names.getLast?.getD []) = true := by
  unfold documents
  rw [List.mem_mergeSort, List.mem_filter]

/-! ## 2. Files below a directory -/

/-- Nothing stands below the place that a path leads to, whether or not there is a directory.  So
`a/b/..` is vacant if `a` holds nothing, also as long as there is no `b`. -/
def IsVacant (directory : Location) (fs : FileSystem) : Prop :=
  ∀ names, names ≠ [] → fs.get? (fs.place directory ++ names) = none

/-- In a tree nothing stands below a place where there is no directory. -/
theorem IsVacant.of_absent (htree : IsTree fs)
    (h : fs.get? (fs.place directory) ≠ some .directory) : IsVacant directory fs := by
  intro names hne
  rcases List.eq_nil_or_concat names with rfl | ⟨init, last, rfl⟩
  · exact absurd rfl hne
  · by_contra hget
    rw [List.concat_eq_append, ← List.append_assoc] at hget
    exact h (htree.front (List.prefix_append _ init) (htree _ last hget))

/-- In a tree nothing stands below an empty directory. -/
theorem IsVacant.of_empty (htree : IsTree fs) (hdir : fs.HasDirectory directory)
    (h : fs.namesAt directory = []) : IsVacant directory fs := by
  intro names hne
  cases names with
  | nil => exact absurd rfl hne
  | cons name rest =>
    by_contra hget
    have hname : fs.get? (fs.place directory ++ [name]) ≠ none := by
      rcases List.eq_nil_or_concat rest with rfl | ⟨init, last, rfl⟩
      · exact hget
      · have happ : fs.place directory ++ name :: init.concat last
            = ((fs.place directory ++ [name]) ++ init) ++ [last] := by
          simp
        rw [happ] at hget
        rw [htree.front (List.prefix_append _ init) (htree _ last hget)]
        exact nofun
    have hmem := (mem_namesAt (entryAt_eq_ok.mp hdir).1).mpr hname
    rw [h] at hmem
    exact List.not_mem_nil hmem

theorem mem_below {names : List Text} {e : FileSystem.Entry} :
    (names, e) ∈ fs.below base ↔ names ≠ [] ∧ fs.get? (base ++ names) = some e := by
  unfold below
  rw [List.mem_filterMap]
  constructor
  · rintro ⟨path, -, hsplit⟩
    split at hsplit
    · next hbelow =>
      obtain ⟨hstarts, hlonger⟩ := (Bool.and_eq_true_iff).mp hbelow
      obtain ⟨more, rfl⟩ := List.isPrefixOf_iff_prefix.mp hstarts
      rw [Option.map_eq_some_iff] at hsplit
      obtain ⟨found, hfound, hpair⟩ := hsplit
      rw [List.drop_left] at hpair
      cases hpair
      refine ⟨fun hnil => ?_, hfound⟩
      simp [hnil] at hlonger
    · cases hsplit
  · rintro ⟨hnames, hget⟩
    refine ⟨base ++ names, mem_paths.mpr (by rw [hget]; exact nofun), ?_⟩
    have hlonger : base.length < (base ++ names).length := by
      rw [List.length_append]
      exact Nat.lt_add_of_pos_right (List.length_pos_of_ne_nil hnames)
    have hstarts : base.isPrefixOf (base ++ names) = true :=
      List.isPrefixOf_iff_prefix.mpr (List.prefix_append base names)
    rw [if_pos (by rw [hstarts, Bool.true_and]; exact decide_eq_true hlonger), hget, List.drop_left]
    rfl

/-- **The files that are listed below a directory** are those that stand there. -/
theorem mem_filesBelowAt (hdir : fs.HasDirectory directory) {names : List Text} :
    names ∈ fs.filesBelowAt directory ↔
      names ≠ [] ∧ ∃ content, fs.get? (fs.place directory ++ names) = some (.file content) := by
  unfold filesBelowAt
  rw [(entryAt_eq_ok.mp hdir).1]
  dsimp only
  rw [List.mem_filterMap]
  constructor
  · rintro ⟨⟨stored, e⟩, hmem, hfile⟩
    obtain ⟨hne, hget⟩ := mem_below.mp hmem
    cases e with
    | file content =>
      cases hfile
      exact ⟨hne, content, hget⟩
    | directory => cases hfile
  · rintro ⟨hne, content, hget⟩
    exact ⟨(names, .file content), mem_below.mpr ⟨hne, hget⟩, rfl⟩

/-! ## 3. Files of pages -/

theorem splitSuffix_mdx {stem : Text} (h : stem ≠ []) :
    splitSuffix (stem ++ Text.ofString ".mdx") = (stem, Text.ofString ".mdx") := by
  have hafter : ((stem ++ Text.ofString ".mdx").reverse.takeWhile
      (fun p => p != .char '.')).reverse = Text.ofString "mdx" := by
    rw [List.reverse_append]
    rfl
  have htake : (stem ++ Text.ofString ".mdx").take
      ((stem ++ Text.ofString ".mdx").length - (Text.ofString "mdx").length)
        = stem ++ Text.ofString "." := by
    rw [show Text.ofString ".mdx" = Text.ofString "." ++ Text.ofString "mdx" from rfl,
      ← List.append_assoc, List.length_append, Nat.add_sub_cancel, List.take_left]
  have hlength : (Text.ofString "mdx").length ≠ (stem ++ Text.ofString ".mdx").length := by
    rw [List.length_append, show (Text.ofString "mdx").length = 3 from rfl,
      show (Text.ofString ".mdx").length = 4 from rfl]
    omega
  have hstem : (stem ++ Text.ofString ".").dropLast = stem := List.dropLast_concat
  unfold splitSuffix
  dsimp only
  rw [hafter, htake, hstem, if_neg]
  · rfl
  · rintro (hall | hnone | hempty)
    · exact hlength hall
    · cases hnone
    · exact h (List.isEmpty_iff.mp hempty)

theorem isDocument_append {slug ending : Text} (h : ending ∈ Page.endings) :
    isDocument (slug ++ ending) = true := by
  obtain ⟨kind, hkind, rfl⟩ : ∃ kind : Text, kind ≠ [] ∧ ending = kind ++ ".mdx" := by
    simp only [Page.endings, List.mem_cons, List.not_mem_nil, or_false] at h
    rcases h with rfl | rfl | rfl
    · exact ⟨".info", Text.ofString_ne_nil (by decide), rfl⟩
    · exact ⟨".tag", Text.ofString_ne_nil (by decide), rfl⟩
    · exact ⟨".api", Text.ofString_ne_nil (by decide), rfl⟩
  have hstem : slug ++ kind ≠ [] := List.append_ne_nil_of_right_ne_nil _ hkind
  unfold isDocument suffixOf
  rw [← List.append_assoc, splitSuffix_mdx hstem]
  show documentSuffixes.contains (Text.ofString ".mdx") = true
  decide

/-- **The id of a page's file** is that of the page, if the id in the file is the slug. -/
theorem documentId_fileName (idPrefix name : Text) {slug : Text} (h : slug ≠ []) :
    documentId idPrefix [name] (some slug) = docId idPrefix slug := by
  have hslug : slug.isEmpty = false := List.isEmpty_eq_false_iff.mpr h
  unfold documentId docId
  dsimp only
  rw [hslug, if_neg Bool.false_ne_true]
  cases hfront : (Text.stripSlashes idPrefix).isEmpty with
  | true => simp [hfront, hslug, Text.joinWith]
  | false => simp [hfront, hslug, Text.joinWith]

end ApiDocs.Output
