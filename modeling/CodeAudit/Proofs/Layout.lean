import CodeAudit.Proofs.Markup

/-!
# The shell's console is a documented one

A text of one line that is not wider than its place is laid out on one line, in full
(`wrap_of_fits`). With what is known of markup, all laws of a documented console follow
(`describes`).
-/

namespace CodeAudit.Shell

open CodeAudit.Terminal (Cell Column Fault IsFrame IsPlain Layout OneLine Printable borderLine
  frameStyles joined tableWidth weight weight_append weight_le_of_sublist weight_replicate
  weight_reverse)
open CodeAudit.Text (isBlank dropBlanksRight)
open CodeAudit.Source (unlines)

-- ---------------------------------------------------------------------------
-- Columns
-- ---------------------------------------------------------------------------

theorem cells_eq_weight (text : List Char) : cells text = weight charCells text := rfl

@[simp] theorem cells_nil : cells [] = 0 := rfl

@[simp]
theorem cells_cons (c : Char) (text : List Char) :
    cells (c :: text) = charCells c + cells text := rfl

@[simp]
theorem cells_append (front back : List Char) :
    cells (front ++ back) = cells front + cells back := by
  simp only [cells_eq_weight, weight_append]

@[simp]
theorem cells_blanks (count : Nat) : cells (List.replicate count ' ') = count := by
  have hblank : charCells ' ' = 1 := by decide
  rw [cells_eq_weight, weight_replicate, hblank, Nat.mul_one]

theorem cells_le_of_sublist {text text' : List Char} (h : text.Sublist text') :
    cells text ≤ cells text' := by
  simpa only [cells_eq_weight] using weight_le_of_sublist h

-- ---------------------------------------------------------------------------
-- Texts of one line
-- ---------------------------------------------------------------------------

section Plain

variable {text : List Char} (h : ∀ c ∈ text, IsPlain c)

include h

theorem notMem_of_isBlank (hblank : isBlank c = true) (hc : c ≠ ' ') : c ∉ text :=
  fun hmem => hc ((h c hmem).2 hblank)

theorem filter_isSuppressed : text.filter (!isSuppressed ·) = text := by
  refine List.filter_eq_self.mpr fun c hc => ?_
  have hcode := (h c hc).1
  simp only [isSuppressed, Bool.not_eq_true', Bool.or_eq_false_iff, Bool.and_eq_false_iff,
    beq_eq_false_iff_ne, decide_eq_false_iff_not]
  omega

theorem expandTabs_eq (column : Nat) : expandTabs column text = text := by
  induction text generalizing column with
  | nil => rfl
  | cons c text ih =>
    obtain ⟨hc, htext⟩ := List.forall_mem_cons.mp h
    have htab : ¬ (c == '\t') = true := by
      intro htab
      obtain rfl := beq_iff_eq.mp htab
      exact absurd hc.1 (by decide)
    rw [expandTabs, if_neg htab, ih htext]

theorem eq_dropBlanksRight : ∃ count, text = dropBlanksRight text ++ List.replicate count ' ' := by
  have hsplit : dropBlanksRight text ++ (text.reverse.takeWhile isBlank).reverse = text := by
    rw [dropBlanksRight, ← List.reverse_append, List.takeWhile_append_dropWhile,
      List.reverse_reverse]
  refine ⟨(text.reverse.takeWhile isBlank).length, ?_⟩
  have hspaces : text.reverse.takeWhile isBlank =
      List.replicate (text.reverse.takeWhile isBlank).length ' ' := by
    refine List.eq_replicate_iff.mpr ⟨rfl, fun c hc => ?_⟩
    refine (h c ?_).2 (List.mem_takeWhile_imp hc)
    exact List.mem_reverse.mp ((List.takeWhile_sublist _).mem hc)
  rw [hspaces, List.reverse_replicate] at hsplit
  exact hsplit.symm

end Plain

theorem plainLines_of_oneLine (h : OneLine text) : plainLines text = [text.toList] := by
  rw [plainLines, filter_isSuppressed h, Source.splitLines_of_notMem h.notMem_newline,
    List.map_singleton, expandTabs_eq h]

theorem isBlank_of_isLineEnd (h : isLineEnd c = true) : isBlank c = true ∧ c ≠ ' ' := by
  constructor
  · simp only [isLineEnd, Bool.or_eq_true, Bool.and_eq_true, decide_eq_true_eq, beq_iff_eq] at h
    simp only [isBlank, Bool.or_eq_true, Bool.and_eq_true, decide_eq_true_eq, beq_iff_eq]
    omega
  · rintro rfl
    exact absurd h (by decide)

theorem cellWidth_of_oneLine (h : OneLine text) : cellWidth text = cells text.toList := by
  have hends : ∀ c ∈ text.toList, isLineEnd c = false := by
    intro c hc
    refine Bool.eq_false_iff.mpr fun hend => ?_
    obtain ⟨hblank, hne⟩ := isBlank_of_isLineEnd hend
    exact notMem_of_isBlank h hblank hne hc
  rw [cellWidth, filter_isSuppressed h, List.splitOnP_eq_singleton hends]
  simp

-- ---------------------------------------------------------------------------
-- Wrapping
-- ---------------------------------------------------------------------------

theorem dropBlanksRight_isPrefix (text : List Char) : dropBlanksRight text <+: text :=
  List.rdropWhile_prefix isBlank text

theorem dropWhile_eq_nil_of_all {p : α → Bool} {text : List α}
    (h : (text.dropWhile p).all p = true) : text.dropWhile p = [] := by
  cases hdrop : text.dropWhile p with
  | nil => rfl
  | cons c rest =>
    have hc := List.head?_dropWhile_not p text
    rw [hdrop] at h hc
    exact absurd ((List.all_eq_true.mp h c (by simp)).symm.trans hc) (by decide)

theorem flatten_wordsFrom {text : List Char} (hfuel : text.length < fuel) :
    (wordsFrom fuel text).flatten = text ∨ text.all isBlank = true ∧ wordsFrom fuel text = [] := by
  induction fuel generalizing text with
  | zero => omega
  | succ fuel ih =>
    simp only [wordsFrom, List.span_eq_takeWhile_dropWhile]
    generalize hbefore : text.takeWhile isBlank = before
    generalize hrest : text.dropWhile isBlank = rest
    have htext : before ++ rest = text := by
      rw [← hbefore, ← hrest, List.takeWhile_append_dropWhile]
    generalize hbody : rest.takeWhile (!isBlank ·) = body
    generalize hbehind : rest.dropWhile (!isBlank ·) = behind
    have hword : body ++ behind = rest := by
      rw [← hbody, ← hbehind, List.takeWhile_append_dropWhile]
    split
    · next hempty =>
      -- What follows the blanks starts with a word, so there is nothing.
      have hnil : rest = [] := by
        cases rest with
        | nil => rfl
        | cons c rest =>
          have hc := List.head?_dropWhile_not isBlank text
          rw [hrest] at hc
          rw [← hbody, List.takeWhile_cons_of_pos (by simpa using hc)] at hempty
          cases hempty
      refine .inr ⟨?_, rfl⟩
      rw [← htext, hnil, List.append_nil, ← hbefore]
      exact List.all_takeWhile
    · next hsome =>
      refine .inl ?_
      have hend := List.takeWhile_append_dropWhile (p := isBlank) (l := behind)
      have hlength : (behind.dropWhile isBlank).length < fuel := by
        have hpos : 0 < body.length := List.length_pos_iff.mpr (by simpa using hsome)
        have hdrop := (List.dropWhile_sublist isBlank (l := behind)).length_le
        rw [← htext, ← hword, List.length_append, List.length_append] at hfuel
        omega
      have hflat : (wordsFrom fuel (behind.dropWhile isBlank)).flatten =
          behind.dropWhile isBlank := by
        rcases ih hlength with hflat | ⟨hall, hnone⟩
        · exact hflat
        · rw [hnone, dropWhile_eq_nil_of_all hall, List.flatten_nil]
      rw [List.flatten_cons, hflat, ← htext, ← hword]
      simp only [List.append_assoc, hend]

theorem foldl_add_of_fits {overflow : Overflow} {parts : List (List Char)} {fill : Fill}
    (h : fill.used + cells parts.flatten ≤ width) :
    parts.foldl (Fill.add overflow width) fill =
      { fill with
        current := fill.current ++ parts.flatten, used := fill.used + cells parts.flatten } := by
  induction parts generalizing fill with
  | nil => simp
  | cons word parts ih =>
    simp only [List.flatten_cons, cells_append] at h
    have hword := cells_le_of_sublist (dropBlanksRight_isPrefix word).sublist
    have hadd : fill.add overflow width word = fill.place word := if_pos (by omega)
    rw [List.foldl_cons, hadd, ih (by simp only [Fill.place]; omega)]
    simp [Fill.place, Nat.add_assoc]

theorem trimEnd_isPrefix (width : Nat) (line : List Char) : trimEnd width line <+: line :=
  List.take_prefix _ line

theorem wrapLine_of_fits {line : List Char} (overflow : Overflow) (h : cells line ≤ width) :
    wrapLine overflow width line = [trimEnd width line] := by
  have htrim := cells_le_of_sublist (trimEnd_isPrefix width line).sublist
  have hcut : cut overflow width (trimEnd width line) = trimEnd width line :=
    if_neg (by omega)
  have hwords := flatten_wordsFrom (Nat.lt_add_one line.length)
  change (words line).flatten = line ∨ _ ∧ words line = [] at hwords
  rw [wrapLine]
  split
  · rw [List.map_singleton, hcut]
  · next hne =>
    have hflat : (words line).flatten = line :=
      hwords.resolve_right fun ⟨_, hnil⟩ => hne hnil
    rw [foldl_add_of_fits (by simpa [hflat] using h), hflat]
    simp [Fill.lines, hcut]

/-- A text of one line that fits is laid out as it is; only blanks at its end may be missing. -/
theorem wrap_of_fits (overflow : Overflow) (h : OneLine text) (hfits : cells text.toList ≤ width) :
    wrap overflow width text = [trimEnd width text.toList] := by
  rw [wrap, plainLines_of_oneLine h, List.flatMap_singleton, wrapLine_of_fits overflow hfits]

theorem padRight_trimEnd {line : List Char} (h : ∀ c ∈ line, IsPlain c)
    (hfits : cells line ≤ width) : padRight width (trimEnd width line) = padRight width line := by
  obtain ⟨count, hline⟩ := eq_dropBlanksRight h
  have htrim : trimEnd width line =
      line.take (line.length - min (line.length - (dropBlanksRight line).length)
        (line.length - width)) := rfl
  generalize dropBlanksRight line = body at hline htrim
  subst hline
  have hlength : (body ++ List.replicate count ' ').length = body.length + count := by simp
  rw [hlength] at htrim
  generalize hgone : min (body.length + count - body.length) (body.length + count - width) = gone
    at htrim
  have hkept : body.length + count - gone = body.length + (count - gone) := by omega
  rw [hkept, List.take_length_add_append, List.take_replicate] at htrim
  rw [cells_append, cells_blanks] at hfits
  rw [htrim, padRight, padRight, List.append_assoc, List.append_assoc, ← List.replicate_add,
    ← List.replicate_add, cells_append, cells_append, cells_blanks, cells_blanks]
  congr 2
  omega

-- ---------------------------------------------------------------------------
-- Panels
-- ---------------------------------------------------------------------------

theorem trimEnd_of_last {c : Char} (h : isBlank c = false) (width : Nat) (front : List Char) :
    trimEnd width (front ++ [c]) = front ++ [c] := by
  have hdrop : dropBlanksRight (front ++ [c]) = front ++ [c] := by simp [dropBlanksRight, h]
  simp [trimEnd, hdrop]

theorem centered_of_fits {text : List Char} (h : cells text < width) :
    ∃ left right, centered width text = rule left ++ text ++ rule right := by
  have hcut : cut .fold width text = text := if_neg (by omega)
  obtain ⟨right, hright⟩ : ∃ right,
      width - cells text - (width - cells text) / 2 = right + 1 :=
    Nat.exists_eq_add_one.mpr (by omega)
  refine ⟨(width - cells text) / 2, right + 1, ?_⟩
  simp only [centered, hcut, hright, rule, List.replicate_succ', ← List.append_assoc]
  exact trimEnd_of_last (by decide) width _

theorem isFrame_rule (width : Nat) : IsFrame (rule width) := by
  intro c hc
  rw [List.eq_of_mem_replicate hc]
  decide

theorem isFrame_append (h : IsFrame front) (h' : IsFrame back) : IsFrame (front ++ back) :=
  List.forall_mem_append.mpr ⟨h, h'⟩

instance (text : List Char) : Decidable (IsFrame text) := List.decidableBAll _ text

theorem subtitleText_of_oneLine (h : OneLine text) :
    subtitleText text = ' ' :: text.toList ++ [' '] := by
  have hmap : (text.toList.map fun c => if c == '\n' then ' ' else c) = text.toList := by
    refine List.map_congr_left (g := id) (fun c hc => ?_) |>.trans (List.map_id _)
    exact if_neg (by simpa using ne_of_mem_of_not_mem hc h.notMem_newline)
  simp only [subtitleText, filter_isSuppressed h, hmap, expandTabs_eq h]

theorem panelBottom_of_fits {subtitle : String} (h : OneLine shown)
    (hfits : cells shown.toList + 8 ≤ width) (hempty : subtitle.isEmpty = true → shown = "") :
    ∃ left right, IsFrame left ∧ IsFrame right ∧
      panelBottom width (if subtitle.isEmpty then none else some shown) =
        left ++ shown.toList ++ right := by
  split
  · next hsubtitle =>
    obtain rfl := hempty hsubtitle
    have hcorner : IsFrame ['╰'] := by decide
    refine ⟨'╰' :: rule (width - 2), ['╯'], isFrame_append hcorner (isFrame_rule _), by decide, ?_⟩
    simp [panelBottom]
  · have hcells : cells (' ' :: shown.toList ++ [' ']) < width - 4 := by
      have hblank : charCells ' ' = 1 := by decide
      simp only [cells_append, cells_cons, cells_nil, hblank]
      omega
    obtain ⟨left, right, hcentered⟩ := centered_of_fits hcells
    refine ⟨['╰', '─'] ++ rule left ++ [' '], [' '] ++ rule right ++ ['─', '╯'],
      isFrame_append (isFrame_append (by decide) (isFrame_rule _)) (by decide),
      isFrame_append (isFrame_append (by decide) (isFrame_rule _)) (by decide), ?_⟩
    rw [panelBottom, if_neg (by omega), subtitleText_of_oneLine h, hcentered]
    simp

theorem panel_of_fits {subtitle : String} (h : OneLine text)
    (hfits : cells text.toList + 4 ≤ width)
    (hshown : OneLine shown) (hshownFits : cells shown.toList + 8 ≤ width)
    (hempty : subtitle.isEmpty = true → shown = "") :
    ∃ top left right left' right',
      IsFrame top ∧ IsFrame left ∧ IsFrame right ∧ IsFrame left' ∧ IsFrame right' ∧
      panel width text (if subtitle.isEmpty then none else some shown) = unlines
        [top, left ++ text.toList ++ right, left' ++ shown.toList ++ right'] := by
  obtain ⟨left', right', hleft', hright', hbottom⟩ :=
    panelBottom_of_fits hshown hshownFits hempty
  have hblanks (count : Nat) : IsFrame (List.replicate count ' ') := fun c hc =>
    .inl (List.eq_of_mem_replicate hc)
  refine ⟨['╭'] ++ rule (width - 2) ++ ['╮'], ['│', ' '],
    List.replicate (width - 4 - cells text.toList) ' ' ++ [' ', '│'], left', right',
    isFrame_append (isFrame_append (by decide) (isFrame_rule _)) (by decide), by decide,
    isFrame_append (hblanks _) (by decide), hleft', hright', ?_⟩
  have hfits : cells text.toList ≤ width - 4 := by omega
  rw [panel, wrap_of_fits .fold h hfits, List.map_singleton, padRight_trimEnd h hfits, hbottom]
  simp [padRight]

-- ---------------------------------------------------------------------------
-- Tables
-- ---------------------------------------------------------------------------

theorem mem_cropBetween {text : List Char} (hc : c ∈ cropBetween width text fuel low high) :
    c ∈ text ∨ c = ' ' := by
  fun_induction cropBetween width text fuel low high with
  | case1 low high => exact .inl (List.mem_of_mem_take hc)
  | case2 fuel low high middle before size hwide =>
    rcases List.mem_append.mp hc with hc | hc
    · exact .inl (List.mem_of_mem_take ((List.dropLast_sublist _).mem hc))
    · exact .inr (List.mem_singleton.mp hc)
  | case3 fuel low high middle before size hwide hsize => exact .inl (List.mem_of_mem_take hc)
  | case4 fuel low high middle before size hwide hsize hlt ih => exact ih hc
  | case5 fuel low high middle before size hwide hsize hlt ih => exact ih hc

theorem mem_cut {text : List Char} (hc : c ∈ cut .fold width text) : c ∈ text ∨ c = ' ' := by
  rw [cut] at hc
  split at hc
  · simp only [crop] at hc
    split at hc
    · simp at hc
    · exact mem_cropBetween hc
  · exact .inl hc

theorem newline_notMem_titleLine (width : Nat) (h : '\n' ∉ title.toList) :
    '\n' ∉ Table.titleLine width title := by
  have hcut : '\n' ∉ cut .fold width title.toList := fun hc =>
    (mem_cut hc).elim h (by decide)
  simp [Table.titleLine, padRight, hcut]

def layout (width : Nat) : Layout where
  width
  columns := charCells
  markup := shownMarkup

section Rows

variable {width : Nat} {row : List String} (hfits : (layout width).RowFits widths row)
  (hrow : ∀ text ∈ row, OneLine text)

include hfits hrow

theorem foldl_height_of_fits :
    (List.zipWith (wrap .ellipsis) widths row).foldl
      (fun height lines => max height lines.length) 1 = 1 := by
  induction hfits with
  | nil => rfl
  | cons hcell _ ih =>
    obtain ⟨htext, hrest⟩ := List.forall_mem_cons.mp hrow
    rw [List.zipWith_cons_cons, wrap_of_fits .ellipsis htext hcell]
    exact ih hrest

theorem rowLines_of_fits (bar : Char) (hne : row ≠ []) :
    Table.rowLines bar widths row = [(layout width).rowLine bar widths row] := by
  have hheight : (List.zipWith (wrap .ellipsis) widths row).foldl
      (fun height lines => max height lines.length) 0 = 1 := by
    cases hfits with
    | nil => exact absurd rfl hne
    | cons hcell hrest =>
      obtain ⟨htext, hrow⟩ := List.forall_mem_cons.mp hrow
      rw [List.zipWith_cons_cons, wrap_of_fits .ellipsis htext hcell]
      exact foldl_height_of_fits hrest hrow
  have hparts : List.zipWith (fun width lines => ' ' :: padRight width (lines.getD 0 []) ++ [' '])
      widths (List.zipWith (wrap .ellipsis) widths row) =
      List.zipWith (fun size (text : String) =>
        ' ' :: (layout width).padRight size text.toList ++ [' ']) widths row := by
    clear hne hheight
    induction hfits with
    | nil => rfl
    | cons hcell _ ih =>
      obtain ⟨htext, hrest⟩ := List.forall_mem_cons.mp hrow
      rw [List.zipWith_cons_cons, List.zipWith_cons_cons, List.zipWith_cons_cons, ih hrest,
        wrap_of_fits .ellipsis htext hcell]
      simp only [List.getD_cons_zero]
      rw [padRight_trimEnd htext hcell]
      rfl
  simp only [Table.rowLines, hheight, List.range_one, List.map_singleton, hparts, Layout.rowLine]

end Rows

def Covers (widths : List Nat) (row : List String) : Prop :=
  List.Forall₂ (fun width cell => cellWidth cell ≤ width) widths row

theorem Covers.widen {row' : List String} (h : Covers widths row)
    (hlength : row'.length = widths.length) :
    Covers (List.zipWith max widths (row'.map cellWidth)) row := by
  induction h generalizing row' with
  | nil => exact .nil
  | cons hcell _ ih =>
    cases row' with
    | nil => simp at hlength
    | cons cell' row' =>
      exact .cons (Nat.le_trans hcell (Nat.le_max_left _ _)) (ih (by simpa using hlength))

theorem covers_zipWith_max {widths : List Nat} {row : List String}
    (hlength : row.length = widths.length) :
    Covers (List.zipWith max widths (row.map cellWidth)) row := by
  induction row generalizing widths with
  | nil => simp [Covers]
  | cons cell row ih =>
    cases widths with
    | nil => simp at hlength
    | cons width widths =>
      exact .cons (Nat.le_max_right _ _) (ih (by simpa using hlength))

theorem covers_foldl {rows : List (List String)} {widths : List Nat}
    (hlength : ∀ row ∈ rows, row.length = widths.length) :
    (∀ row, Covers widths row →
      Covers (rows.foldl (fun ws row => List.zipWith max ws (row.map cellWidth)) widths) row) ∧
    ∀ row ∈ rows,
      Covers (rows.foldl (fun ws row => List.zipWith max ws (row.map cellWidth)) widths) row := by
  induction rows generalizing widths with
  | nil => exact ⟨fun row h => h, by simp⟩
  | cons row rows ih =>
    obtain ⟨hrow, hrows⟩ := List.forall_mem_cons.mp hlength
    have hwidened : (List.zipWith max widths (row.map cellWidth)).length = widths.length := by
      simp [hrow]
    have hrows' : ∀ row' ∈ rows,
        row'.length = (List.zipWith max widths (row.map cellWidth)).length :=
      fun row' hrow' => (hrows row' hrow').trans hwidened.symm
    obtain ⟨hkept, hcovered⟩ := ih hrows'
    exact ⟨fun row' h => hkept row' (h.widen hrow),
      List.forall_mem_cons.mpr ⟨hkept row (covers_zipWith_max hrow), hcovered⟩⟩

theorem covers_widths (table : Table)
    (hlength : ∀ row ∈ table.rows, row.length = table.head.length) :
    ∀ row ∈ table.head :: table.rows, Covers table.widths row := by
  have hhead : Covers (table.head.map cellWidth) table.head := by
    rw [Covers, List.forall₂_map_left_iff]
    exact List.forall₂_same.mpr fun _ _ => Nat.le_refl _
  have hlength' : ∀ row ∈ table.rows, row.length = (table.head.map cellWidth).length := by
    simpa using hlength
  obtain ⟨hkept, hrows⟩ := covers_foldl hlength'
  exact List.forall_mem_cons.mpr ⟨hkept _ hhead, hrows⟩

theorem Covers.rowFits (h : Covers widths row) (hrow : ∀ text ∈ row, OneLine text) :
    (layout width).RowFits widths row := by
  induction h with
  | nil => exact .nil
  | cons hcell _ ih =>
    obtain ⟨htext, hrest⟩ := List.forall_mem_cons.mp hrow
    exact .cons ((cellWidth_of_oneLine htext).ge.trans hcell) (ih hrest)

theorem render_of_fits (table : Table)
    (hrows : ∀ row ∈ table.head :: table.rows, row ≠ [] ∧ (∀ text ∈ row, OneLine text) ∧
      (layout width).RowFits table.widths row) :
    ∃ size, table.render = unlines (Table.titleLine size table.title ::
      (layout width).tableLines table.widths table.head table.rows) := by
  obtain ⟨⟨hhead, hheadLines, hheadFits⟩, hrows⟩ := List.forall_mem_cons.mp hrows
  have hbody : table.rows.flatMap (Table.rowLines '│' table.widths) =
      table.rows.map ((layout width).rowLine '│' table.widths) := by
    rw [List.map_eq_flatMap]
    refine List.flatMap_congr fun row hrow => ?_
    obtain ⟨hne, hlines, hfits⟩ := hrows row hrow
    exact rowLines_of_fits hfits hlines '│' hne
  refine ⟨(borderLine '┏' '━' '┳' '┓' table.widths).length, ?_⟩
  simp only [Table.render, rowLines_of_fits hheadFits hheadLines '┃' hhead, hbody]
  rfl

-- ---------------------------------------------------------------------------
-- The laws
-- ---------------------------------------------------------------------------

theorem shownCell_eq_cellText (width : Nat) : shownCell = (layout width).cellText := by
  funext cell
  cases cell <;> rfl

theorem describes (width : Nat) : (layout width).Describes (console width) where
  ascii c hle hlt := if_pos (by simp [hle, hlt])
  plain _ hbracket hpair := shownMarkup_eq_ok.mpr (renderMarkup_plain hbracket hpair)
  tag hfront hname hback := shownMarkup_eq_ok.mpr (renderMarkup_tag hfront hname hback)
  unopened hfront hname hback := by
    obtain ⟨e, he⟩ := renderMarkup_closingTag hfront hname hback
    exact ⟨_, congrArg (Except.mapError _) he⟩
  lighter _ hshown := by
    rcases renderMarkup_lighter weighs_markWeight (shownMarkup_eq_ok.mp hshown) with heq | hlt
    · exact .inl (String.toList_injective heq)
    · exact .inr hlt
  oneLine hprintable hshown :=
    renderMarkup_forall (fun _ => isPlain_of_isPictureChar) (shownMarkup_eq_ok.mp hshown)
      fun c hc => isPlain_of_isPrintable (hprintable c hc)
  blank := ⟨_, rfl⟩
  styled text := ⟨_, rfl⟩
  panel := by
    intro border subtitle shown content _ hshown hline hfits hshownLine hshownFits
    have hempty : subtitle.isEmpty = true → shown = "" := by
      intro hsubtitle
      rw [String.isEmpty_iff.mp hsubtitle] at hshown
      exact (Except.ok.inj hshown).symm
    obtain ⟨top, left, right, left', right', htop, hleft, hright, hleft', hright', hpanel⟩ :=
      panel_of_fits hline hfits hshownLine hshownFits hempty
    refine ⟨top, left, right, left', right', htop, hleft, hright, hleft', hright', ?_⟩
    change shownMarkup subtitle = .ok shown at hshown
    simp only [console, hshown, ok_bind, pure_ok]
    exact congrArg Except.ok hpanel
  panel_fault := by
    intro subtitle fault content border hfault
    change shownMarkup subtitle = .error fault at hfault
    exact ⟨fault, by simp only [console, hfault, error_bind]⟩
  table := by
    intro cols title heads rows texts _ hcols htitle hline hheads hrows hlines _ _
    have hhead : cols.mapM (fun column => shownMarkup column.head) = .ok heads :=
      mapM_eq_ok.mpr hheads
    have hbody : rows.mapM (fun row => row.mapM shownCell) = .ok texts := by
      refine mapM_eq_ok.mpr (hrows.imp fun row row' hrow => ?_)
      rw [shownCell_eq_cellText width]
      exact mapM_eq_ok.mpr hrow
    obtain ⟨hheadLine, htextLines⟩ := List.forall_mem_cons.mp hlines
    have hcovers := covers_widths ⟨title, heads, texts⟩ fun row hrow =>
      (htextLines row hrow).1.trans hheadLine.1.symm
    have hfits : ∀ row ∈ heads :: texts,
        (layout width).RowFits (Table.widths ⟨title, heads, texts⟩) row := fun row hrow =>
      (hcovers row hrow).rowFits (hlines row hrow).2
    obtain ⟨size, hrender⟩ := render_of_fits ⟨title, heads, texts⟩ fun row hrow =>
      ⟨fun hnil => hcols (List.length_eq_zero_iff.mp ((hlines row hrow).1.symm.trans (hnil ▸ rfl))),
        (hlines row hrow).2, hfits row hrow⟩
    refine ⟨Table.titleLine size title, Table.widths ⟨title, heads, texts⟩,
      newline_notMem_titleLine _ hline.notMem_newline, hfits, ?_⟩
    simp only [console, shownTable, hhead, hbody, ok_bind, pure_ok]
    exact congrArg Except.ok hrender
  table_fault := by
    intro rows row cell fault title cols hrow hcell hfault
    cases hprint : (console width).print (.table title cols rows) with
    | error fault' => exact ⟨fault', rfl⟩
    | ok text =>
      obtain ⟨table, htable, -⟩ := bind_eq_ok.mp hprint
      obtain ⟨heads, -, htable⟩ := bind_eq_ok.mp htable
      obtain ⟨texts, htexts, -⟩ := bind_eq_ok.mp htable
      obtain ⟨line, -, hline⟩ := exists_right_of_mem (mapM_eq_ok.mp htexts) hrow
      obtain ⟨shown, -, hshown⟩ := exists_right_of_mem (mapM_eq_ok.mp hline) hcell
      rw [shownCell_eq_cellText width, hfault] at hshown
      cases hshown

end CodeAudit.Shell
