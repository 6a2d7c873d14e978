import CodeAudit.Proofs.Layout
import CodeAudit.Report.Screen

/-!
# Names on the terminal

The header of a report names a file, and the table of rules has a row for each rule. Both hand over
what they name as markup. So a name is shown as it is written exactly if markup leaves it alone
(`names_shown_iff_kept`). Everything else loses weight on its way to the terminal, and what has lost
weight cannot be found there again.
-/

namespace CodeAudit.Terminal

open CodeAudit.Source (splitLines unlines)

-- ---------------------------------------------------------------------------
-- Frames
-- ---------------------------------------------------------------------------

theorem IsFrame.notMem_newline (h : IsFrame text) : '\n' ∉ text :=
  fun hmem => absurd (h _ hmem) (by decide)

theorem IsFrame.weight_eq_zero (h : IsFrame text) : weight markWeight text = 0 := by
  refine Terminal.weight_eq_zero.mpr fun c hc => ?_
  have hne {d : Char} (hspace : d ≠ ' ') (hlow : d.toNat < 0x2500) : c ≠ d := by
    rintro rfl
    rcases h c hc with rfl | ⟨hle, -⟩
    · exact hspace rfl
    · omega
  exact markWeight_eq_zero (hne (by decide) (by decide)) (hne (by decide) (by decide))
    (hne (by decide) (by decide))

-- ---------------------------------------------------------------------------
-- Columns
-- ---------------------------------------------------------------------------

namespace Layout

variable (l : Layout)

@[simp]
theorem weight_padRight {f : Char → Nat} (hblank : f ' ' = 0) (size : Nat) (text : List Char) :
    weight f (l.padRight size text) = weight f text := by
  simp [padRight, hblank]

variable {l} {console : Console} (h : l.Describes console)

include h

theorem Describes.columns_blank : l.columns ' ' = 1 := h.ascii ' ' (by decide) (by decide)

theorem cells_padRight {text : List Char} {size : Nat} (hfits : l.cells text ≤ size) :
    l.cells (l.padRight size text) = size := by
  rw [padRight, cells, weight_append, weight_replicate, h.columns_blank]
  rw [cells] at hfits ⊢
  omega

theorem eq_of_cells_eq {text text' behind behind' : List Char}
    (heq : text ++ ' ' :: behind = text' ++ ' ' :: behind')
    (hcells : l.cells text = l.cells text') : text = text' := by
  have hblank := h.columns_blank
  rcases List.append_eq_append_iff.mp heq with ⟨between, rfl, hbetween⟩ | ⟨between, rfl, hbetween⟩
  all_goals
    cases between with
    | nil => simp
    | cons c between =>
      obtain ⟨rfl, -⟩ := List.cons_eq_cons.mp hbetween
      simp only [cells, weight_append, weight_cons, hblank] at hcells
      omega

end Layout

-- ---------------------------------------------------------------------------
-- Lines
-- ---------------------------------------------------------------------------

theorem notMem_intercalate {between : List α} {parts : List (List α)} (hbetween : x ∉ between)
    (h : ∀ part ∈ parts, x ∉ part) : x ∉ between.intercalate parts := by
  match parts with
  | [] => simp
  | [part] => simpa using h
  | part :: next :: parts =>
    obtain ⟨hpart, hparts⟩ := List.forall_mem_cons.mp h
    rw [List.intercalate_cons_cons]
    simp [hpart, hbetween, notMem_intercalate hbetween hparts]

theorem newline_notMem_borderLine (hframe : '\n' ∉ [left, fill, cross, right]) (widths : List Nat) :
    '\n' ∉ borderLine left fill cross right widths := by
  simp only [List.mem_cons, List.not_mem_nil, or_false, not_or] at hframe
  obtain ⟨hleft, hfill, hcross, hright⟩ := hframe
  have hparts : '\n' ∉ [cross].intercalate
      (widths.map fun width => List.replicate (width + 2) fill) := by
    refine notMem_intercalate (by simpa using hcross) (List.forall_mem_map.mpr fun width _ => ?_)
    simp [hfill]
  simp [borderLine, hleft, hright, hparts]

namespace Layout

variable (l : Layout)

theorem newline_notMem_rowLine (hbar : '\n' ≠ bar) (widths : List Nat)
    (hrow : ∀ text ∈ row, OneLine text) : '\n' ∉ l.rowLine bar widths row := by
  have hparts : ∀ part ∈ List.zipWith
      (fun width (text : String) => ' ' :: l.padRight width text.toList ++ [' ']) widths row,
      '\n' ∉ part := by
    induction row generalizing widths with
    | nil => simp
    | cons text row ih =>
      obtain ⟨htext, hrest⟩ := List.forall_mem_cons.mp hrow
      cases widths with
      | nil => simp
      | cons width widths =>
        rw [List.zipWith_cons_cons, List.forall_mem_cons]
        exact ⟨by simp [padRight, htext.notMem_newline], ih widths hrest⟩
  have hall := notMem_intercalate (by simpa using hbar : '\n' ∉ [bar]) hparts
  rw [rowLine, List.cons_append, List.mem_cons, List.mem_append, List.mem_singleton]
  exact fun hmem => hmem.elim hbar fun hmem => hmem.elim hall hbar

theorem newline_notMem_tableLines (widths : List Nat)
    (hrows : ∀ row ∈ heads :: rows, ∀ text ∈ row, OneLine text) :
    ∀ line ∈ l.tableLines widths heads rows, '\n' ∉ line := by
  obtain ⟨hheads, hrows⟩ := List.forall_mem_cons.mp hrows
  simp only [tableLines, List.cons_append, List.forall_mem_cons, List.forall_mem_append,
    List.forall_mem_map, List.not_mem_nil, false_implies, implies_true, and_true]
  exact ⟨newline_notMem_borderLine (by decide) _, l.newline_notMem_rowLine (by decide) _ hheads,
    newline_notMem_borderLine (by decide) _,
    fun row hrow => l.newline_notMem_rowLine (by decide) _ (hrows row hrow),
    newline_notMem_borderLine (by decide) _⟩

theorem getElem?_tableLines (widths : List Nat) (heads : List String) {rows : List (List String)}
    (h : rows[i]? = some row) :
    (l.tableLines widths heads rows)[3 + i]? = some (l.rowLine '│' widths row) := by
  obtain ⟨hi, -⟩ := List.getElem?_eq_some_iff.mp h
  rw [Nat.add_comm, tableLines]
  simp only [List.cons_append, List.getElem?_cons_succ]
  rw [List.getElem?_append_left (by simpa using hi), List.getElem?_map, h, Option.map_some]

end Layout

-- ---------------------------------------------------------------------------
-- Items that are always printed
-- ---------------------------------------------------------------------------

def Item.isText : Item → Bool
  | .blank | .styled _ => true
  | _ => false

theorem exists_printAll {l : Layout} {console : Console} (h : l.Describes console)
    {items : List Item} (hitems : items.all Item.isText = true) :
    ∃ text, console.printAll items = .ok text := by
  induction items with
  | nil => exact ⟨_, rfl⟩
  | cons item items ih =>
    obtain ⟨hitem, hrest⟩ := Bool.and_eq_true_iff.mp (List.all_cons ▸ hitems)
    obtain ⟨more, hmore⟩ := ih hrest
    obtain ⟨first, hfirst⟩ : ∃ first, console.print item = .ok first := by
      cases item with
      | blank => exact h.blank
      | styled text => exact h.styled text
      | _ => cases hitem
    exact ⟨_, by rw [Console.printAll, hfirst, ok_bind, hmore, ok_bind, pure_ok]⟩

end CodeAudit.Terminal

namespace CodeAudit.Report

open CodeAudit.Advice CodeAudit.Rule CodeAudit.Scan CodeAudit.Terminal
open CodeAudit.Source (splitLines unlines)

variable {shown : String}

-- ---------------------------------------------------------------------------
-- Reports on a file
-- ---------------------------------------------------------------------------

/-- A text that may stand for a language or a level in a header. -/
def IsLabel (text : String) : Prop :=
  Printable text ∧ '[' ∉ text.toList ∧ '\\' ∉ text.toList ∧ ':' ∉ text.toList

instance (text : String) : Decidable (IsLabel text) := inferInstanceAs (Decidable (_ ∧ _))

theorem isLabel_label (filename : String) : IsLabel (Language.label filename) := by
  have hlabels : ∀ entry ∈ Language.byExtension, IsLabel entry.2 := by decide +kernel
  have hunknown : IsLabel Language.unknown := by decide +kernel
  rw [Language.label]
  cases hlookup : Language.byExtension.lookup (Text.lower (Language.extension filename)) with
  | none => exact hunknown
  | some label =>
    obtain ⟨before, behind, hsplit, -⟩ := List.lookup_eq_some_iff.mp hlookup
    exact hlabels (Text.lower (Language.extension filename), label) (by simp [hsplit])

theorem isLabel_of_mem_levelFilters : ∀ level ∈ levelFilters, IsLabel level := by
  decide +kernel

/-- The reports on a file with a name, with the subtitles of their headers. -/
inductive ReportOn : (name : String) → List Item → (subtitle : String) → Prop
  | analysis (details : Bool) (a : Analysis) : IsLabel a.language →
    ReportOn a.filename (analysisItems details a) (a.filename ++ " (" ++ a.language ++ ")")
  | idioms (a : IdiomAnalysis) : IsLabel a.level →
    ReportOn a.filename (idiomsItems a) (a.filename ++ " (level: " ++ a.level ++ ")")
  | design (r : DesignReport) : ReportOn r.filename (designItems r) r.filename

theorem reportOn_analyze {after : Catalog} (details : Bool)
    (h : analyze catalog settings buffer filename timestamp = .ok (a, after)) :
    ReportOn filename (analysisItems details a)
      (filename ++ " (" ++ Language.label filename ++ ")") := by
  have hname : a.filename = filename ∧ a.language = Language.label filename := by
    simp only [analyze, bind_eq_ok, pure_eq_ok, Prod.exists, Prod.mk.injEq] at h
    obtain ⟨_, -, found, _, -, rfl, -⟩ := h
    exact ⟨rfl, by simp only⟩
  have hreport := ReportOn.analysis details a (hname.2.symm.subst (isLabel_label filename))
  rwa [hname.1, hname.2] at hreport

theorem reportOn_analyzeIdioms (hlevel : level ∈ levelFilters)
    (h : analyzeIdioms buffer filename level limit = .ok a) :
    ReportOn filename (idiomsItems a) (filename ++ " (level: " ++ level ++ ")") := by
  have hname : a.filename = filename ∧ a.level = level := by
    simp only [analyzeIdioms, bind_eq_ok, pure_eq_ok] at h
    obtain ⟨_, -, actions, -, rfl⟩ := h
    exact ⟨rfl, rfl⟩
  have hreport := ReportOn.idioms a
    (hname.2.symm.subst (isLabel_of_mem_levelFilters level hlevel))
  rwa [hname.1, hname.2] at hreport

theorem reportOn_analyzeDesign
    (h : analyzeDesign rules suggestionRules buffer filename limit = .ok r) :
    ReportOn filename (designItems r) filename := by
  have hname : r.filename = filename := by
    simp only [analyzeDesign, bind_eq_ok, pure_eq_ok] at h
    obtain ⟨_, -, actions, -, rfl⟩ := h
    rfl
  rw [← hname]
  exact .design r

section Items

@[simp] theorem isText_dim (text : String) : (dim text).isText = true := rfl

@[simp] theorem isText_bold (text : String) : (bold text).isText = true := rfl

@[simp]
theorem isText_numbered (line : Int) (code : String) : (numbered line code).isText = true := rfl

@[simp] theorem isText_remark (text : String) : (remark text).isText = true := rfl

@[simp] theorem isText_divider : divider.isText = true := rfl

@[simp] theorem isText_blank : Item.blank.isText = true := rfl

@[simp] theorem isText_styled (text : StyledText) : (Item.styled text).isText = true := rfl

@[simp] theorem isText_idiomItem (d : DetectedIdiom) : (idiomItem d).isText = true := rfl

theorem isText_flatMap {f : α → List Item} (h : ∀ x, (f x).all Item.isText = true) (xs : List α) :
    (xs.flatMap f).all Item.isText = true := by
  rw [List.all_flatMap]
  exact List.all_eq_true.mpr fun x _ => h x

theorem isText_headed (heading : String) {items : List Item}
    (h : items.all Item.isText = true) : (headed heading items).all Item.isText = true := by
  unfold headed
  split
  · rfl
  · simp [h, -List.all_eq_true]

theorem isText_findingItems (f : Finding) : (findingItems f).all Item.isText = true := by
  unfold findingItems
  dsimp only
  split <;> split <;> simp

theorem isText_detailItems (a : Analysis) : (detailItems a).all Item.isText = true := by
  have hstrengths : (headed "Strengths" (a.strengths.map strengthItem)).all Item.isText = true :=
    isText_headed _ (by simp [strengthItem])
  unfold detailItems
  split
  · simpa using hstrengths
  · rw [List.all_append, hstrengths]
    simp [isText_flatMap isText_findingItems, -List.all_eq_true]

theorem isText_planItems (items : List ActionItem) : (planItems items).all Item.isText = true :=
  isText_headed _ (isText_flatMap (fun item => by simp [actionItems]) items)

theorem isText_inconsistencyItems (f : Inconsistency) :
    (inconsistencyItems f).all Item.isText = true := by
  simp [inconsistencyItems]

theorem isText_suggestionItems (s : Suggestion) :
    (suggestionItems s).all Item.isText = true := by
  unfold suggestionItems
  split <;> simp

theorem isText_designIdiomItems (entry : DesignIdiom) :
    (designIdiomItems entry).all Item.isText = true := by
  unfold designIdiomItems
  split <;> simp

end Items

def abouts : List String := ["code quality scan", "idiom analysis", "design idioms"]

theorem unmarked_suffix (h : IsLabel label) (hopening : opening ∈ [" (", " (level: "]) :
    Unmarked (opening ++ label ++ ")") := by
  have hopenings : ∀ opening ∈ [" (", " (level: "], Unmarked opening := by decide +kernel
  have hclose : Unmarked ")" := by decide +kernel
  have hopening := hopenings opening hopening
  obtain ⟨hprintable, hbracket, hslash, hcolon⟩ := h
  have hnone : label.toList.count ':' = 0 := List.count_eq_zero.mpr hcolon
  refine ⟨(hopening.printable.append hprintable).append hclose.printable, ?_, ?_, ?_⟩
  · simp [hopening.noBracket, hbracket]
  · simp [hopening.noSlash, hslash]
  · simpa [hnone] using hopening.noPair

theorem ReportOn.exists_header (h : ReportOn name items subtitle) :
    ∃ about ∈ abouts, ∃ suffix rest, items = header about subtitle :: rest ∧
      rest.all Item.isText = true ∧ subtitle = name ++ suffix ∧ Unmarked suffix := by
  cases h with
  | analysis details a hlabel =>
    refine ⟨_, by simp [abouts], " (" ++ a.language ++ ")", _, rfl, ?_,
      by simp only [String.append_assoc], unmarked_suffix hlabel (by simp)⟩
    cases details
    · rfl
    · simp [isText_detailItems, summaryItems, -List.all_eq_true]
  | idioms a hlabel =>
    refine ⟨_, by simp [abouts], " (level: " ++ a.level ++ ")", _, rfl, ?_,
      by simp only [String.append_assoc], unmarked_suffix hlabel (by simp)⟩
    have hdetected : (headed "Detected idioms" (a.detected.flatMap fun d =>
        idiomItem d :: d.locations.map fun l => numbered l.line l.code)).all Item.isText = true :=
      isText_headed _ (isText_flatMap (fun d => by simp) _)
    have hinconsistencies : (headed "Inconsistencies"
        (a.inconsistencies.flatMap inconsistencyItems)).all Item.isText = true :=
      isText_headed _ (isText_flatMap isText_inconsistencyItems _)
    have hsuggestions : (headed "Suggestions"
        (a.suggestions.flatMap suggestionItems)).all Item.isText = true :=
      isText_headed _ (isText_flatMap isText_suggestionItems _)
    simp [hdetected, hinconsistencies, hsuggestions, isText_planItems, -List.all_eq_true]
  | design r =>
    refine ⟨_, by simp [abouts], "", _, rfl, ?_, String.append_empty.symm, by decide +kernel⟩
    split
    · simp [isText_planItems, -List.all_eq_true]
    · simp [isText_flatMap isText_designIdiomItems, isText_planItems, -List.all_eq_true]

-- ---------------------------------------------------------------------------
-- Headers
-- ---------------------------------------------------------------------------

theorem title_plain :
    ∀ about ∈ abouts, OneLine (joined (title about)) ∧ marks (joined (title about)) = 0 := by
  decide +kernel

/-- A console that is wide enough for the titles of reports. -/
def RoomForTitles (l : Layout) : Prop :=
  ∀ about ∈ abouts, l.cells (joined (title about)).toList + 4 ≤ l.width

/-- A console that is wide enough for what is shown of a subtitle. -/
def RoomForSubtitle (l : Layout) (subtitle : String) : Prop :=
  ∀ shown, l.markup subtitle = .ok shown → l.cells shown.toList + 8 ≤ l.width

/-- A report whose first three lines, which are its header, hold a name as it is written. -/
def HeaderShows (printed : Except Fault String) (name : String) : Prop :=
  ∃ text, printed = .ok text ∧ ∃ line ∈ (splitLines text.toList).take 3, name.toList <:+: line

/-- A text that is a tag with unmarked text around it. -/
def HoldsTag (text : String) : Prop :=
  ∃ front tag back, Unmarked front ∧ IsTagName tag ∧ Unmarked back ∧ ':' ∉ back.toList ∧
    text = front ++ "[" ++ tag ++ "]" ++ back

/-- A text that is a closing tag with unmarked text around it. -/
def HoldsClosingTag (text : String) : Prop :=
  ∃ front tag back, Unmarked front ∧ IsTagName tag ∧ Unmarked back ∧ ':' ∉ back.toList ∧
    text = front ++ "[/" ++ tag ++ "]" ++ back

theorem unmarked_append (h : Unmarked back) (hcolon : ':' ∉ back.toList) (h' : Unmarked suffix) :
    Unmarked (back ++ suffix) := by
  refine ⟨h.printable.append h'.printable, ?_, ?_, ?_⟩
  · simp [h.noBracket, h'.noBracket]
  · simp [h.noSlash, h'.noSlash]
  · simpa [List.count_eq_zero.mpr hcolon] using h'.noPair

theorem marks_le_one (h : Unmarked text) : marks text ≤ 1 := by
  rw [marks, weight_markWeight_eq_count h.noBracket h.noSlash]
  exact h.noPair

section Console

variable {l : Layout} {console : Console} (hdoc : l.Describes console)

include hdoc

theorem markup_of_unmarked (h : Unmarked text) : l.markup text = .ok text :=
  hdoc.plain h.printable h.noBracket h.noPair

theorem markup_of_marks_le (hprintable : Printable text) (hshown : l.markup text = .ok shown)
    (hle : marks text ≤ marks shown) : l.markup text = .ok text := by
  rcases hdoc.lighter hprintable hshown with heq | hlost
  · rw [hshown, heq]
  · omega

theorem markup_of_tag (h : HoldsTag text) (hsuffix : Unmarked suffix) :
    l.markup (text ++ suffix) ≠ .ok (text ++ suffix) := by
  obtain ⟨front, tag, back, hfront, htag, hback, hcolon, rfl⟩ := h
  have hshown := hdoc.tag hfront htag (unmarked_append hback hcolon hsuffix)
  simp only [String.append_assoc] at hshown ⊢
  rw [hshown]
  intro heq
  have hlength := congrArg String.length (Except.ok.inj heq)
  have hbracket : "[".length = 1 := rfl
  simp only [String.length_append, hbracket] at hlength
  omega

theorem markup_of_closingTag (h : HoldsClosingTag text) (hsuffix : Unmarked suffix) :
    ∃ fault, l.markup (text ++ suffix) = .error fault := by
  obtain ⟨front, tag, back, hfront, htag, hback, hcolon, rfl⟩ := h
  obtain ⟨fault, hfault⟩ := hdoc.unopened hfront htag (unmarked_append hback hcolon hsuffix)
  simp only [String.append_assoc] at hfault ⊢
  exact ⟨fault, hfault⟩

theorem header_fault (about : String) (rest : List Item) (h : l.markup subtitle = .error fault) :
    ∃ fault', console.printAll (header about subtitle :: rest) = .error fault' := by
  obtain ⟨fault', hfault⟩ : ∃ fault', console.print (header about subtitle) = .error fault' :=
    hdoc.panel_fault h
  exact ⟨fault', by rw [Console.printAll, hfault, error_bind]⟩

theorem header_lines {rest : List Item} (hroom : RoomForTitles l) (habout : about ∈ abouts)
    (hshown : l.markup subtitle = .ok shown) (hline : OneLine shown)
    (hfits : l.cells shown.toList + 8 ≤ l.width) (hrest : rest.all Item.isText = true) :
    ∃ text top left right left' right',
      IsFrame top ∧ IsFrame left ∧ IsFrame right ∧ IsFrame left' ∧ IsFrame right' ∧
      console.printAll (header about subtitle :: rest) = .ok text ∧
      (splitLines text.toList).take 3 =
        [top, left ++ (joined (title about)).toList ++ right, left' ++ shown.toList ++ right'] := by
  obtain ⟨htitle, -⟩ := title_plain about habout
  have hcyan : "cyan" ∈ frameStyles := by simp [frameStyles]
  obtain ⟨top, left, right, left', right', htop, hleft, hright, hleft', hright', hprint⟩ :=
    hdoc.panel hcyan hshown htitle (hroom about habout) hline hfits
  obtain ⟨more, hmore⟩ := exists_printAll hdoc hrest
  refine ⟨_, top, left, right, left', right', htop, hleft, hright, hleft', hright',
    by rw [Console.printAll, header, hprint, ok_bind, hmore, ok_bind, pure_ok], ?_⟩
  rw [String.toList_append, Source.splitLines_unlines]
  · rfl
  · simp only [List.forall_mem_cons, List.mem_append, not_or]
    exact ⟨htop.notMem_newline,
      ⟨⟨hleft.notMem_newline, htitle.notMem_newline⟩, hright.notMem_newline⟩,
      ⟨⟨hleft'.notMem_newline, hline.notMem_newline⟩, hright'.notMem_newline⟩, by simp⟩

/-- A name is in the header exactly if markup leaves the subtitle alone. -/
theorem headerShows_iff {rest : List Item} (hroom : RoomForTitles l) (habout : about ∈ abouts)
    (hrest : rest.all Item.isText = true) (hsuffix : Unmarked suffix) (hname : Printable name)
    (hfits : RoomForSubtitle l (name ++ suffix)) :
    HeaderShows (console.printAll (header about (name ++ suffix) :: rest)) name ↔
      l.markup (name ++ suffix) = .ok (name ++ suffix) := by
  have hprintable : Printable (name ++ suffix) := hname.append hsuffix.printable
  constructor
  · rintro ⟨text, htext, line, hmem, hpart⟩
    cases hshown : l.markup (name ++ suffix) with
    | error fault =>
      obtain ⟨fault', hfault⟩ := header_fault hdoc about rest hshown
      rw [htext] at hfault
      cases hfault
    | ok shown =>
      have hline := hdoc.oneLine hprintable hshown
      obtain ⟨text', top, left, right, left', right', htop, hleft, hright, hleft', hright', htext',
        htake⟩ := header_lines hdoc hroom habout hshown hline (hfits shown hshown) hrest
      obtain rfl := Except.ok.inj (htext.symm.trans htext')
      rcases hdoc.lighter hprintable hshown with rfl | hlost
      · rfl
      -- What was lost is missing in every line of the header.
      obtain ⟨-, htitle⟩ := title_plain about habout
      have hremark := marks_le_one hsuffix
      have hle := weight_le_of_sublist (f := markWeight) hpart.sublist
      simp only [marks, String.toList_append, weight_append] at hlost hremark htitle
      rw [htake] at hmem
      simp only [List.mem_cons, List.not_mem_nil, or_false] at hmem
      rcases hmem with rfl | rfl | rfl
      · rw [htop.weight_eq_zero] at hle
        omega
      · rw [weight_append, weight_append, hleft.weight_eq_zero, hright.weight_eq_zero,
          htitle] at hle
        omega
      · rw [weight_append, weight_append, hleft'.weight_eq_zero, hright'.weight_eq_zero] at hle
        omega
  · intro hkept
    have hline := hdoc.oneLine hprintable hkept
    obtain ⟨text, top, left, right, left', right', -, -, -, -, -, htext, htake⟩ :=
      header_lines hdoc hroom habout hkept hline (hfits _ hkept) hrest
    refine ⟨text, htext, left' ++ (name ++ suffix).toList ++ right', by simp [htake],
      left', suffix.toList ++ right', by simp⟩

end Console

-- ---------------------------------------------------------------------------
-- The table of rules
-- ---------------------------------------------------------------------------

/-- The widths of the first and the last column, read off the upper border of a table. -/
def OuterColumns (top : List Char) (first last : Nat) : Prop :=
  ∃ middle, top = '┏' :: List.replicate (first + 2) '━' ++ '┳' :: middle ++
    '┳' :: List.replicate (last + 2) '━' ++ ['┓']

/-- A row whose first cell holds a text and whose last cell holds another one, as they are
written. -/
def OuterCells (l : Layout) (line : List Char) (first last : Nat) (text text' : String) : Prop :=
  l.cells text.toList ≤ first ∧ l.cells text'.toList ≤ last ∧
    ∃ middle, line = '│' :: ' ' :: l.padRight first text.toList ++ ' ' :: '│' :: middle ++
      '│' :: ' ' :: l.padRight last text'.toList ++ [' ', '│']

/-- A table whose rows, which begin on its fifth line, hold the ids and titles of rules as they are
written. -/
def RowsShow (l : Layout) (printed : Except Fault String) (definitions : List Definition) : Prop :=
  ∃ text, printed = .ok text ∧ ∃ top first last, (splitLines text.toList)[1]? = some top ∧
    OuterColumns top first last ∧ ∀ i d, definitions[i]? = some d →
      ∃ line, (splitLines text.toList)[4 + i]? = some line ∧
        OuterCells l line first last d.id d.title

/-- A rule whose texts are printable, in a category that holds no markup. -/
structure Presentable (d : Definition) : Prop where
  id : Printable d.id
  title : Printable d.title
  severity : OneLine d.severity
  category : Unmarked d.category

theorem presentable_of_mem (hid : Printable d.id) (htitle : Printable d.title)
    (hseverity : d.severity ∈ severities) (hcategory : d.category ∈ categories) :
    Presentable d := by
  have hseverities : ∀ severity ∈ severities, OneLine severity := by decide +kernel
  have hcategories : ∀ category ∈ categories, Unmarked category := by decide +kernel
  exact ⟨hid, htitle, hseverities d.severity hseverity, hcategories d.category hcategory⟩

def ruleHeads : List String := ruleColumns.map (·.head)

/-- The texts in the row of a rule, by what is shown of its id and of its title. -/
def rowTexts (d : Definition) (id title : String) : List String :=
  [id, d.category, d.severity, d.spec.tag, title]

/-- A console that is wide enough for what is shown of rules. -/
def RulesFit (l : Layout) (definitions : List Definition) : Prop :=
  ∃ widths, tableWidth widths ≤ l.width ∧ l.RowFits widths ruleHeads ∧
    ∀ d ∈ definitions, ∀ id title, l.markup d.id = .ok id → l.markup d.title = .ok title →
      l.RowFits widths (rowTexts d id title)

theorem unmarked_heads : ∀ head ∈ (toolName ++ " Rules") :: ruleHeads,
    Unmarked head ∧ OneLine head := by
  decide +kernel

theorem unmarked_tag (spec : Spec) : Unmarked spec.tag ∧ OneLine spec.tag := by
  cases spec <;> simp only [Spec.tag] <;> decide +kernel

theorem outerColumns_borderLine (first second third fourth last : Nat) :
    OuterColumns (borderLine '┏' '━' '┳' '┓' [first, second, third, fourth, last]) first last :=
  ⟨List.replicate (second + 2) '━' ++ '┳' :: List.replicate (third + 2) '━' ++
    '┳' :: List.replicate (fourth + 2) '━', by simp [borderLine, List.intercalate_cons_cons]⟩

theorem exists_outerColumns {l : Layout} (h : l.RowFits widths ruleHeads) :
    ∃ first last, OuterColumns (borderLine '┏' '━' '┳' '┓' widths) first last := by
  match widths, h with
  | [first, second, third, fourth, last], .cons _ (.cons _ (.cons _ (.cons _ (.cons _ .nil)))) =>
    exact ⟨first, last, outerColumns_borderLine first second third fourth last⟩

theorem fits_outer {l : Layout} {d : Definition} {id title : String}
    (h : l.RowFits widths (rowTexts d id title)) :
    ∃ first last, OuterColumns (borderLine '┏' '━' '┳' '┓' widths) first last ∧
      OuterCells l (l.rowLine '│' widths (rowTexts d id title)) first last id title := by
  match widths, h with
  | [first, second, third, fourth, last],
      .cons hid (.cons _ (.cons _ (.cons _ (.cons htitle .nil)))) =>
    have hcolumns := outerColumns_borderLine first second third fourth last
    refine ⟨first, last, hcolumns, hid, htitle,
      ' ' :: l.padRight second d.category.toList ++ ' ' :: '│' :: ' ' ::
        l.padRight third d.severity.toList ++ ' ' :: '│' :: ' ' ::
        l.padRight fourth d.spec.tag.toList ++ [' '], ?_⟩
    simp [rowTexts, Layout.rowLine, List.intercalate_cons_cons]

theorem count_unique {x y : α} (hne : x ≠ y) {count count' : Nat}
    (h : List.replicate count x ++ y :: back = List.replicate count' x ++ y :: back') :
    count = count' := by
  induction count generalizing count' with
  | zero =>
    cases count' with
    | zero => rfl
    | succ count' => exact absurd (List.cons_eq_cons.mp h).1.symm hne
  | succ count ih =>
    cases count' with
    | zero => exact absurd (List.cons_eq_cons.mp h).1 hne
    | succ count' => exact congrArg (· + 1) (ih (List.cons_eq_cons.mp h).2)

theorem outerColumns_unique (h : OuterColumns top first last) (h' : OuterColumns top first' last') :
    first = first' ∧ last = last' := by
  obtain ⟨middle, rfl⟩ := h
  obtain ⟨middle', heq⟩ := h'
  constructor
  · simp only [List.append_assoc, List.cons_append, List.cons_eq_cons, true_and] at heq
    exact Nat.add_right_cancel (count_unique (by decide) heq)
  · have hback := congrArg List.reverse heq
    simp only [List.reverse_append, List.reverse_cons, List.reverse_nil, List.reverse_replicate,
      List.nil_append, List.append_assoc, List.cons_append, List.cons_eq_cons, true_and] at hback
    exact Nat.add_right_cancel (count_unique (by decide) hback)

section Console

variable {l : Layout} {console : Console} (hdoc : l.Describes console)

include hdoc

/-- Texts in the same place that take as many columns are the same up to blanks at their ends. -/
theorem outerCells_weight {f : Char → Nat} (hblank : f ' ' = 0)
    (h : OuterCells l line first last text text') (h' : OuterCells l line first last found found') :
    weight f text.toList = weight f found.toList ∧
      weight f text'.toList = weight f found'.toList := by
  obtain ⟨htext, htext', middle, rfl⟩ := h
  obtain ⟨hfound, hfound', middle', heq⟩ := h'
  have hcells := (Layout.cells_padRight hdoc htext).trans (Layout.cells_padRight hdoc hfound).symm
  have hcells' :=
    (Layout.cells_padRight hdoc htext').trans (Layout.cells_padRight hdoc hfound').symm
  constructor
  · simp only [List.append_assoc, List.cons_append, List.cons_eq_cons, true_and] at heq
    have hcell := Layout.eq_of_cells_eq hdoc heq hcells
    rw [← l.weight_padRight hblank first, hcell, l.weight_padRight hblank]
  · have hback := congrArg List.reverse heq
    simp only [List.reverse_append, List.reverse_cons, List.reverse_nil, List.nil_append,
      List.append_assoc, List.cons_append, List.cons_eq_cons, true_and] at hback
    rw [Layout.cells, Layout.cells, ← weight_reverse,
      ← weight_reverse (l.padRight last found'.toList)] at hcells'
    have hcell := List.reverse_injective (Layout.eq_of_cells_eq hdoc hback hcells')
    rw [← l.weight_padRight hblank last, hcell, l.weight_padRight hblank]

theorem cells_title_le :
    l.cells (toolName ++ " Rules").toList ≤ tableWidth (ruleHeads.map (l.cells ·.toList)) := by
  have hascii : ∀ text ∈ (toolName ++ " Rules") :: ruleHeads,
      text.toList.all (fun c => 32 ≤ c.toNat && c.toNat < 127) = true := by decide +kernel
  have hcells : ∀ text ∈ (toolName ++ " Rules") :: ruleHeads,
      l.cells text.toList = text.length := by
    intro text htext
    refine weight_eq_length fun c hc => ?_
    have hc := List.all_eq_true.mp (hascii text htext) c hc
    simp only [Bool.and_eq_true, decide_eq_true_eq] at hc
    exact hdoc.ascii c hc.1 hc.2
  obtain ⟨htitle, hheads⟩ := List.forall_mem_cons.mp hcells
  rw [htitle, List.map_congr_left hheads]
  decide +kernel

theorem rules_fault {definitions : List Definition} (stats : Stats) (hd : d ∈ definitions)
    (hname : name = d.id ∨ name = d.title) (h : l.markup name = .error fault) :
    ∃ fault', console.printAll (rulesItems definitions stats) = .error fault' := by
  have hcell : Cell.markup name ∈ ruleCells d := by
    rcases hname with rfl | rfl <;> simp [ruleCells]
  obtain ⟨fault', hfault⟩ : ∃ fault', console.print (.table (toolName ++ " Rules") ruleColumns
      (definitions.map ruleCells)) = .error fault' :=
    hdoc.table_fault (List.mem_map_of_mem hd) hcell h
  exact ⟨fault', by rw [rulesItems, Console.printAll, hfault, error_bind]⟩

theorem cells_ruleCells {id title : String} (h : Presentable d)
    (hid : l.markup d.id = .ok id) (htitle : l.markup d.title = .ok title) :
    List.Forall₂ (fun cell text => l.cellText cell = .ok text) (ruleCells d)
      (rowTexts d id title) :=
  .cons hid (.cons (markup_of_unmarked hdoc h.category)
    (.cons (by simp [Layout.cellText, joined])
      (.cons (markup_of_unmarked hdoc (unmarked_tag d.spec).1) (.cons htitle .nil))))

theorem oneLine_rowTexts {id title : String} (h : Presentable d)
    (hid : l.markup d.id = .ok id) (htitle : l.markup d.title = .ok title) :
    ∀ text ∈ rowTexts d id title, OneLine text := by
  have hcategory := hdoc.oneLine h.category.printable (markup_of_unmarked hdoc h.category)
  simp only [rowTexts, List.forall_mem_cons]
  exact ⟨hdoc.oneLine h.id hid, hcategory, h.severity, (unmarked_tag d.spec).2,
    hdoc.oneLine h.title htitle, by simp⟩

theorem rules_lines {definitions : List Definition} (stats : Stats) {id title : Definition → String}
    (hpresentable : ∀ d ∈ definitions, Presentable d) (hfits : RulesFit l definitions)
    (hshown : ∀ d ∈ definitions, l.markup d.id = .ok (id d) ∧ l.markup d.title = .ok (title d)) :
    ∃ text widths, console.printAll (rulesItems definitions stats) = .ok text ∧
      l.RowFits widths ruleHeads ∧
      (splitLines text.toList)[1]? = some (borderLine '┏' '━' '┳' '┓' widths) ∧
      ∀ i d, definitions[i]? = some d →
        l.RowFits widths (rowTexts d (id d) (title d)) ∧
        (splitLines text.toList)[4 + i]? =
          some (l.rowLine '│' widths (rowTexts d (id d) (title d))) := by
  obtain ⟨htitle, hheads⟩ := List.forall_mem_cons.mp unmarked_heads
  have hkept : List.Forall₂ (fun column head => l.markup column.head = .ok head)
      ruleColumns ruleHeads := by
    rw [ruleHeads, List.forall₂_map_right_iff, List.forall₂_same]
    exact fun column hcolumn => markup_of_unmarked hdoc (hheads _ (List.mem_map_of_mem hcolumn)).1
  have hrows : ∀ row ∈ ruleHeads :: definitions.map fun d => rowTexts d (id d) (title d),
      row.length = 5 ∧ ∀ text ∈ row, OneLine text := by
    rw [List.forall_mem_cons, List.forall_mem_map]
    exact ⟨⟨rfl, fun head hhead => (hheads head hhead).2⟩, fun d hd =>
      ⟨rfl, oneLine_rowTexts hdoc (hpresentable d hd) (hshown d hd).1 (hshown d hd).2⟩⟩
  have hroom : ∃ widths, tableWidth widths ≤ l.width ∧
      ∀ row ∈ ruleHeads :: definitions.map fun d => rowTexts d (id d) (title d),
        l.RowFits widths row := by
    obtain ⟨widths, hwidth, hheadFits, hrowFits⟩ := hfits
    refine ⟨widths, hwidth, ?_⟩
    rw [List.forall_mem_cons, List.forall_mem_map]
    exact ⟨hheadFits, fun d hd => hrowFits d hd _ _ (hshown d hd).1 (hshown d hd).2⟩
  have hbody : List.Forall₂ (List.Forall₂ fun cell text => l.cellText cell = .ok text)
      (definitions.map ruleCells) (definitions.map fun d => rowTexts d (id d) (title d)) := by
    rw [List.forall₂_map_left_iff, List.forall₂_map_right_iff, List.forall₂_same]
    exact fun d hd => cells_ruleCells hdoc (hpresentable d hd) (hshown d hd).1 (hshown d hd).2
  obtain ⟨titleLine, widths, hnewline, hall, hprint⟩ := hdoc.table (by decide) (by decide)
    (markup_of_unmarked hdoc htitle.1) htitle.2 hkept hbody hrows (cells_title_le hdoc) hroom
  obtain ⟨hheadFits, hrowFits⟩ := List.forall_mem_cons.mp hall
  obtain ⟨more, hmore⟩ : ∃ more, console.printAll (rulesItems definitions stats).tail = .ok more :=
    exists_printAll hdoc rfl
  rw [rulesItems, List.tail_cons] at hmore
  refine ⟨_, widths, by rw [rulesItems, Console.printAll, hprint, ok_bind, hmore, ok_bind, pure_ok],
    hheadFits, ?_⟩
  rw [String.toList_append, Source.splitLines_unlines]
  · refine ⟨rfl, fun i d hd => ⟨hrowFits _ (List.mem_map_of_mem (List.mem_of_getElem? hd)), ?_⟩⟩
    have hrow : (definitions.map fun d => rowTexts d (id d) (title d))[i]? =
        some (rowTexts d (id d) (title d)) := by rw [List.getElem?_map, hd, Option.map_some]
    have hline := l.getElem?_tableLines widths ruleHeads hrow
    obtain ⟨hi, -⟩ := List.getElem?_eq_some_iff.mp hline
    rw [show 4 + i = 3 + i + 1 by omega, List.cons_append, List.getElem?_cons_succ,
      List.getElem?_append_left hi, hline]
  · exact List.forall_mem_cons.mpr ⟨hnewline,
      l.newline_notMem_tableLines widths fun row hrow => (hrows row hrow).2⟩

/-- Every row holds the id and the title of its rule exactly if markup leaves them alone. -/
theorem rowsShow_iff {definitions : List Definition} (stats : Stats)
    (hpresentable : ∀ d ∈ definitions, Presentable d) (hfits : RulesFit l definitions) :
    RowsShow l (console.printAll (rulesItems definitions stats)) definitions ↔
      ∀ d ∈ definitions, l.markup d.id = .ok d.id ∧ l.markup d.title = .ok d.title := by
  constructor
  · rintro ⟨text, htext, top, first, last, htop, hcolumns, hrows⟩
    have hshown : ∀ d ∈ definitions, ∃ id title,
        l.markup d.id = .ok id ∧ l.markup d.title = .ok title := by
      have hname (d : Definition) (hd : d ∈ definitions) (name : String)
          (hname : name = d.id ∨ name = d.title) : ∃ shown, l.markup name = .ok shown := by
        cases hshown : l.markup name with
        | ok shown => exact ⟨shown, rfl⟩
        | error fault =>
          obtain ⟨fault', hfault⟩ := rules_fault hdoc stats hd hname hshown
          rw [htext] at hfault
          cases hfault
      intro d hd
      obtain ⟨id, hid⟩ := hname d hd d.id (.inl rfl)
      obtain ⟨title, htitle⟩ := hname d hd d.title (.inr rfl)
      exact ⟨id, title, hid, htitle⟩
    choose! id title hid htitle using hshown
    obtain ⟨text', widths, htext', -, htop', hlines⟩ := rules_lines hdoc stats
      hpresentable hfits fun d hd => ⟨hid d hd, htitle d hd⟩
    obtain rfl := Except.ok.inj (htext.symm.trans htext')
    obtain rfl := Option.some.inj (htop.symm.trans htop')
    intro d hd
    obtain ⟨i, hi⟩ := List.mem_iff_getElem?.mp hd
    obtain ⟨line, hline, hcells⟩ := hrows i d hi
    obtain ⟨hrowFits, hline'⟩ := hlines i d hi
    obtain rfl := Option.some.inj (hline.symm.trans hline')
    obtain ⟨first', last', hcolumns', hcells'⟩ := fits_outer hrowFits
    obtain ⟨rfl, rfl⟩ := outerColumns_unique hcolumns hcolumns'
    obtain ⟨hsame, hsame'⟩ := outerCells_weight hdoc (f := markWeight) (by decide) hcells hcells'
    exact ⟨markup_of_marks_le hdoc (hpresentable d hd).id (hid d hd) hsame.le,
      markup_of_marks_le hdoc (hpresentable d hd).title (htitle d hd) hsame'.le⟩
  · intro hkept
    obtain ⟨text, widths, htext, hheads, htop, hlines⟩ := rules_lines hdoc stats
      hpresentable hfits hkept
    obtain ⟨first, last, hcolumns⟩ := exists_outerColumns hheads
    refine ⟨text, htext, _, first, last, htop, hcolumns, fun i d hd => ?_⟩
    obtain ⟨hrowFits, hline⟩ := hlines i d hd
    obtain ⟨first', last', hcolumns', hcells'⟩ := fits_outer hrowFits
    obtain ⟨rfl, rfl⟩ := outerColumns_unique hcolumns hcolumns'
    exact ⟨_, hline, hcells'⟩

end Console

-- ---------------------------------------------------------------------------
-- All reports
-- ---------------------------------------------------------------------------

def namedRule (id title : String) : Definition where
  id
  title
  description := ""
  severity := "low"
  category := "error"
  spec := .unspecified

theorem roomForSubtitle_of_markup (h : l.markup subtitle = .ok shown)
    (hfits : l.cells shown.toList + 8 ≤ l.width) : RoomForSubtitle l subtitle := by
  intro shown' hshown'
  obtain rfl := Except.ok.inj (h.symm.trans hshown')
  exact hfits

theorem roomForTitles_shell : RoomForTitles (Shell.layout 80) := by
  unfold RoomForTitles
  decide +kernel

def nothingFound (filename : String) : Analysis :=
  { (default : Analysis) with filename, language := "TypeScript" }

theorem reportOn_nothingFound (filename : String) : ReportOn filename
    (analysisItems true (nothingFound filename)) (filename ++ " (" ++ "TypeScript" ++ ")") := by
  have hlabel : IsLabel "TypeScript" := by decide +kernel
  exact .analysis true (nothingFound filename) hlabel

end CodeAudit.Report
