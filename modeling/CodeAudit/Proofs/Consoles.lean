import CodeAudit.Proofs.Lines
import CodeAudit.Terminal.Console
import CodeAudit.Text.Printable
import Mathlib.Data.List.Forall2

/-!
# Documented consoles

What is documented of the console that reports are printed on. Markup has tags in square brackets,
which open and close styles and are not shown, a backslash that takes a bracket its meaning, and
names of emoji between colons. Panels and tables are drawn with lines; as long as there is room,
they hold what they are given on one line.
-/

namespace CodeAudit.Terminal

open CodeAudit.Source (unlines)
open CodeAudit.Text (isBlank)

-- ---------------------------------------------------------------------------
-- Weights
-- ---------------------------------------------------------------------------

/-- The sum of the weights of the characters of a text. -/
def weight (f : Char → Nat) (text : List Char) : Nat := text.foldr (fun c n => f c + n) 0

section

variable {f : Char → Nat}

@[simp] theorem weight_nil : weight f [] = 0 := rfl

@[simp]
theorem weight_cons (c : Char) (text : List Char) :
    weight f (c :: text) = f c + weight f text := rfl

@[simp]
theorem weight_append (front back : List Char) :
    weight f (front ++ back) = weight f front + weight f back := by
  induction front with
  | nil => simp
  | cons c front ih => simp [ih, Nat.add_assoc]

@[simp]
theorem weight_replicate (count : Nat) (c : Char) :
    weight f (List.replicate count c) = count * f c := by
  induction count with
  | zero => simp
  | succ count ih => rw [List.replicate_succ, weight_cons, ih, Nat.succ_mul, Nat.add_comm]

@[simp]
theorem weight_reverse (text : List Char) : weight f text.reverse = weight f text := by
  induction text with
  | nil => rfl
  | cons c text ih => simp [ih, Nat.add_comm]

theorem weight_eq_length {text : List Char} (h : ∀ c ∈ text, f c = 1) :
    weight f text = text.length := by
  induction text with
  | nil => rfl
  | cons c text ih =>
    obtain ⟨hc, htext⟩ := List.forall_mem_cons.mp h
    rw [weight_cons, hc, ih htext, List.length_cons, Nat.add_comm]

theorem weight_le_of_sublist {text text' : List Char} (h : text.Sublist text') :
    weight f text ≤ weight f text' := by
  induction h with
  | slnil => exact Nat.le_refl _
  | cons c _ ih => exact Nat.le_add_left_of_le ih
  | cons_cons c _ ih => exact Nat.add_le_add_left ih (f c)

theorem weight_eq_zero {text : List Char} : weight f text = 0 ↔ ∀ c ∈ text, f c = 0 := by
  induction text with
  | nil => simp
  | cons c text ih => simp [ih]

end

/-- Weights of the characters that mean something in a text with markup. A name of an emoji has two
colons. -/
def markWeight (c : Char) : Nat :=
  if c == '[' || c == '\\' then 2 else if c == ':' then 1 else 0

def marks (text : String) : Nat := weight markWeight text.toList

theorem markWeight_eq_zero {c : Char} (hbracket : c ≠ '[') (hslash : c ≠ '\\') (hcolon : c ≠ ':') :
    markWeight c = 0 := by
  simp [markWeight, hbracket, hslash, hcolon]

theorem weight_markWeight_eq_count {text : List Char} (hbracket : '[' ∉ text)
    (hslash : '\\' ∉ text) : weight markWeight text = text.count ':' := by
  induction text with
  | nil => rfl
  | cons c text ih =>
    obtain ⟨hc, htext⟩ := not_or.mp (mt List.mem_cons.mpr hbracket)
    obtain ⟨hc', htext'⟩ := not_or.mp (mt List.mem_cons.mpr hslash)
    rw [weight_cons, ih htext htext', List.count_cons]
    by_cases hcolon : c = ':'
    · subst hcolon
      rw [if_pos (by rfl), Nat.add_comm]
      rfl
    · rw [if_neg (by simpa using hcolon), markWeight_eq_zero (Ne.symm hc) (Ne.symm hc') hcolon,
        Nat.zero_add, Nat.add_zero]

-- ---------------------------------------------------------------------------
-- Texts of one line
-- ---------------------------------------------------------------------------

def Printable (text : String) : Prop := ∀ c ∈ text.toList, Text.isPrintable c = true

/-- A character that a terminal shows in its place: no control character, and no blank other than
the space. -/
def IsPlain (c : Char) : Prop := 32 ≤ c.toNat ∧ (isBlank c = true → c = ' ')

def OneLine (text : String) : Prop := ∀ c ∈ text.toList, IsPlain c

instance (text : String) : Decidable (Printable text) :=
  List.decidableBAll (Text.isPrintable · = true) text.toList

instance (c : Char) : Decidable (IsPlain c) := inferInstanceAs (Decidable (_ ∧ _))

instance (text : String) : Decidable (OneLine text) := List.decidableBAll IsPlain text.toList

theorem OneLine.notMem_newline (h : OneLine text) : '\n' ∉ text.toList :=
  fun hmem => absurd (h _ hmem).1 (by decide)

theorem OneLine.append (h : OneLine front) (h' : OneLine back) : OneLine (front ++ back) := by
  rw [OneLine, String.toList_append]
  exact List.forall_mem_append.mpr ⟨h, h'⟩

theorem Printable.append (h : Printable front) (h' : Printable back) :
    Printable (front ++ back) := by
  rw [Printable, String.toList_append]
  exact List.forall_mem_append.mpr ⟨h, h'⟩

/-- A text in which markup finds nothing. -/
structure Unmarked (text : String) : Prop where
  printable : Printable text
  noBracket : '[' ∉ text.toList
  noSlash : '\\' ∉ text.toList
  noPair : text.toList.count ':' ≤ 1

instance (text : String) : Decidable (Unmarked text) :=
  decidable_of_iff (Printable text ∧ '[' ∉ text.toList ∧ '\\' ∉ text.toList ∧
    text.toList.count ':' ≤ 1)
    ⟨fun ⟨hprintable, hbracket, hslash, hpair⟩ => ⟨hprintable, hbracket, hslash, hpair⟩,
      fun h => ⟨h.printable, h.noBracket, h.noSlash, h.noPair⟩⟩

/-- A word that is a tag when it stands in brackets. -/
def IsTagName (name : String) : Prop :=
  name.toList.head?.any Char.isLower = true ∧ name.toList.all Char.isAlphanum = true

instance (name : String) : Decidable (IsTagName name) := inferInstanceAs (Decidable (_ ∧ _))

-- ---------------------------------------------------------------------------
-- Layouts
-- ---------------------------------------------------------------------------

/-- How a console shows texts: its width, how many columns a character takes, and what is shown for
a text with markup. -/
structure Layout where
  width : Nat
  columns : Char → Nat
  markup : String → Except Fault String

/-- The styles that panels and columns of tables have, by their names. -/
def frameStyles : List String := ["", "bold", "cyan"]

def IsFrame (text : List Char) : Prop :=
  ∀ c ∈ text, c = ' ' ∨ 0x2500 ≤ c.toNat ∧ c.toNat ≤ 0x257F

/-- A separating line of a table over columns of some widths. -/
def borderLine (left fill cross right : Char) (widths : List Nat) : List Char :=
  left :: [cross].intercalate (widths.map fun width => List.replicate (width + 2) fill) ++ [right]

/-- The columns that a table with columns of some widths takes. -/
def tableWidth (widths : List Nat) : Nat := widths.foldr (fun width n => width + 3 + n) 1

namespace Layout

variable (l : Layout)

def cells (text : List Char) : Nat := weight l.columns text

def padRight (width : Nat) (text : List Char) : List Char :=
  text ++ List.replicate (width - l.cells text) ' '

def cellText : Cell → Except Fault String
  | .markup text => l.markup text
  | .styled text => .ok (joined text)

def RowFits (widths : List Nat) (row : List String) : Prop :=
  List.Forall₂ (fun width text => l.cells text.toList ≤ width) widths row

instance (widths : List Nat) (row : List String) : Decidable (l.RowFits widths row) :=
  inferInstanceAs (Decidable (List.Forall₂ _ _ _))

/-- A row of a table whose cells fit in their columns. -/
def rowLine (bar : Char) (widths : List Nat) (row : List String) : List Char :=
  let parts := List.zipWith (fun width text => ' ' :: l.padRight width text.toList ++ [' '])
    widths row
  bar :: [bar].intercalate parts ++ [bar]

def tableLines (widths : List Nat) (heads : List String) (rows : List (List String)) :
    List (List Char) :=
  borderLine '┏' '━' '┳' '┓' widths :: l.rowLine '┃' widths heads ::
    borderLine '┡' '━' '╇' '┩' widths :: rows.map (l.rowLine '│' widths) ++
    [borderLine '└' '─' '┴' '┘' widths]

/-- The console is documented to show texts in this way. -/
structure Describes (console : Console) : Prop where
  ascii : ∀ c : Char, 32 ≤ c.toNat → c.toNat < 127 → l.columns c = 1
  /-- Without a bracket and a pair of colons there is no markup. -/
  plain : Printable text → '[' ∉ text.toList → text.toList.count ':' ≤ 1 → l.markup text = .ok text
  /-- A tag opens a style and is not shown. -/
  tag : Unmarked front → IsTagName name → Unmarked back →
    l.markup (front ++ "[" ++ name ++ "]" ++ back) = .ok (front ++ back)
  /-- A tag that closes a style which is not open is an error. -/
  unopened : Unmarked front → IsTagName name → Unmarked back →
    ∃ fault, l.markup (front ++ "[/" ++ name ++ "]" ++ back) = .error fault
  /-- All that markup does is to take away: the bracket of a tag, the backslash before a bracket, or
  the two colons of an emoji. -/
  lighter : Printable text → l.markup text = .ok shown →
    shown = text ∨ marks shown + 2 ≤ marks text
  /-- What is shown in place of the name of an emoji is no control character either. -/
  oneLine : Printable text → l.markup text = .ok shown → OneLine shown
  blank : ∃ shown, console.print .blank = .ok shown
  styled : ∀ text, ∃ shown, console.print (.styled text) = .ok shown
  /-- A panel has its content between two borders, the lower one of which holds the subtitle. It
  leaves two columns beside its content at each end, and four beside the subtitle. -/
  panel : border ∈ frameStyles → l.markup subtitle = .ok shown →
    OneLine (joined content) → l.cells (joined content).toList + 4 ≤ l.width →
    OneLine shown → l.cells shown.toList + 8 ≤ l.width →
    ∃ top left right left' right',
      IsFrame top ∧ IsFrame left ∧ IsFrame right ∧ IsFrame left' ∧ IsFrame right' ∧
      console.print (.panel content subtitle border) = .ok (unlines
        [top, left ++ (joined content).toList ++ right, left' ++ shown.toList ++ right'])
  /-- Markup that is at fault is not printed. -/
  panel_fault : l.markup subtitle = .error fault →
    ∃ fault', console.print (.panel content subtitle border) = .error fault'
  /-- The columns of a table are as wide as its cells need them, if the console is wide enough. -/
  table : (∀ column ∈ cols, column.style ∈ frameStyles) → cols ≠ [] →
    l.markup title = .ok title → OneLine title →
    List.Forall₂ (fun column head => l.markup column.head = .ok head) cols heads →
    List.Forall₂ (List.Forall₂ fun cell text => l.cellText cell = .ok text) rows texts →
    (∀ row ∈ heads :: texts, row.length = cols.length ∧ ∀ text ∈ row, OneLine text) →
    l.cells title.toList ≤ tableWidth (heads.map (l.cells ·.toList)) →
    (∃ widths, tableWidth widths ≤ l.width ∧ ∀ row ∈ heads :: texts, l.RowFits widths row) →
    ∃ titleLine widths, '\n' ∉ titleLine ∧ (∀ row ∈ heads :: texts, l.RowFits widths row) ∧
      console.print (.table title cols rows) =
        .ok (unlines (titleLine :: l.tableLines widths heads texts))
  table_fault : row ∈ rows → cell ∈ row → l.cellText cell = .error fault →
    ∃ fault', console.print (.table title cols rows) = .error fault'

end Layout

end CodeAudit.Terminal
