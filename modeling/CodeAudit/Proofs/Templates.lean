import CodeAudit.Proofs.Replacing
import CodeAudit.Scan.Finding
import Mathlib.Data.List.Forall2

/-!
# Command templates

A command is a template with places for the matched text and for the name of the file. `fillAtOnce`
fills in both at once, so that nothing but these places changes. A finding is filled in one
placeholder after the other, and what the matched text spells may then be taken for the second one
(`Captures`). That makes a difference, and nothing else does (`fillVerification_templates`).
-/

namespace CodeAudit.Scan

open CodeAudit.Rule (Verification)
open CodeAudit.Text

-- ---------------------------------------------------------------------------
-- Slots
-- ---------------------------------------------------------------------------

/-- What stands at a place of a template. -/
inductive Slot where
  | char (c : Char)
  | matched
  | filename
  deriving DecidableEq, Repr

/-- The slots of a template, from left to right. `skip` counts the characters of a placeholder that
are still to be dropped. -/
def slotsFrom : List Char → (skip : Nat) → List Slot
  | [], _ => []
  | _ :: rest, skip + 1 => slotsFrom rest skip
  | c :: rest, 0 =>
    if matchedPlaceholder.toList.isPrefixOf (c :: rest) then
      .matched :: slotsFrom rest (matchedPlaceholder.toList.length - 1)
    else if filenamePlaceholder.toList.isPrefixOf (c :: rest) then
      .filename :: slotsFrom rest (filenamePlaceholder.toList.length - 1)
    else .char c :: slotsFrom rest 0

def slots (command : List Char) : List Slot := slotsFrom command 0

def Slot.text (shown filename : List Char) : Slot → List Char
  | .char c => [c]
  | .matched => shown
  | .filename => filename

def fillAtOnce (matched filename command : String) : String :=
  String.ofList ((slots command.toList).flatMap
    (Slot.text (preview matched).toList filename.toList))

theorem matchedPlaceholder_toList :
    matchedPlaceholder.toList = '<' :: 'm' :: "atched_value>".toList := rfl

theorem filenamePlaceholder_toList :
    filenamePlaceholder.toList = '<' :: 'f' :: "ilename>".toList := rfl

theorem not_prefix_filename (rest : List Char) :
    ¬ matchedPlaceholder.toList <+: filenamePlaceholder.toList ++ rest := by
  rw [matchedPlaceholder_toList, filenamePlaceholder_toList]
  simp [List.cons_prefix_cons]

theorem slotsFrom_skip (command : List Char) (skip : Nat) :
    slotsFrom command skip = slots (command.drop skip) := by
  induction command generalizing skip with
  | nil => rw [List.drop_nil, slots, slotsFrom, slotsFrom]
  | cons c rest ih =>
    cases skip with
    | zero => rfl
    | succ skip => rw [slotsFrom, ih, List.drop_succ_cons]

@[simp] theorem slots_nil : slots [] = [] := rfl

@[simp]
theorem slots_matched (rest : List Char) :
    slots (matchedPlaceholder.toList ++ rest) = .matched :: slots rest := by
  have hprefix := List.isPrefixOf_iff_prefix.mpr
    (List.prefix_append matchedPlaceholder.toList rest)
  rw [matchedPlaceholder_toList, List.cons_append] at hprefix ⊢
  rw [slots, slotsFrom, matchedPlaceholder_toList, if_pos hprefix, slotsFrom_skip]
  simp

@[simp]
theorem slots_filename (rest : List Char) :
    slots (filenamePlaceholder.toList ++ rest) = .filename :: slots rest := by
  have hprefix := List.isPrefixOf_iff_prefix.mpr
    (List.prefix_append filenamePlaceholder.toList rest)
  have hnot := mt List.isPrefixOf_iff_prefix.mp (not_prefix_filename rest)
  rw [filenamePlaceholder_toList, List.cons_append] at hprefix hnot ⊢
  rw [slots, slotsFrom, if_neg hnot, filenamePlaceholder_toList, if_pos hprefix, slotsFrom_skip]
  simp

theorem slots_char (hmatched : ¬ matchedPlaceholder.toList <+: c :: rest)
    (hfilename : ¬ filenamePlaceholder.toList <+: c :: rest) :
    slots (c :: rest) = .char c :: slots rest := by
  rw [slots, slotsFrom, if_neg (mt List.isPrefixOf_iff_prefix.mp hmatched),
    if_neg (mt List.isPrefixOf_iff_prefix.mp hfilename), slots]

theorem template_induction {motive : List Char → Prop} (nil : motive [])
    (matched : ∀ rest, motive rest → motive (matchedPlaceholder.toList ++ rest))
    (filename : ∀ rest, motive rest → motive (filenamePlaceholder.toList ++ rest))
    (char : ∀ c rest, ¬ matchedPlaceholder.toList <+: c :: rest →
      ¬ filenamePlaceholder.toList <+: c :: rest → motive rest → motive (c :: rest))
    (command : List Char) : motive command := by
  induction hlength : command.length using Nat.strong_induction_on generalizing command with
  | _ n ih =>
    have hrest {front rest : List Char} (hfront : 0 < front.length)
        (hsplit : front ++ rest = command) : motive rest := by
      have hsum := congrArg List.length hsplit
      rw [List.length_append] at hsum
      exact ih rest.length (by omega) rest rfl
    by_cases hmatched : matchedPlaceholder.toList <+: command
    · obtain ⟨rest, hsplit⟩ := hmatched
      exact hsplit ▸ matched rest (hrest (by decide) hsplit)
    by_cases hfilename : filenamePlaceholder.toList <+: command
    · obtain ⟨rest, hsplit⟩ := hfilename
      exact hsplit ▸ filename rest (hrest (by decide) hsplit)
    cases command with
    | nil => exact nil
    | cons c rest =>
      have hne : 0 < [c].length := Nat.zero_lt_one
      exact char c rest hmatched hfilename (hrest hne rfl)

theorem slots_bracket (front rest : List Char) :
    slots (front ++ '<' :: rest) = slots front ++ slots ('<' :: rest) := by
  have hshort {tail front : List Char} (htail : '<' ∉ tail) {c : Char}
      (h : '<' :: tail <+: c :: front ++ '<' :: rest) : '<' :: tail <+: c :: front := by
    rw [List.cons_append, List.cons_prefix_cons] at h
    exact List.cons_prefix_cons.mpr ⟨h.1, prefix_of_notMem htail h.2⟩
  induction front using template_induction with
  | nil => rfl
  | matched front ih => rw [List.append_assoc, slots_matched, slots_matched, ih]; rfl
  | filename front ih => rw [List.append_assoc, slots_filename, slots_filename, ih]; rfl
  | char c front hmatched hfilename ih =>
    rw [slots_char hmatched hfilename, List.cons_append, slots_char, ih, List.cons_append]
    · exact mt (hshort (by decide)) hmatched
    · exact mt (hshort (by decide)) hfilename

theorem slots_append_matched (front rest : List Char) :
    slots (front ++ (matchedPlaceholder.toList ++ rest)) =
      slots front ++ .matched :: slots rest := by
  rw [← slots_matched]
  exact slots_bracket front _

-- ---------------------------------------------------------------------------
-- One placeholder after the other
-- ---------------------------------------------------------------------------

/-- A slot once the matched text has been filled in: the name of the file is still missing. -/
def Slot.gapped (shown : List Char) : Slot → List (Option Char)
  | .char c => [some c]
  | .matched => shown.map some
  | .filename => [none]

/-- A template once the matched text has been filled in, with gaps for the name of the file. -/
def gapped (shown command : List Char) : List (Option Char) :=
  (slots command).flatMap (Slot.gapped shown)

@[simp] theorem gapped_nil (shown : List Char) : gapped shown [] = [] := rfl

@[simp]
theorem gapped_matched (shown rest : List Char) :
    gapped shown (matchedPlaceholder.toList ++ rest) = shown.map some ++ gapped shown rest := by
  simp [gapped, Slot.gapped]

@[simp]
theorem gapped_filename (shown rest : List Char) :
    gapped shown (filenamePlaceholder.toList ++ rest) = none :: gapped shown rest := by
  simp [gapped, Slot.gapped]

theorem gapped_char (hmatched : ¬ matchedPlaceholder.toList <+: c :: rest)
    (hfilename : ¬ filenamePlaceholder.toList <+: c :: rest) (shown : List Char) :
    gapped shown (c :: rest) = some c :: gapped shown rest := by
  simp [gapped, slots_char hmatched hfilename, Slot.gapped]

theorem fill_gapped (shown filename command : List Char) :
    fill filename (gapped shown command) =
      (slots command).flatMap (Slot.text shown filename) := by
  simp only [gapped, fill, List.flatMap_assoc]
  refine List.flatMap_congr fun slot _ => ?_
  cases slot with
  | char c => rfl
  | matched => simp [Slot.gapped, Slot.text, List.flatMap_map]
  | filename => simp [Slot.gapped, Slot.text]

theorem replaceFrom_matched (shown command : List Char) :
    replaceFrom matchedPlaceholder.toList shown command 0 =
      fill filenamePlaceholder.toList (gapped shown command) := by
  induction command using template_induction with
  | nil => simp [replaceFrom]
  | matched rest ih =>
    rw [replaceFrom_piece (by decide), gapped_matched, fill_map_some, ih]
  | filename rest ih =>
    rw [gapped_filename, fill_none, ← ih]
    have hnot := not_prefix_filename rest
    rw [filenamePlaceholder_toList, List.cons_append] at hnot ⊢
    rw [replaceFrom_cons hnot, matchedPlaceholder_toList, replaceFrom_of_notMem (by decide)]
    rfl
  | char c rest hmatched hfilename ih =>
    rw [replaceFrom_cons hmatched, gapped_char hmatched hfilename, fill_some, ih]

theorem fillCommand_eq_iff (matched filename command : String) :
    fillCommand matched filename command = fillAtOnce matched filename command ↔
      filename = filenamePlaceholder ∨ ¬ filenamePlaceholder.toList.map some <:+:
        gapped (preview matched).toList command.toList := by
  have hnotMem : '<' ∉ 'f' :: "ilename>".toList := by decide
  have hiff := replaceFrom_fill_eq_iff hnotMem filename.toList
    (gapped (preview matched).toList command.toList)
  rw [← filenamePlaceholder_toList, String.toList_inj] at hiff
  rw [← hiff, ← replaceFrom_matched, fill_gapped, ← String.toList_inj]
  simp [fillCommand, fillAtOnce, replaceAll]

-- ---------------------------------------------------------------------------
-- Placeholders that the matched text spells
-- ---------------------------------------------------------------------------

/-- Filling in the matched text makes a new placeholder for the name of the file: the part that is
shown has one in it, or starts with the end of one whose beginning stands right before a place for
the matched text. -/
inductive Captures (matched command : List Char) : Prop where
  | within (hplace : matchedPlaceholder.toList <:+: command)
      (hshown : filenamePlaceholder.toList <:+: matched.take previewLength)
  | across (start stop : List Char) (hsplit : filenamePlaceholder.toList = start ++ stop)
      (hstart : start ≠ []) (hstop : stop ≠ [])
      (hplace : start ++ matchedPlaceholder.toList <:+: command)
      (hshown : stop <+: matched.take previewLength)

theorem Captures.mono (h : Captures matched command) (hpart : command <:+: command') :
    Captures matched command' := by
  cases h with
  | within hplace hshown => exact .within (hplace.trans hpart) hshown
  | across start stop hsplit hstart hstop hplace hshown =>
    exact .across start stop hsplit hstart hstop (hplace.trans hpart) hshown

def shown (matched : List Char) : List Char :=
  matched.take previewLength ++ ['.', '.', '.']

theorem preview_toList (matched : String) : (preview matched).toList = shown matched.toList := by
  simp [preview, shown]

/-- Text that is found in a template with the matched text filled in stands in the template, or
reaches into the first matched text. -/
theorem reaches_of_prefix (hstop : '.' ∉ t) (h : t.map some <+: gapped (shown matched) command) :
    t <+: command ∨ ∃ start stop, t = start ++ stop ∧ stop ≠ [] ∧
      start ++ matchedPlaceholder.toList <+: command ∧ stop <+: matched.take previewLength := by
  induction command using template_induction generalizing t with
  | nil => simp_all
  | matched rest =>
    cases t with
    | nil => simp
    | cons c t =>
      rw [gapped_matched, shown, List.map_append, List.append_assoc] at h
      have hshown := prefix_of_notMem (by simpa using hstop) h
      rw [List.prefix_map_iff_of_injective fun _ _ => Option.some.inj] at hshown
      exact .inr ⟨[], c :: t, rfl, List.cons_ne_nil c t, List.prefix_append _ _, hshown⟩
  | filename rest =>
    cases t with
    | nil => simp
    | cons c t => simp [List.cons_prefix_cons] at h
  | char c rest hmatched hfilename ih =>
    cases t with
    | nil => simp
    | cons x t =>
      rw [gapped_char hmatched hfilename, List.map_cons, List.cons_prefix_cons,
        Option.some_inj] at h
      obtain ⟨rfl, h⟩ := h
      obtain htext | ⟨start, stop, rfl, hne, hplace, hshown⟩ :=
        ih (fun hmem => hstop (List.mem_cons_of_mem _ hmem)) h
      · exact .inl (List.cons_prefix_cons.mpr ⟨rfl, htext⟩)
      · exact .inr ⟨x :: start, stop, rfl, hne, List.cons_prefix_cons.mpr ⟨rfl, hplace⟩, hshown⟩

/-- A placeholder that is found beside the gaps ends in a matched text, since the dots behind each
matched text are not part of it. -/
theorem captures_of_gapped
    (h : filenamePlaceholder.toList.map some <:+: gapped (shown matched) command) :
    Captures matched command := by
  have hstop : '.' ∉ filenamePlaceholder.toList := by decide
  have hsome : some '.' ∉ filenamePlaceholder.toList.map some := by decide
  induction command using template_induction with
  | nil => simp [filenamePlaceholder_toList] at h
  | matched rest ih =>
    rw [gapped_matched, shown, List.map_append, List.append_assoc] at h
    have hback {rest} (h : filenamePlaceholder.toList.map some <:+: [] ++ some '.' :: rest) :
        filenamePlaceholder.toList.map some <:+: rest :=
      (infix_of_notMem hsome h).resolve_left (by simp [filenamePlaceholder_toList])
    rcases infix_of_notMem hsome h with hshown | hrest
    · obtain ⟨w, hw, heq⟩ := List.infix_map_iff.mp hshown
      rw [List.map_inj_right fun _ _ => Option.some.inj] at heq
      exact .within (List.infix_append_left) (heq ▸ hw)
    · exact (ih (hback (hback hrest))).mono List.infix_append_right
  | filename rest ih =>
    rw [gapped_filename, List.infix_cons_iff] at h
    refine (ih (h.resolve_left ?_)).mono List.infix_append_right
    simp [filenamePlaceholder_toList, List.cons_prefix_cons]
  | char c rest hmatched hfilename ih =>
    rw [gapped_char hmatched hfilename] at h
    rcases List.infix_cons_iff.mp h with hprefix | hrest
    · rw [← gapped_char hmatched hfilename] at hprefix
      obtain htext | ⟨start, stop, hsplit, hne, hplace, hshown⟩ := reaches_of_prefix hstop hprefix
      · exact absurd htext hfilename
      · refine .across start stop hsplit ?_ hne hplace.isInfix hshown
        rintro rfl
        exact hmatched hplace
    · exact (ih hrest).mono (List.infix_cons List.infix_rfl)

theorem slots_beginning (hsplit : filenamePlaceholder.toList = start ++ stop) (hstop : stop ≠ []) :
    slots start = start.map .char := by
  have hall : ∀ n < filenamePlaceholder.toList.length,
      slots (filenamePlaceholder.toList.take n) =
        (filenamePlaceholder.toList.take n).map .char := by
    decide
  have hlength := congrArg List.length hsplit
  have hpos := List.length_pos_of_ne_nil hstop
  rw [List.length_append] at hlength
  have hstart := hall start.length (by omega)
  rwa [hsplit, List.take_left] at hstart

theorem slots_of_place (hsplit : filenamePlaceholder.toList = start ++ stop) (hstop : stop ≠ [])
    (h : start ++ matchedPlaceholder.toList <:+: command) :
    start.map .char ++ [.matched] <:+: slots command := by
  obtain ⟨front, rest, rfl⟩ := h
  refine ⟨slots front, slots rest, ?_⟩
  rw [← slots_beginning hsplit hstop]
  cases start with
  | nil => simp [slots_append_matched]
  | cons c start =>
    obtain rfl : '<' = c := by
      rw [filenamePlaceholder_toList, List.cons_append, List.cons.injEq] at hsplit
      exact hsplit.1
    have hbracket := slots_append_matched ('<' :: start) rest
    simp only [List.cons_append] at hbracket
    simp [slots_bracket, hbracket]

theorem flatMap_gapped (shown start : List Char) :
    (start.map Slot.char ++ [Slot.matched]).flatMap (Slot.gapped shown) =
      (start ++ shown).map some := by
  induction start with
  | nil => simp [Slot.gapped]
  | cons c start ih => simpa [Slot.gapped] using ih

theorem gapped_of_captures (h : Captures matched command) :
    filenamePlaceholder.toList.map some <:+: gapped (shown matched) command := by
  cases h with
  | within hplace hshown =>
    have hslots := slots_of_place (List.nil_append _).symm (by decide) hplace
    have hgapped := hslots.flatMap (Slot.gapped (shown matched))
    rw [flatMap_gapped] at hgapped
    exact ((hshown.trans List.infix_append_left).map some).trans hgapped
  | across start stop hsplit hstart hstop hplace hshown =>
    have hslots := slots_of_place hsplit hstop hplace
    have hgapped := hslots.flatMap (Slot.gapped (shown matched))
    rw [flatMap_gapped] at hgapped
    have hprefix : start ++ stop <+: start ++ shown matched :=
      (List.prefix_append_right_inj start).mpr (hshown.trans (List.prefix_append _ _))
    exact (hsplit ▸ hprefix.isInfix.map some).trans hgapped

/-- Filling in one placeholder after the other is the same as filling in both at once, unless the
matched text makes a new placeholder and the name of the file is another text. -/
theorem fillCommand_eq_fillAtOnce_iff (matched filename command : String) :
    fillCommand matched filename command = fillAtOnce matched filename command ↔
      filename = filenamePlaceholder ∨ ¬ Captures matched.toList command.toList := by
  rw [fillCommand_eq_iff, preview_toList]
  exact or_congr_right (not_congr ⟨captures_of_gapped, gapped_of_captures⟩)

/-- A verification is filled in command by command and nothing else in it changes. A command is the
template with both placeholders filled in at once, exactly unless the matched text makes a new
placeholder and the name of the file is another text. -/
theorem fillVerification_templates (v : Verification) (matched filename : String) :
    let filled := fillVerification matched filename v
    filled = { v with commands := filled.commands } ∧
      List.Forall₂ (fun command result => result = fillAtOnce matched filename command ↔
        filename = filenamePlaceholder ∨ ¬ Captures matched.toList command.toList)
      v.commands filled.commands := by
  refine ⟨rfl, ?_⟩
  rw [fillVerification, List.forall₂_map_right_iff, List.forall₂_same]
  exact fun command _ => fillCommand_eq_fillAtOnce_iff matched filename command

/-- A matched text that is itself the placeholder is replaced by the name of the file. -/
theorem fillVerification_captured :
    let v : Verification := { commands := ["grep <matched_value> <filename>"] }
    (fillVerification "<filename>" "a.ts" v).commands ≠
      v.commands.map (fillAtOnce "<filename>" "a.ts") := by
  decide

end CodeAudit.Scan
