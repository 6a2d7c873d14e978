import CodeAudit.Shell.Wrap

/-!
# Panels

A panel is a box with rounded corners as wide as the terminal, with a text in it and a subtitle in
its lower border.
-/

namespace CodeAudit.Shell

open CodeAudit.Source (unlines)

def rule (width : Nat) : List Char := List.replicate width '─'

def subtitleText (subtitle : String) : List Char :=
  let text := subtitle.toList.filter (!isSuppressed ·)
  let line := text.map fun c => if c == '\n' then ' ' else c
  ' ' :: expandTabs 0 line ++ [' ']

/-- A text in the middle of a border, cut if it is too long. A column that is left over goes to the
right. -/
def centered (width : Nat) (text : List Char) : List Char :=
  let text := cut .fold width text
  let free := width - cells text
  trimEnd width (rule (free / 2) ++ text ++ rule (free - free / 2))

def panelBottom (width : Nat) (subtitle : Option String) : List Char :=
  match subtitle with
  | some subtitle =>
    if width ≤ 4 then '╰' :: rule (width - 2) ++ ['╯']
    else '╰' :: '─' :: centered (width - 4) (subtitleText subtitle) ++ ['─', '╯']
  | none => '╰' :: rule (width - 2) ++ ['╯']

def panel (width : Nat) (text : String) (subtitle : Option String) : String :=
  let row (line : List Char) : List Char := '│' :: ' ' :: padRight (width - 4) line ++ [' ', '│']
  let top := '╭' :: rule (width - 2) ++ ['╮']
  unlines (top :: (wrap .fold (width - 4) text).map row ++ [panelBottom width subtitle])

end CodeAudit.Shell
