import CodeAudit.Proofs.Builtin
import CodeAudit.Proofs.Preference

/-!
# Handlers with comments in them

A handler that begins with a comment is taken up to a closing brace, and what lies between is not
looked at: behind a line comment that is the first brace at all, and behind a block comment the
first brace that follows the end of a comment. So there are only comments in such a handler exactly
if there are only comments behind its first one (`commentOnly_takes`).
-/

namespace CodeAudit.Rule

open CodeAudit.Regex
open CodeAudit.Text (isBlank)

variable {text : Array Char}

-- ---------------------------------------------------------------------------
-- Handlers and comments
-- ---------------------------------------------------------------------------

/-- The head of a handler, up to the opening brace and with it. -/
def HandlerOpens (text : Array Char) : Stretch := fun i b =>
  ∃ a p p' q q' c, Stands text "catch" i a ∧ AllBetween text isBlank a p ∧ Stands text "(" p p' ∧
    AllBetween text (· != ')') p' q ∧ Stands text ")" q q' ∧ AllBetween text isBlank q' c ∧
    Stands text "\x7b" c b

/-- A handler of which the body starts with a mark, after any number of blanks. -/
def HandlerBegins (text : Array Char) (mark : String) (i b a c : Nat) : Prop :=
  HandlerOpens text i b ∧ AllBetween text isBlank b a ∧ Stands text mark a c

/-- A handler of which the body starts with a mark, up to the first place behind it where something
closes it. -/
def Handler (text : Array Char) (mark : String) (close : Stretch) : Stretch := fun i k =>
  ∃ b a c, HandlerBegins text mark i b a c ∧ FirstOf close c k

/-- The end of a comment, any number of blanks, and a closing brace. -/
def ClosesHandler (text : Array Char) : Stretch := fun e k =>
  ∃ a b, Stands text "*/" e a ∧ AllBetween text isBlank a b ∧ Stands text "\x7d" b k

/-- There is nothing but blanks and comments between two places. A line comment ends with its line
or at the second place, a block comment at the first mark that ends one. -/
inductive OnlyComments (text : Array Char) : Nat → Nat → Prop where
  | done (i : Nat) : OnlyComments text i i
  | blank (hblank : ∃ c, text[i]? = some c ∧ isBlank c = true)
      (hrest : OnlyComments text (i + 1) j) : OnlyComments text i j
  | line (hmark : Stands text "//" i a) (hend : FirstOf (Stands text "\n") a b)
      (hrest : OnlyComments text b j) : OnlyComments text i j
  | lastLine (hmark : Stands text "//" i a) (hle : a ≤ j)
      (hend : ∀ b, FirstOf (Stands text "\n") a b → j < b) : OnlyComments text i j
  | block (hmark : Stands text "/*" i a) (hend : FirstOf (Stands text "*/") a b)
      (hrest : OnlyComments text b j) : OnlyComments text i j

namespace OnlyComments

theorem first (h : OnlyComments text i j) (hlt : i < j) :
    text[i]?.any (fun c => isBlank c || c == '/') = true := by
  rw [Option.any_eq_true]
  cases h with
  | done => omega
  | blank hblank =>
    obtain ⟨c, hc, hblank⟩ := hblank
    exact ⟨c, hc, by rw [hblank, Bool.true_or]⟩
  | line hmark | lastLine hmark | block hmark => exact ⟨'/', hmark.char (k := 0) rfl, by decide⟩

theorem not_blank (hmark : Stands text mark i a) (hfirst : mark.toList[0]? = some '/') :
    ¬ ∃ c, text[i]? = some c ∧ isBlank c = true := by
  rintro ⟨c, hc, hblank⟩
  obtain rfl := Option.some.inj (hc.symm.trans (hmark.char hfirst))
  exact absurd hblank (by decide)

theorem blank_iff (hblank : ∃ c, text[i]? = some c ∧ isBlank c = true) (hlt : i < j) :
    OnlyComments text i j ↔ OnlyComments text (i + 1) j := by
  refine ⟨fun h => ?_, .blank hblank⟩
  cases h with
  | done => omega
  | blank _ hrest => exact hrest
  | line hmark => exact absurd hblank (not_blank hmark rfl)
  | lastLine hmark => exact absurd hblank (not_blank hmark rfl)
  | block hmark => exact absurd hblank (not_blank hmark rfl)

theorem blanks_iff (h : AllBetween text isBlank i j) (hle : j ≤ k) :
    OnlyComments text i k ↔ OnlyComments text j k := by
  obtain ⟨n, rfl⟩ := Nat.exists_eq_add_of_le h.1
  -- The blanks are left out one by one, from the left.
  induction n generalizing i with
  | zero => rfl
  | succ n ih =>
    have hrest := h.drop (Nat.le_succ i) (by omega)
    rw [blank_iff (h.2 i (Nat.le_refl i) (by omega)) (by omega)]
    rw [show i + (n + 1) = i + 1 + n by omega] at hle hrest ⊢
    exact ih hrest hle

theorem not_both (hline : Stands text "//" i a) (hblock : Stands text "/*" i b) : False := by
  have hslash : text[i + 1]? = some '/' := hline.char (k := 1) rfl
  have hstar : text[i + 1]? = some '*' := hblock.char (k := 1) rfl
  exact absurd (hslash.symm.trans hstar) (by decide)

theorem line_iff (hmark : Stands text "//" i a) (hle : a ≤ j) : OnlyComments text i j ↔
    ∀ b, FirstOf (Stands text "\n") a b → b ≤ j → OnlyComments text b j := by
  have ha : a = i + 2 := hmark.2
  constructor
  · intro h b hend hb
    cases h with
    | done => omega
    | blank hblank => exact absurd hblank (not_blank hmark rfl)
    | line hmark' hend' hrest =>
      obtain rfl := stands_unique _ hmark hmark'
      obtain rfl := FirstOf.unique (stands_unique _) hend hend'
      exact hrest
    | lastLine hmark' _ hend' =>
      obtain rfl := stands_unique _ hmark hmark'
      exact absurd hb (Nat.not_le.mpr (hend' b hend))
    | block hmark' => exact (not_both hmark hmark').elim
  · intro h
    by_cases hline : ∃ b, FirstOf (Stands text "\n") a b ∧ b ≤ j
    · obtain ⟨b, hend, hb⟩ := hline
      exact .line hmark hend (h b hend hb)
    · exact .lastLine hmark hle fun b hend => Nat.not_le.mp fun hb => hline ⟨b, hend, hb⟩

theorem block_iff (hmark : Stands text "/*" i a) (hend : FirstOf (Stands text "*/") a b)
    (hlt : i < j) : OnlyComments text i j ↔ OnlyComments text b j := by
  refine ⟨fun h => ?_, .block hmark hend⟩
  cases h with
  | done => omega
  | blank hblank => exact absurd hblank (not_blank hmark rfl)
  | line hmark' => exact (not_both hmark' hmark).elim
  | lastLine hmark' => exact (not_both hmark' hmark).elim
  | block hmark' hend' hrest =>
    obtain rfl := stands_unique _ hmark hmark'
    obtain rfl := FirstOf.unique (stands_unique _) hend hend'
    exact hrest

end OnlyComments

-- ---------------------------------------------------------------------------
-- The trees
-- ---------------------------------------------------------------------------

def notClosing : Charset := { negated := true, items := [.single 41] }

def handlerFront (mark : String) : List Node :=
  Node.letters "catch" ++ ([.blanks] ++ (Node.letters "(" ++
    ([.repeated .greedy 0 none (.char notClosing)] ++ (Node.letters ")" ++ ([.blanks] ++
      (Node.letters "\x7b" ++ ([.blanks] ++ Node.letters mark)))))))

def lineHandlerTree : Node :=
  .ofList (handlerFront "//" ++ ([.repeated .reluctant 0 none (.char .all)] ++
    ([.blanks] ++ Node.letters "\x7d")))

def blockHandlerTree : Node :=
  .ofList (handlerFront "/*" ++ ([.anything] ++
    (Node.letters "*/" ++ ([.blanks] ++ Node.letters "\x7d"))))

theorem handlerOpens_unique : Relator.RightUnique (HandlerOpens text) := by
  rintro i b b' ⟨a, p, p', q, q', c, hcatch, hblanks, hopen, hparams, hclose, hblanks', hbrace⟩
    ⟨a₂, p₂, p₂', q₂, q₂', c₂, hcatch₂, hblanks₂, hopen₂, hparams₂, hclose₂, hblanks₂', hbrace₂⟩
  obtain rfl := stands_unique _ hcatch hcatch₂
  obtain rfl := (hblanks.upTo hopen ⟨'(', rfl, by decide⟩).unique
    (hblanks₂.upTo hopen₂ ⟨'(', rfl, by decide⟩)
  obtain rfl := stands_unique _ hopen hopen₂
  obtain rfl := (hparams.upTo hclose ⟨')', rfl, by decide⟩).unique
    (hparams₂.upTo hclose₂ ⟨')', rfl, by decide⟩)
  obtain rfl := stands_unique _ hclose hclose₂
  obtain rfl := (hblanks'.upTo hbrace ⟨'\x7b', rfl, by decide⟩).unique
    (hblanks₂'.upTo hbrace₂ ⟨'\x7b', rfl, by decide⟩)
  exact stands_unique _ hbrace hbrace₂

theorem HandlerBegins.unique (hsolid : ∃ c ∈ mark.toList[0]?, isBlank c = false)
    (h : HandlerBegins text mark i b a c) (h' : HandlerBegins text mark i b' a' c') :
    b = b' ∧ a = a' ∧ c = c' := by
  obtain ⟨hopens, hblanks, hmark⟩ := h
  obtain ⟨hopens', hblanks', hmark'⟩ := h'
  obtain rfl := handlerOpens_unique hopens hopens'
  obtain rfl := (hblanks.upTo hmark hsolid).unique (hblanks'.upTo hmark' hsolid)
  exact ⟨rfl, rfl, stands_unique _ hmark hmark'⟩

theorem means_handlerFront : Node.Means text (.ofList (handlerFront mark)) fun i c =>
    ∃ b a, HandlerBegins text mark i b a c := by
  have hblanks : Node.Means text (.ofList [.blanks]) _ := Node.means_blanks
  have hparams : Node.Means text (.ofList [.repeated .greedy 0 none (.char notClosing)])
      (AllBetween text (· != ')')) := by
    have haccepts : notClosing.accepts = (· != ')') := by
      funext x
      have hclosing : x.toNat = 41 ↔ x = ')' := @Char.toNat_inj x ')'
      simp [notClosing, Charset.accepts, Fold.apply, ClassItem.contains, bne, hclosing]
    have hrun : Node.Means text (.repeated .greedy 0 none (.char notClosing)) _ :=
      .repeated (by decide) 0
    rw [haccepts] at hrun
    exact hrun.of_iff fun i j => and_iff_right_of_imp And.left
  have hbody := (Node.Means.letters "\x7b").append (hblanks.append (Node.Means.letters mark))
  have hhead := (Node.Means.letters "(").append (hparams.append ((Node.Means.letters ")").append
    (hblanks.append hbody)))
  refine ((Node.Means.letters "catch").append (hblanks.append hhead)).of_iff fun i c' => ?_
  constructor
  · rintro ⟨a, hcatch, p, hblanks, p', hopen, q, hparams, q', hclose, c, hblanks', b, hbrace, d,
      hblanks'', hmark⟩
    exact ⟨b, d, ⟨a, p, p', q, q', c, hcatch, hblanks, hopen, hparams, hclose, hblanks', hbrace⟩,
      hblanks'', hmark⟩
  · rintro ⟨b, d, ⟨a, p, p', q, q', c, hcatch, hblanks, hopen, hparams, hclose, hblanks', hbrace⟩,
      hblanks'', hmark⟩
    exact ⟨a, hcatch, p, hblanks, p', hopen, q, hparams, q', hclose, c, hblanks', b, hbrace, d,
      hblanks'', hmark⟩

theorem chooses_handler {set : Charset} (hset : ∀ c, set.accepts c = true)
    (hsolid : ∃ c ∈ mark.toList[0]?, isBlank c = false)
    (hclose : Node.Chooses text (.ofList back) close) (hwithin : ∀ j k, close j k → j ≤ text.size) :
    Node.Chooses text
      (.ofList (handlerFront mark ++ ([.repeated .reluctant 0 none (.char set)] ++ back)))
      (Handler text mark close) := by
  refine (Node.Chooses.after_only means_handlerFront
    (Node.Chooses.after_anything hset hclose hwithin) ?_).of_iff fun i k => ?_
  · rintro i c k c' k' ⟨b, a, h⟩ - ⟨b', a', h'⟩ -
    exact (h.unique hsolid h').2.2
  · constructor
    · rintro ⟨c, ⟨b, a, hbegins⟩, hfirst⟩
      exact ⟨b, a, c, hbegins, hfirst⟩
    · rintro ⟨b, a, c, hbegins, hfirst⟩
      exact ⟨c, ⟨b, a, hbegins⟩, hfirst⟩

theorem chooses_brace : Node.Chooses text (.ofList ([.blanks] ++ Node.letters "\x7d"))
    (Relation.Comp (AllBetween text isBlank) (Stands text "\x7d")) := by
  have hblanks : Node.Means text (.ofList [.blanks]) _ := Node.means_blanks
  refine .of_means (hblanks.append (.letters _)) ?_
  rintro i k k' ⟨j, hall, hbrace⟩ ⟨j', hall', hbrace'⟩
  obtain rfl := (hall.upTo hbrace ⟨'\x7d', rfl, by decide⟩).unique
    (hall'.upTo hbrace' ⟨'\x7d', rfl, by decide⟩)
  exact stands_unique _ hbrace hbrace'

theorem firstOf_brace : FirstOf (Relation.Comp (AllBetween text isBlank) (Stands text "\x7d")) c k ↔
    FirstOf (Stands text "\x7d") c k := by
  have hbrace {k} (h : FirstOf (Relation.Comp (AllBetween text isBlank) (Stands text "\x7d")) c k) :
      FirstOf (Stands text "\x7d") c k := by
    obtain ⟨j, hj, ⟨l, hall, hbrace⟩, hfirst⟩ := h
    -- An earlier brace would stand before the blanks, where it is taken first, or among them.
    refine ⟨l, Nat.le_trans hj hall.1, hbrace, fun x hx hlt ⟨k', hearlier⟩ => ?_⟩
    by_cases hbefore : x < j
    · exact hfirst x hx hbefore ⟨k', x, ⟨Nat.le_refl x, fun y hy hlt => by omega⟩, hearlier⟩
    · have hle := hall.le_of_other ⟨'\x7d', hearlier.char (k := 0) rfl, by decide⟩ (by omega)
      omega
  refine ⟨hbrace, fun h => ?_⟩
  have ⟨j, hj, hstands, _⟩ := h
  have hhere : Relation.Comp (AllBetween text isBlank) (Stands text "\x7d") j k :=
    ⟨j, ⟨Nat.le_refl j, fun y hy hlt => by omega⟩, hstands⟩
  obtain ⟨k', hfirst⟩ := exists_firstOf hj hhere
  obtain rfl := FirstOf.unique (stands_unique _) h (hbrace hfirst)
  exact hfirst

theorem chooses_lineHandlerTree :
    Node.Chooses text lineHandlerTree (Handler text "//" (Stands text "\x7d")) := by
  have hwithin (j k : Nat) (h : Relation.Comp (AllBetween text isBlank) (Stands text "\x7d") j k) :
      j ≤ text.size := by
    obtain ⟨l, hall, hbrace⟩ := h
    exact Nat.le_trans hall.1 (Nat.le_of_lt (hbrace.lt_size (by decide)))
  refine (chooses_handler (fun c => ?_) ⟨'/', rfl, by decide⟩ chooses_brace hwithin).of_iff
    fun i k => ?_
  · rfl
  · simp only [Handler, firstOf_brace]

theorem chooses_blockHandlerTree :
    Node.Chooses text blockHandlerTree (Handler text "/*" (ClosesHandler text)) := by
  have hclose : Node.Chooses text
      (.ofList (Node.letters "*/" ++ ([.blanks] ++ Node.letters "\x7d"))) (ClosesHandler text) := by
    refine (Node.Chooses.after_only (.letters "*/") chooses_brace fun _ _ _ _ _ h _ h' _ =>
      stands_unique _ h h').of_iff fun e k => ?_
    constructor
    · rintro ⟨a, hend, b, hblanks, hbrace⟩
      exact ⟨a, b, hend, hblanks, hbrace⟩
    · rintro ⟨a, b, hend, hblanks, hbrace⟩
      exact ⟨a, hend, b, hblanks, hbrace⟩
  refine chooses_handler Charset.accepts_blankOrNot ⟨'/', rfl, by decide⟩ hclose ?_
  rintro e k ⟨a, b, hend, -⟩
  exact Nat.le_of_lt (hend.lt_size (by decide))

theorem exists_handlerMatchers : ∃ line block,
    (Spec.catchHandler "comment_only").matchers = .ok [line, block] ∧ ∀ text,
      Takes line text (Handler text "//" (Stands text "\x7d")) ∧
      Takes block text (Handler text "/*" (ClosesHandler text)) := by
  have htrees : ((Spec.catchHandler "comment_only").matchers.toOption.map fun matchers =>
      matchers.map fun m => (m.repeats, m.pattern.root)) =
        some [(true, lineHandlerTree), (true, blockHandlerTree)] := by
    decide +kernel
  obtain ⟨matchers, hmatchers, htrees⟩ := Option.map_eq_some_iff.mp htrees
  obtain ⟨line, rest, rfl, hline, hrest⟩ := List.map_eq_cons_iff.mp htrees
  obtain ⟨block, rfl, hblock⟩ := List.map_eq_singleton_iff.mp hrest
  exact ⟨line, block, toOption_eq_some.mp hmatchers, fun text =>
    ⟨takes_of_chooses hline rfl chooses_lineHandlerTree,
      takes_of_chooses hblock rfl chooses_blockHandlerTree⟩⟩

/-- A handler that begins with a comment is taken up to the first closing brace behind a line
comment, or to the first one that follows the end of a comment behind a block comment. There are
only comments in it exactly if there are only comments behind the first one. -/
theorem commentOnly_takes (text : Array Char) : ∃ line block,
    (Spec.catchHandler "comment_only").matchers = .ok [line, block] ∧
      Takes line text (Handler text "//" (Stands text "\x7d")) ∧
      Takes block text (Handler text "/*" (ClosesHandler text)) ∧
      (∀ m ∈ line.findAll text, ∃ b a c q, HandlerBegins text "//" m.start b a c ∧ q + 1 = m.stop ∧
        (OnlyComments text b q ↔
          ∀ n, FirstOf (Stands text "\n") c n → n ≤ q → OnlyComments text n q)) ∧
      ∀ m ∈ block.findAll text, ∃ b a c e q, HandlerBegins text "/*" m.start b a c ∧
        q + 1 = m.stop ∧ FirstOf (Stands text "*/") c e ∧
        (OnlyComments text b q ↔ OnlyComments text e q) := by
  obtain ⟨line, block, hmatchers, htakes⟩ := exists_handlerMatchers
  obtain ⟨hline, hblock⟩ := htakes text
  refine ⟨line, block, hmatchers, hline, hblock, fun m hm => ?_, fun m hm => ?_⟩
  · obtain ⟨b, a, c, hbegins, q, hc, hbrace, -⟩ := hline.only m hm
    have ⟨_, hblanks, hmark⟩ := hbegins
    have ha := hmark.le
    refine ⟨b, a, c, q, hbegins, hbrace.2.symm, ?_⟩
    rw [OnlyComments.blanks_iff hblanks (by omega), OnlyComments.line_iff hmark hc]
  · obtain ⟨b, a, c, hbegins, j, hj, ⟨a', q, hend, hblanks', hbrace⟩, -⟩ := hblock.only m hm
    have ⟨_, hblanks, hmark⟩ := hbegins
    obtain ⟨e, hfirst⟩ := exists_firstOf hj hend
    have ha : c = a + 2 := hmark.2
    have := hend.le
    have := hblanks'.1
    refine ⟨b, a, c, e, q, hbegins, hbrace.2.symm, hfirst, ?_⟩
    rw [OnlyComments.blanks_iff hblanks (by omega), OnlyComments.block_iff hmark hfirst (by omega)]

/-- A statement on the line below a line comment, and one between two block comments, is taken for a
comment. -/
theorem commentOnly_statement :
    (HandlerOpens "catch (e) \x7b // x\n  f();\n\x7d".toList.toArray 0 11 ∧
        (Spec.catchHandler "comment_only").spans "catch (e) \x7b // x\n  f();\n\x7d" =
          some [(0, 25)] ∧
        ¬ OnlyComments "catch (e) \x7b // x\n  f();\n\x7d".toList.toArray 11 24) ∧
      HandlerOpens "catch (e) \x7b /* a */ f(); /* b */ \x7d".toList.toArray 0 11 ∧
        (Spec.catchHandler "comment_only").spans "catch (e) \x7b /* a */ f(); /* b */ \x7d" =
          some [(0, 34)] ∧
        ¬ OnlyComments "catch (e) \x7b /* a */ f(); /* b */ \x7d".toList.toArray 11 33 := by
  have hline : HandlerOpens "catch (e) \x7b // x\n  f();\n\x7d".toList.toArray 0 11 :=
    ⟨5, 6, 7, 8, 9, 10, by decide, by decide, by decide, by decide, by decide, by decide, by decide⟩
  have hblock : HandlerOpens "catch (e) \x7b /* a */ f(); /* b */ \x7d".toList.toArray 0 11 :=
    ⟨5, 6, 7, 8, 9, 10, by decide, by decide, by decide, by decide, by decide, by decide, by decide⟩
  refine ⟨⟨hline, by decide +kernel, fun h => ?_⟩, hblock, by decide +kernel, fun h => ?_⟩
  · rw [OnlyComments.blanks_iff (j := 12) (by decide) (by decide),
      OnlyComments.line_iff (a := 14) (by decide) (by decide)] at h
    have hbelow := h 17 (firstOf_stands (j := 16) (by decide) (by decide) (by decide)) (by decide)
    rw [OnlyComments.blanks_iff (j := 19) (by decide) (by decide)] at hbelow
    exact absurd (hbelow.first (by decide)) (by decide)
  · rw [OnlyComments.blanks_iff (j := 12) (by decide) (by decide),
      OnlyComments.block_iff (a := 14) (b := 19) (by decide)
        (firstOf_stands (j := 17) (by decide) (by decide) (by decide)) (by decide),
      OnlyComments.blanks_iff (j := 20) (by decide) (by decide)] at h
    exact absurd (h.first (by decide)) (by decide)

end CodeAudit.Rule
