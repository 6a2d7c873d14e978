import CodeAudit.Proofs.Caseless
import CodeAudit.Proofs.Preference
import CodeAudit.Proofs.Widening

/-!
# Terms in block comments

A block comment with a term in it is searched for with two gaps that stop nowhere. So the term that
is found is the first one behind the opening mark that has a closing mark behind it, be it in that
comment or not, and the match goes on to the next closing mark. It is one comment exactly if the
term ends before the first closing mark (`blockComment_encloses`).
-/

namespace CodeAudit.Regex

open CodeAudit.Text (isCasedCode)

variable {text : Array Char}

-- ---------------------------------------------------------------------------
-- What phrases add to a tree
-- ---------------------------------------------------------------------------

def Phrase.AddsNodes (e : Phrase) (flags : Flags) (nodes : List Node) : Prop :=
  ∀ d : Draft, d.level.flags = flags → ∃ items,
    e.extend d = { d with level := { d.level with items := items ++ d.level.items } } ∧
      items.reverse.map (·.node) = nodes

namespace Phrase.AddsNodes

theorem append (ha : Phrase.AddsNodes a flags nodes) (hb : Phrase.AddsNodes b flags nodes') :
    Phrase.AddsNodes (a ++ b) flags (nodes ++ nodes') := by
  intro d hd
  obtain ⟨items, hextend, rfl⟩ := ha d hd
  obtain ⟨items', hextend', rfl⟩ :=
    hb { d with level := { d.level with items := items ++ d.level.items } } hd
  refine ⟨items' ++ items, ?_, by rw [List.reverse_append, List.map_append]⟩
  show b.extend (a.extend d) = _
  rw [hextend, hextend', List.append_assoc]

theorem of_steady (hsteady : e.steady = true) :
    Phrase.AddsNodes e flags ((e.items flags).reverse.map (·.node)) := by
  intro d hd
  have hextend := Phrase.extend_steady hsteady d
  rw [hd] at hextend
  exact ⟨_, hextend, rfl⟩

theorem literal (s : String) :
    Phrase.AddsNodes (.literal s) flags (s.toList.map (.letter flags)) := by
  have hadds : Phrase.AddsNodes (.literal s) flags _ := of_steady (Phrase.steady_literal s)
  rw [Phrase.items_literal, spelled, List.reverse_reverse, List.map_map] at hadds
  exact hadds

theorem anyLines (ignoreCase : Bool) :
    Phrase.AddsNodes Rule.Phrasing.anyLines (Rule.caseFlags ignoreCase) [.anything] := by
  cases ignoreCase with
  | false => exact of_steady rfl
  | true => exact of_steady rfl

theorem node_start (h : Phrase.AddsNodes e flags nodes) :
    (e.extend (.start flags)).level.node = .ofList nodes := by
  obtain ⟨items, hextend, rfl⟩ := h (.start flags) rfl
  have hlevel : (e.extend (.start flags)).level = { flags, items } := by
    rw [hextend]
    exact congrArg (fun items => ({ flags, items } : Level)) (List.append_nil items)
  rw [hlevel, Level.node_single]
  rfl

end Phrase.AddsNodes

theorem Level.Offers.node_eq {level level' : Level} (h : level.Offers phrase f texts)
    (h' : level'.Offers phrase f texts) : level.node = level'.node := by
  simp only [Level.node, Level.fold, h.flags, h.alternatives, h'.flags, h'.alternatives]

def choice (flags : Flags) (names : List String) : Node :=
  ((Phrase.oneOf (names.map .literal)).extend (.start flags)).level.node

theorem offers_choice {names : List String} (hne : names ≠ []) (flags : Flags) :
    ((Phrase.oneOf (names.map .literal)).extend (.start flags)).level.Offers .literal flags names :=
  (Spelling.literal.offers hne (show (Draft.start flags).level.flags = flags from rfl)).1

theorem Phrase.AddsNodes.anyOf {names : List String} (hne : names ≠ []) :
    Phrase.AddsNodes (.group .plain (.oneOf (names.map .literal))) flags [choice flags names] := by
  intro d hd
  obtain ⟨hoffers, hwidths⟩ := Spelling.literal.offers hne hd
  let level := ((Phrase.oneOf (names.map .literal)).extend (d.inside .plain)).level
  refine ⟨[{ node := level.node, pieces := level.pieces }], ?_, ?_⟩
  · simp only [Phrase.extend, Draft.close, hwidths]
    rfl
  · exact congrArg ([·]) (hoffers.node_eq (offers_choice hne flags))

-- ---------------------------------------------------------------------------
-- One of several texts
-- ---------------------------------------------------------------------------

/-- Where one of several texts is found: where it stands, or where it stands in any case and is not
lost among the others. -/
def StandsAmong (text : Array Char) (ignoreCase : Bool) (names : List String) (name : String) :
    Stretch := fun i j =>
  if ignoreCase then ¬ LostAmong names name ∧ StandsRecased text name i j else Stands text name i j

namespace StandsAmong

variable {ignoreCase : Bool} {names : List String} {name : String}

theorem recased (h : StandsAmong text ignoreCase names name i j) : StandsRecased text name i j := by
  unfold StandsAmong at h
  split at h
  · exact h.2
  · exact ⟨name, recased_self name, h⟩

theorem stop (h : StandsAmong text ignoreCase names name i j) : j = i + name.length := by
  obtain ⟨t, hrecased, -, rfl⟩ := h.recased
  rw [← String.length_toList, ← String.length_toList, hrecased.length_eq]

theorem uncased_char (h : StandsAmong text ignoreCase names name i j) (hc : text[i + k]? = some c)
    (hcase : isCasedCode c.toNat = false) (hk : i + k < j) : name.toList[k]? = some c := by
  obtain ⟨t, hrecased, hstands⟩ := h.recased
  have ht : k < t.toList.length := by
    have := hstands.2
    rw [String.length_toList]
    omega
  have hs : k < name.toList.length := hrecased.length_eq ▸ ht
  have hat := Option.some.inj ((hstands.char (List.getElem?_eq_getElem ht)).symm.trans hc)
  have hfolded : Folded name.toList[k].toNat t.toList[k].toNat := hrecased.get hs ht
  rw [hat, folded_uncased hcase, Char.toNat_inj] at hfolded
  rw [List.getElem?_eq_getElem hs, hfolded]

theorem unique (ignoreCase : Bool) (names : List String) (name : String) :
    Relator.RightUnique (StandsAmong text ignoreCase names name) := fun _ _ _ h h' =>
  h.stop.trans h'.stop.symm

end StandsAmong

variable {names : List String}

theorem chooses_choice (hne : names ≠ []) (ignoreCase : Bool)
    (hback : Node.Chooses text (.ofList back) r) :
    Node.Chooses text (.ofList (choice (Rule.caseFlags ignoreCase) names :: back))
      (FirstAmong names fun name => Relation.Comp (StandsAmong text ignoreCase names name) r) := by
  have hoffers := offers_choice hne (Rule.caseFlags ignoreCase)
  have hspelled {name} (hname : Node.Means text
      (.ofList (name.toList.map (.letter (Rule.caseFlags ignoreCase))))
        (StandsAmong text ignoreCase names name)) :
      Node.Chooses text (.ofList (Item.sequence ((Phrase.literal name).items
        (Rule.caseFlags ignoreCase)) :: back))
        (Relation.Comp (StandsAmong text ignoreCase names name) r) := by
    rw [Phrase.items_literal, sequence_spelled]
    exact (Node.Chooses.after_only hname hback fun _ _ _ _ _ h _ h' _ =>
      StandsAmong.unique ignoreCase names name h h').flatten
  unfold choice
  obtain ⟨hseparate, hnode⟩ | ⟨⟨hcase, hdiffer, -⟩, -⟩ := hoffers.node_cases Spelling.literal
  · rw [hnode]
    refine Node.Chooses.oneOf hne fun name _ => hspelled ?_
    cases ignoreCase with
    | false => exact .letters name
    | true =>
      have hkept : ¬ LostAmong names name := fun hlost =>
        hseparate ⟨rfl, hlost.1, fun _ _ => trivial⟩
      refine (Node.Means.recased rfl name).of_iff fun i j => ?_
      simp [StandsAmong, hkept]
  · -- Read as a set, the texts are of the same length.
    obtain rfl : ignoreCase = true := hcase
    obtain ⟨start, hends, -⟩ := hdiffer
    have hlength {name i j} (hmem : name ∈ names) (h : StandsAmong text true names name i j) :
        j = i + (start.length + 1) := by
      obtain ⟨c, hc⟩ := hends name hmem
      rw [h.stop, ← String.length_toList, hc, List.length_append, List.length_singleton]
    have hchoice : Node.Means text (.ofList [choice (Rule.caseFlags true) names]) fun i j =>
        ∃ name ∈ names, StandsAmong text true names name i j :=
      (hoffers.means_recased rfl rfl hne).of_iff fun i j => by simp [StandsAmong]
    refine (Node.Chooses.after_only hchoice hback ?_).of_iff fun i k => ?_
    · rintro i j k j' k' ⟨name, hmem, h⟩ - ⟨name', hmem', h'⟩ -
      exact (hlength hmem h).trans (hlength hmem' h').symm
    · rw [firstAmong_iff]
      · constructor
        · rintro ⟨j, ⟨name, hmem, h⟩, hr⟩
          exact ⟨name, hmem, j, h, hr⟩
        · rintro ⟨name, hmem, j, h, hr⟩
          exact ⟨j, ⟨name, hmem, h⟩, hr⟩
      · rintro name hmem name' hmem' k k' ⟨j, h, hr⟩ ⟨j', h', hr'⟩
        obtain rfl := (hlength hmem h).trans (hlength hmem' h').symm
        exact hback.unique hr hr'

end CodeAudit.Regex

namespace CodeAudit.Rule

open CodeAudit.Regex
open CodeAudit.Text (isCasedCode)

variable {text : Array Char} {terms : List String} {ignoreCase : Bool}

-- ---------------------------------------------------------------------------
-- The matcher of block comments
-- ---------------------------------------------------------------------------

/-- The first of several terms that stands at a place with a closing mark behind it, up to that. -/
def TermClosed (text : Array Char) (ignoreCase : Bool) (terms : List String) : Stretch :=
  FirstAmong terms fun term => Relation.Comp (StandsAmong text ignoreCase terms term)
    (FirstOf (Stands text "*/"))

/-- An opening mark, and then everything up to the first term that has a closing mark behind it, and
up to that mark. -/
def CommentAround (text : Array Char) (ignoreCase : Bool) (terms : List String) : Stretch :=
  Relation.Comp (Stands text "/*") (FirstOf (TermClosed text ignoreCase terms))

theorem adds_blockComment (hne : terms ≠ []) (ignoreCase : Bool) :
    (Phrasing.blockComment terms).AddsNodes (caseFlags ignoreCase)
      ("/*".toList.map (.letter (caseFlags ignoreCase)) ++ ([.anything] ++
        (choice (caseFlags ignoreCase) terms :: ([.anything] ++
          "*/".toList.map (.letter (caseFlags ignoreCase)))))) := by
  have hterms : (Phrasing.anyText terms).AddsNodes (caseFlags ignoreCase) _ := .anyOf hne
  have hlines := Phrase.AddsNodes.anyLines ignoreCase
  exact ((((Phrase.AddsNodes.literal "/*").append hlines).append hterms).append hlines).append
    (.literal "*/")

theorem means_mark (hmark : mark.toList.all (fun c => !isCasedCode c.toNat) = true)
    (ignoreCase : Bool) :
    Node.Means text (.ofList (mark.toList.map (.letter (caseFlags ignoreCase))))
      (Stands text mark) := by
  have huncased : ∀ c ∈ mark.toList, isCasedCode c.toNat = false := by simpa using hmark
  cases ignoreCase with
  | false => exact .letters mark
  | true => exact (Node.Means.recased rfl mark).of_iff (standsRecased_of_uncased huncased)

theorem TermClosed.exists_term (h : TermClosed text ignoreCase terms a k) : ∃ term ∈ terms, ∃ b q,
    StandsAmong text ignoreCase terms term a b ∧ FirstOf (Stands text "*/") b k ∧ a ≤ b ∧ b ≤ q ∧
      Stands text "*/" q k := by
  obtain ⟨term, hmem, b, hterm, hclosing⟩ := FirstAmong.mem h
  have ⟨q, hq, hmark, _⟩ := hclosing
  have hb := hterm.stop
  exact ⟨term, hmem, b, q, hterm, hclosing, by omega, hq, hmark⟩

theorem chooses_blockComment (hne : terms ≠ []) (ignoreCase : Bool) :
    Node.Chooses text
      ((Phrasing.blockComment terms).extend (.start (caseFlags ignoreCase))).level.node
      (CommentAround text ignoreCase terms) := by
  rw [(adds_blockComment hne ignoreCase).node_start]
  have hopening : Node.Means text _ (Stands text "/*") := means_mark (by decide) ignoreCase
  have hclosing : Node.Chooses text _ (Stands text "*/") :=
    .of_means (means_mark (by decide) ignoreCase) (stands_unique _)
  have hbehind := Node.Chooses.after_anything Charset.accepts_blankOrNot hclosing fun q k hmark =>
    Nat.le_of_lt (hmark.lt_size (by decide))
  have hterm := Node.Chooses.after_anything Charset.accepts_blankOrNot
    (chooses_choice hne ignoreCase hbehind) fun a k h => by
      obtain ⟨_, -, b, q, -, -, hab, hbq, hmark⟩ := TermClosed.exists_term h
      have := hmark.lt_size (by decide)
      omega
  exact .after_only hopening hterm fun _ _ _ _ _ h _ h' _ => stands_unique _ h h'

/-- The matcher for block comments, which all descriptions that look for terms or markers in block
comments have in common. -/
structure SearchesBlocks (terms : List String) (ignoreCase : Bool) (block : Matcher) : Prop where
  alone : (Spec.containsText terms "block_comment" ignoreCase).matchers = .ok [block]
  inTerms : ∀ context ∈ ["block_comment", "comment", "any"], ∃ matchers,
    (Spec.containsText terms context ignoreCase).matchers = .ok matchers ∧ block ∈ matchers
  inMarkers : ignoreCase = true → ∀ style ∈ ["block", "any"], ∃ matchers,
    (Spec.commentMarker terms style).matchers = .ok matchers ∧ block ∈ matchers

theorem mem_matchers {spec : Spec} (hspec : spec.IsStructured)
    (hrecipes : spec.recipes = .ok recipes) (hmem : recipe ∈ recipes)
    (hmatcher : recipe.matcher = .ok m) :
    ∃ matchers, spec.matchers = .ok matchers ∧ m ∈ matchers := by
  obtain ⟨matchers, hmatchers, -⟩ := matchers_structured hspec
  refine ⟨matchers, hmatchers, ?_⟩
  simp only [Spec.matchers, hrecipes, ok_bind] at hmatchers
  have hmap := map_eq_map_ok hmatchers
  obtain ⟨m', hm', heq⟩ := List.mem_map.mp (hmap ▸ List.mem_map_of_mem hmem)
  exact Except.ok.inj (heq.trans hmatcher) ▸ hm'

theorem exists_blockMatcher (hne : terms ≠ []) (ignoreCase : Bool) :
    ∃ block, SearchesBlocks terms ignoreCase block ∧
      ∀ text, Takes block text (CommentAround text ignoreCase terms) := by
  have hcompile := compile_source (Phrasing.written_blockComment terms).fine
    (ordinary_caseFlags ignoreCase)
  obtain ⟨block, hblock, hmatcher⟩ : ∃ block : Matcher,
      (Phrasing.recipe (Phrasing.blockComment terms) (caseFlags ignoreCase)).matcher = .ok block ∧
        (block.repeats, block.pattern.root) = (true,
          ((Phrasing.blockComment terms).extend (.start (caseFlags ignoreCase))).level.node) :=
    ⟨{ pattern := _ }, by rw [Phrasing.recipe, Recipe.matcher, hcompile], rfl⟩
  refine ⟨block, ⟨?alone, ?inTerms, ?inMarkers⟩, fun text =>
    takes_of_chooses hmatcher ?consumes (chooses_blockComment hne ignoreCase)⟩
  case alone =>
    have hrecipes : (Spec.containsText terms "block_comment" ignoreCase).recipes =
        .ok [Phrasing.recipe (Phrasing.blockComment terms) (caseFlags ignoreCase)] := by
      rw [Phrasing.recipe, (Phrasing.written_blockComment terms).source]
      cases terms with
      | nil => exact absurd rfl hne
      | cons => rfl
    simp only [Spec.matchers, hrecipes, ok_bind]
    exact mapM_eq_ok.mpr (.cons hblock .nil)
  case inTerms =>
    intro context hcontext
    have hmem : Phrasing.recipe (Phrasing.blockComment terms) (caseFlags ignoreCase) ∈
        containsTextRecipes terms context ignoreCase :=
      mem_containsTextRecipes.mpr ⟨hne, .inr (.inl ⟨hcontext, rfl⟩)⟩
    exact mem_matchers trivial rfl hmem hblock
  case inMarkers =>
    rintro rfl style hstyle
    have hmem : Phrasing.recipe (Phrasing.blockComment terms) (caseFlags true) ∈
        commentMarkerRecipes terms style :=
      mem_commentMarkerRecipes.mpr ⟨hne, .inr ⟨hstyle, rfl⟩⟩
    exact mem_matchers trivial rfl hmem hblock
  case consumes =>
    rw [(adds_blockComment hne ignoreCase).node_start]
    exact nullable_ofList ⟨.letter (caseFlags ignoreCase) '/', by simp, rfl⟩

-- ---------------------------------------------------------------------------
-- One comment or more
-- ---------------------------------------------------------------------------

/-- Behind the opening mark of a match there is a closing mark only at its end. -/
def ClosedOnce (text : Array Char) (m : Match) : Prop :=
  ∀ q, m.start + 2 ≤ q → Stands text "*/" q (q + 2) → m.stop ≤ q + 2

def TermInside (text : Array Char) (ignoreCase : Bool) (terms : List String) (i e : Nat) : Prop :=
  ∃ term ∈ terms, ∃ a b, i ≤ a ∧ StandsAmong text ignoreCase terms term a b ∧ b + 2 ≤ e

section ClosedOnce

variable {m : Match} (h : CommentAround text ignoreCase terms m.start m.stop)

include h

theorem exists_firstClosing : ∃ e, FirstOf (Stands text "*/") (m.start + 2) e := by
  obtain ⟨c, ⟨-, hc⟩, a, ha, hterm, -⟩ := h
  obtain ⟨-, -, b, q, -, -, hab, hbq, hmark⟩ := hterm.exists_term
  have hc : c = m.start + 2 := hc
  exact exists_firstOf (show m.start + 2 ≤ q by omega) hmark

variable (he : FirstOf (Stands text "*/") (m.start + 2) e)

include he

/-- A match is a single comment exactly if its term ends before the first closing mark. -/
theorem closedOnce_iff : ∃ term ∈ terms, ∃ a b, m.start + 2 ≤ a ∧
    (∀ l, m.start + 2 ≤ l → l < a → ¬ ∃ k, TermClosed text ignoreCase terms l k) ∧
      StandsAmong text ignoreCase terms term a b ∧ FirstOf (Stands text "*/") b m.stop ∧
        (ClosedOnce text m ↔ b + 2 ≤ e) := by
  obtain ⟨c, ⟨-, hc⟩, a, ha, hterm, hfirst⟩ := h
  obtain rfl : c = m.start + 2 := hc
  obtain ⟨term, hmem, b, q, hstands, hclosing, hab, hbq, hmark⟩ := hterm.exists_term
  refine ⟨term, hmem, a, b, ha, hfirst, hstands, hclosing, ?_⟩
  obtain ⟨p, hp, hend, hnone⟩ := he
  have hpe : e = p + 2 := hend.2
  have hqe : m.stop = q + 2 := hmark.2
  -- The first mark of all is also the first one behind whatever ends before it.
  have hleast {l} (hl : m.start + 2 ≤ l) (hat : Stands text "*/" l (l + 2)) : p ≤ l := by
    by_contra hlt
    exact hnone l hl (by omega) ⟨l + 2, hat⟩
  constructor
  · intro honce
    have := honce p hp (hpe ▸ hend)
    omega
  · intro hinside l hl hat
    have hbehind : q ≤ p := by
      obtain ⟨q', -, hmark', hnone'⟩ := hclosing
      have : m.stop = q' + 2 := hmark'.2
      by_contra hlt
      exact hnone' p (by omega) (by omega) ⟨e, hend⟩
    have := hleast hl hat
    omega

/-- If no term ends with a star, a match is a single comment exactly if a term stands in the comment
that it opens. -/
theorem closedOnce_iff_inside (hfree : ∀ term ∈ terms, ¬ "*/".toList <:+: term.toList)
    (hstar : ∀ term ∈ terms, term.toList.getLast? ≠ some '*') :
    ClosedOnce text m ↔ TermInside text ignoreCase terms (m.start + 2) e := by
  obtain ⟨term, hmem, a, b, ha, hfirst, hstands, -, hiff⟩ := closedOnce_iff h he
  rw [hiff]
  refine ⟨fun hinside => ⟨term, hmem, a, b, ha, hstands, hinside⟩, ?_⟩
  rintro ⟨term', hmem', a', b', ha', hstands', hinside'⟩
  obtain ⟨p, -, hend, -⟩ := he
  have hpe : e = p + 2 := hend.2
  have hab' := hstands'.stop
  have hle : a ≤ a' := by
    by_contra hlt
    obtain ⟨k, hclosing⟩ := exists_firstOf (show b' ≤ p by omega) hend
    exact hfirst a' ha' (by omega) (exists_firstAmong hmem' ⟨b', hstands', hclosing⟩)
  obtain ⟨k, hk⟩ := Nat.exists_eq_add_of_le (show a ≤ p by omega)
  by_contra hout
  -- Otherwise the term has the star of the closing mark in it, as its last character or not.
  have hstarAt : term.toList[k]? = some '*' :=
    hstands.uncased_char (hk ▸ hend.char (k := 0) rfl) (by decide) (by omega)
  by_cases hslash : p + 1 < b
  · have hslashAt : term.toList[k + 1]? = some '/' :=
      hstands.uncased_char (by rw [← Nat.add_assoc, ← hk]; exact hend.char (k := 1) rfl)
        (by decide) (by omega)
    have hmark : "*/".toList <+: term.toList.drop k :=
      cons_prefix_drop.mpr ⟨hstarAt, cons_prefix_drop.mpr ⟨hslashAt, List.nil_prefix⟩⟩
    exact hfree term hmem (hmark.isInfix.trans (List.drop_suffix k _).isInfix)
  · have hlength : term.toList.length - 1 = k := by
      have := hstands.stop
      rw [String.length_toList]
      omega
    exact hstar term hmem (by rw [List.getLast?_eq_getElem?, hlength, hstarAt])

end ClosedOnce

/-- What is found for a block comment starts with an opening mark and ends with the first closing
mark behind the first term that has one behind it. It is one comment exactly if that term ends
before the first closing mark of all, and for terms that do not end with a star exactly if one of
them stands in that comment. -/
theorem blockComment_encloses (hne : terms ≠ [])
    (hfree : ∀ term ∈ terms, ¬ "*/".toList <:+: term.toList) (ignoreCase : Bool) :
    ∃ block, SearchesBlocks terms ignoreCase block ∧ ∀ text,
      Takes block text (CommentAround text ignoreCase terms) ∧
      ∀ m ∈ block.findAll text, ∃ e, FirstOf (Stands text "*/") (m.start + 2) e ∧
        (∃ term ∈ terms, ∃ a b, m.start + 2 ≤ a ∧
          (∀ l, m.start + 2 ≤ l → l < a → ¬ ∃ k, TermClosed text ignoreCase terms l k) ∧
          StandsAmong text ignoreCase terms term a b ∧ FirstOf (Stands text "*/") b m.stop ∧
          (ClosedOnce text m ↔ b + 2 ≤ e)) ∧
        ((∀ term ∈ terms, term.toList.getLast? ≠ some '*') →
          (ClosedOnce text m ↔ TermInside text ignoreCase terms (m.start + 2) e)) := by
  obtain ⟨block, hblock, htakes⟩ := exists_blockMatcher hne ignoreCase
  refine ⟨block, hblock, fun text => ⟨htakes text, fun m hm => ?_⟩⟩
  have hcomment := (htakes text).only m hm
  obtain ⟨e, he⟩ := exists_firstClosing hcomment
  exact ⟨e, he, closedOnce_iff hcomment he, closedOnce_iff_inside hcomment he hfree⟩

theorem blockComment_encloses_single : ["TODO"] ≠ [] ∧
    (∀ term ∈ ["TODO"], ¬ "*/".toList <:+: term.toList) ∧
    ∃ block, SearchesBlocks ["TODO"] true block ∧
      ∃ m ∈ block.findAll "/* todo */".toList.toArray, m.span = (0, 10) ∧
        ClosedOnce "/* todo */".toList.toArray m := by
  have hfree : ∀ term ∈ ["TODO"], ¬ "*/".toList <:+: term.toList := by decide
  refine ⟨by decide, hfree, ?_⟩
  obtain ⟨block, hblock, hmatches⟩ := blockComment_encloses (List.cons_ne_nil "TODO" []) hfree true
  obtain ⟨-, hmatches⟩ := hmatches "/* todo */".toList.toArray
  have hspans : (Spec.containsText ["TODO"] "block_comment" true).spans "/* todo */" =
      some [(0, 10)] := by
    decide +kernel
  have hfound : (block.findAll "/* todo */".toList.toArray).map Match.span = [(0, 10)] := by
    simpa [Spec.spans, spans, hblock.alone, Except.toOption] using hspans
  obtain ⟨m, hm, hspan⟩ := List.mem_map.mp (hfound ▸ List.mem_singleton_self (0, 10))
  refine ⟨block, hblock, m, hm, hspan, ?_⟩
  obtain ⟨e, he, -, hinside⟩ := hmatches m hm
  obtain ⟨hstart, -⟩ := Prod.mk.inj hspan
  have hclosing : FirstOf (Stands "/* todo */".toList.toArray "*/") 2 10 :=
    firstOf_stands (j := 8) (by decide) (by decide) (by decide)
  rw [hstart] at he hinside
  obtain rfl := FirstOf.unique (stands_unique _) he hclosing
  exact (hinside (by decide)).mpr ⟨"TODO", List.mem_singleton_self _, 3, 7, by decide,
    ⟨not_lostAmong_singleton _, "todo", by decide, by decide⟩, by decide⟩

/-- A term between two comments is taken for one in a comment, and a term that ends with a star
takes the one of the closing mark. -/
theorem blockComment_twoComments :
    (Stands "/* a */ TODO /* b */".toList.toArray "*/" 5 7 ∧
        (Spec.containsText ["TODO"] "block_comment" false).spans "/* a */ TODO /* b */" =
          some [(0, 20)] ∧
        (Spec.commentMarker ["TODO"] "block").spans "/* a */ TODO /* b */" = some [(0, 20)]) ∧
      Stands "/* a*/ x */".toList.toArray "*/" 4 6 ∧
        (Spec.containsText ["a*", "a"] "block_comment" false).spans "/* a*/ x */" =
          some [(0, 11)] :=
  ⟨⟨by decide, by decide +kernel, by decide +kernel⟩, by decide, by decide +kernel⟩

end CodeAudit.Rule
