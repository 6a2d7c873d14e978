import CodeAudit.Command.Choice
import CodeAudit.Proofs.Settings
import CodeAudit.Proofs.Spelling

/-!
# Categories in settings and on the command line

Categories are read by two readers, one for the list in the settings and one for the option of the
command line. They strip and lower-case in different places and refuse a list with different
messages, but they accept the same lists and select the same categories by them, in scanning order.
What they select is said without them, by the spellings that a list has of each category
(`chooseCategories_agrees`).
-/

namespace CodeAudit.Command

open CodeAudit.Rule (Label categories label_iff)
open CodeAudit.Settings (readCategories readCategory)
open CodeAudit.Text (strip lower)

variable {texts texts' cs : List String}

-- ---------------------------------------------------------------------------
-- Selections
-- ---------------------------------------------------------------------------

/-- What a list of texts selects: each of the texts spells a category, and the categories that are
spelt are selected, in scanning order. -/
structure Selects (texts cs : List String) : Prop where
  known : ∀ t ∈ texts, ∃ c ∈ categories, Label c t
  order : cs.Sublist categories
  mem_iff : ∀ c, c ∈ cs ↔ c ∈ categories ∧ ∃ t ∈ texts, Label c t

/-- Lists of texts that differ in order, in repetitions, in the letter case of ASCII letters, and in
blanks around the texts: they have spellings of the same labels. -/
def Respelt (texts texts' : List String) : Prop :=
  (∀ t ∈ texts, ∃ t' ∈ texts', ∃ label, Label label t ∧ Label label t') ∧
    ∀ t' ∈ texts', ∃ t ∈ texts, ∃ label, Label label t ∧ Label label t'

def categoryNames (texts : List String) : List String :=
  texts.map fun t => lower (strip t)

theorem label_category_iff (hc : c ∈ categories) : Label c t ↔ lower (strip t) = c :=
  label_iff (List.mem_append_right _ hc)

theorem mem_categoryNames_iff (hc : c ∈ categories) :
    c ∈ categoryNames texts ↔ ∃ t ∈ texts, Label c t := by
  simp only [categoryNames, List.mem_map, label_category_iff hc]

theorem Respelt.mem_categoryNames_iff (h : Respelt texts texts') :
    name ∈ categoryNames texts' ↔ name ∈ categoryNames texts := by
  have hname {t t' : String} : (∃ label, Label label t ∧ Label label t') →
      lower (strip t) = lower (strip t') := by
    rintro ⟨label, ht, ht'⟩
    exact ht.lower_strip.trans ht'.lower_strip.symm
  simp only [categoryNames, List.mem_map]
  constructor
  · rintro ⟨t', ht', rfl⟩
    obtain ⟨t, ht, halike⟩ := h.2 t' ht'
    exact ⟨t, ht, hname halike⟩
  · rintro ⟨t, ht, rfl⟩
    obtain ⟨t', ht', halike⟩ := h.1 t ht
    exact ⟨t', ht', (hname halike).symm⟩

theorem filter_contains_sublist {part whole : List String} (h : part.Sublist whole)
    (hwhole : whole.Nodup) : whole.filter (part.contains ·) = part := by
  induction h with
  | slnil => rfl
  | @cons part whole a h ih =>
    obtain ⟨ha, hwhole⟩ := List.nodup_cons.mp hwhole
    have hskip : part.contains a = false := by
      simpa using fun hmem => ha (h.subset hmem)
    rw [List.filter_cons_of_neg (by rw [hskip]; exact Bool.false_ne_true), ih hwhole]
  | @cons_cons part whole a h ih =>
    obtain ⟨ha, hwhole⟩ := List.nodup_cons.mp hwhole
    have hrest : whole.filter ((a :: part).contains ·) = whole.filter (part.contains ·) := by
      refine List.filter_congr fun b hb => ?_
      have hne : b ≠ a := fun heq => ha (heq ▸ hb)
      simp [hne]
    rw [List.filter_cons_of_pos (by simp), hrest, ih hwhole]

def AllKnown (texts : List String) : Prop := ∀ name ∈ categoryNames texts, name ∈ categories

instance (texts : List String) : Decidable (AllKnown texts) :=
  inferInstanceAs (Decidable (∀ name ∈ categoryNames texts, name ∈ categories))

def selection (texts : List String) : List String :=
  categories.filter ((categoryNames texts).contains ·)

theorem Respelt.allKnown_iff (h : Respelt texts texts') : AllKnown texts' ↔ AllKnown texts :=
  forall_congr' fun _ => imp_congr_left h.mem_categoryNames_iff

theorem Respelt.selection_eq (h : Respelt texts texts') : selection texts' = selection texts := by
  refine List.filter_congr fun c _ => ?_
  rw [Bool.eq_iff_iff, List.contains_iff_mem, List.contains_iff_mem, h.mem_categoryNames_iff]

theorem respelt_of_categoryNames (hknown : AllKnown texts)
    (h : ∀ name, name ∈ categoryNames texts ↔ name ∈ categoryNames texts') :
    Respelt texts texts' := by
  have hlabel {t name : String} (hname : name ∈ categoryNames texts) (ht : lower (strip t) = name) :
      Label name t := (label_category_iff (hknown name hname)).mpr ht
  constructor
  · intro t ht
    have hname : lower (strip t) ∈ categoryNames texts := List.mem_map_of_mem ht
    obtain ⟨t', ht', heq⟩ := List.mem_map.mp ((h _).mp hname)
    exact ⟨t', ht', _, hlabel hname rfl, hlabel hname heq⟩
  · intro t' ht'
    have hname : lower (strip t') ∈ categoryNames texts := (h _).mpr (List.mem_map_of_mem ht')
    obtain ⟨t, ht, heq⟩ := List.mem_map.mp hname
    exact ⟨t, ht, _, hlabel hname heq, hlabel hname rfl⟩

theorem selects_iff : Selects texts cs ↔ AllKnown texts ∧ cs = selection texts := by
  constructor
  · intro h
    constructor
    · rintro name hname
      obtain ⟨t, ht, rfl⟩ := List.mem_map.mp hname
      obtain ⟨c, hc, hlabel⟩ := h.known t ht
      rwa [(label_category_iff hc).mp hlabel]
    · rw [selection, ← filter_contains_sublist h.order (by decide)]
      refine List.filter_congr fun c hc => ?_
      rw [Bool.eq_iff_iff, List.contains_iff_mem, List.contains_iff_mem, h.mem_iff,
        mem_categoryNames_iff hc]
      exact and_iff_right hc
  · rintro ⟨hknown, rfl⟩
    refine ⟨fun t ht => ?_, List.filter_sublist, fun c => ?_⟩
    · have hc : lower (strip t) ∈ categories := hknown _ (List.mem_map_of_mem ht)
      exact ⟨_, hc, (label_category_iff hc).mpr rfl⟩
    · rw [selection, List.mem_filter, List.contains_iff_mem]
      exact and_congr_right fun hc => mem_categoryNames_iff hc

-- ---------------------------------------------------------------------------
-- The two readers
-- ---------------------------------------------------------------------------

theorem mapM_categoryNames {f : String → Except ε String} {refusal : String → ε}
    (hf : ∀ t, f t = if categories.contains (lower (strip t)) then .ok (lower (strip t))
      else .error (refusal t)) (texts : List String) :
    AllKnown texts ∧ texts.mapM f = .ok (categoryNames texts) ∨
      ¬ AllKnown texts ∧ ∃ t ∈ texts, texts.mapM f = .error (refusal t) := by
  induction texts with
  | nil => exact .inl ⟨by simp [AllKnown, categoryNames], rfl⟩
  | cons t texts ih =>
    have hcons : AllKnown (t :: texts) ↔ lower (strip t) ∈ categories ∧ AllKnown texts :=
      List.forall_mem_cons
    rw [hcons, List.mapM_cons, hf]
    by_cases hknown : lower (strip t) ∈ categories
    · rw [if_pos (List.contains_iff_mem.mpr hknown), ok_bind]
      obtain ⟨hall, hok⟩ | ⟨hnot, t', ht', herror⟩ := ih
      · rw [hok]
        exact .inl ⟨⟨hknown, hall⟩, rfl⟩
      · rw [herror]
        exact .inr ⟨fun h => hnot h.2, t', List.mem_cons_of_mem _ ht', rfl⟩
    · rw [if_neg (by simpa using hknown)]
      exact .inr ⟨fun h => hknown h.1, t, List.mem_cons_self, rfl⟩

theorem toOption_chooseCategories (hne : texts ≠ []) :
    (chooseCategories texts).toOption =
      if AllKnown texts then some (some (selection texts)) else none := by
  have hread (t : String) : categoryOfText t =
      if categories.contains (lower (strip t)) then .ok (lower (strip t))
      else .error (.unknownCategory t) := by
    rw [categoryOfText]
  rw [chooseCategories, List.isEmpty_eq_false_iff.mpr hne]
  obtain ⟨hall, hok⟩ | ⟨hnot, t, -, herror⟩ := mapM_categoryNames hread texts
  · rw [hok, if_pos hall]
    rfl
  · rw [herror, if_neg hnot]
    rfl

theorem readCategories_ofTexts (texts : List String) : readCategories (some (.ofTexts texts)) =
    if AllKnown texts then .ok (selection texts) else .error .badCategory := by
  have hread (t : String) : (readCategory ∘ strip) t =
      if categories.contains (lower (strip t)) then .ok (lower (strip t))
      else .error .badCategory := by
    rw [Function.comp_apply, readCategory]
  rw [readCategories, Settings.readTexts_ofTexts, ok_bind, List.mapM_map]
  · obtain ⟨hall, hok⟩ | ⟨hnot, -, -, herror⟩ := mapM_categoryNames hread texts
    · rw [hok, if_pos hall]
      rfl
    · rw [herror, if_neg hnot]
      rfl
  · exact fun hnull => nomatch hnull

/-- For every list of texts that is not empty, the command line and the settings accept the list
for the same categories, namely for what it selects, or both refuse it. For a list that is respelt
both answer the same, except that the command line may name another text when it refuses. -/
theorem chooseCategories_agrees (hne : texts ≠ []) :
    (∀ cs, chooseCategories texts = .ok (some cs) ↔ Selects texts cs) ∧
    (∀ cs, readCategories (some (.ofTexts texts)) = .ok cs ↔ Selects texts cs) ∧
    ((∃ e, chooseCategories texts = .error e) ↔
      ∃ e, readCategories (some (.ofTexts texts)) = .error e) ∧
    ∀ texts', Respelt texts texts' →
      (chooseCategories texts').toOption = (chooseCategories texts).toOption ∧
      readCategories (some (.ofTexts texts')) = readCategories (some (.ofTexts texts)) := by
  refine ⟨fun cs => ?_, fun cs => ?_, ?_, fun texts' h => ⟨?_, ?_⟩⟩
  · rw [← toOption_eq_some, toOption_chooseCategories hne, selects_iff]
    by_cases hall : AllKnown texts <;> simp [hall, eq_comm]
  · rw [readCategories_ofTexts, selects_iff]
    by_cases hall : AllKnown texts <;> simp [hall, eq_comm]
  · have hchoose : (∃ e, chooseCategories texts = .error e) ↔ ¬ AllKnown texts := by
      rw [← toOption_eq_none, toOption_chooseCategories hne]
      by_cases hall : AllKnown texts <;> simp [hall]
    rw [hchoose, readCategories_ofTexts]
    by_cases hall : AllKnown texts <;> simp [hall]
  · have hne' : texts' ≠ [] := by
      obtain ⟨t, ht⟩ := List.exists_mem_of_ne_nil texts hne
      obtain ⟨t', ht', -⟩ := h.1 t ht
      exact List.ne_nil_of_mem ht'
    simp only [toOption_chooseCategories hne, toOption_chooseCategories hne', h.allKnown_iff,
      h.selection_eq]
  · simp only [readCategories_ofTexts, h.allKnown_iff, h.selection_eq]

/-- Two lists that name the same two categories, in another order and in other spellings. -/
theorem chooseCategories_agrees_respelt :
    let texts := ["  ERROR", "security", "Error\n"]
    let texts' := ["Security\t", "error"]
    texts ≠ [] ∧ Respelt texts texts' ∧ Selects texts ["security", "error"] ∧
      chooseCategories texts = .ok (some ["security", "error"]) ∧
      (chooseCategories texts').toOption = some (some ["security", "error"]) := by
  intro texts texts'
  have hne : texts ≠ [] := by decide
  have hrespelt : Respelt texts texts' := by
    have hnames : categoryNames texts = ["error", "security", "error"] := by decide +kernel
    have hnames' : categoryNames texts' = ["security", "error"] := by decide +kernel
    refine respelt_of_categoryNames (by rw [AllKnown, hnames]; decide) fun name => ?_
    rw [hnames, hnames']
    simp [or_comm]
  obtain ⟨hchoose, -, -, hsame⟩ := chooseCategories_agrees hne
  have hok : chooseCategories texts = .ok (some ["security", "error"]) := by decide +kernel
  refine ⟨hne, hrespelt, (hchoose _).mp hok, hok, ?_⟩
  rw [(hsame texts' hrespelt).1, hok]
  rfl

end CodeAudit.Command
