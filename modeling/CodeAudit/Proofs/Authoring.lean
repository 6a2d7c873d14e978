import CodeAudit.Proofs.Grammar
import CodeAudit.Proofs.Text
import CodeAudit.Rule.DefinitionReader
import Mathlib.Data.List.DropRight
import Mathlib.Data.Option.Basic

/-!
# Writing rules

`Definition.table` writes a rule as the table that it is read from, and `tableWith` writes it with
the liberties that an author has: labels in any letter case and with blanks around them, dashes for
underscores in the keys of the inner tables. `ofValue_table` says that reading gives the rule back.
-/

namespace CodeAudit.Rule

open CodeAudit.Text

-- ---------------------------------------------------------------------------
-- Tables
-- ---------------------------------------------------------------------------

def present (entries : Entries) : Entries :=
  entries.filter fun
    | (_, .null) => false
    | _ => true

def textOrNull (text : Option String) : Value :=
  (text.map Value.str).getD .null

def Spec.table (spec : Spec) : Entries :=
  present (("type", .str spec.tag) :: spec.fields)

/-- The fields of a verification under their names in rule files. An absent text is null. -/
def Verification.fields (v : Verification) : Entries :=
  [("status", .str v.status), ("commands", .ofTexts v.commands),
    ("assumption", textOrNull v.assumption), ("instruction", textOrNull v.instruction),
    ("confirm_if", textOrNull v.confirmIf), ("false_positive_if", textOrNull v.falsePositiveIf)]

def Verification.table (v : Verification) : Entries :=
  present v.fields

namespace Definition

def fieldsWith (d : Definition) (severity category : String) (description : Entries)
    (verification : Option Entries) : Entries :=
  [("id", .str d.id), ("title", .str d.title), ("description", .str d.description),
    ("severity", .str severity), ("category", .str category), ("match", .table description),
    ("suggestion", textOrNull d.suggestion),
    ("verification", (verification.map Value.table).getD .null)]

/-- A table for a rule, with its labels and its inner tables as they are written. -/
def tableWith (d : Definition) (severity category : String) (description : Entries)
    (verification : Option Entries) : Entries :=
  present (d.fieldsWith severity category description verification)

/-- The table that writes a rule out. -/
def table (d : Definition) : Entries :=
  d.tableWith d.severity d.category d.spec.table (d.verification.map (·.table))

/-- The rules that can be written out. -/
structure Writable (d : Definition) : Prop where
  id_ne_empty : d.id ≠ ""
  id_stripped : strip d.id = d.id
  title : ¬ isBlankText d.title
  description : ¬ isBlankText d.description
  severity : d.severity ∈ severities
  category : d.category ∈ categories
  spec : d.spec.tag ∈ Spec.tags
  status : ∀ v ∈ d.verification, v.status ∈ verificationStatuses

end Definition

theorem mem_present {entries : Entries} :
    (key, v) ∈ present entries ↔ (key, v) ∈ entries ∧ v ≠ .null := by
  rw [present, List.mem_filter]
  refine and_congr_right fun _ => ?_
  cases v <;> simp

theorem present_sublist (entries : Entries) : (present entries).Sublist entries :=
  List.filter_sublist

def orNone : Value → Option Value
  | .null => none
  | v => some v

theorem orNone_of_mem {entries : Entries} (hnodup : entries.keys.Nodup)
    (hget : ∀ w, value? = some w ↔ (key, w) ∈ present entries) (h : (key, v) ∈ entries) :
    value? = orNone v := by
  refine Option.ext fun w => ?_
  rw [hget, mem_present]
  constructor
  · rintro ⟨hw, hne⟩
    obtain rfl : w = v := congrArg Prod.snd (List.inj_on_of_nodup_map hnodup hw h rfl)
    cases w <;> first | rfl | exact absurd rfl hne
  · intro hw
    cases v <;> cases hw <;> exact ⟨h, nofun⟩

theorem get?_present {entries : Entries} (hnodup : entries.keys.Nodup) (h : (key, v) ∈ entries) :
    (present entries).get? key = orNone v := by
  refine orNone_of_mem hnodup (fun w => ?_) h
  exact lookup_eq_some_iff_mem (hnodup.sublist ((present_sublist entries).map _))

theorem optionalText_orNone (text : Option String) :
    optionalText place (orNone (textOrNull text)) = .ok text := by
  cases text <;> rfl

-- ---------------------------------------------------------------------------
-- Keys with dashes
-- ---------------------------------------------------------------------------

def undash (c : Char) : Char := if c == '-' then '_' else c

/-- The same table with dashes for some of the underscores in its keys. -/
def Dashed : Entries → Entries → Prop :=
  List.Forall₂ fun e e' => e'.1.toList.map undash = e.1.toList ∧ e'.2 = e.2

theorem isBlank_undash (c : Char) : isBlank (undash c) = isBlank c := by
  unfold undash
  split
  · next h =>
    rw [beq_iff_eq.mp h]
    decide
  · rfl

theorem undash_undash (c : Char) : undash (undash c) = undash c := by
  unfold undash
  by_cases h : c = '-'
  · simp [h]
  · simp [h]

theorem normalKey_eq (key : String) :
    Spec.normalKey key = String.ofList (stripChars (key.toList.map undash)) := by
  rw [stripChars_map isBlank_undash]
  simp only [Spec.normalKey, strip, String.toList_ofList]
  rfl

theorem normalKey_undash {key key' : String} (h : key'.toList.map undash = key.toList) :
    Spec.normalKey key' = Spec.normalKey key := by
  rw [normalKey_eq, normalKey_eq, ← h, List.map_map]
  simp only [Function.comp_def, undash_undash]

theorem Dashed.written? {entries entries' : Entries} (h : Dashed entries entries')
    (name : String) : Spec.written? entries name = Spec.written? entries' name := by
  have hmap : entries.map (Prod.map Spec.normalKey id) =
      entries'.map (Prod.map Spec.normalKey id) := by
    induction h with
    | nil => rfl
    | cons he _ ih =>
      obtain ⟨hkey, hvalue⟩ := he
      rw [List.map_cons, List.map_cons, ih, Prod.map, Prod.map, normalKey_undash hkey, hvalue]
  rw [Spec.written?_eq_lookup, Spec.written?_eq_lookup, hmap]

-- ---------------------------------------------------------------------------
-- Written descriptions
-- ---------------------------------------------------------------------------

structure NormalKeys (entries : Entries) : Prop where
  nodup : entries.keys.Nodup
  normal : ∀ key ∈ entries.keys, Spec.normalKey key = key

theorem map_normalKey {entries : Entries} (h : ∀ e ∈ entries, Spec.normalKey e.1 = e.1) :
    entries.map (Prod.map Spec.normalKey id) = entries := by
  induction entries with
  | nil => rfl
  | cons e rest ih =>
    obtain ⟨key, v⟩ := e
    obtain ⟨hkey, hrest⟩ := List.forall_mem_cons.mp h
    rw [List.map_cons, ih hrest, Prod.map_apply, hkey, id]

theorem NormalKeys.of_sublist {entries part : Entries} (h : NormalKeys entries)
    (hpart : part.Sublist entries) : NormalKeys part where
  nodup := h.nodup.sublist (hpart.map _)
  normal key hkey := h.normal key ((hpart.map _).subset hkey)

theorem NormalKeys.written?_eq_some {entries : Entries} (h : NormalKeys entries) :
    Spec.written? entries name = some v ↔ (name, v) ∈ entries := by
  have hkey e (he : e ∈ entries) : Spec.normalKey e.1 = e.1 :=
    h.normal e.1 (List.mem_map_of_mem he)
  have hkeys : entries.map (Spec.normalKey ·.1) = entries.keys := List.map_congr_left hkey
  have hnodup : (entries.map (Spec.normalKey ·.1)).Nodup := hkeys ▸ h.nodup
  rw [Spec.written?_eq_some hnodup, map_normalKey hkey]

theorem NormalKeys.dashed {entries : Entries} (h : NormalKeys entries) :
    Dashed entries entries := by
  refine List.forall₂_same.mpr fun e he => ⟨?_, rfl⟩
  have hkey := h.normal e.1 (List.mem_map_of_mem he)
  rw [← hkey, normalKey_eq, String.toList_ofList, stripChars_map isBlank_undash, List.map_map]
  simp only [Function.comp_def, undash_undash]

/-- The entries that are written for the fields of a kind: a value that the field takes, or nothing
if that is its default. -/
def FieldOf (tag : String) (e : String × Value) (f : Field) : Prop :=
  e.1 = f.name ∧
    (e.2 ≠ .null ∧ f.kind.Admits e.2 ∨
      e.2 = .null ∧ Entries.get? (Spec.defaults tag) f.name = some .null)

namespace Spec

variable {spec : Spec} {fields : List Field}

theorem exists_shape (h : spec.tag ∈ tags) :
    ∃ fields, (spec.tag, fields) ∈ shapes ∧ List.Forall₂ (FieldOf spec.tag) spec.fields fields := by
  cases spec with
  | unspecified => simp [tag, tags, shapes] at h
  | secret kind custom =>
    refine ⟨_, lookup_shapes.mp rfl, ?_⟩
    cases custom <;> simp [Spec.fields, FieldOf, FieldKind.Admits, tag, defaults, Entries.get?]
  | _ =>
    refine ⟨_, lookup_shapes.mp rfl, ?_⟩
    simp [Spec.fields, FieldOf, FieldKind.Admits, Value.ofTexts]

theorem shapes_normal : ∀ shape ∈ shapes, ∀ key ∈ "type" :: shape.2.map (·.name),
    normalKey key = key := by decide +kernel

theorem keys_fields {kind : String} (h : List.Forall₂ (FieldOf kind) entries fields) :
    Entries.keys entries = fields.map (·.name) := by
  induction h with
  | nil => rfl
  | cons hentry _ ih =>
    simp only [Entries.keys, List.map_cons] at ih ⊢
    rw [ih, hentry.1]

theorem normalKeys_fields (hshape : (spec.tag, fields) ∈ shapes)
    (h : List.Forall₂ (FieldOf spec.tag) spec.fields fields) :
    NormalKeys (("type", .str spec.tag) :: spec.fields) := by
  have hkeys : Entries.keys (("type", .str spec.tag) :: spec.fields) =
      "type" :: fields.map (·.name) := by
    rw [Entries.keys, List.map_cons]
    exact congrArg _ (keys_fields h)
  constructor
  · rw [hkeys]
    exact fields_nodup _ hshape
  · rw [hkeys]
    exact shapes_normal _ hshape

theorem mem_table {name : String} {v : Value} : (name, v) ∈ spec.table ↔
    (name, v) = ("type", .str spec.tag) ∨ (name, v) ∈ spec.fields ∧ v ≠ .null := by
  rw [table, mem_present, List.mem_cons]
  constructor
  · rintro ⟨heq | hmem, hv⟩
    · exact .inl heq
    · exact .inr ⟨hmem, hv⟩
  · rintro (heq | ⟨hmem, hv⟩)
    · cases heq
      exact ⟨.inl rfl, nofun⟩
    · exact ⟨.inr hmem, hv⟩

section

variable (hshape : (spec.tag, fields) ∈ shapes)
  (hfields : List.Forall₂ (FieldOf spec.tag) spec.fields fields)

include hshape hfields

theorem written?_table : written? spec.table name = some v ↔ (name, v) ∈ spec.table :=
  ((normalKeys_fields hshape hfields).of_sublist (present_sublist _)).written?_eq_some

theorem written?_field (hf : f ∈ fields) : ∃ v, (f.name, v) ∈ spec.fields ∧
    (written? spec.table f.name = some v ∧ f.kind.Admits v ∨
      written? spec.table f.name = none ∧ v = .null ∧
        Entries.get? (defaults spec.tag) f.name = some .null) := by
  obtain ⟨⟨name, v⟩, hmem, rfl, hvalue⟩ := exists_left_of_mem hfields hf
  refine ⟨v, hmem, ?_⟩
  obtain ⟨hv, hadmits⟩ | ⟨rfl, hdefault⟩ := hvalue
  · exact .inl ⟨(written?_table hshape hfields).mpr (mem_table.mpr (.inr ⟨hmem, hv⟩)), hadmits⟩
  · refine .inr ⟨Option.eq_none_iff_forall_ne_some.mpr fun w hw => ?_, rfl, hdefault⟩
    obtain heq | ⟨hmem', hw⟩ := mem_table.mp ((written?_table hshape hfields).mp hw)
    · exact fields_ne_type hshape hf (congrArg Prod.fst heq)
    · have hnodup := (List.nodup_cons.mp (normalKeys_fields hshape hfields).nodup).2
      exact hw (congrArg Prod.snd (List.inj_on_of_nodup_map hnodup hmem' hmem rfl))

theorem fits_table : Fits spec.table spec.tag fields where
  shape := hshape
  type := (written?_table hshape hfields).mpr (mem_table.mpr (.inl rfl))
  keys := by
    rintro ⟨key, v⟩ he
    have hkey : normalKey key = key := by
      refine (normalKeys_fields hshape hfields).normal key ?_
      exact ((present_sublist _).map _).subset (List.mem_map_of_mem he)
    rw [hkey]
    obtain heq | ⟨hmem, -⟩ := mem_table.mp he
    · exact .inl (congrArg Prod.fst heq)
    · have hname : key ∈ fields.map (·.name) := by
        rw [← keys_fields hfields]
        exact List.mem_map_of_mem hmem
      exact .inr (List.mem_map.mp hname)
  values f hf v hv := by
    obtain ⟨w, -, ⟨hw, hadmits⟩ | ⟨hnone, -⟩⟩ := written?_field hshape hfields hf
    · obtain rfl := Option.some.inj (hv.symm.trans hw)
      exact hadmits
    · cases hv.symm.trans hnone
  given f hf hdefault := by
    obtain ⟨w, -, ⟨hw, -⟩ | ⟨-, -, hnull⟩⟩ := written?_field hshape hfields hf
    · exact Option.isSome_of_eq_some hw
    · obtain ⟨before, after, heq, -⟩ := List.lookup_eq_some_iff.mp hnull
      exact absurd (by simp [Entries.keys, heq]) hdefault

theorem fields_filled : spec.fields = fields.map fun f =>
    (f.name, filled spec.tag (written? spec.table f.name) f.name) := by
  have hnodup := (List.nodup_cons.mp (normalKeys_fields hshape hfields).nodup).2
  rw [← List.forall₂_eq_eq_eq, List.forall₂_map_right_iff, List.forall₂_iff_zip]
  refine ⟨hfields.length_eq, fun {e f} hzip => ?_⟩
  obtain ⟨he, hf⟩ := List.of_mem_zip hzip
  have hname : e.1 = f.name := ((List.forall₂_iff_zip.mp hfields).2 hzip).1
  obtain ⟨v, hv, hvalue⟩ := written?_field hshape hfields hf
  obtain rfl : e = (f.name, v) := List.inj_on_of_nodup_map hnodup he hv hname
  obtain ⟨hwritten, -⟩ | ⟨hwritten, rfl, hdefault⟩ := hvalue
  · simp [filled, hwritten]
  · simp [filled, hwritten, hdefault]

end

theorem ofValue_specTable (place : String) (h : spec.tag ∈ tags) :
    ofValue place (.table spec.table) = .ok spec := by
  obtain ⟨fields, hshape, hfields⟩ := exists_shape h
  exact ofValue_eq_ok.mpr ⟨fields, fits_table hshape hfields, fields_filled hshape hfields⟩

end Spec

-- ---------------------------------------------------------------------------
-- Written verifications
-- ---------------------------------------------------------------------------

theorem mem_keys_mapKeys {entries : Entries} :
    name ∈ (Entries.mapKeys Spec.normalKey entries).keys ↔ (Spec.written? entries name).isSome := by
  rw [← Spec.get?_mapKeys_normalKey, Entries.get?, Option.isSome_iff_exists]
  simp only [lookup_eq_some_iff_mem (Entries.nodup_mapKeys _ _)]
  simp [Entries.keys]

namespace Verification

variable {v : Verification}

theorem normalKeys_fields (v : Verification) : NormalKeys v.fields where
  nodup := show ("status" :: "commands" :: verificationTexts).Nodup by decide
  normal := show ∀ key ∈ "status" :: "commands" :: verificationTexts, _ by decide +kernel

theorem written?_table : Spec.written? v.table name = some w ↔ (name, w) ∈ v.table :=
  ((normalKeys_fields v).of_sublist (present_sublist _)).written?_eq_some

theorem written?_field (h : (key, w) ∈ v.fields) : Spec.written? v.table key = orNone w :=
  orNone_of_mem (normalKeys_fields v).nodup (fun _ => written?_table) h

theorem mem_fields_key (h : (key, w) ∈ v.fields) :
    key ∈ "status" :: "commands" :: verificationTexts :=
  List.mem_map_of_mem (f := Prod.fst) h

/-- A verification is read from the table that writes it out, also if its keys are spelt
differently. -/
theorem ofValue_written (hstatus : v.status ∈ verificationStatuses)
    (h : ∀ name, Spec.written? v.table name = Spec.written? entries name) :
    ofValue place (.table entries) = .ok v := by
  have hmem : ("status", .str v.status) ∈ v.fields ∧
      ("commands", .ofTexts v.commands) ∈ v.fields := by simp [fields]
  have hwritten : Spec.written? v.table "status" = some (.str v.status) := written?_field hmem.1
  have hcommands : Spec.written? v.table "commands" = some (.ofTexts v.commands) :=
    written?_field hmem.2
  have hlist : (Value.ofTexts v.commands).texts? = some v.commands := texts?_eq_some.mpr rfl
  have htext key text (hmem : (key, textOrNull text) ∈ v.fields) :
      optionalText (place ++ "." ++ key) (Spec.written? v.table key) = .ok text := by
    rw [written?_field hmem, optionalText_orNone]
  have hunknown : ((Entries.mapKeys Spec.normalKey entries).keys.filter
      fun key => !("status" :: "commands" :: verificationTexts).contains key) = [] := by
    refine List.filter_eq_nil_iff.mpr fun name hname => ?_
    rw [mem_keys_mapKeys, ← h, Option.isSome_iff_exists] at hname
    obtain ⟨w, hw⟩ := hname
    rw [List.contains_iff_mem.mpr (mem_fields_key (mem_present.mp (written?_table.mp hw)).1)]
    decide
  simp only [ofValue, hunknown, Spec.get?_mapKeys_normalKey, ← h, hwritten, hcommands, readStatus,
    Option.getD_some, List.contains_iff_mem.mpr hstatus, if_true, ok_bind, hlist,
    htext "assumption" v.assumption (by simp [fields]),
    htext "instruction" v.instruction (by simp [fields]),
    htext "confirm_if" v.confirmIf (by simp [fields]),
    htext "false_positive_if" v.falsePositiveIf (by simp [fields])]
  rfl

end Verification

-- ---------------------------------------------------------------------------
-- Written labels
-- ---------------------------------------------------------------------------

/-- A label in any letter case and with blanks around it. -/
def Label (label written : String) : Prop :=
  ∃ before core after : List Char, written.toList = before ++ core ++ after ∧
    before.all isBlank ∧ after.all isBlank ∧ core.map Char.toLower = label.toList

theorem labels_plain (h : label ∈ severities ++ categories) :
    label.toList ≠ [] ∧ ∀ c ∈ label.toList, c.toNat < 128 ∧ isBlank c = false := by
  have hall : (severities ++ categories).all (fun label => !label.toList.isEmpty &&
      label.toList.all fun c => c.toNat < 128 && !isBlank c) = true := by
    decide
  simpa using List.all_eq_true.mp hall label h

theorem labels_lower : ∀ label ∈ severities ++ categories,
    label.toList.map Char.toLower = label.toList := by decide

theorem label_self (h : label ∈ severities ++ categories) : Label label label :=
  ⟨[], label.toList, [], by simp, rfl, rfl, labels_lower label h⟩

theorem Label.read (h : Label label written) (hknown : label ∈ severities ++ categories) :
    lower (strip written) = label ∧ ¬ isBlankText written := by
  obtain ⟨before, core, after, hwritten, hbefore, hafter, hcore⟩ := h
  obtain ⟨hne, hplain⟩ := labels_plain hknown
  have hchar c (hc : c ∈ core) : lowerChar c = [c.toLower] ∧ isBlank c = false :=
    lowerChar_of_plain (hplain _ (hcore ▸ List.mem_map_of_mem hc))
  have hsome : core ≠ [] := by
    rintro rfl
    exact hne hcore.symm
  have hstrip : stripChars written.toList = core :=
    hwritten ▸ stripChars_around hbefore hafter (fun c hc => (hchar c hc).2) hsome
  have hlower : core.flatMap lowerChar = label.toList := by
    rw [← hcore, List.map_eq_flatMap]
    exact List.flatMap_congr fun c hc => (hchar c hc).1
  constructor
  · rw [lower, strip, String.toList_ofList, hstrip, hlower, String.ofList_toList]
  · intro hblank
    obtain ⟨c, hc⟩ := List.exists_mem_of_ne_nil core hsome
    have hmem : c ∈ written.toList := by simp [hwritten, hc]
    exact absurd (List.all_eq_true.mp hblank c hmem) (by simp [(hchar c hc).2])

theorem readLabel_written {allowed : List String} (h : Label label written)
    (hallowed : allowed ⊆ severities ++ categories) (hlabel : label ∈ allowed) :
    readLabel place allowed written = .ok label := by
  obtain ⟨hlower, -⟩ := h.read (hallowed hlabel)
  simp only [readLabel, hlower, List.contains_iff_mem.mpr hlabel, if_true]

-- ---------------------------------------------------------------------------
-- Written rules
-- ---------------------------------------------------------------------------

theorem nonBlank_present {entries : Entries} (hnodup : entries.keys.Nodup)
    (h : (key, .str s) ∈ entries) (hs : ¬ isBlankText s) :
    nonBlank place key (present entries) = .ok s := by
  have hget : (present entries).get? key = some (.str s) := get?_present hnodup h
  simp only [nonBlank, hget, hs]
  rfl

namespace Definition

variable {d : Definition} {severityText categoryText : String} {description : Entries}
  {verification : Option Entries}

theorem ofValue_of_entries {entries : Entries} (hknown : ∀ key ∈ entries.keys, key ∈ definitionKeys)
    (hid : nonBlank place "id" entries = .ok d.id) (hstripped : strip d.id = d.id)
    (htitle : nonBlank place "title" entries = .ok d.title)
    (hdescription : nonBlank place "description" entries = .ok d.description)
    (hseverity : nonBlank place "severity" entries = .ok severityText)
    (hcategory : nonBlank place "category" entries = .ok categoryText)
    (hlabels : ∀ place, readLabel place severities severityText = .ok d.severity ∧
      readLabel place categories categoryText = .ok d.category)
    (hsuggestion : ∀ place, optionalText place (entries.get? "suggestion") = .ok d.suggestion)
    (hmatch : entries.get? "match" = some written)
    (hspec : ∀ place, Spec.ofValue place written = .ok d.spec)
    (hverification : entries.get? "verification" = none ∧ d.verification = none ∨
      ∃ table v, entries.get? "verification" = some (.table table) ∧ d.verification = some v ∧
        ∀ place, Verification.ofValue place (.table table) = .ok v) :
    ofValue place (.table entries) = .ok d := by
  have hunknown : entries.keys.filter (!definitionKeys.contains ·) = [] := by
    refine List.filter_eq_nil_iff.mpr fun key hkey => ?_
    rw [List.contains_iff_mem.mpr (hknown key hkey)]
    decide
  simp only [ofValue, hunknown, List.isEmpty_nil, Bool.not_true, Bool.false_eq_true, if_false, hid,
    htitle, hdescription, hseverity, hcategory, ok_bind, hstripped, hlabels, hsuggestion, hmatch,
    hspec, Except.mapError]
  obtain ⟨hnone, hd⟩ | ⟨table, v, hsome, hd, hread⟩ := hverification
  · simp only [hnone, pure_ok, ok_bind, ← hd]
  · simp only [hsome, hread, Functor.map, Except.map, ok_bind, pure_ok, ← hd]

theorem nodup_keys_fieldsWith :
    (d.fieldsWith severityText categoryText description verification).keys.Nodup :=
  show definitionKeys.Nodup by decide

theorem verification_tableWith (h : ∀ v ∈ d.verification, v.status ∈ verificationStatuses)
    (hwritten : Option.Rel Dashed (d.verification.map (·.table)) verification) :
    let entries := d.tableWith severityText categoryText description verification
    entries.get? "verification" = none ∧ d.verification = none ∨
      ∃ table v, entries.get? "verification" = some (.table table) ∧ d.verification = some v ∧
        ∀ place, Verification.ofValue place (.table table) = .ok v := by
  intro entries
  have hget : entries.get? "verification" = orNone ((verification.map Value.table).getD .null) :=
    get?_present nodup_keys_fieldsWith (by simp [fieldsWith])
  cases hd : d.verification with
  | none =>
    rw [hd] at hwritten
    cases hwritten
    exact .inl ⟨hget, rfl⟩
  | some v =>
    rw [hd] at hwritten
    cases hwritten with
    | some hdashed =>
      refine .inr ⟨_, v, hget, rfl, fun place => ?_⟩
      exact Verification.ofValue_written (h v hd) hdashed.written?

theorem ofValue_tableWith (h : d.Writable) (hseverity : Label d.severity severityText)
    (hcategory : Label d.category categoryText) (hspec : Dashed d.spec.table description)
    (hverification : Option.Rel Dashed (d.verification.map (·.table)) verification) :
    ofValue place (.table (d.tableWith severityText categoryText description verification)) =
      .ok d := by
  have hnodup := @nodup_keys_fieldsWith d severityText categoryText description verification
  have hleft := List.subset_append_left severities categories
  have hright := List.subset_append_right severities categories
  have hmem : ("match", .table description) ∈
        d.fieldsWith severityText categoryText description verification ∧
      ("suggestion", textOrNull d.suggestion) ∈
        d.fieldsWith severityText categoryText description verification := by
    simp [fieldsWith]
  refine ofValue_of_entries (fun key hkey => ((present_sublist _).map _).subset hkey)
    (nonBlank_present hnodup (by simp [fieldsWith])
      (isBlankText_of_stripped h.id_ne_empty h.id_stripped)) h.id_stripped
    (nonBlank_present hnodup (by simp [fieldsWith]) h.title)
    (nonBlank_present hnodup (by simp [fieldsWith]) h.description)
    (nonBlank_present hnodup (by simp [fieldsWith]) (hseverity.read (hleft h.severity)).2)
    (nonBlank_present hnodup (by simp [fieldsWith]) (hcategory.read (hright h.category)).2)
    (fun place => ⟨readLabel_written hseverity hleft h.severity,
      readLabel_written hcategory hright h.category⟩)
    (fun place => ?_) (get?_present hnodup hmem.1) (fun place => ?_)
    (verification_tableWith h.status hverification)
  · rw [tableWith, get?_present hnodup hmem.2, optionalText_orNone]
  · exact Spec.ofValue_ok_of_written? hspec.written? (Spec.ofValue_specTable place h.spec)

/-- A rule that can be written out is read back from its table, and so it is if its labels are
written in any letter case and with blanks around them, and if dashes are written for underscores in
the keys of its inner tables. -/
theorem ofValue_table (h : d.Writable) (place : String) :
    ofValue place (.table d.table) = .ok d ∧
      ∀ severityText categoryText description verification,
        Label d.severity severityText → Label d.category categoryText →
        Dashed d.spec.table description →
        Option.Rel Dashed (d.verification.map (·.table)) verification →
        ofValue place (.table (d.tableWith severityText categoryText description verification)) =
          .ok d := by
  constructor
  · obtain ⟨fields, hshape, hfields⟩ := Spec.exists_shape h.spec
    refine ofValue_tableWith h (label_self (List.mem_append_left _ h.severity))
      (label_self (List.mem_append_right _ h.category))
      ((Spec.normalKeys_fields hshape hfields).of_sublist (present_sublist _)).dashed ?_
    cases d.verification with
    | none => exact .none
    | some v => exact .some (v.normalKeys_fields.of_sublist (present_sublist _)).dashed
  · intro severityText categoryText description verification hseverity hcategory hspec hverification
    exact ofValue_tableWith h hseverity hcategory hspec hverification

def fullRule : Definition :=
  { id := "TEAM-1", title := "t", description := "d", severity := "high", category := "error"
    spec := .secret "generic" none, suggestion := some ""
    verification := some { commands := ["ls"], confirmIf := some "x" } }

theorem ofValue_table_full : ofValue "rules[0]" (.table fullRule.table) = .ok fullRule ∧
    ofValue "rules[0]" (.table [("id", .str "TEAM-1"), ("title", .str "t"),
      ("description", .str "d"), ("severity", .str " HIGH\t"), ("category", .str "Error"),
      ("match", .table [("type", .str "secret_pattern"), ("kind", .str "generic")]),
      ("suggestion", .str ""),
      ("verification", .table [("status", .str "needs_verification"), ("commands", .ofTexts ["ls"]),
        ("confirm-if", .str "x")])]) = .ok fullRule := by
  have hfull : fullRule.Writable := by
    constructor <;> decide
  obtain ⟨hplain, hspelt⟩ := ofValue_table hfull "rules[0]"
  refine ⟨hplain, hspelt " HIGH\t" "Error"
    [("type", .str "secret_pattern"), ("kind", .str "generic")]
    (some [("status", .str "needs_verification"), ("commands", .ofTexts ["ls"]),
        ("confirm-if", .str "x")]) ?_ ?_ ?_ ?_⟩
  · exact ⟨[' '], "HIGH".toList, ['\t'], by decide⟩
  · exact ⟨[], "Error".toList, [], by decide⟩
  · exact .cons ⟨by decide, rfl⟩ (.cons ⟨by decide, rfl⟩ .nil)
  · exact .some (.cons ⟨by decide, rfl⟩ (.cons ⟨by decide, rfl⟩ (.cons ⟨by decide, rfl⟩ .nil)))

end Definition

end CodeAudit.Rule
