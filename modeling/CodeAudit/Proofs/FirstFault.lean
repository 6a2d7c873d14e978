import CodeAudit.Proofs.Grammar
import CodeAudit.Proofs.Text
import CodeAudit.Rule.DefinitionReader

/-!
# The first fault of a list of rules

Rules are read one after the other, and the first that cannot be read decides: its problem is the
only one that is reported, and the report starts with the place of the rule in the list
(`readDefinitions_outcome`). A status that is a list or a table is the one fault that is not
reported in this way. A verification is read last, so this is a fault of rules that would be read
without their verification (`ofValue_eq`).
-/

namespace CodeAudit.Rule

open CodeAudit.Text

-- ---------------------------------------------------------------------------
-- Places of problems
-- ---------------------------------------------------------------------------

/-- The place that a problem with a table names first. -/
def Problem.place? : Problem → Option String
  | .notTable place | .unknownMatchType place _ _ | .notField place _ _ | .notTexts place
  | .notBoolean place | .notInteger place | .notText place | .missingFields place _
  | .badStatus place | .unknownKeys place _ | .blankText place | .notOneOf place _
  | .noMatch place => some place
  | _ => none

def Starts (start text : String) : Prop := ∃ rest, text = start ++ rest

theorem Starts.append (h : Starts start text) (more : String) : Starts start (text ++ more) := by
  obtain ⟨rest, rfl⟩ := h
  exact ⟨rest ++ more, String.append_assoc⟩

theorem starts_ticked (place : String) : Starts ("`" ++ place) (ticked place) :=
  ⟨"`", rfl⟩

theorem starts_ticked_inner (place inner : String) :
    Starts ("`" ++ place) (ticked (place ++ inner)) :=
  ⟨inner ++ "`", by simp [ticked, String.append_assoc]⟩

theorem Problem.starts_message {problem : Problem} (h : problem.place? = some place) :
    Starts ("`" ++ place) problem.message := by
  cases problem with
  | notTable | notTexts | notBoolean | notInteger | notText | blankText =>
    cases h
    exact (starts_ticked _).append _
  | missingFields | unknownKeys | notOneOf =>
    cases h
    exact (((starts_ticked _).append _).append _).append _
  | noMatch =>
    cases h
    exact (starts_ticked_inner _ ".match").append _
  | badStatus =>
    cases h
    exact (((starts_ticked_inner _ ".status").append _).append _).append _
  | notField owner key tag =>
    cases h
    have hplace := starts_ticked_inner place ("." ++ key)
    rw [← String.append_assoc] at hplace
    exact ((hplace.append _).append _).append _
  | unknownMatchType =>
    cases h
    exact (((((starts_ticked_inner _ ".type").append _).append _).append _).append _).append _
  | unreadable | badToml | rulesNotArray | unknownSeverity | unknownCategory | unbuildable
  | noPatterns | duplicateId => cases h

def Problem.Inside (place : String) (problem : Problem) : Prop :=
  ∃ inner, problem.place? = some (place ++ inner)

theorem Problem.Inside.here {problem : Problem} (h : problem.place? = some place) :
    problem.Inside place :=
  ⟨"", by rw [h, String.append_empty]⟩

theorem Problem.Inside.outer {problem : Problem} {place inner : String}
    (h : problem.Inside (place ++ inner)) : problem.Inside place := by
  obtain ⟨rest, hrest⟩ := h
  exact ⟨inner ++ rest, by rw [hrest, String.append_assoc]⟩

theorem Problem.Inside.starts_message {problem : Problem} (h : problem.Inside place) :
    Starts ("`" ++ place) problem.message := by
  obtain ⟨inner, hplace⟩ := h
  obtain ⟨rest, hrest⟩ := Problem.starts_message hplace
  exact ⟨inner ++ rest, by rw [hrest, ← String.append_assoc, ← String.append_assoc]⟩

def Refuses (place : String) (x : Except ReadError α) : Prop :=
  ∀ e, x = .error e → ∃ problem, e = .refused problem ∧ problem.Inside place

namespace Refuses

theorem ok (a : α) : Refuses place (.ok a : Except ReadError α) := by
  rintro e ⟨⟩

theorem error {problem : Problem} (h : problem.Inside place) :
    Refuses place (.error (.refused problem) : Except ReadError α) := by
  rintro e ⟨⟩
  exact ⟨problem, rfl, h⟩

theorem outer {place inner : String} {x : Except ReadError α} (h : Refuses (place ++ inner) x) :
    Refuses place x := by
  intro e he
  obtain ⟨problem, rfl, hinside⟩ := h e he
  exact ⟨problem, rfl, hinside.outer⟩

theorem bind {x : Except ReadError α} {f : α → Except ReadError β} (hx : Refuses place x)
    (hf : ∀ a, x = .ok a → Refuses place (f a)) : Refuses place (x >>= f) := by
  intro e he
  obtain he | ⟨a, ha, he⟩ := bind_eq_error.mp he
  · exact hx e he
  · exact hf a ha e he

end Refuses

-- ---------------------------------------------------------------------------
-- Parts of a rule
-- ---------------------------------------------------------------------------

theorem refuses_optionalText (place : String) (v : Option Value) :
    Refuses place (optionalText place v) := by
  unfold optionalText
  split
  · exact .ok _
  · exact .ok _
  · exact .ok _
  · exact .error (.here rfl)

theorem refuses_nonBlank (place key : String) (entries : Entries) :
    Refuses place (nonBlank place key entries) := by
  have hblank : (Problem.blankText (place ++ "." ++ key)).Inside (place ++ "." ++ key) := .here rfl
  unfold nonBlank
  split
  · split
    · exact .error hblank.outer.outer
    · exact .ok _
  · exact .error hblank.outer.outer

theorem refuses_readLabel (place : String) (allowed : List String) (s : String) :
    Refuses place (readLabel place allowed s) := by
  unfold readLabel
  dsimp only
  split
  · exact .ok _
  · exact .error (.here rfl)

theorem inside_of_fault {problem : Problem} (h : Spec.Fault place entries problem) :
    problem.Inside place := by
  cases h with
  | type => exact .here rfl
  | key => exact .here rfl
  | missing => exact .here rfl
  | @value tag fields f v =>
    refine ⟨"." ++ f.name, ?_⟩
    rw [← String.append_assoc]
    cases f.kind <;> rfl

theorem refuses_spec (place : String) (data : Value) :
    Refuses place ((Spec.ofValue place data).mapError .refused) := by
  cases data with
  | table entries =>
    obtain ⟨fields, spec, hok, -⟩ | ⟨problem, herror, hfault⟩ := Spec.ofValue_cases place entries
    · rw [hok]
      exact .ok _
    · rw [herror]
      exact .error (inside_of_fault hfault)
  | _ => exact .error (.here rfl)

-- ---------------------------------------------------------------------------
-- Verifications
-- ---------------------------------------------------------------------------

def IsContainer : Value → Prop
  | .list _ | .table _ => True
  | _ => False

/-- Verifications with a list or a table as their status. -/
def StatusContainer : Value → Prop
  | .table entries => ∃ status, Spec.written? entries "status" = some status ∧ IsContainer status
  | _ => False

theorem readStatus_cases (place : String) (v : Value) :
    (∃ s ∈ verificationStatuses, readStatus place v = .ok s ∧ ¬ IsContainer v) ∨
    (readStatus place v = .error (.refused (.badStatus place)) ∧ ¬ IsContainer v) ∨
    ∃ isTable, readStatus place v = .error (.statusContainer isTable) ∧ IsContainer v := by
  cases v with
  | str s =>
    by_cases h : s ∈ verificationStatuses
    · exact .inl ⟨s, h, by simp [readStatus, h], id⟩
    · exact .inr (.inl ⟨by simp [readStatus, h], id⟩)
  | list items => exact .inr (.inr ⟨false, rfl, trivial⟩)
  | table entries => exact .inr (.inr ⟨true, rfl, trivial⟩)
  | _ => exact .inr (.inl ⟨rfl, id⟩)

theorem verification_container {data : Value} (h : StatusContainer data) (place : String) :
    ∃ isTable, Verification.ofValue place data = .error (.statusContainer isTable) := by
  cases data with
  | table entries =>
    obtain ⟨status, hstatus, hcontainer⟩ := h
    obtain ⟨s, -, -, hnot⟩ | ⟨-, hnot⟩ | ⟨isTable, hread, -⟩ := readStatus_cases place status
    · exact absurd hcontainer hnot
    · exact absurd hcontainer hnot
    · refine ⟨isTable, ?_⟩
      simp only [Verification.ofValue, Spec.get?_mapKeys_normalKey, hstatus, Option.getD_some,
        hread, error_bind]
  | _ => exact h.elim

theorem refuses_verificationText (place key : String) (v : Option Value) :
    Refuses place (optionalText (place ++ "." ++ key) v) :=
  (refuses_optionalText (place ++ "." ++ key) v).outer.outer

theorem refuses_verification {data : Value} (h : ¬ StatusContainer data) (place : String) :
    Refuses place (Verification.ofValue place data) := by
  cases data with
  | table entries =>
    have hstatus : Refuses place (readStatus place
        ((Spec.written? entries "status").getD (.str "needs_verification"))) := by
      obtain ⟨s, -, hread, -⟩ | ⟨hread, -⟩ | ⟨isTable, -, hcontainer⟩ := readStatus_cases place
        ((Spec.written? entries "status").getD (.str "needs_verification"))
      · exact hread ▸ .ok s
      · exact hread ▸ .error (.here rfl)
      · cases hwritten : Spec.written? entries "status" with
        | none => exact absurd hcontainer (by simp [hwritten, IsContainer])
        | some status => exact absurd ⟨status, hwritten, by simpa [hwritten] using hcontainer⟩ h
    simp only [Verification.ofValue, Spec.get?_mapKeys_normalKey]
    refine hstatus.bind fun status _ => ?_
    split
    · refine (refuses_verificationText place "assumption" _).bind fun _ _ => ?_
      refine (refuses_verificationText place "instruction" _).bind fun _ _ => ?_
      refine (refuses_verificationText place "confirm_if" _).bind fun _ _ => ?_
      refine (refuses_verificationText place "false_positive_if" _).bind fun _ _ => ?_
      split
      · exact .error (.here rfl)
      · exact .ok _
    · exact .error ⟨".commands", rfl⟩
  | _ => exact .error (.here rfl)

theorem verification_status (h : Verification.ofValue place data = .ok v) :
    v.status ∈ verificationStatuses := by
  cases data with
  | table entries =>
    simp only [Verification.ofValue, bind_eq_ok] at h
    obtain ⟨status, hstatus, h⟩ := h
    have hknown : status ∈ verificationStatuses := by
      obtain ⟨s, hs, hread, -⟩ | ⟨hread, -⟩ | ⟨isTable, hread, -⟩ := readStatus_cases place
        (((Entries.mapKeys Spec.normalKey entries).get? "status").getD (.str "needs_verification"))
      · rw [hread] at hstatus
        exact Except.ok.inj hstatus ▸ hs
      · cases hread.symm.trans hstatus
      · cases hread.symm.trans hstatus
    split at h
    · simp only [bind_eq_ok] at h
      obtain ⟨assumption, -, instruction, -, confirmIf, -, falsePositiveIf, -, h⟩ := h
      split at h
      · cases h
      · cases h
        exact hknown
    · cases h
  | _ => cases h

-- ---------------------------------------------------------------------------
-- Rules
-- ---------------------------------------------------------------------------

def readVerification? (place : String) : Option Value → Except ReadError (Option Verification)
  | none | some .null => .ok none
  | some v => some <$> Verification.ofValue place v

theorem unknown_erase (entries : Entries) :
    (entries.erase "verification").keys.filter (!definitionKeys.contains ·) =
      entries.keys.filter (!definitionKeys.contains ·) := by
  simp only [Entries.keys, Entries.erase, List.filter_map, List.filter_filter]
  refine congrArg _ (List.filter_congr fun entry _ => ?_)
  by_cases h : entry.1 = "verification"
  · simp [h, definitionKeys]
  · simp [h]

theorem nonBlank_erase (entries : Entries) (place : String) (h : key ≠ "verification") :
    nonBlank place key (entries.erase "verification") = nonBlank place key entries := by
  rw [nonBlank, Entries.get?_erase h, nonBlank]

theorem ofValue_eq (place : String) (entries : Entries) :
    Definition.ofValue place (.table entries) =
      (Definition.ofValue place (.table (entries.erase "verification")) >>= fun d =>
        readVerification? (place ++ " " ++ d.id ++ ".verification")
            (entries.get? "verification") >>= fun verification =>
          .ok { d with verification }) := by
  simp only [Definition.ofValue, unknown_erase, Entries.get?_erase_self,
    nonBlank_erase entries place (show "id" ≠ "verification" by decide),
    nonBlank_erase entries place (show "title" ≠ "verification" by decide),
    nonBlank_erase entries place (show "description" ≠ "verification" by decide),
    nonBlank_erase entries place (show "severity" ≠ "verification" by decide),
    nonBlank_erase entries place (show "category" ≠ "verification" by decide),
    Entries.get?_erase (show "suggestion" ≠ "verification" by decide),
    Entries.get?_erase (show "match" ≠ "verification" by decide)]
  split
  · rfl
  · simp only [bind_assoc, pure_ok, ok_bind, throw_error]
    refine bind_congr fun id => bind_congr fun title => bind_congr fun description => ?_
    refine bind_congr fun severity => bind_congr fun category => bind_congr fun severity => ?_
    refine bind_congr fun category => bind_congr fun suggestion => ?_
    cases entries.get? "match" with
    | none => rfl
    | some description =>
      simp only [bind_assoc, ok_bind]
      refine bind_congr fun spec => ?_
      cases entries.get? "verification" with
      | none => rfl
      | some v => cases v <;> rfl

theorem refuses_ofValue {entries : Entries} (h : entries.get? "verification" = none)
    (place : String) : Refuses place (Definition.ofValue place (.table entries)) := by
  simp only [Definition.ofValue, h]
  split
  · exact .error (.here rfl)
  · refine (refuses_nonBlank place "id" entries).bind fun id _ => ?_
    refine (refuses_nonBlank place "title" entries).bind fun title _ => ?_
    refine (refuses_nonBlank place "description" entries).bind fun description _ => ?_
    refine (refuses_nonBlank place "severity" entries).bind fun severity _ => ?_
    refine (refuses_nonBlank place "category" entries).bind fun category _ => ?_
    -- From here on the place has the id of the rule in it.
    suffices h : Refuses (place ++ " " ++ strip id) _ from h.outer.outer
    refine (refuses_readLabel _ severities severity).outer.bind fun severity _ => ?_
    refine (refuses_readLabel _ categories category).outer.bind fun category _ => ?_
    refine (refuses_optionalText _ _).outer.bind fun suggestion _ => ?_
    split
    · refine (refuses_spec _ _).outer.bind fun spec _ => ?_
      exact .ok _
    · exact .error (.here rfl)

/-- Rules that are read without their verification, which has a list or a table as its status. -/
def ContainerFault (place : String) : Value → Prop
  | .table entries =>
    (∃ d, Definition.ofValue place (.table (Entries.erase entries "verification")) = .ok d) ∧
      ∃ v, Entries.get? entries "verification" = some v ∧ StatusContainer v
  | _ => False

structure Definition.Accepted (d : Definition) : Prop where
  id_stripped : strip d.id = d.id
  id_nonBlank : isBlankText d.id = false
  severity : d.severity ∈ severities
  category : d.category ∈ categories
  status : ∀ v ∈ d.verification, v.status ∈ verificationStatuses

theorem readVerification?_cases (place : String) (data : Option Value) :
    (∃ found, readVerification? place data = .ok found ∧
      ∀ v ∈ found, v.status ∈ verificationStatuses) ∨
    ((¬ ∃ v, data = some v ∧ StatusContainer v) ∧ ∃ problem, problem.Inside place ∧
      readVerification? place data = .error (.refused problem)) ∨
    ((∃ v, data = some v ∧ StatusContainer v) ∧ ∃ isTable,
      readVerification? place data = .error (.statusContainer isTable)) := by
  unfold readVerification?
  split
  · exact .inl ⟨none, rfl, by simp⟩
  · exact .inl ⟨none, rfl, by simp⟩
  · rename_i v _
    by_cases hcontainer : StatusContainer v
    · obtain ⟨isTable, hread⟩ := verification_container hcontainer place
      exact .inr (.inr ⟨⟨v, rfl, hcontainer⟩, isTable, by rw [hread]; rfl⟩)
    · cases hread : Verification.ofValue place v with
      | ok found => exact .inl ⟨some found, rfl, by simpa using verification_status hread⟩
      | error e =>
        obtain ⟨problem, rfl, hinside⟩ := refuses_verification hcontainer place e hread
        exact .inr (.inl ⟨by simpa using hcontainer, problem, hinside, rfl⟩)

theorem nonBlank_text (h : nonBlank place key entries = .ok s) : isBlankText s = false := by
  unfold nonBlank at h
  split at h
  · split at h
    · cases h
    · rename_i hblank
      cases h
      simpa using hblank
  · cases h

theorem readLabel_mem (h : readLabel place allowed s = .ok label) : label ∈ allowed := by
  unfold readLabel at h
  dsimp only at h
  split at h
  · rename_i hallowed
    rw [← Except.ok.inj h]
    simpa using hallowed
  · cases h

theorem accepted_of_plain {entries : Entries} (hnone : entries.get? "verification" = none)
    (h : Definition.ofValue place (.table entries) = .ok d) : d.Accepted := by
  simp only [Definition.ofValue, hnone] at h
  split at h
  · cases h
  · simp only [bind_eq_ok] at h
    obtain ⟨id, hid, title, -, description, -, severity, -, category, -, severity, hseverity,
      category, hcategory, suggestion, -, h⟩ := h
    split at h
    · simp only [bind_eq_ok, pure_eq_ok] at h
      obtain ⟨spec, -, verification, hverification, rfl⟩ := h
      exact {
        id_stripped := strip_strip id
        id_nonBlank := isBlankText_strip (nonBlank_text hid)
        severity := readLabel_mem hseverity
        category := readLabel_mem hcategory
        status := by simp [← hverification] }
    · cases h

/-- All that reading a rule can do: give a rule, report a problem at the place of the rule, or fail
on a status that is a list or a table. -/
theorem ofValue_outcome (place : String) (data : Value) :
    (∃ d, Definition.ofValue place data = .ok d ∧ d.Accepted) ∨
    (¬ ContainerFault place data ∧ ∃ problem, problem.Inside place ∧
      Definition.ofValue place data = .error (.refused problem)) ∨
    (ContainerFault place data ∧ ∃ isTable,
      Definition.ofValue place data = .error (.statusContainer isTable)) := by
  cases data with
  | table entries =>
    have hnone := Entries.get?_erase_self entries "verification"
    rw [ofValue_eq place entries]
    cases hplain : Definition.ofValue place (.table (Entries.erase entries "verification")) with
    | error e =>
      obtain ⟨problem, rfl, hinside⟩ := refuses_ofValue hnone place e hplain
      refine .inr (.inl ⟨?_, problem, hinside, rfl⟩)
      rintro ⟨⟨d, hd⟩, -⟩
      cases hplain.symm.trans hd
    | ok d =>
      rw [ok_bind]
      obtain ⟨found, hread, hfound⟩ | ⟨hno, problem, hinside, hread⟩ |
          ⟨hcontainer, isTable, hread⟩ :=
        readVerification?_cases (place ++ " " ++ d.id ++ ".verification")
          (Entries.get? entries "verification")
      · rw [hread, ok_bind]
        exact .inl ⟨_, rfl, { accepted_of_plain hnone hplain with status := hfound }⟩
      · rw [hread, error_bind]
        exact .inr (.inl ⟨fun h => hno h.2, problem, hinside.outer.outer.outer, rfl⟩)
      · rw [hread, error_bind]
        exact .inr (.inr ⟨⟨⟨d, hplain⟩, hcontainer⟩, isTable, rfl⟩)
  | _ => exact .inr (.inl ⟨id, .notTable place, .here rfl, rfl⟩)

theorem accepted_of_ok {data : Value} (h : Definition.ofValue place data = .ok d) :
    d.Accepted := by
  obtain ⟨d', hd', haccepted⟩ | ⟨-, problem, -, herror⟩ | ⟨-, isTable, herror⟩ :=
    ofValue_outcome place data
  · exact Except.ok.inj (h.symm.trans hd') ▸ haccepted
  · cases h.symm.trans herror
  · cases h.symm.trans herror

-- ---------------------------------------------------------------------------
-- Lists of rules
-- ---------------------------------------------------------------------------

def rulePlace (source : String) (index : Nat) : String :=
  source ++ ": rules[" ++ toString index ++ "]"

/-- All that reading a list of rules can do: read each of them at its place, or fail on the first
that cannot be read. -/
theorem readDefinitionsFrom_cases (source : String) (index : Nat) (items : List Value) :
    (∃ ds, readDefinitionsFrom source index items = .ok ds ∧
      List.Forall₂ (fun item d => Definition.ofValue (rulePlace source item.2) item.1 = .ok d)
        (items.zipIdx index) ds) ∨
    ∃ before item after e, items = before ++ item :: after ∧
      (∀ earlier ∈ before.zipIdx index,
        ∃ d, Definition.ofValue (rulePlace source earlier.2) earlier.1 = .ok d) ∧
      Definition.ofValue (rulePlace source (index + before.length)) item = .error e ∧
      readDefinitionsFrom source index items = .error e := by
  induction items generalizing index with
  | nil => exact .inl ⟨[], rfl, .nil⟩
  | cons item items ih =>
    have hread : readDefinitionsFrom source index (item :: items) =
        (Definition.ofValue (rulePlace source index) item >>= fun first =>
          readDefinitionsFrom source (index + 1) items >>= fun rest => .ok (first :: rest)) := rfl
    rw [hread]
    cases hitem : Definition.ofValue (rulePlace source index) item with
    | error e => exact .inr ⟨[], item, items, e, rfl, by simp, hitem, rfl⟩
    | ok d =>
      rw [ok_bind]
      obtain ⟨ds, hds, hall⟩ | ⟨before, bad, after, e, rfl, hbefore, hbad, he⟩ := ih (index + 1)
      · rw [hds, ok_bind]
        exact .inl ⟨d :: ds, rfl, .cons hitem hall⟩
      · rw [he, error_bind]
        refine .inr ⟨item :: before, bad, after, e, rfl, ?_, ?_, rfl⟩
        · exact List.forall_mem_cons.mpr ⟨⟨d, hitem⟩, hbefore⟩
        · rwa [List.length_cons, Nat.add_comm before.length, ← Nat.add_assoc]

/-- A rule with a list of one known status in place of the status. -/
def listedStatus : Value :=
  .table [("id", .str "A"), ("title", .str "T"), ("description", .str "D"),
    ("severity", .str "low"), ("category", .str "error"),
    ("match", .table [("type", .str "raw_regex"), ("regex_source", .str "x")]),
    ("verification", .table [("status", .list [.str "confirmed"])])]

end CodeAudit.Rule
