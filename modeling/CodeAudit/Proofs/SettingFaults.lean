import CodeAudit.Proofs.FirstFault
import CodeAudit.Settings

/-!
# Settings that are refused

A table of settings is only refused for one of the settings, and the report starts with the name of
the setting or of a part of it (`ofEntries_error`). One law for each reader says which.
-/

namespace CodeAudit.Settings

open CodeAudit.Rule (Starts starts_ticked starts_ticked_inner ticked)

def keys : List String := ["categories", "max-buffer-chars", "fail-under", "rules", "advisory"]

def Error.Blames (key : String) (e : Error) : Prop := Starts ("`" ++ fieldName key) e.message

theorem starts_ticked_part (h : Starts place field) : Starts ("`" ++ place) (ticked field) := by
  obtain ⟨part, rfl⟩ := h
  exact starts_ticked_inner place part

theorem readTexts_error (h : readTexts field value = .error e) : e = .notTexts field := by
  unfold readTexts at h
  split at h
  · cases h
  · split at h
    · cases h
    · exact (Except.error.inj h).symm

theorem readCategories_error (h : readCategories value = .error e) : e.Blames "categories" := by
  unfold readCategories at h
  split at h
  · cases h
  · cases h
  · simp only [bind_eq_error] at h
    obtain h | ⟨texts, -, h | ⟨named, -, h⟩⟩ := h
    · rw [readTexts_error h]
      exact (starts_ticked _).append _
    · obtain ⟨text, -, h⟩ := exists_of_mapM_error h
      simp only [readCategory] at h
      split at h
      · cases h
      · rw [← Except.error.inj h]
        exact (((starts_ticked _).append _).append _).append _
    · cases h

theorem readInteger_error (h : readInteger key n value = .error e) :
    e.Blames key := by
  unfold readInteger at h
  split at h
  · cases h
  · cases h
  · rw [← Except.error.inj h]
    exact (starts_ticked _).append _

theorem readLimit_error (h : readLimit value = .error e) : e.Blames "max-buffer-chars" := by
  simp only [readLimit, bind_eq_error] at h
  obtain h | ⟨n, -, h⟩ := h
  · exact readInteger_error h
  · split at h
    · rw [← Except.error.inj h]
      exact (starts_ticked _).append _
    · cases h

theorem readFailUnder_error (h : readFailUnder value = .error e) : e.Blames "fail-under" := by
  simp only [readFailUnder, bind_eq_error] at h
  obtain h | ⟨n, -, h⟩ := h
  · exact readInteger_error h
  · split at h
    · rw [← Except.error.inj h]
      exact (starts_ticked _).append _
    · cases h

theorem readRuleId_error (h : readRuleId field text = .error e) : e = .badRuleId field := by
  simp only [readRuleId] at h
  split at h
  · cases h
  · exact (Except.error.inj h).symm

theorem readSeverity_error (h : readSeverity field value = .error e) :
    e = .notText field ∨ e = .badSeverity field := by
  unfold readSeverity at h
  split at h
  · dsimp only at h
    split at h
    · cases h
    · exact .inr (Except.error.inj h).symm
  · exact .inl (Except.error.inj h).symm

theorem readSeverities_error (h : readSeverities known given = .error e) : e.Blames "rules" := by
  induction given generalizing known with
  | nil => cases h
  | cons entry given ih =>
    obtain ⟨key, value⟩ := entry
    have hfield : Starts (fieldName "rules") (fieldName ("rules.severity-overrides." ++ key)) := by
      rw [fieldName, fieldName, ← String.append_assoc]
      exact Starts.append ⟨".severity-overrides.", rfl⟩ key
    simp only [readSeverities, bind_eq_error] at h
    obtain h | ⟨ruleId, -, h | ⟨severity, -, h⟩⟩ := h
    · rw [readRuleId_error h]
      exact (starts_ticked_part hfield).append _
    · obtain rfl | rfl := readSeverity_error h
      · exact (starts_ticked_part hfield).append _
      · exact (((starts_ticked_part hfield).append _).append _).append _
    · exact ih h

theorem readRules_error (h : readRules value = .error e) : e.Blames "rules" := by
  have hdisable : Starts (fieldName "rules") (fieldName "rules.disable") := ⟨".disable", rfl⟩
  have hfiles : Starts (fieldName "rules") (fieldName "rules.files") := ⟨".files", rfl⟩
  have hseverities : Starts (fieldName "rules") (fieldName "rules.severity-overrides") :=
    ⟨".severity-overrides", rfl⟩
  unfold readRules at h
  split at h
  · cases h
  · simp only [bind_eq_error] at h
    obtain h | ⟨texts, -, h | ⟨disabled, -, h | ⟨files, -, h⟩⟩⟩ := h
    · rw [readTexts_error h]
      exact (starts_ticked_part hdisable).append _
    · obtain ⟨text, -, h⟩ := exists_of_mapM_error h
      rw [readRuleId_error h]
      exact (starts_ticked_part ((hdisable.append _).append _)).append _
    · rw [readTexts_error h]
      exact (starts_ticked_part hfiles).append _
    · split at h
      all_goals
        simp only [bind_eq_error, pure_ok, throw_error, reduceCtorEq, and_false, exists_false,
          or_false] at h
      · exact readSeverities_error h
      · rw [← Except.error.inj h]
        exact (starts_ticked_part hseverities).append _
  · rw [← Except.error.inj h]
    exact (starts_ticked _).append _

theorem readLevel_error (h : readLevel value = .error e) : e.Blames "advisory" := by
  have hlevel : Starts (fieldName "advisory") (fieldName "advisory.level") := ⟨".level", rfl⟩
  have hbad : Error.badLevel.Blames "advisory" :=
    (((starts_ticked_part hlevel).append _).append _).append _
  unfold readLevel at h
  split at h
  · cases h
  · split at h
    · dsimp only at h
      split at h
      · cases h
      · exact Except.error.inj h ▸ hbad
    · exact Except.error.inj h ▸ hbad
  · rw [← Except.error.inj h]
    exact (starts_ticked _).append _

theorem ofEntries_error (h : ofEntries entries = .error e) : ∃ key ∈ keys, e.Blames key := by
  simp only [ofEntries, bind_eq_error] at h
  obtain h | ⟨_, -, h | ⟨_, -, h | ⟨_, -, h | ⟨_, -, h | ⟨_, -, h⟩⟩⟩⟩⟩ := h
  · exact ⟨_, by simp [keys], readCategories_error h⟩
  · exact ⟨_, by simp [keys], readLimit_error h⟩
  · exact ⟨_, by simp [keys], readFailUnder_error h⟩
  · exact ⟨_, by simp [keys], readRules_error h⟩
  · exact ⟨_, by simp [keys], readLevel_error h⟩
  · cases h

end CodeAudit.Settings
