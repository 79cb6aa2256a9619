/-
# The choice of a model and of a reasoning effort

One user action has two paths: `client/workspace.rs` changes the settings of a draft,
`session/actor.rs` those of a live session; `validate_materialization_settings` of
`session/manager.rs` says which pairs of a model and an effort are valid.

The draft adjusts its effort to the model (`adjustedReasoning`), but it is given the model
before it is known that there is an effort, and a default effort that the model does not
support; it stays submittable exactly where neither happens (`staysSubmittable_iff`).  The
live session never adjusts its effort, so its pair is valid exactly where the model
supports the effort that the session had (`selectModel_valid_iff`).
-/

import Moh.Client.Controller
import Moh.Session.TitleFrame

namespace Moh

/-- The entry of a catalog that every path looks up for a model: the first one. -/
def catalogEntry (models : List ModelInfoDto) (model : String) : Option ModelInfoDto :=
  models.find? fun candidate => candidate.id == model

/-- **The validity law** for a catalog that is ready. -/
theorem validate_ready_iff {settings : SessionSettings} {models : List ModelInfoDto} :
    validateMaterializationSettings settings (.ready models) = .ok () ↔
      ∃ candidate, catalogEntry models settings.model = some candidate ∧
        settings.reasoning ∈ candidate.reasoningEfforts := by
  simp only [validateMaterializationSettings, catalogEntry]
  cases hf : models.find? fun candidate => candidate.id == settings.model with
  | none => simp
  | some candidate =>
    by_cases he : settings.reasoning ∈ candidate.reasoningEfforts
    · simp [he]
    · simp [he]

namespace Client

variable {S : Type}

/-! ### Drafts -/

/-- The effort a draft gets with a model: its own, the default, or the first one; none
where the model has no effort at all. -/
def adjustedReasoning (candidate : ModelInfoDto) (reasoning : ReasoningLevel) :
    Option ReasoningLevel :=
  if reasoning ∈ candidate.reasoningEfforts then some reasoning
  else candidate.defaultReasoning <|> candidate.reasoningEfforts.head?

/-- A choice of the user. -/
inductive SettingsChoice where
  | model (model : String)
  | reasoning (reasoning : ReasoningLevel)
deriving DecidableEq, Repr

/-- `select_model` or `select_reasoning`, with the answer of the session if there is one. -/
def WorkspaceController.choose (c : WorkspaceController S)
    (selected : Except ClientSessionError Unit) :
    SettingsChoice → Except ClientSessionError Unit × WorkspaceController S
  | .model model => c.selectModel model selected
  | .reasoning reasoning => c.selectReasoning reasoning selected

/-- **A draft stays submittable:** the choice is refused and changes nothing, or it leaves a
draft that the manager accepts for the same catalog. -/
def StaysSubmittable (draft : DraftState)
    (chosen : Except ClientSessionError Unit × WorkspaceController S) : Prop :=
  (∃ error, chosen.1 = .error error) ∧ chosen.2.projection = .draft draft ∨
    chosen.1 = .ok () ∧ ∃ next, chosen.2.projection = .draft next ∧ next.catalog = draft.catalog ∧
      validateMaterializationSettings next.settings draft.catalog = .ok ()

/-- The model that is chosen, if the catalog has it, supports the effort of the draft, or
has a default effort that it supports, or has no default and some effort; or it has no
effort at all and is the model of the draft already. -/
def Suits (settings : SessionSettings) (models : List ModelInfoDto) : SettingsChoice → Prop
  | .reasoning _ => True
  | .model model => ∀ candidate, catalogEntry models model = some candidate →
    settings.reasoning ∈ candidate.reasoningEfforts ∨
      (∃ reasoning, candidate.defaultReasoning = some reasoning ∧
        reasoning ∈ candidate.reasoningEfforts) ∨
      candidate.defaultReasoning = none ∧
        (candidate.reasoningEfforts ≠ [] ∨ settings.model = model)

/-- What a draft makes of the choice of a model. -/
theorem selectModel_draft (session : Option S) (warning : Option String) (cwd : List UInt8)
    (settings : SessionSettings) (models : List ModelInfoDto) (model : String)
    (selected : Except ClientSessionError Unit) :
    WorkspaceController.selectModel ⟨session, .draft ⟨cwd, settings, .ready models⟩, warning⟩
      model selected =
    match catalogEntry models model with
    | none => (.error { message := "model is not available" },
        ⟨session, .draft ⟨cwd, settings, .ready models⟩, warning⟩)
    | some candidate =>
      match adjustedReasoning candidate settings.reasoning with
      | none => (.error { message := "model has no supported reasoning effort" },
          ⟨session, .draft ⟨cwd, { settings with model := model }, .ready models⟩, warning⟩)
      | some reasoning => (.ok (),
          ⟨session, .draft ⟨cwd, ⟨model, reasoning, 0⟩, .ready models⟩, warning⟩) := by
  simp only [WorkspaceController.selectModel, catalogEntry, adjustedReasoning, List.contains_iff_mem]
  cases models.find? fun candidate => candidate.id == model with
  | none => rfl
  | some candidate =>
    simp only
    split_ifs with he
    · rfl
    · cases candidate.defaultReasoning <|> candidate.reasoningEfforts.head? <;> rfl

/-- There is no effort for a draft exactly if the model has none and no default. -/
theorem adjustedReasoning_eq_none_iff {candidate : ModelInfoDto} {reasoning : ReasoningLevel} :
    adjustedReasoning candidate reasoning = none ↔
      candidate.defaultReasoning = none ∧ candidate.reasoningEfforts = [] := by
  unfold adjustedReasoning
  split_ifs with he
  · refine iff_of_false nofun fun h => ?_
    rw [h.2] at he
    exact absurd he List.not_mem_nil
  · cases candidate.defaultReasoning <;> simp

/-- The effort of a draft is supported unless it is a default that is not. -/
theorem adjustedReasoning_supported_iff {candidate : ModelInfoDto}
    {reasoning adjusted : ReasoningLevel} (ha : adjustedReasoning candidate reasoning = some adjusted) :
    adjusted ∈ candidate.reasoningEfforts ↔ reasoning ∈ candidate.reasoningEfforts ∨
      (∃ default, candidate.defaultReasoning = some default ∧
        default ∈ candidate.reasoningEfforts) ∨ candidate.defaultReasoning = none := by
  unfold adjustedReasoning at ha
  split_ifs at ha with he
  · obtain rfl := Option.some.inj ha
    simp [he]
  · cases hd : candidate.defaultReasoning with
    | some default =>
      rw [hd] at ha
      obtain rfl : default = adjusted := Option.some.inj ha
      simp [he]
    | none =>
      rw [hd] at ha
      have hhead : candidate.reasoningEfforts.head? = some adjusted := ha
      simp [List.mem_of_mem_head? hhead]

section
variable {session : Option S} {warning : Option String} {cwd : List UInt8}
  {settings : SessionSettings} {models : List ModelInfoDto} {model : String}

/-- A choice of an effort is refused, or its pair is one that the manager accepts. -/
theorem staysSubmittable_reasoning (selected : Except ClientSessionError Unit)
    (reasoning : ReasoningLevel) :
    StaysSubmittable ⟨cwd, settings, .ready models⟩
      (WorkspaceController.choose ⟨session, .draft ⟨cwd, settings, .ready models⟩, warning⟩
        selected (.reasoning reasoning)) := by
  simp only [WorkspaceController.choose, WorkspaceController.selectReasoning]
  split_ifs with hs
  · cases hf : models.find? fun model => model.id == settings.model with
    | none => simp [hf] at hs
    | some candidate =>
      have he : reasoning ∈ candidate.reasoningEfforts := by simpa [hf] using hs
      exact .inr ⟨rfl, _, rfl, rfl, validate_ready_iff.2 ⟨candidate, hf, he⟩⟩
  · exact .inl ⟨⟨_, rfl⟩, rfl⟩

/-- A refusal after the model was set changes nothing exactly if it is the same model. -/
theorem staysSubmittable_refused_iff {error : ClientSessionError} :
    StaysSubmittable ⟨cwd, settings, .ready models⟩
        ((.error error,
          ⟨session, .draft ⟨cwd, { settings with model := model }, .ready models⟩, warning⟩) :
          Except ClientSessionError Unit × WorkspaceController S) ↔
      settings.model = model := by
  constructor
  · rintro (⟨-, hsame⟩ | ⟨hok, -⟩)
    · have hsettings := congrArg DraftState.settings (ChatProjection.draft.inj hsame)
      have hmodel : model = settings.model := congrArg SessionSettings.model hsettings
      exact hmodel.symm
    · simp at hok
  · rintro rfl
    exact .inl ⟨⟨_, rfl⟩, rfl⟩

/-- A model that is chosen with an effort is accepted exactly if it supports this. -/
theorem staysSubmittable_accepted_iff {candidate : ModelInfoDto}
    (hf : catalogEntry models model = some candidate) {adjusted : ReasoningLevel} :
    StaysSubmittable ⟨cwd, settings, .ready models⟩
        ((.ok (), ⟨session, .draft ⟨cwd, ⟨model, adjusted, 0⟩, .ready models⟩, warning⟩) :
          Except ClientSessionError Unit × WorkspaceController S) ↔
      adjusted ∈ candidate.reasoningEfforts := by
  constructor
  · rintro (⟨⟨error, he⟩, -⟩ | ⟨-, next, hnext, -, hv⟩)
    · simp at he
    · obtain rfl := ChatProjection.draft.inj hnext
      obtain ⟨candidate', hf', he⟩ := validate_ready_iff.1 hv
      obtain rfl : candidate = candidate' := Option.some.inj (hf.symm.trans hf')
      exact he
  · exact fun he => .inr ⟨rfl, _, rfl, rfl, validate_ready_iff.2 ⟨candidate, hf, he⟩⟩

/-- Where the catalog has the model. -/
theorem suits_iff {candidate : ModelInfoDto} (hf : catalogEntry models model = some candidate) :
    Suits settings models (.model model) ↔
      settings.reasoning ∈ candidate.reasoningEfforts ∨
        (∃ reasoning, candidate.defaultReasoning = some reasoning ∧
          reasoning ∈ candidate.reasoningEfforts) ∨
        candidate.defaultReasoning = none ∧
          (candidate.reasoningEfforts ≠ [] ∨ settings.model = model) := by
  simp [Suits, hf]

end

/-- **Where a draft stays submittable.**  A choice is refused without a change, or leaves a
draft that the manager accepts, exactly if the chosen model suits the draft. -/
theorem staysSubmittable_iff (session : Option S) (warning : Option String) (cwd : List UInt8)
    (settings : SessionSettings) (models : List ModelInfoDto)
    (selected : Except ClientSessionError Unit) (choice : SettingsChoice) :
    StaysSubmittable ⟨cwd, settings, .ready models⟩
        (WorkspaceController.choose ⟨session, .draft ⟨cwd, settings, .ready models⟩, warning⟩
          selected choice) ↔
      Suits settings models choice := by
  cases choice with
  | reasoning reasoning => exact iff_of_true (staysSubmittable_reasoning selected reasoning) trivial
  | model model =>
    rw [WorkspaceController.choose, selectModel_draft]
    cases hf : catalogEntry models model with
    | none => exact iff_of_true (.inl ⟨⟨_, rfl⟩, rfl⟩) (by simp [Suits, hf])
    | some candidate =>
      rw [suits_iff hf]
      simp only
      cases ha : adjustedReasoning candidate settings.reasoning with
      | none =>
        -- The model is set before the effort is looked for.
        obtain ⟨hdefault, hefforts⟩ := adjustedReasoning_eq_none_iff.1 ha
        rw [staysSubmittable_refused_iff]
        simp [hdefault, hefforts]
      | some adjusted =>
        have hsome : candidate.defaultReasoning = none → candidate.reasoningEfforts ≠ [] := by
          intro hdefault hefforts
          rw [adjustedReasoning_eq_none_iff.2 ⟨hdefault, hefforts⟩] at ha
          simp at ha
        rw [staysSubmittable_accepted_iff hf, adjustedReasoning_supported_iff ha]
        constructor
        · rintro (h | h | h)
          · exact .inl h
          · exact .inr (.inl h)
          · exact .inr (.inr ⟨h, .inl (hsome h)⟩)
        · rintro (h | h | ⟨h, -⟩)
          · exact .inl h
          · exact .inr (.inl h)
          · exact .inr (.inr h)

/-- A catalog whose second model has no effort that a client knows. -/
def sparseCatalog : List ModelInfoDto :=
  [⟨"sol", "Sol", "", [.low, .medium], some .medium⟩, ⟨"bare", "Bare", "", [], none⟩,
    ⟨"high", "High", "", [.high], some .high⟩]

/-- **A refused choice leaves a half-changed draft,** which the manager refuses when its
prompt is submitted. -/
theorem draft_half_changed :
    ¬∀ (models : List ModelInfoDto) (settings : SessionSettings) (choice : SettingsChoice),
      StaysSubmittable ⟨[], settings, .ready models⟩
        (WorkspaceController.choose
          (⟨none, .draft ⟨[], settings, .ready models⟩, none⟩ :
            WorkspaceController Rpc.RpcSessionClient)
          (.ok ()) choice) := by
  intro hall
  rcases hall sparseCatalog ⟨"sol", .medium, 7⟩ (.model "bare") with ⟨-, hsame⟩ | ⟨hok, -⟩
  · have hsettings := congrArg DraftState.settings (ChatProjection.draft.inj hsame)
    have hmodel : "bare" = "sol" := congrArg SessionSettings.model hsettings
    exact absurd hmodel (by decide)
  · simp [WorkspaceController.choose, WorkspaceController.selectModel, sparseCatalog] at hok

end Client

/-! ### Live sessions -/

namespace Session

/-- A change of the settings leaves them in the record, also where it fails. -/
theorem settings_changeSettings (s : Session) (env : Env) (settings : SessionSettings) :
    (s.changeSettings env settings).2.record.settings = settings := by
  simp only [changeSettings]
  split
  · rename_i t hp
    rw [record_of_project hp]
  · rename_i event t hp
    rw [record_announce, record_persistMetadata, record_of_project hp]

/-- The choice of a model replaces the model and keeps the effort. -/
theorem settings_selectModel {s : Session} {env : Env} {model : String}
    (hok : (s.selectModel env model).1 = .ok ()) :
    (s.selectModel env model).2.record.settings = { s.record.settings with model := model } := by
  unfold selectModel at hok ⊢
  cases hm : s.ensureMutable with
  | error error => simp [hm] at hok
  | ok u =>
    simp only [hm] at hok ⊢
    split_ifs at hok ⊢
    exact settings_changeSettings ..

/-- **Where a live choice of a model leaves a valid pair:** exactly if the model supports
the effort that the session had. -/
theorem selectModel_valid_iff {s : Session} {env : Env} {model : String}
    {models : List ModelInfoDto} (hc : s.stream.projection.catalog = .ready models)
    (hok : (s.selectModel env model).1 = .ok ()) :
    validateMaterializationSettings (s.selectModel env model).2.record.settings
        s.stream.projection.catalog = .ok () ↔
      ∃ candidate, catalogEntry models model = some candidate ∧
        s.record.settings.reasoning ∈ candidate.reasoningEfforts := by
  rw [settings_selectModel hok, hc, validate_ready_iff]

/-- A live session of the sparse catalog. -/
def sparseSession : Session :=
  .spawn ⟨∅, 1⟩ { emptyRecord with settings := ⟨"sol", .medium, 0⟩ }
    (.fromRecord { emptyRecord with settings := ⟨"sol", .medium, 0⟩ }
      (.ready Client.sparseCatalog)) .new

/-- `selectModel_valid_iff` for a model without efforts. -/
theorem selectModel_valid_sparse :
    validateMaterializationSettings (sparseSession.selectModel quietEnv "bare").2.record.settings
        sparseSession.stream.projection.catalog = .ok () ↔
      ∃ candidate, catalogEntry Client.sparseCatalog "bare" = some candidate ∧
        sparseSession.record.settings.reasoning ∈ candidate.reasoningEfforts :=
  selectModel_valid_iff rfl (by decide +kernel)

/-- **An effort that the new model does not support survives:** the session is left with
`high` at the effort `medium`, where a draft gets the default of the model. -/
theorem effort_survives :
    ¬∀ (s : Session) (env : Env) (model : String) (models : List ModelInfoDto),
      s.stream.projection.catalog = .ready models → (s.selectModel env model).1 = .ok () →
        validateMaterializationSettings (s.selectModel env model).2.record.settings
          (.ready models) = .ok () := by
  intro hall
  have hv := hall sparseSession quietEnv "high" Client.sparseCatalog rfl (by decide +kernel)
  obtain ⟨candidate, hf, he⟩ := validate_ready_iff.1 hv
  obtain rfl : (⟨"high", "High", "", [.high], some .high⟩ : ModelInfoDto) = candidate :=
    Option.some.inj hf
  exact absurd he (by decide)

end Session
end Moh
