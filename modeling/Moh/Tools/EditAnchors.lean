/-
# The lines that anchors stand for

`tools/edit.rs`: `EditService::edit` looks its two anchors up in the stored snapshot
of the file and replaces the lines at their positions in the bytes it has
collected.  It checks these bytes against the session's observation, and the
snapshot not at all, although a write records an observation without saving
anchors; and it writes the lines with the newlines of the file, which loses an empty
last line where the file ends without one.  In a run in which every edit finds the
snapshot of the lines it has collected, and lines that are read again as they are
written, each edit that succeeds replaces exactly the lines between its anchors, and
the other lines of the file are what they were (`edits_address_of_guarded`).
-/

import Moh.Tools.Workbench
import Moh.Tools.EditFailure
import Moh.Tools.Lines

namespace Moh
namespace Tools

open Fallible

variable {H : Hashing}

/-! ### What an edit should have done -/

/-- The row is a snapshot of the text; a legacy row has no line identities. -/
structure Describes (H : Hashing) (row : AnchorSnapshot) (text : List Char) : Prop where
  checksum : row.checksum = textChecksum H text
  lineCount : row.lineCount = (logicalLines text).length
  lines : row.lines = (logicalLines text).map canonicalLine ∨ row.lines = []

/-- The lines of an edited file: those outside of the range, and the replacement. -/
def linesAfter (args : EditArgs) (payload : EditPayload) (first last : ℕ) : List Line :=
  payload.lines.take first ++ args.replacementLines ++ payload.lines.drop (last + 1)

/-- **The edit replaces the lines its anchors stand for:** the anchors label the
lines of a snapshot, these are the lines of the collected bytes, and the new file has
those outside of the range and the replacement; where none are left it has one empty
line. -/
structure Addresses (H : Hashing) (saved : List (PathBuf × List Char)) (args : EditArgs)
    (e : Edited) : Prop where
  snapshot : ∃ text, (e.payload.canonical, text) ∈ saved ∧ Describes H e.row text ∧
    logicalLines text = e.payload.lines
  length : e.row.hashes.length = e.payload.lines.length
  nodup : e.row.hashes.Nodup
  first : e.row.hashes[e.first]? = some args.removeFrom
  last : e.row.hashes[e.last]? = some args.removeTo
  first_le : e.first ≤ e.last
  last_lt : e.last < e.payload.lines.length
  replacement : e.replacement =
    encodeLines e.payload.bytes (linesAfter args e.payload e.first e.last)
  lines : logicalLines (normalizeText e.replacement).1 =
    if linesAfter args e.payload e.first e.last = [] then [[]]
    else linesAfter args e.payload e.first e.last

/-- An edit that has finished with this result is none that panicked in `splice`,
and one that succeeded has replaced the lines its anchors stand for. -/
def Finished (H : Hashing) (saved : List (PathBuf × List Char)) (log : List ToolEvent)
    (args : EditArgs) (edited : Option Edited)
    (result : Except (Abort EditToolError) (List Char)) : Prop :=
  result ≠ .error (.panicked .splice) ∧ ∀ text, result = .ok text →
    ∃ e, edited = some e ∧ Addresses H saved args e ∧
      .replaced e.payload.canonical e.payload.bytes e.replacement ∈ log

/-- Every edit that has finished did what its anchors say. -/
def EditsAddress (H : Hashing) (m : Workbench) : Prop :=
  ∀ c ∈ m.calls, ∀ args edited result, c.call = .edit args (.finished edited result) →
    Finished H m.saved m.log args edited result

/-- Every stored row is the snapshot of the text saved last for its path. -/
def RowsDescribed (H : Hashing) (anchors : AnchorStore) (saved : List (PathBuf × List Char)) :
    Prop :=
  ∀ c row, anchors.rows c = some row → ∃ text, saved.lookup c = some text ∧ Describes H row text

/-- A machine on which no call runs. -/
structure AtRest (H : Hashing) (m : Workbench) : Prop where
  calls : m.calls = []
  rows : RowsDescribed H m.anchors m.saved

/-- A plan from the stored row, where it gives one, is of the lines that anchors were
saved for last, and leaves lines that are read again as they are written. -/
def PlanHolds (anchors : AnchorStore) (saved : List (PathBuf × List Char)) (args : EditArgs)
    (payload : EditPayload) : Prop :=
  ∀ row ∈ anchors.rows payload.canonical, ∀ range ∈ (anchorRange row args).toOption,
    (∀ text ∈ saved.lookup payload.canonical, logicalLines text = payload.lines) ∧
      ReadAgain payload.bytes (linesAfter args payload range.1 range.2)

instance (anchors : AnchorStore) (saved : List (PathBuf × List Char)) (args : EditArgs)
    (payload : EditPayload) : Decidable (PlanHolds anchors saved args payload) :=
  inferInstanceAs (Decidable (∀ row ∈ anchors.rows payload.canonical,
    ∀ range ∈ (anchorRange row args).toOption, _ ∧ _))

/-- What a call has collected that is about to take its plan. -/
def Call.loading : Call → Option (EditArgs × EditPayload)
  | .edit args (.load payload) => some (args, payload)
  | _ => none

/-- The plan holds of an edit that is about to take it. -/
def PlansHold (m : Workbench) : Action → Prop
  | .advance index _ => ∀ loading ∈ (m.calls[index]?).bind (·.call.loading),
      PlanHolds m.anchors m.saved loading.1 loading.2
  | _ => True

instance (m : Workbench) : DecidablePred (PlansHold m)
  | .advance index _ => inferInstanceAs (Decidable
      (∀ loading ∈ (m.calls[index]?).bind (·.call.loading),
        PlanHolds m.anchors m.saved loading.1 loading.2))
  | .begin .. => .isTrue trivial
  | .external _ => .isTrue trivial

/-! ### Plans -/

variable {s s' : ToolState} {saved saved' : List (PathBuf × List Char)} {args : EditArgs}
  {payload : EditPayload} {edited : Edited}

theorem Addresses.mono (h : Addresses H saved args edited) (hsub : saved ⊆ saved') :
    Addresses H saved' args edited := by
  obtain ⟨text, hmem, hdesc⟩ := h.snapshot
  exact { h with snapshot := ⟨text, hsub hmem, hdesc⟩ }

/-- The lines of an edited file have no newlines inside. -/
theorem isOneLine_of_mem_linesAfter {first last : ℕ} {line : Line} (hargs : args.isValid = true)
    (h : line ∈ linesAfter args payload first last) : isOneLine line = true := by
  rcases List.mem_append.1 h with h | h
  · rcases List.mem_append.1 h with h | h
    · exact isOneLine_of_mem_logicalLines (List.mem_of_mem_take h)
    · simp only [EditArgs.isValid, Bool.and_eq_true, List.all_eq_true] at hargs
      exact hargs.2 line h
  · exact isOneLine_of_mem_logicalLines (List.mem_of_mem_drop h)

/-- A row of the current lines gives a plan that addresses them. -/
theorem Planned.addresses {row : AnchorSnapshot} {first last : ℕ} {replacement : List UInt8}
    {text : List Char} (h : Planned payload row args first last replacement)
    (hargs : args.isValid = true) (hvalid : validateSnapshot row true = .ok ())
    (hdesc : Describes H row text) (hlines : logicalLines text = payload.lines)
    (hmem : (payload.canonical, text) ∈ saved)
    (hagain : ReadAgain payload.bytes (linesAfter args payload first last)) :
    Addresses H saved args ⟨payload, row, first, last, replacement⟩ := by
  obtain ⟨hcount, -, -, hnodup⟩ := validateSnapshot_eq_ok_iff.1 hvalid
  obtain ⟨hfirst, hlast, hle⟩ := anchorRange_eq_ok h.range
  have hlength : row.hashes.length = payload.lines.length := by
    rw [← hcount, hdesc.lineCount, hlines]
  have hread : logicalLines (normalizeText replacement).1 =
      if linesAfter args payload first last = [] then [[]]
      else linesAfter args payload first last := by
    rw [h.replacement]
    exact hagain.logicalLines fun line => isOneLine_of_mem_linesAfter hargs
  exact ⟨⟨text, hmem, hdesc, hlines⟩, hlength, hnodup, hfirst, hlast, hle, h.last_lt,
    h.replacement, hread⟩

theorem mem_of_lookup_eq_some {c : PathBuf} {text : List Char}
    (h : saved.lookup c = some text) : (c, text) ∈ saved := by
  induction saved with
  | nil => simp at h
  | cons entry saved ih =>
    obtain ⟨c', text'⟩ := entry
    rw [List.lookup_cons] at h
    split at h
    · rename_i heq
      obtain rfl := eq_of_beq heq
      obtain rfl := Option.some.inj h
      exact List.mem_cons_self
    · exact List.mem_cons_of_mem _ (ih h)

/-- **The plan of an edit that finds the snapshot of its lines** addresses them,
and its range is inside of the lines. -/
theorem findPlan_spec (io : EditIo) (hargs : args.isValid = true)
    (hrows : RowsDescribed H s.anchors saved)
    (hplans : PlanHolds s.anchors saved args payload) :
    (findPlan io args payload s).2 = s ∧
      (findPlan io args payload s).1 ≠ .error (.panicked .splice) ∧
      ∀ e, (findPlan io args payload s).1 = .ok e → Addresses H saved args e := by
  unfold findPlan
  cases hl : io.load with
  | true => simp [Tool.loadAnchors, Proc.bind_apply]
  | false =>
  cases hrow : s.anchors.rows payload.canonical with
  | none => simp [Tool.loadAnchors, Proc.bind_apply, hrow, planEdit]
  | some row =>
  cases hvalid : validateSnapshot row true with
  | error e => simp [Tool.loadAnchors, Proc.bind_apply, hrow, hvalid]
  | ok u =>
  have hload : Tool.loadAnchors false EditToolError.runtime payload.canonical s =
      (.ok (some row), s) := Tool.loadAnchors_eq_ok.2 ⟨rfl, hrow.symm, rfl, by
    rintro r hr
    obtain rfl := Option.some.inj hr
    exact hvalid⟩
  rw [Proc.bind_of_ok hload]
  cases hrange : anchorRange row args with
  | error e => simp [planEdit, hrange, Proc.bind_apply]
  | ok range =>
    obtain ⟨first, last⟩ := range
    obtain ⟨text, hlookup, hdesc⟩ := hrows _ _ hrow
    obtain ⟨hcurrent, hagain⟩ := hplans row hrow (first, last) (by rw [hrange]; rfl)
    have hlines := hcurrent text hlookup
    obtain ⟨hfirst, hlast, hle⟩ := anchorRange_eq_ok hrange
    obtain ⟨hcount, -⟩ := validateSnapshot_eq_ok_iff.1 hvalid
    -- the last anchor has a position, and there are as many anchors as lines
    have hlt : last < payload.lines.length := by
      rw [← hlines, ← hdesc.lineCount, hcount]
      exact (List.getElem?_eq_some_iff.1 hlast).1
    have hplan : planEdit payload (some row) args s =
        (.ok (encodeLines payload.bytes (linesAfter args payload first last)), s) := by
      simp [planEdit, hrange, spliceLines, hle, hlt, linesAfter]
    rw [Proc.bind_of_ok hplan]
    refine ⟨by simp [hrange], by simp [hrange], fun e he => ?_⟩
    simp only [hrange, Proc.pure_apply, Except.ok.injEq] at he
    subst he
    exact Planned.addresses ⟨hrange, hle, hlt, rfl⟩ hargs hvalid hdesc hlines
      (mem_of_lookup_eq_some hlookup) hagain

/-! ### What steps leave as it is -/

/-- Not an anchor has changed since, and the log has only grown. -/
structure Later (s t : ToolState) : Prop where
  anchors : t.anchors = s.anchors
  log : s.log <+: t.log

theorem Later.refl (s : ToolState) : Later s s := ⟨rfl, List.prefix_refl _⟩

theorem Later.stable (s : ToolState) : Tool.Stable H (Later s) :=
  ⟨fun _ _ _ _ h => ⟨h.anchors, h.log.trans (List.prefix_append ..)⟩,
    fun _ _ h => ⟨h.anchors, h.log.trans (List.prefix_append ..)⟩⟩

theorem Later.puts (s : ToolState) : Tool.Puts (Later s) :=
  ⟨fun _ _ _ h _ => ⟨h.anchors, h.log⟩,
    fun _ _ _ h => ⟨h.anchors, h.log.trans (List.prefix_append ..)⟩⟩

theorem Later.keeps (s : ToolState) (fs : FileSystem → FileSystem) :
    (Drift.ofFs fs).Keeps (Later s) := fun _ h => ⟨h.anchors, h.log⟩

section
variable {S : PanicSite → Prop}

theorem startRead_later (io : ReadIo) (cwd : PathBuf) (args : ReadArgs) (s : ToolState) :
    Tool.Preserves S (Later s) (startRead H io cwd args) := by
  unfold startRead
  split_ifs
  · exact .fail
  · refine collectReadPayload_preserves fun d hd => ?_
    simp only [CollectReadIo.drifts, List.mem_cons, List.not_mem_nil, or_false] at hd
    rcases hd with rfl | rfl | rfl <;> exact Later.keeps s _

theorem findAnchors_later (ha : S .allocate) (io : ReadIo) (file : ReadFilePayload)
    (s : ToolState) : Tool.Preserves S (Later s) (findAnchors H io file) := by
  refine Tool.Preserves.loadAnchors.bind fun stored => ?_
  unfold anchorsFor
  split
  · exact .pure _
  · exact .panic ha

theorem write_later (io : WriteIo) (cwd : PathBuf) (args : WriteArgs) (s : ToolState) :
    Tool.Preserves S (Later s) (write H io cwd args) := by
  refine write_preserves (Later.stable s) (Later.puts s) fun d hd => ?_
  simp only [WriteIo.drifts, List.mem_cons, List.not_mem_nil, or_false] at hd
  rcases hd with rfl | rfl | rfl | rfl | rfl | rfl <;> exact Later.keeps s _

theorem collectEditPayload_later (io : CollectEditIo) (cwd : PathBuf) (arg : List Char)
    (s : ToolState) :
    Tool.Preserves S (Later s) (collectEditPayload H io cwd arg) := by
  refine collectEditPayload_preserves (Later.stable s) fun d hd => ?_
  simp only [CollectEditIo.drifts, List.mem_cons, List.not_mem_nil, or_false] at hd
  exact hd ▸ Later.keeps s _

/-- The replacement logs what it has done, before anything can fail. -/
theorem installEdit_later (io : ReplaceIo) (payload : EditPayload) (replacement : List UInt8)
    (s : ToolState) : Tool.Failing S (Later s) (installEdit H io payload replacement)
      fun _ t => Later s t ∧ .replaced payload.canonical payload.bytes replacement ∈ t.log := by
  have hd : ∀ d ∈ io.drifts, d.Keeps (Later s) := by
    intro d hd
    simp only [ReplaceIo.drifts, List.mem_cons, List.not_mem_nil, or_false] at hd
    rcases hd with rfl | rfl <;> exact Later.keeps s _
  refine Tool.Preserves.check.andThen fun _ => ?_
  refine Proc.Triple.bind (Q := fun _ t => Later s t ∧
    .replaced payload.canonical payload.bytes replacement ∈ t.log) ?_ fun _ => ?_
  · intro t ht
    rcases (replaceFile io payload.canonical payload.bytes replacement).apply_cases t
      with ⟨⟨⟩, t', ht'⟩ | ⟨e, t', ht'⟩
    · rw [ht']
      obtain ⟨u, fs', permissions, rfl, -, -, rfl⟩ := replaceFile_eq_ok ht'
      exact ⟨⟨ht.anchors, ht.log.trans (List.prefix_append ..)⟩, by simp⟩
    · rw [ht']
      exact (replaceFile_error hd).error ht ht'
  · have hstable : Tool.Stable H fun t => Later s t ∧
        .replaced payload.canonical payload.bytes replacement ∈ t.log :=
      ⟨fun t _ _ _ h => ⟨(Later.stable (H := H) s).record t _ _ _ h.1, List.mem_append_left _ h.2⟩,
        fun t _ h => ⟨(Later.stable (H := H) s).forget t _ h.1, List.mem_append_left _ h.2⟩⟩
    exact Proc.Triple.mono hstable.recordObservation (fun _ h => h) (fun _ _ h => h)
      fun _ _ h => ⟨h.1.1, h.2⟩

end

/-! ### One step of a call -/

/-- The lines and the checksum of a read are those of its bytes. -/
structure Consistent (H : Hashing) (file : ReadFilePayload) : Prop where
  lines : file.lines = logicalLines (normalizeText file.bytes).1
  checksum : file.checksum = textChecksum H (normalizeText file.bytes).1

/-- What holds of a read wherever it stands. -/
def ReadPhase.Sound (H : Hashing) : ReadPhase → Prop
  | .collect => True
  | .load file => Consistent H file
  | .save file _ => Consistent H file
  | .record file _ => Consistent H file
  | .finished result => ∀ site, result = .error (.panicked site) → site = .allocate

/-- What holds of an edit wherever it stands. -/
def EditPhase.Sound (H : Hashing) (saved : List (PathBuf × List Char)) (log : List ToolEvent)
    (args : EditArgs) : EditPhase → Prop
  | .collect => True
  | .load _ => args.isValid = true
  | .install e => Addresses H saved args e
  | .reread e phase => Addresses H saved args e ∧
      .replaced e.payload.canonical e.payload.bytes e.replacement ∈ log ∧ phase.Sound H
  | .finished edited result => Finished H saved log args edited result

/-- What holds of a call wherever it stands. -/
def Call.Sound (H : Hashing) (saved : List (PathBuf × List Char)) (log : List ToolEvent) :
    Call → Prop
  | .read _ phase => phase.Sound H
  | .write .. => True
  | .edit args phase => phase.Sound H saved log args

/-- The text whose anchors a step of a read saves. -/
def ReadPhase.savedBy : ReadPhase → ReadPhase → List (PathBuf × List Char)
  | .save file _, .record .. => [(file.canonicalPath, (normalizeText file.bytes).1)]
  | _, _ => []

/-- The rows stay described while nothing is saved. -/
theorem RowsDescribed.later (h : RowsDescribed H s.anchors saved) {t : ToolState}
    (hlater : Later s t) : RowsDescribed H t.anchors saved := by
  rwa [hlater.anchors]

/-- **The anchors that a read saves describe its text.** -/
theorem RowsDescribed.save (h : RowsDescribed H s.anchors saved) {file : ReadFilePayload}
    (hfile : Consistent H file) (hashes : List Anchor) :
    RowsDescribed H ⟨Function.update s.anchors.rows file.canonicalPath
        (some (snapshot file.checksum file.lines hashes))⟩
      ((file.canonicalPath, (normalizeText file.bytes).1) :: saved) := by
  intro c row hrow
  by_cases hc : c = file.canonicalPath
  · subst hc
    simp only [Function.update_self, Option.some.injEq] at hrow
    subst hrow
    refine ⟨(normalizeText file.bytes).1, List.lookup_cons_self, hfile.checksum, ?_, .inl ?_⟩
    · exact congrArg List.length hfile.lines
    · exact congrArg (List.map canonicalLine) hfile.lines
  · simp only [Function.update_of_ne hc] at hrow
    obtain ⟨text, hlookup, hdesc⟩ := h c row hrow
    refine ⟨text, ?_, hdesc⟩
    rw [List.lookup_cons, beq_eq_false_iff_ne.2 hc]
    exact hlookup

/-- **One step of a read:** it stays sound, the log grows, and the rows are
described by the texts saved by then. -/
theorem ReadPhase.step_sound {phase : ReadPhase} (hphase : phase.Sound H) (io : ReadIo)
    (cwd : PathBuf) (args : ReadArgs) (hrows : RowsDescribed H s.anchors saved) :
    (phase.step H io cwd args s).1.Sound H ∧
      s.log <+: (phase.step H io cwd args s).2.log ∧
      RowsDescribed H (phase.step H io cwd args s).2.anchors
        (phase.savedBy (phase.step H io cwd args s).1 ++ saved) := by
  cases phase with
  | collect =>
    have hlater := startRead_later (H := H) (S := (· = .allocate)) io cwd args s
    simp only [ReadPhase.step]
    rcases (startRead H io cwd args).apply_cases s with ⟨payload, t, ht⟩ | ⟨e, t, ht⟩
    · have h := hlater.ok (Later.refl s) ht
      rw [ht]
      cases payload with
      | directory text => exact ⟨(fun _ hsite => by cases hsite), h.log, hrows.later h⟩
      | file file =>
        refine ⟨?_, h.log, hrows.later h⟩
        unfold startRead at ht
        split_ifs at ht
        · simp at ht
        · obtain ⟨c, bytes, -, -, rfl⟩ := collectReadPayload_eq_ok ht
          exact ⟨rfl, rfl⟩
    · have h := hlater.error (Later.refl s) ht
      rw [ht]
      exact ⟨fun site hsite => h.2 site (by cases hsite; rfl), h.1.log, hrows.later h.1⟩
  | load file =>
    have hlater := findAnchors_later (H := H) (S := (· = .allocate)) rfl io file s
    simp only [ReadPhase.step]
    rcases (findAnchors H io file).apply_cases s with ⟨hashes, t, ht⟩ | ⟨e, t, ht⟩
    · have h := hlater.ok (Later.refl s) ht
      rw [ht]
      exact ⟨hphase, h.log, hrows.later h⟩
    · have h := hlater.error (Later.refl s) ht
      rw [ht]
      exact ⟨fun site hsite => h.2 site (by cases hsite; rfl), h.1.log, hrows.later h.1⟩
  | save file hashes =>
    simp only [ReadPhase.step, Tool.saveAnchors]
    cases hv : validateSnapshot (snapshot file.checksum file.lines hashes) false with
    | error e =>
      simp only [Proc.bind_apply, Tool.ofExcept_error]
      exact ⟨(fun _ hsite => by cases hsite), List.prefix_refl _, hrows⟩
    | ok u =>
      cases hs : io.save with
      | true =>
        simp only [Proc.bind_apply, Tool.ofExcept_ok, Tool.check_true]
        exact ⟨(fun _ hsite => by cases hsite), List.prefix_refl _, hrows⟩
      | false =>
        simp only [Proc.bind_apply, Tool.ofExcept_ok, Tool.check_false, Proc.modify_apply]
        exact ⟨hphase, List.prefix_refl _, hrows.save hphase hashes⟩
  | record file hashes =>
    simp only [ReadPhase.step, finishRead, Tool.recordObservation]
    cases hr : io.record with
    | true =>
      simp only [Proc.bind_apply, Tool.check_true]
      exact ⟨(fun _ hsite => by cases hsite), List.prefix_refl _, hrows⟩
    | false =>
      simp only [Proc.bind_apply, Tool.check_false, Proc.modify_apply, Proc.pure_apply]
      exact ⟨(fun _ hsite => by cases hsite), List.prefix_append .., hrows⟩
  | finished result => exact ⟨hphase, List.prefix_refl _, hrows⟩

variable {log log' : List ToolEvent}

theorem Finished.mono {edited : Option Edited} {result : Except (Abort EditToolError) (List Char)}
    (h : Finished H saved log args edited result) (hsub : saved ⊆ saved') (hlog : log <+: log') :
    Finished H saved' log' args edited result := by
  refine ⟨h.1, fun text htext => ?_⟩
  obtain ⟨e, he, haddr, hmem⟩ := h.2 text htext
  exact ⟨e, he, haddr.mono hsub, hlog.subset hmem⟩

/-- An edit that did not succeed and did not panic in `splice`. -/
theorem Finished.of_error {edited : Option Edited} {e : Abort EditToolError}
    (h : e ≠ .panicked .splice) : Finished H saved log args edited (.error e) :=
  ⟨fun he => h (Except.error.inj he), nofun⟩

theorem Call.Sound.mono {call : Call} (h : call.Sound H saved log) (hsub : saved ⊆ saved')
    (hlog : log <+: log') : call.Sound H saved' log' := by
  cases call with
  | read args phase => exact h
  | write args result => trivial
  | edit args phase =>
    cases phase with
    | collect => trivial
    | load payload => exact h
    | install e => exact Addresses.mono h hsub
    | reread e phase => exact ⟨h.1.mono hsub, hlog.subset h.2.1, h.2.2⟩
    | finished edited result => exact Finished.mono h hsub hlog

theorem savedBy_of_not_hasSaved {before after : Call} (h : Workbench.hasSaved after = false) :
    Workbench.savedBy before after = [] := by
  unfold Workbench.savedBy
  split
  · rw [h]
    rfl
  · rfl

theorem savedBy_read {before after : ReadPhase} (args : ReadArgs) :
    Workbench.savedBy (.read args before) (.read args after) = before.savedBy after := by
  cases before <;> cases after <;> rfl

theorem savedBy_reread {before after : ReadPhase} {e : Edited} :
    Workbench.savedBy (.edit args (.reread e before)) (.edit args (.reread e after)) =
      before.savedBy after := by
  cases before <;> cases after <;> rfl

section
variable {cwd : PathBuf} {phase : EditPhase}

/-- The read at the end of an edit, one step further. -/
theorem EditPhase.reread_sound {read : ReadPhase} (h : (EditPhase.reread edited read).Sound H
    saved s.log args) (io : EditIo) (hrows : RowsDescribed H s.anchors saved) :
    let next := (EditPhase.reread edited read).step H io cwd args s
    let saved' := Workbench.savedBy (.edit args (.reread edited read)) (.edit args next.1) ++ saved
    next.1.Sound H saved' next.2.log args ∧ s.log <+: next.2.log ∧
      RowsDescribed H next.2.anchors saved' := by
  obtain ⟨haddr, hmem, hread⟩ := h
  have hstep := ReadPhase.step_sound hread io.reread cwd { path := args.path } hrows
  simp only [EditPhase.step]
  rcases hnext : read.step H io.reread cwd { path := args.path } s with ⟨next, t⟩
  rw [hnext] at hstep
  obtain ⟨hsound, hlog, hrows'⟩ := hstep
  -- a read that goes on
  have hgoes : (EditPhase.reread edited next).Sound H (read.savedBy next ++ saved) t.log args :=
    ⟨haddr.mono (List.subset_append_right ..), hlog.subset hmem, hsound⟩
  cases next with
  | finished result =>
    have hnone : read.savedBy (.finished result) = [] := by cases read <;> rfl
    rw [hnone] at hrows'
    cases result with
    | ok text =>
      rw [savedBy_of_not_hasSaved rfl]
      exact ⟨⟨nofun, fun _ _ => ⟨edited, rfl, haddr, hlog.subset hmem⟩⟩, hlog, hrows'⟩
    | error e =>
      rw [savedBy_of_not_hasSaved rfl]
      refine ⟨Finished.of_error ?_, hlog, hrows'⟩
      cases e with
      | error e => nofun
      | panicked site =>
        rw [hsound site rfl]
        nofun
  | collect => exact savedBy_reread ▸ ⟨hgoes, hlog, hrows'⟩
  | load file => exact savedBy_reread ▸ ⟨hgoes, hlog, hrows'⟩
  | save file hashes => exact savedBy_reread ▸ ⟨hgoes, hlog, hrows'⟩
  | record file hashes => exact savedBy_reread ▸ ⟨hgoes, hlog, hrows'⟩

/-- **One step of an edit:** it stays sound if the plan holds that it takes. -/
theorem EditPhase.step_sound (hphase : phase.Sound H saved s.log args) (io : EditIo)
    (hrows : RowsDescribed H s.anchors saved)
    (hplans : ∀ payload, phase = .load payload → PlanHolds s.anchors saved args payload) :
    let next := phase.step H io cwd args s
    let saved' := Workbench.savedBy (.edit args phase) (.edit args next.1) ++ saved
    next.1.Sound H saved' next.2.log args ∧ s.log <+: next.2.log ∧
      RowsDescribed H next.2.anchors saved' := by
  cases phase with
  | collect =>
    have hlater := collectEditPayload_later (H := H) (S := fun _ => False) io.collect cwd
      args.path s
    simp only [EditPhase.step]
    split_ifs with hvalid
    · exact ⟨Finished.of_error nofun, List.prefix_refl _, hrows⟩
    rcases (collectEditPayload H io.collect cwd args.path).apply_cases s with
      ⟨payload, t, ht⟩ | ⟨e, t, ht⟩
    · have h := hlater.ok (Later.refl s) ht
      rw [ht]
      have hargs : args.isValid = true := by simpa using hvalid
      exact ⟨hargs, h.log, hrows.later h⟩
    · have h := hlater.error (Later.refl s) ht
      rw [ht]
      exact ⟨Finished.of_error fun he => h.2 _ he, h.1.log, hrows.later h.1⟩
  | load payload =>
    obtain ⟨hstate, hsplice, hplan⟩ := findPlan_spec io hphase hrows (hplans payload rfl)
    simp only [EditPhase.step]
    rcases hfind : findPlan io args payload s with ⟨e | edited, t⟩
    · rw [hfind] at hstate hsplice
      obtain rfl : t = s := hstate
      exact ⟨Finished.of_error fun he => hsplice (by rw [he]), List.prefix_refl _, hrows⟩
    · rw [hfind] at hstate hplan
      obtain rfl : t = s := hstate
      exact ⟨hplan edited rfl, List.prefix_refl _, hrows⟩
  | install edited =>
    have hlater := installEdit_later (H := H) (S := fun _ => False) io.replace edited.payload
      edited.replacement s
    simp only [EditPhase.step]
    rcases (installEdit H io.replace edited.payload edited.replacement).apply_cases s with
      ⟨⟨⟩, t, ht⟩ | ⟨e, t, ht⟩
    · obtain ⟨h, hmem⟩ := hlater.ok (Later.refl s) ht
      rw [ht]
      exact ⟨⟨hphase, hmem, trivial⟩, h.log, hrows.later h⟩
    · have h := hlater.error (Later.refl s) ht
      rw [ht]
      exact ⟨Finished.of_error fun he => h.2 _ he, h.1.log, hrows.later h.1⟩
  | reread edited read => exact EditPhase.reread_sound hphase io hrows
  | finished edited result => exact ⟨hphase, List.prefix_refl _, hrows⟩

end

/-! ### Runs -/

/-- What holds of the machine at every time. -/
structure Workbench.Sound (H : Hashing) (m : Workbench) : Prop where
  rows : RowsDescribed H m.anchors m.saved
  calls : ∀ c ∈ m.calls, c.call.Sound H m.saved m.log

theorem AtRest.sound {m : Workbench} (h : AtRest H m) : m.Sound H :=
  ⟨h.rows, fun c hc => by simp [h.calls] at hc⟩

theorem Workbench.Sound.editsAddress {m : Workbench} (h : m.Sound H) : EditsAddress H m := by
  intro c hc args edited result hcall
  have hsound := h.calls c hc
  rw [hcall] at hsound
  exact hsound

/-- A sound call takes a step. -/
theorem Call.step_sound {call : Call} (hcall : call.Sound H saved s.log) (io : StepIo)
    (cwd : PathBuf) (hrows : RowsDescribed H s.anchors saved)
    (hplans : ∀ loading ∈ call.loading, PlanHolds s.anchors saved loading.1 loading.2) :
    let next := call.step H io cwd s
    let saved' := Workbench.savedBy call next.1 ++ saved
    next.1.Sound H saved' next.2.log ∧ s.log <+: next.2.log ∧
      RowsDescribed H next.2.anchors saved' := by
  cases call with
  | read args phase =>
    have h := ReadPhase.step_sound hcall io.read cwd args hrows
    rw [← savedBy_read args] at h
    exact h
  | write args result =>
    cases result with
    | none =>
      have hlater := (write_later (H := H) (S := fun _ => True) io.write cwd args s).apply
        (Later.refl s)
      exact ⟨trivial, hlater.log, hrows.later hlater⟩
    | some result => exact ⟨trivial, List.prefix_refl _, hrows⟩
  | edit args phase =>
    exact EditPhase.step_sound hcall io.edit hrows fun payload hphase =>
      hplans (args, payload) (by rw [hphase]; rfl)

/-- **One action keeps the machine sound** if the plan holds that it takes. -/
theorem Workbench.step_sound (m : Workbench) (a : Action) (h : m.Sound H)
    (hplans : PlansHold m a) : (m.step H a).Sound H := by
  cases a with
  | «begin» session cwd request =>
    refine ⟨h.rows, fun c hc => ?_⟩
    rcases List.mem_append.1 hc with hc | hc
    · exact h.calls c hc
    · obtain rfl := List.mem_singleton.1 hc
      cases request <;> trivial
  | advance index io =>
    simp only [Workbench.step, Workbench.advance]
    cases hc : m.calls[index]? with
    | none => exact h
    | some c =>
      obtain ⟨hcall, hlog, hrows⟩ := Call.step_sound (s := m.view c.session)
        (h.calls c (List.mem_of_getElem? hc)) io c.cwd h.rows
        fun loading hloading => hplans loading (by rw [hc]; exact hloading)
      dsimp only
      refine ⟨hrows, fun c' hc' => ?_⟩
      rcases List.mem_or_eq_of_mem_set hc' with hold | rfl
      · exact (h.calls c' hold).mono (List.subset_append_right ..) hlog
      · exact hcall
  | external fs => exact ⟨h.rows, h.calls⟩

/-- **Edits replace the lines their anchors stand for** in every run in which no edit
plans with the snapshot of other lines, or leaves lines that are not read again. -/
theorem edits_address_of_guarded {m : Workbench} (hm : AtRest H m) {actions : List Action}
    (hplans : Run.Guarded (Workbench.step H) PlansHold m actions) :
    EditsAddress H (Run.run (Workbench.step H) m actions) :=
  (Run.run_invariant_of_guarded Workbench.step_sound hm.sound hplans).editsAddress

/-- A machine with one file, on which nothing was done yet. -/
def sampleWorkbench (bytes : List UInt8) : Workbench where
  fs := (sampleState bytes).fs
  anchors := (sampleState bytes).anchors
  observations := fun _ => .empty
  calls := []

theorem atRest_sampleWorkbench (bytes : List UInt8) : AtRest H (sampleWorkbench bytes) :=
  ⟨rfl, fun _ _ h => by simp [sampleWorkbench, sampleState] at h⟩

/-- A session makes a call, which takes this many steps. -/
def callActions (index steps : ℕ) (request : Request) : List Action :=
  .begin 0 sampleDir request :: List.replicate steps (.advance index {})

/-- The file with the lines `x` and `y` is read, and `y` is replaced. -/
theorem edits_address_of_guarded_sample :
    EditsAddress knownHashes (Run.run (Workbench.step knownHashes)
      (sampleWorkbench [0x78, 0x0A, 0x79])
      (callActions 0 4 (.read { path := ['n'] }) ++
        callActions 1 7 (.edit ⟨['n'], "sIY".toList, "sIY".toList, [['z']]⟩))) :=
  edits_address_of_guarded (atRest_sampleWorkbench _) (by decide +kernel)

/-- The lines that an edit that succeeded has changed. -/
def Call.editedLines : Call → Option (List Line)
  | .edit _ (.finished (some e) (.ok _)) => some e.payload.lines
  | _ => none

/-- The edit has panicked in `splice`. -/
def Call.splicePanicked : Call → Bool
  | .edit _ (.finished _ (.error (.panicked .splice))) => true
  | _ => false

theorem EditsAddress.lines {m : Workbench} (h : EditsAddress H m) {c : SessionCall}
    (hc : c ∈ m.calls) {lines : List Line} (hlines : c.call.editedLines = some lines) :
    ∃ entry ∈ m.saved, logicalLines entry.2 = lines := by
  obtain ⟨session, cwd, call⟩ := c
  unfold Call.editedLines at hlines
  split at hlines
  · rename_i args e text hcall
    obtain ⟨e', he', haddr, -⟩ := (h _ hc args (some e) (.ok text) hcall).2 text rfl
    obtain rfl := Option.some.inj he'
    obtain ⟨text, hmem, -, heq⟩ := haddr.snapshot
    exact ⟨_, hmem, heq.trans (Option.some.inj hlines)⟩
  · cases hlines

/-- What an edit that succeeded has left in the file, and what it should have left. -/
def Call.linesLeft : Call → Option (List Line × List Line)
  | .edit args (.finished (some e) (.ok _)) =>
    some (logicalLines (normalizeText e.replacement).1, linesAfter args e.payload e.first e.last)
  | _ => none

theorem EditsAddress.linesLeft {m : Workbench} (h : EditsAddress H m) {c : SessionCall}
    (hc : c ∈ m.calls) {left expected : List Line}
    (hleft : c.call.linesLeft = some (left, expected)) (hne : expected ≠ []) :
    left = expected := by
  obtain ⟨session, cwd, call⟩ := c
  unfold Call.linesLeft at hleft
  split at hleft
  · rename_i args e text hcall
    obtain ⟨e', he', haddr, -⟩ := (h _ hc args (some e) (.ok text) hcall).2 text rfl
    obtain rfl := Option.some.inj he'
    obtain ⟨rfl, rfl⟩ := Prod.mk.inj (Option.some.inj hleft)
    rw [haddr.lines, if_neg hne]
  · cases hleft

theorem EditsAddress.not_splicePanicked {m : Workbench} (h : EditsAddress H m) {c : SessionCall}
    (hc : c ∈ m.calls) : c.call.splicePanicked = false := by
  obtain ⟨session, cwd, call⟩ := c
  unfold Call.splicePanicked
  split
  · rename_i args edited hcall
    exact absurd rfl (h _ hc args edited _ hcall).1
  · rfl

/-- The file with the lines `a` and `b` is read, overwritten by the same session,
and edited by the anchor of `b`. -/
def overwritten (content : List Char) : Workbench :=
  Run.run (Workbench.step knownHashes) (sampleWorkbench [0x61, 0x0A, 0x62])
    (callActions 0 4 (.read { path := ['n'] }) ++ callActions 1 1 (.write ⟨['n'], content⟩) ++
      callActions 2 7 (.edit ⟨['n'], "rKa".toList, "rKa".toList, [['z']]⟩))

/-- A file with an empty line before the last, and no newline behind it, is read, and
the last line is removed. -/
def lastRemoved : Workbench :=
  Run.run (Workbench.step knownHashes) (sampleWorkbench [0x61, 0x0A, 0x0A, 0x62])
    (callActions 0 4 (.read { path := ['n'] }) ++
      callActions 1 7 (.edit ⟨['n'], "rKa".toList, "rKa".toList, []⟩))

/-- After the file was overwritten with `x` and `y` the edit replaces `y`, which no
anchor ever stood for; after it was overwritten with `x` the edit panics; and where the
last line is removed the empty line before it is gone. -/
theorem edited_by_stale_snapshot :
    ¬EditsAddress knownHashes (overwritten "x\ny".toList) ∧
      ¬EditsAddress knownHashes (overwritten ['x']) ∧
      ¬EditsAddress knownHashes lastRemoved := by
  refine ⟨fun h => ?_, fun h => ?_, fun h => ?_⟩
  · have hedited : ∃ c ∈ (overwritten "x\ny".toList).calls,
        c.call.editedLines = some [['x'], ['y']] := by decide +kernel
    have hsaved : ∀ entry ∈ (overwritten "x\ny".toList).saved,
        logicalLines entry.2 ≠ [['x'], ['y']] := by decide +kernel
    obtain ⟨c, hc, hlines⟩ := hedited
    obtain ⟨entry, hentry, heq⟩ := h.lines hc hlines
    exact hsaved entry hentry heq
  · have hpanicked : ∃ c ∈ (overwritten ['x']).calls, c.call.splicePanicked = true := by
      decide +kernel
    obtain ⟨c, hc, hsplice⟩ := hpanicked
    rw [h.not_splicePanicked hc] at hsplice
    cases hsplice
  · have hleft : ∃ c ∈ lastRemoved.calls,
        c.call.linesLeft = some ([['a']], [['a'], []]) := by decide +kernel
    obtain ⟨c, hc, hlines⟩ := hleft
    have hsame := h.linesLeft hc hlines (by decide)
    simp at hsame

end Tools
end Moh
