import ClusterKeeper.Proofs.Pass.Erasure
import ClusterKeeper.Proofs.Pass.Stages
/-!
Changes are announced before they are made.

A cluster is changed only while the status on record says that it is being updated. The phase is
written unless it is in memory already, so this rests on the agreement of the record with what is in
memory at every call. Where the write fails nothing is changed in the whole pass.
-/

namespace ClusterKeeper

open Dialogue (only_question)

variable {σ α : Type} {conduct : Conduct σ} {cluster : ClusterDeclaration}
  {entry : ClusterStatus} {scene : Scene σ} {log : List Event}

/-- Of every call in the log something is true, given the events before it. -/
def EachCall (p : List Event → Exchange → Prop) (log : List Event) : Prop :=
  ∀ before e after, log = before ++ .exchange e :: after → p before e

namespace EachCall

variable {p q : List Event → Exchange → Prop}

theorem nil : EachCall p [] := by
  intro before e after hlog
  simp at hlog

theorem checkpoint (h : EachCall p log) (cancelled : Bool) :
    EachCall p (log ++ [.checkpoint cancelled]) := by
  intro before e after hlog
  rcases snoc_eq_append_cons hlog with ⟨hlast, _⟩ | ⟨rest, hbefore, _⟩
  · cases hlast
  · exact h before e rest hbefore

theorem snoc (h : EachCall p log) {e : Exchange} (he : p log e) :
    EachCall p (log ++ [.exchange e]) := by
  intro before x after hlog
  rcases snoc_eq_append_cons hlog with ⟨⟨⟩, rfl⟩ | ⟨rest, hbefore, _⟩
  · rw [← List.append_inj_left' hlog rfl]
    exact he
  · exact h before x rest hbefore

theorem mono (h : EachCall p log) (himp : ∀ before e, p before e → q before e) : EachCall q log :=
  fun before e after hlog => himp before e (h before e after hlog)

end EachCall

/-- The cluster that a pass was told of. -/
def Event.report? : Event → Option RemoteCluster
  | exchange ⟨.getCluster _, response, _, _⟩ =>
      match (response.reply : Except ProviderFault RemoteCluster) with
      | .ok remote => some remote
      | .error _ => none
  | _ => none

/-- The clusters that a pass was told of. -/
def reports (log : List Event) : List RemoteCluster := log.filterMap Event.report?

/-- The call changes a cluster: it gives it other tags, another kind of control plane than was
reported, or other pools. -/
def Call.Alters (before : List Event) : Call → Prop
  | updateCluster _ request => request.tags.isSome ∨ ∃ remote ∈ reports before, ∃ ha,
      request.controlPlane = some ⟨some ha⟩ ∧ ha ≠ remote.controlPlane.highlyAvailable
  | createPool .. | updatePool .. | deletePool .. => True
  | _ => False

theorem reports_append (first second : List Event) :
    reports (first ++ second) = reports first ++ reports second := List.filterMap_append

theorem reports_snoc_of_none {event : Event} (h : event.report? = none) :
    reports (log ++ [event]) = reports log := by
  rw [reports, List.filterMap_append, List.filterMap_cons_none h]
  exact List.append_nil _

theorem reports_snoc_of_some {event : Event} {remote : RemoteCluster}
    (h : event.report? = some remote) : reports (log ++ [event]) = reports log ++ [remote] := by
  rw [reports, List.filterMap_append, List.filterMap_cons_some h]
  rfl

/-- The first cluster that is reported. -/
theorem reports_after_getCluster {id : ClusterId}
    {response : Response (Except ProviderFault RemoteCluster)} {remote : RemoteCluster}
    (hreply : response.reply = .ok remote) (hreports : reports scene.log = []) (state : σ) :
    reports (World.after scene.checked (.getCluster id) response false state).log = [remote] := by
  have hevent : (Event.exchange ⟨.getCluster id, response, false, scene.memory⟩).report? =
      some remote := by simp [Event.report?, hreply]
  calc reports (scene.checked.log ++ [_])
      = reports scene.checked.log ++ [remote] := reports_snoc_of_some hevent
    _ = [remote] := by rw [Scene.checked, reports_snoc_of_none rfl, hreports]; rfl

/-- Whether a call changes a cluster depends on no more than what was reported. -/
theorem Call.Alters.of_reports {before after : List Event} {c : Call} (h : c.Alters before)
    (hreports : reports after = reports before) : c.Alters after := by
  cases c <;> first | exact h | exact h.imp_right (hreports ▸ ·)

/-- Nothing was changed. -/
def Unaltered (log : List Event) : Prop := EachCall (fun before e => ¬ e.call.Alters before) log

/-- The write that was to put the updating phase on record failed. -/
def Exchange.FailsToAnnounce (recorded : ClusterStatus) : Exchange → Prop
  | ⟨.patchStatus _ _ status, response, _, _⟩ => status.phase = .updating ∧
      recorded.phase ≠ .updating ∧ ∃ fault, (response.reply : Except Fault Unit) = .error fault
  | _ => False

/-- Changes follow their announcement. -/
structure IsAnnounced (entry : ClusterStatus) (log : List Event) : Prop where
  /-- A cluster is changed only while the phase on record says so. -/
  announced : EachCall (fun before e => e.call.Alters before →
    (stored entry before).phase = .updating) log
  /-- Where that could not be put on record nothing is changed. -/
  refused : EachCall (fun before e => e.FailsToAnnounce (stored entry before) → Unaltered log) log

/-- A call that changes nothing. If it is a write that was to announce changes and failed, there
were none before it. -/
theorem IsAnnounced.snoc (h : IsAnnounced entry log) {e : Exchange} (he : ¬ e.call.Alters log)
    (hfails : e.FailsToAnnounce (stored entry log) → Unaltered log) :
    IsAnnounced entry (log ++ [.exchange e]) where
  announced := h.announced.snoc fun halters => absurd halters he
  refused := by
    apply EachCall.snoc
    · intro before x after hlog hx
      exact (h.refused before x after hlog hx).snoc he
    · exact fun hx => (hfails hx).snoc he

/-- The call neither writes a status nor changes a cluster. -/
def Call.IsQuiet : Call → Prop
  | patchStatus .. | updateCluster .. | createPool .. | updatePool .. | deletePool .. => False
  | _ => True

namespace Call

theorem IsQuiet.not_alters {c : Call} (h : c.IsQuiet) (before : List Event) :
    ¬ c.Alters before := by
  cases c <;> first | exact id | exact h.elim

theorem IsQuiet.not_writesStatus {c : Call} (h : c.IsQuiet) : ¬ c.WritesStatus := by
  cases c <;> first | exact id | exact h.elim

theorem Founds.isQuiet {c : Call} (h : c.Founds) : c.IsQuiet := by
  cases c <;> first | exact trivial | exact h.elim

theorem Dismantles.isQuiet {c : Call} (h : c.Dismantles) : c.IsQuiet := by
  cases c <;> first | exact trivial | exact h.elim

theorem IsOnSecret.isQuiet {c : Call} (h : c.IsOnSecret cluster) : c.IsQuiet := by
  cases c <;> first | exact trivial | exact h.elim

end Call

theorem Exchange.FailsToAnnounce.writesStatus {e : Exchange}
    (h : e.FailsToAnnounce entry) : e.call.WritesStatus := by
  obtain ⟨c, response, abandoned, memory⟩ := e
  cases c <;> first | exact trivial | exact h.elim

/-- A request that changes no setting of the cluster that was reported. -/
theorem not_alters_of_not_settingsDiffer {remote : RemoteCluster}
    (h : settingsDiffer cluster remote = false) (hreports : ∀ other ∈ reports log, other = remote) :
    ¬ (Call.updateCluster remote.id (updateRequest cluster remote)).Alters log := by
  rw [settingsDiffer, Bool.or_eq_false_iff] at h
  obtain ⟨htags, havailable⟩ := h
  rintro (hsome | ⟨other, hother, ha, hrequest, hne⟩)
  · have htags' : (updateRequest cluster remote).tags.isSome = false := htags
    rw [htags'] at hsome
    cases hsome
  · cases hrequest
    rw [hreports other hother] at hne
    exact hne (by simpa using havailable)

/-- So far every change was announced, no announcement failed, and the status in memory is the one
on record. -/
structure Careful (entry : ClusterStatus) (scene : Scene σ) : Prop where
  announced : EachCall (fun before e => e.call.Alters before →
    (stored entry before).phase = .updating) scene.log
  accepted : EachCall (fun before e => ¬ e.FailsToAnnounce (stored entry before)) scene.log
  memory : scene.memory = stored entry scene.log

/-- So far nothing was changed. -/
structure Idle (entry : ClusterStatus) (scene : Scene σ) : Prop extends Careful entry scene where
  unaltered : Unaltered scene.log

/-- Changes have been announced. -/
structure Changing (entry : ClusterStatus) (scene : Scene σ) : Prop
    extends Careful entry scene where
  updating : scene.memory.phase = .updating

/-- Every change was announced. If the updating phase is in memory but not on record, there was
none. -/
structure Ended (entry : ClusterStatus) (scene : Scene σ) : Prop
    extends IsAnnounced entry scene.log where
  updating : scene.memory.phase = .updating →
    (stored entry scene.log).phase = .updating ∨ Unaltered scene.log

theorem Careful.isAnnounced (h : Careful entry scene) : IsAnnounced entry scene.log where
  announced := h.announced
  refused := h.accepted.mono fun _ _ hnot hfails => absurd hfails hnot

theorem Careful.ended (h : Careful entry scene) : Ended entry scene where
  toIsAnnounced := h.isAnnounced
  updating := fun hphase => Or.inl (h.memory ▸ hphase)

theorem Careful.checked (h : Careful entry scene) : Careful entry scene.checked where
  announced := h.announced.checkpoint _
  accepted := h.accepted.checkpoint _
  memory := h.memory.trans stored_checked.symm

/-- A call that changes a cluster is made only with the updating phase in memory. -/
theorem Careful.call (h : Careful entry scene) {c : Call} (hnot : ¬ c.WritesStatus)
    (hc : c.Alters scene.log → scene.memory.phase = .updating) (response : Response c.Reply)
    (abandoned : Bool) (state : σ) :
    Careful entry (World.after scene c response abandoned state) where
  announced := by
    apply h.announced.snoc
    intro halters
    rw [← h.memory]
    exact hc halters
  accepted := h.accepted.snoc fun hfails => hnot hfails.writesStatus
  memory := h.memory.trans (stored_after_call hnot response abandoned state).symm

/-- A write that is accepted. -/
theorem Careful.write (h : Careful entry scene) (status : ClusterStatus)
    {response : Response (Except Fault Unit)} (hreply : response.reply = .ok ()) (state : σ) :
    Careful entry (World.after (scene.recording status)
      (.patchStatus cluster.inNamespace cluster.name status) response false state) where
  announced := h.announced.snoc fun halters => halters.elim
  accepted := by
    apply h.accepted.snoc
    rintro ⟨_, _, fault, hfault⟩
    rw [hreply] at hfault
    cases hfault
  memory := (stored_after_write status hreply false state).symm

/-- A write that fails. If it was to announce changes, nothing was changed before. -/
theorem Careful.refused (h : Careful entry scene)
    (hphase : Unaltered scene.log ∨ scene.memory.phase = .updating) (status : ClusterStatus)
    {response : Response (Except Fault Unit)} {fault : Fault}
    (hreply : response.reply = .error fault) (state : σ) :
    Ended entry (World.after (scene.recording status)
      (.patchStatus cluster.inNamespace cluster.name status) response false state) where
  toIsAnnounced := by
    refine h.isAnnounced.snoc id ?_
    rintro ⟨_, hrecorded, _⟩
    have hrecorded : scene.memory.phase ≠ .updating := h.memory ▸ hrecorded
    exact hphase.resolve_right hrecorded
  updating := by
    intro _
    rw [stored_after_refusal status hreply]
    rcases hphase with hunaltered | hupdating
    · exact Or.inr (hunaltered.snoc id)
    · exact Or.inl (h.memory ▸ hupdating)

/-- Either nothing was changed so far or changes have been announced. -/
def Watchful (entry : ClusterStatus) (scene : Scene σ) : Prop :=
  Idle entry scene ∨ Changing entry scene

theorem Watchful.careful (h : Watchful entry scene) : Careful entry scene := by
  rcases h with h | h
  · exact h.toCareful
  · exact h.toCareful

theorem preserves_idle (conduct : Conduct σ) (entry : ClusterStatus) :
    conduct.Preserves Call.IsQuiet (Idle entry) where
  checked := fun scene h => ⟨h.toCareful.checked, h.unaltered.checkpoint scene.cancelled⟩
  after := by
    intro scene c response abandoned state hkind _ h
    have hnot := hkind.not_alters scene.log
    refine ⟨h.toCareful.call hkind.not_writesStatus ?_ response abandoned state, ?_⟩
    · exact fun halters => absurd halters hnot
    · exact h.unaltered.snoc hnot

theorem preserves_changing (conduct : Conduct σ) (entry : ClusterStatus) :
    conduct.Preserves (fun c => ¬ c.WritesStatus) (Changing entry) where
  checked := fun _ h => ⟨h.toCareful.checked, h.updating⟩
  after := fun _ _ response abandoned state hkind _ h =>
    ⟨h.toCareful.call hkind (fun _ => h.updating) response abandoned state, h.updating⟩

theorem preserves_watchful (conduct : Conduct σ) (entry : ClusterStatus) :
    conduct.Preserves Call.IsQuiet (Watchful entry) where
  checked := fun scene => Or.imp ((preserves_idle conduct entry).checked scene)
    ((preserves_changing conduct entry).checked scene)
  after := fun scene c response abandoned state hkind hconduct =>
    Or.imp ((preserves_idle conduct entry).after scene c response abandoned state hkind hconduct)
      ((preserves_changing conduct entry).after scene c response abandoned state
        hkind.not_writesStatus hconduct)

/-- A request to a cluster is harmless that changes it only where changes have been announced. -/
def Harmless (entry : ClusterStatus) (request : Call) (scene : Scene σ) : Prop :=
  Changing entry scene ∨ Idle entry scene ∧ ¬ request.Alters scene.log

theorem Harmless.watchful {request : Call} (h : Harmless entry request scene) :
    Watchful entry scene := h.symm.imp_left And.left

theorem preserves_harmless (conduct : Conduct σ) (entry : ClusterStatus) (id : ClusterId)
    (request : ClusterUpdate) :
    conduct.Preserves (· = .updateCluster id request)
      (Harmless entry (.updateCluster id request)) where
  checked := by
    rintro scene (h | ⟨h, hnot⟩)
    · exact Or.inl ((preserves_changing conduct entry).checked scene h)
    · refine Or.inr ⟨(preserves_idle conduct entry).checked scene h, fun halters => hnot ?_⟩
      exact halters.of_reports (reports_snoc_of_none rfl).symm
  after := by
    rintro scene _ response abandoned state rfl hconduct (h | ⟨h, hnot⟩)
    · exact Or.inl ((preserves_changing conduct entry).after scene _ response abandoned state
        (fun hno => hno) hconduct h)
    · have hcareful := h.toCareful.call (c := .updateCluster id request) (fun hno => hno)
        (fun halters => absurd halters hnot) response abandoned state
      refine Or.inr ⟨⟨hcareful, h.unaltered.snoc hnot⟩, fun halters => hnot ?_⟩
      exact halters.of_reports (reports_snoc_of_none rfl).symm

namespace Attempt

theorem ensures_amend_watchful (h : Watchful entry scene) (change : StatusChange) :
    Ensures conduct (amend cluster change) (unlessFailed (fun _ scene' => Careful entry scene' ∧
      scene'.memory = change.written scene.memory ∧ (Unaltered scene.log → Unaltered scene'.log))
      (fun _ => Ended entry)) scene := by
  have hphase : Unaltered scene.log ∨ scene.memory.phase = .updating :=
    h.imp Idle.unaltered Changing.updating
  rw [ensures_amend]
  intro response state _
  cases hreply : (response.reply : Except Fault Unit) with
  | ok _ =>
      exact ⟨h.careful.write _ hreply state, rfl, fun hunaltered => hunaltered.snoc id⟩
  | error fault => exact h.careful.refused hphase _ hreply state

theorem keepsUntil_idle (change : StatusChange) :
    KeepsUntil conduct (Idle entry) (fun _ => Ended entry) (amend cluster change) := by
  intro scene h
  refine (ensures_amend_watchful (Or.inl h) change).mono_unlessFailed ?_
  exact fun _ scene' hend => ⟨hend.1, hend.2.2 h.unaltered⟩

theorem keepsUntil_changing {change : StatusChange} (hchange : change.IsUpdate) :
    KeepsUntil conduct (Changing entry) (fun _ => Ended entry) (amend cluster change) := by
  intro scene h
  refine (ensures_amend_watchful (Or.inr h) change).mono_unlessFailed fun _ scene' hend => ?_
  refine ⟨hend.1, ?_⟩
  rw [hend.2.1]
  cases change with
  | enter phase => exact hchange
  | observe pools => exact h.updating
  | adopt id => exact hchange.elim

theorem keepsUntil_watchful {change : StatusChange} (hchange : change.IsUpdate) :
    KeepsUntil conduct (Watchful entry) (fun _ => Ended entry) (amend cluster change) := by
  rintro scene (h | h)
  · exact (keepsUntil_idle change scene h).mono_unlessFailed fun _ _ => Or.inl
  · exact (keepsUntil_changing hchange scene h).mono_unlessFailed fun _ _ => Or.inr

/-- Changes are announced. -/
theorem ensures_enter_updating (h : Watchful entry scene) :
    Ensures conduct (enter cluster .updating)
      (unlessFailed (fun _ => Changing entry) (fun _ => Ended entry)) scene := by
  rw [enter_eq, ensures_amendUnless]
  split
  · next hphase => exact ⟨h.careful, hphase⟩
  · refine (ensures_amend_watchful h (.enter .updating)).mono_unlessFailed ?_
    exact fun _ scene' hend => ⟨hend.1, congrArg ClusterStatus.phase hend.2.1⟩

theorem keepsUntil_convergePools (id : ClusterId) :
    KeepsUntil conduct (Watchful entry) (fun _ => Ended entry) (convergePools cluster id) := by
  have hquiet : ∀ {α : Type} {attempt : Attempt α} {s : Step α},
      ErasesTo cluster Call.IsQuiet StatusChange.IsUpdate attempt s →
      KeepsUntil conduct (Watchful entry) (fun _ => Ended entry) attempt := fun herases =>
    herases.keepsUntil_of_preserves (preserves_watchful conduct entry)
      (fun _ hchange => keepsUntil_watchful hchange) fun _ _ h => h.careful.ended
  intro scene h
  refine (hquiet (erases_listPools trivial) scene h).bind_unlessFailed fun listing scene' h' => ?_
  dsimp only
  split
  · have hobserve : (StatusChange.observe (Pools.observed listing)).IsUpdate := trivial
    exact hquiet (.amendUnless _ hobserve) scene' h'
  · refine (ensures_enter_updating h').bind_unlessFailed fun _ scene'' hchanging => ?_
    have hrest : ErasesTo cluster Call.IsUpkeep StatusChange.IsUpdate (do
        step ((PoolPlan.between (Pools.desired cluster.spec.nodePools)
          (Pools.observed listing)).apply id)
        observePools id
        persist cluster) _ :=
      .bind (.step (PoolPlan.apply_isUpkeep id _)) fun _ =>
        erases_observed trivial fun _ => trivial
    have hkeeps := hrest.keepsUntil_of_preserves
      ((preserves_changing conduct entry).mono fun _ hkind => hkind.isConverging.not_writesStatus)
      (fun _ hchange => keepsUntil_changing hchange) fun _ _ hscene => hscene.toCareful.ended
    exact (hkeeps scene'' hchanging).mono_unlessFailed fun _ _ => Or.inr

/-- A known cluster is changed. What it is asked for changes nothing unless that was announced. -/
theorem ensures_makeReady_watchful {remote : RemoteCluster} (h : Idle entry scene)
    (hreports : ∀ other ∈ reports scene.log, other = remote) :
    Ensures conduct (makeReady cluster remote)
      (unlessFailed (fun _ => Watchful entry) (fun _ => Ended entry)) scene := by
  have hannounce : Ensures conduct (announce cluster remote) (unlessFailed (fun _ =>
      Harmless entry (.updateCluster remote.id (updateRequest cluster remote)))
      fun _ => Ended entry) scene := by
    unfold announce
    split
    · exact (ensures_enter_updating (Or.inl h)).mono_unlessFailed fun _ _ => Or.inl
    · next hsame =>
        have hsame : settingsDiffer cluster remote = false := Bool.eq_false_iff.mpr hsame
        exact Or.inr ⟨h, not_alters_of_not_settingsDiffer hsame hreports⟩
  refine hannounce.bind_unlessFailed fun _ scene' h' => ?_
  have hask : (Step.provider "update cluster" (Call.updateCluster remote.id
      (updateRequest cluster remote)).ask).run.Only
      (· = .updateCluster remote.id (updateRequest cluster remote)) :=
    Step.only_provider (only_question rfl)
  have hrequest := (preserves_harmless conduct entry remote.id _).step hask h'
  refine hrequest.bind (fun _ scene'' h'' => ?_) fun _ scene'' h'' => h''.watchful.careful.ended
  refine (keepsUntil_convergePools remote.id scene'' h''.watchful).bind_unlessFailed
    fun _ scene₃ h₃ => ?_
  have hsync : (Credentials.sync cluster remote.id).run.Only Call.IsQuiet :=
    (Credentials.sync_only cluster remote.id).mono fun c hc =>
      hc.elim (fun heq => heq ▸ trivial) fun hsecret => hsecret.isQuiet
  have hready : (isReady remote.id).run.Only Call.IsQuiet :=
    (isReady_only remote.id).mono fun c hc => by rcases hc with rfl | rfl <;> exact trivial
  have hquiet := preserves_watchful conduct entry
  refine (hquiet.step hsync h₃).bind (fun synced scene₄ h₄ => ?_) fun _ _ h₄ => h₄.careful.ended
  cases synced with
  | false => exact h₄
  | true =>
      exact (hquiet.step hready h₄).toUnlessFailed fun _ _ h₅ => h₅.careful.ended

theorem ensures_conclude_ended (h : Watchful entry scene) (ready : Bool) :
    Ensures conduct (conclude cluster ready) (fun _ => Ended entry) scene := by
  cases ready with
  | false => exact h.careful.ended
  | true =>
      change Ensures conduct (markActive cluster >>= fun _ => pure Progress.settled) _ scene
      rw [ensures_bind_pure, markActive_eq, ensures_amendUnless]
      split
      · exact h.careful.ended
      · refine ((ensures_amend_watchful h (.enter .active)).of_unlessFailed ?_).mono ?_
        · exact fun _ _ hend => hend.1.ended
        · exact fun _ _ hend => hend

theorem ensures_create_ended (h : Idle entry scene) :
    Ensures conduct (create cluster) (fun _ => Ended entry) scene := by
  have herases : ErasesTo cluster Call.Founds (fun _ => True) (create cluster)
      (Step.create cluster) := erases_create trivial (fun _ => trivial) (fun _ => trivial)
    (fun _ => trivial) fun _ => trivial
  have hkeeps := herases.keepsUntil_of_preserves
    ((preserves_idle conduct entry).mono fun _ hc => hc.isQuiet)
    (fun change _ => keepsUntil_idle change) fun _ _ hscene => hscene.toCareful.ended
  exact (hkeeps scene h).of_unlessFailed fun _ _ hend => hend.toCareful.ended

theorem ensures_converge_ended (h : Idle entry scene) (hreports : reports scene.log = []) :
    Ensures conduct (converge cluster) (fun _ => Ended entry) scene := by
  rw [converge_eq, ensures_bind, ensures_status, Dialogue.orFault_ok]
  cases hid : scene.memory.clusterId with
  | none => exact ensures_create_ended h
  | some id =>
      refine (preserves_idle conduct entry).ensures_ask (c := .getCluster id) trivial ?_ ?_ h
      · exact fun _ hscene => hscene.toCareful.ended
      · intro response state _ hafter
        cases hreply : (response.reply : Except ProviderFault RemoteCluster) with
        | ok remote =>
            have hreported : reports (World.after scene.checked (.getCluster id) response false
                state).log = [remote] := reports_after_getCluster hreply hreports state
            dsimp only
            rw [update_eq_makeReady]
            refine (ensures_makeReady_watchful hafter ?_).bind ?_ fun _ _ hend => hend
            · rw [hreported]
              exact fun other hother => List.mem_singleton.mp hother
            · exact fun ready scene' hscene => ensures_conclude_ended hscene ready
        | error cause =>
            cases cause with
            | notFound => exact ensures_create_ended hafter
            | _ => exact hafter.toCareful.ended

theorem ensures_tearDown_ended (h : Idle entry scene) :
    Ensures conduct (tearDown cluster) (fun _ => Ended entry) scene := by
  rw [tearDown_eq, ensures_bind, ensures_status, Dialogue.orFault_ok]
  have herases : ErasesTo cluster Call.Dismantles (· = .enter .deleting)
      (tearDownFrom cluster scene.memory.clusterId) _ := erases_tearDownFrom _
  have hkeeps := herases.keepsUntil_of_preserves
    ((preserves_idle conduct entry).mono fun _ hc => hc.isQuiet)
    (fun change _ => keepsUntil_idle change) fun _ _ hscene => hscene.toCareful.ended
  exact (hkeeps scene h).of_unlessFailed fun _ _ hend => hend.toCareful.ended

end Attempt

theorem idle_of_log_eq_nil (hlog : scene.log = []) (hmemory : scene.memory = entry) :
    Idle entry scene where
  announced := hlog ▸ EachCall.nil
  accepted := hlog ▸ EachCall.nil
  memory := by rw [hlog, hmemory]; rfl
  unaltered := hlog ▸ EachCall.nil

/-- A failure is written with the phase in memory, which announces nothing where there were
changes. -/
theorem Ended.ensures_recordFailure (h : Ended entry scene) (fault : Fault) :
    Pass.Ensures conduct (recordFailure cluster fault)
      (fun _ scene' => IsAnnounced entry scene'.log) scene := by
  rw [Pass.ensures_recordFailure]
  split
  · exact h.toIsAnnounced
  · intro response state _
    apply h.toIsAnnounced.snoc id
    rintro ⟨hphase, hrecorded, _⟩
    exact (h.updating hphase).resolve_left hrecorded

theorem Idle.ensures_releaseResource (h : Idle entry scene) (ending : PassEnd) :
    Pass.Ensures conduct (releaseResource cluster ending)
      (fun _ scene' => IsAnnounced entry scene'.log) scene := by
  rw [Pass.ensures_releaseResource]
  intro response state hconduct
  exact ((preserves_idle conduct entry).after scene _ response false state trivial hconduct
    h).isAnnounced

theorem ensures_prepare_announced (hlog : scene.log = []) (hmemory : scene.memory = entry) :
    Pass.Ensures conduct (prepare cluster) (unlessEnded
      (fun scene' => Idle entry scene' ∧ reports scene'.log = [])
      fun _ scene' => IsAnnounced entry scene'.log) scene := by
  have hidle := idle_of_log_eq_nil hlog hmemory
  have hreports : reports scene.log = [] := by rw [hlog]; rfl
  apply Pass.ensures_prepare
  · exact fun _ _ => hidle.isAnnounced
  · exact fun _ _ _ => hidle.ensures_releaseResource .idle
  · exact fun _ _ _ _ => ⟨hidle, hreports⟩
  · exact fun _ fault _ => hidle.ended.ensures_recordFailure fault
  · exact fun _ _ => ⟨hidle, hreports⟩
  · intro _ response state hconduct
    have hafter := (preserves_idle conduct entry).after scene _ response false state trivial
      hconduct hidle
    cases (response.reply : Except Fault Unit) with
    | error fault => exact hafter.isAnnounced
    | ok _ => exact ⟨hafter, (reports_snoc_of_none rfl).trans hreports⟩

theorem ensures_engage_ended (h : Idle entry scene) (hreports : reports scene.log = []) :
    Attempt.Ensures conduct (Attempt.engage cluster) (fun _ => Ended entry) scene := by
  have hafter := fun response state hconduct => (preserves_idle conduct entry).after scene
    (.connect cluster.spec.tokenSecretRef) response false state trivial hconduct h
  apply Attempt.ensures_engage
  · exact fun response state _ hconduct _ => (hafter response state hconduct).ended
  · intro response state hconduct _
    unfold Attempt.main
    split
    · exact Attempt.ensures_tearDown_ended (hafter response state hconduct)
    · exact Attempt.ensures_converge_ended (hafter response state hconduct)
        ((reports_snoc_of_none rfl).trans hreports)

theorem Ended.ensures_wrapUp {settings : Settings} (h : Ended entry scene)
    (r : Except Fault Progress) :
    Pass.Ensures conduct (wrapUp settings cluster r)
      (fun _ scene' => IsAnnounced entry scene'.log) scene := by
  apply Pass.ensures_wrapUp
  · exact fun fault _ => h.ensures_recordFailure fault
  · intro _ _
    rw [Pass.ensures_releaseResource]
    exact fun response state _ => h.toIsAnnounced.snoc id fun hfails => hfails.elim
  · exact fun _ _ _ => h.toIsAnnounced

/-- A cluster is changed only while the status on record says that it is being updated, and where
the write that was to say so failed, nothing is changed: in every attempt that begins with the
status on record, whatever that is, and in every pass. -/
theorem changes_are_announced (world : World σ) (settings : Settings) (cluster : ClusterDeclaration)
    (cancelled : Bool) (entry memory : ClusterStatus) (state : σ) :
    IsAnnounced entry
        (world.run (Attempt.converge cluster).run (.start cancelled entry state)).2.log ∧
      IsAnnounced cluster.currentStatus
        (world.run (reconcile settings cluster) (.start cancelled memory state)).2.log := by
  constructor
  · have hensures : Attempt.Ensures Conduct.any (Attempt.converge cluster)
        (fun _ scene => Ended entry scene) ((Scene.start cancelled entry state).through id) :=
      Attempt.ensures_converge_ended (idle_of_log_eq_nil rfl rfl) rfl
    exact (World.run_of_ensures (world.keeps_any id) hensures).toIsAnnounced
  · have hensures : Pass.Ensures Conduct.any (reconcile settings cluster)
        (fun _ scene => IsAnnounced cluster.currentStatus scene.log)
        ((Scene.start cancelled memory state).through id) := by
      apply Pass.ensures_reconcile
      · exact ensures_prepare_announced rfl rfl
      · exact fun scene' h => ensures_engage_ended h.1 h.2
      · exact fun r _ hended => hended.ensures_wrapUp r
    exact World.run_of_ensures (world.keeps_any id) hensures

end ClusterKeeper
