import ClusterKeeper.Proofs.Pass.Custody
import ClusterKeeper.Proofs.Pass.Erasure
/-!
The statuses of a resource over its lifetime.

A resource begins without a status, and every pass reads the last status that was written. Whatever
the collaborators reply, and however the resource is edited, what is written is coherent: it has a
phase other than the unknown one where it has a cluster, and pools only there. A resource that is on
record as being deleted stays so, with the same cluster. `lifetime_statuses` says both.
-/

namespace ClusterKeeper

open Dialogue (only_question)

variable {σ α : Type} {conduct : Conduct σ} {cluster : ClusterDeclaration} {scene : Scene σ}
  {exchanges : List Exchange} {id : ClusterId}

namespace ClusterStatus

/-- The phase and the pools agree with the identifier. -/
structure IsCoherent (status : ClusterStatus) : Prop where
  phase : status.phase = .unknown ↔ status.clusterId = none
  pools : status.clusterId = none → status.pools = KeyMap.empty

theorem isCoherent_blank : blank.IsCoherent := ⟨by decide, fun _ => rfl⟩

theorem isCoherent_of_some {status : ClusterStatus} (hid : status.clusterId = some id)
    (hphase : status.phase ≠ .unknown) : status.IsCoherent where
  phase := by simp [hid, hphase]
  pools := by simp [hid]

theorem IsCoherent.withFailure {status : ClusterStatus} (h : status.IsCoherent) (fault : Fault) :
    (status.withFailure fault).IsCoherent := ⟨h.phase, h.pools⟩

/-- A status that may come after another: what is being deleted stays so. -/
def Precedes (earlier later : ClusterStatus) : Prop :=
  earlier.phase = .deleting → later.phase = .deleting ∧ later.clusterId = earlier.clusterId

theorem Precedes.refl (status : ClusterStatus) : status.Precedes status := fun h => ⟨h, rfl⟩

theorem Precedes.trans {a b c : ClusterStatus} (h : a.Precedes b) (hnext : b.Precedes c) :
    a.Precedes c := by
  intro ha
  obtain ⟨hb, hid⟩ := h ha
  obtain ⟨hc, hid'⟩ := hnext hb
  exact ⟨hc, hid'.trans hid⟩

/-- The status of a resource that is to be kept. -/
structure IsThriving (status : ClusterStatus) : Prop extends status.IsCoherent where
  kept : status.phase ≠ .deleting

theorem IsThriving.withFailure {status : ClusterStatus} (h : status.IsThriving) (fault : Fault) :
    (status.withFailure fault).IsThriving := ⟨h.toIsCoherent.withFailure fault, h.kept⟩

end ClusterStatus

namespace Exchange

/-- The status that was to be written. -/
def offered? : Exchange → Option ClusterStatus
  | ⟨.patchStatus _ _ status, _, _, _⟩ => some status
  | _ => none

/-- The status that was written. -/
def written? (e : Exchange) : Option ClusterStatus := (Event.exchange e).written?

theorem offered?_of_written? {e : Exchange} {status : ClusterStatus}
    (h : e.written? = some status) : e.offered? = some status := by
  obtain ⟨c, response, abandoned, memory⟩ := e
  cases c with
  | patchStatus inNamespace name offered =>
      rw [written?, Event.written?] at h
      cases hreply : (response.reply : Except Fault Unit) with
      | ok _ => simpa [hreply, offered?] using h
      | error fault => simp [hreply] at h
  | _ => simp [written?, Event.written?] at h

end Exchange

/-- The statuses that were to be written. -/
def offers (exchanges : List Exchange) : List ClusterStatus :=
  exchanges.filterMap Exchange.offered?

/-- The statuses that were written. -/
def written (exchanges : List Exchange) : List ClusterStatus :=
  exchanges.filterMap Exchange.written?

theorem written_sublist_offers (exchanges : List Exchange) :
    (written exchanges).Sublist (offers exchanges) := by
  induction exchanges with
  | nil => exact .slnil
  | cons e exchanges ih =>
      rw [written, offers, List.filterMap_cons, List.filterMap_cons]
      cases hwritten : e.written? with
      | none =>
          cases e.offered? with
          | none => exact ih
          | some status => exact ih.cons status
      | some status =>
          rw [Exchange.offered?_of_written? hwritten]
          exact ih.cons_cons status

theorem offers_append (first second : List Exchange) :
    offers (first ++ second) = offers first ++ offers second :=
  List.filterMap_append

theorem offers_of_not_writesStatus {e : Exchange} (h : ¬ e.call.WritesStatus) :
    offers [e] = [] := by
  obtain ⟨c, response, abandoned, memory⟩ := e
  cases c with
  | patchStatus inNamespace name status => exact absurd trivial h
  | _ => rfl

/-- The statuses that a pass was to write, and the one in memory. -/
def Scene.statuses (scene : Scene σ) : List ClusterStatus :=
  offers scene.exchanges ++ [scene.memory]

theorem statuses_after {c : Call} (h : ¬ c.WritesStatus) (response : Response c.Reply)
    (abandoned : Bool) (state : σ) :
    (World.after scene c response abandoned state).statuses = scene.statuses := by
  rw [Scene.statuses, Scene.exchanges_after, offers_append, offers_of_not_writesStatus h,
    List.append_nil]
  rfl

theorem statuses_written (status : ClusterStatus)
    (response : Response (Call.patchStatus cluster.inNamespace cluster.name status).Reply)
    (state : σ) :
    (World.after (scene.recording status) (.patchStatus cluster.inNamespace cluster.name status)
      response false state).statuses = offers scene.exchanges ++ [status, status] := by
  rw [Scene.statuses, Scene.exchanges_after, offers_append, List.append_assoc]
  rfl

/-- What is true of the statuses does not depend on other calls. -/
theorem Conduct.preserves_statuses (conduct : Conduct σ) (inv : List ClusterStatus → Prop) :
    conduct.Preserves (fun c => ¬ c.WritesStatus) fun scene => inv scene.statuses where
  checked := by
    intro scene h
    rwa [Scene.statuses, Scene.exchanges_checked]
  after := by
    intro scene c response abandoned state hkind _ h
    rwa [statuses_after hkind]

/-- A status that follows from the one in memory is written. -/
theorem keeps_recordFailure_statuses (inv : List ClusterStatus → Prop)
    (h : ∀ before status fault, inv (before ++ [status]) →
      inv (before ++ [status.withFailure fault, status.withFailure fault]))
    (fault : Fault) (scene : Scene σ) (hinv : inv scene.statuses) :
    Pass.Ensures conduct (recordFailure cluster fault) (fun _ scene' => inv scene'.statuses)
      scene := by
  rw [Pass.ensures_recordFailure]
  split
  · exact hinv
  · intro response state _
    rw [statuses_written]
    exact h _ _ fault hinv

/-- All statuses of the pass are those of a resource that is to be kept. -/
def Thrives (scene : Scene σ) : Prop := ∀ status ∈ scene.statuses, status.IsThriving

theorem Thrives.memory (h : Thrives scene) : scene.memory.IsThriving :=
  h _ (List.mem_append_right _ List.mem_cons_self)

/-- Changes on the way to a cluster leave a thriving status, once one is known or with one. -/
theorem StatusChange.IsConverging.isThriving {change : StatusChange} (h : change.IsConverging)
    {status : ClusterStatus} (hstatus : status.IsThriving)
    (hid : status.clusterId ≠ none ∨ ∃ id, change = .adopt id) :
    (change.written status).IsThriving ∧ (change.written status).clusterId ≠ none := by
  cases change with
  | enter phase =>
      obtain ⟨id, hid⟩ := Option.ne_none_iff_exists'.mp (hid.resolve_right (by simp))
      refine ⟨⟨ClusterStatus.isCoherent_of_some hid ?_, ?_⟩, ?_⟩
      · rcases h with rfl | rfl <;> simp [written, apply]
      · rcases h with rfl | rfl <;> simp [written, apply]
      · simp [written, apply, hid]
  | observe pools =>
      obtain ⟨id, hid⟩ := Option.ne_none_iff_exists'.mp (hid.resolve_right (by simp))
      refine ⟨⟨ClusterStatus.isCoherent_of_some hid ?_, hstatus.kept⟩, ?_⟩
      · intro hunknown
        rw [hstatus.phase.mp hunknown] at hid
        cases hid
      · simp [written, apply, hid]
  | adopt id =>
      refine ⟨⟨ClusterStatus.isCoherent_of_some rfl ?_, ?_⟩, ?_⟩ <;> simp [written, apply]

theorem ensures_amend_thriving (change : StatusChange) (hchange : change.IsConverging)
    (h : Thrives scene) (hid : scene.memory.clusterId ≠ none ∨ ∃ id, change = .adopt id) :
    Attempt.Ensures conduct (Attempt.amend cluster change)
      (fun _ scene' => Thrives scene' ∧ scene'.memory.clusterId ≠ none) scene := by
  obtain ⟨hthriving, hknown⟩ := hchange.isThriving h.memory hid
  rw [Attempt.ensures_amend]
  intro response state _
  refine ⟨?_, hknown⟩
  rw [Thrives, statuses_written]
  intro status hstatus
  rcases List.mem_append.mp hstatus with hstatus | hstatus
  · exact h status (List.mem_append_left _ hstatus)
  · rw [show status = change.written scene.memory by simpa using hstatus]
    exact hthriving

theorem preserves_thrives (conduct : Conduct σ) :
    conduct.Preserves (fun c => ¬ c.WritesStatus) Thrives :=
  conduct.preserves_statuses fun statuses => ∀ status ∈ statuses, status.IsThriving

/-- With a cluster on record the pass thrives, whatever is done to bring that nearer. -/
theorem ensures_thriving {attempt : Attempt α} {step : Step α}
    (h : Attempt.ErasesTo cluster Call.IsConverging StatusChange.IsConverging attempt step)
    (hscene : Thrives scene) (hid : scene.memory.clusterId ≠ none) :
    Attempt.Ensures conduct attempt (fun _ => Thrives) scene := by
  have hcalls : conduct.Preserves Call.IsConverging fun scene =>
      Thrives scene ∧ scene.memory.clusterId ≠ none :=
    ((preserves_thrives conduct).mono fun _ hkind => hkind.not_writesStatus).and
      (Conduct.Preserves.memory conduct _ fun status => status.clusterId ≠ none)
  have hkeeps := h.keeps hcalls fun change hchange _ hthrives =>
    ensures_amend_thriving change hchange hthrives.1 (Or.inl hthrives.2)
  exact (hkeeps scene ⟨hscene, hid⟩).mono fun _ _ hend => hend.1

theorem keeps_thrives_create : Attempt.Keeps conduct Thrives (Attempt.create cluster) := by
  have hcalls : ∀ {α : Type} {step : Step α}, step.run.Only Call.IsConverging →
      Attempt.Keeps conduct Thrives (Attempt.step step) := fun hstep _ hscene =>
    ((preserves_thrives conduct).mono fun _ hkind => hkind.not_writesStatus).step hstep hscene
  rw [Attempt.create_eq]
  refine (hcalls (chooseVersion_isConverging _)).bind fun version => ?_
  refine (hcalls (Step.only_provider (only_question trivial))).bind fun created => ?_
  -- From here on a cluster is on record.
  intro scene hscene
  refine (ensures_amend_thriving (.adopt created.id) trivial hscene (Or.inr ⟨_, rfl⟩)).bind ?_
    fun _ _ hend => hend.1
  intro _ scene' hscene'
  have hobserved : Attempt.ErasesTo cluster Call.IsConverging StatusChange.IsConverging
      (Attempt.observePools created.id >>= fun _ => Attempt.persist cluster) _ :=
    Attempt.erases_observed trivial fun _ => trivial
  exact (ensures_thriving hobserved hscene'.1 hscene'.2).bind (fun _ _ hend => hend)
    fun _ _ hend => hend

theorem keeps_thrives_converge : Attempt.Keeps conduct Thrives (Attempt.converge cluster) := by
  intro scene hscene
  rw [Attempt.converge_eq, Attempt.ensures_bind, Attempt.ensures_status, Dialogue.orFault_ok]
  cases hid : scene.memory.clusterId with
  | none => exact keeps_thrives_create scene hscene
  | some id =>
      have hknown : scene.memory.clusterId ≠ none := by simp [hid]
      exact ensures_thriving (Attempt.erases_convergeFrom (some id)) hscene hknown

theorem keeps_thrives_recordFailure (fault : Fault) (scene : Scene σ) (h : Thrives scene) :
    Pass.Ensures conduct (recordFailure cluster fault) (fun _ => Thrives) scene := by
  refine keeps_recordFailure_statuses (fun statuses => ∀ status ∈ statuses, status.IsThriving) ?_
    fault scene h
  intro before status fault hall
  have hstatus := hall status (by simp)
  have hfailed := hstatus.withFailure fault
  simp only [List.mem_append, List.mem_cons, List.not_mem_nil, or_false, or_self] at hall ⊢
  rintro other (hother | rfl)
  · exact hall other (Or.inl hother)
  · exact hfailed

/-- A pass over a resource that is to be kept leaves a thriving status. -/
theorem ensures_reconcileChange_thrives (settings : Settings) (h : Thrives scene) :
    Pass.Ensures conduct (reconcileChange settings cluster) (fun _ => Thrives) scene := by
  have hconnected : ∀ scene : Scene σ, Thrives scene →
      Pass.Ensures conduct (connected cluster (Attempt.converge cluster) fun progress =>
        return .through (progress.action settings)) (fun _ => Thrives) scene := by
    intro scene hscene
    refine Pass.ensures_connected_of_kept ((preserves_thrives conduct).mono ?_)
      keeps_thrives_recordFailure (fun _ _ h => h) ?_ hscene
    · rintro _ rfl
      exact fun hwrites => hwrites
    · intro scene hscene
      refine (keeps_thrives_converge scene hscene).mono fun r scene' hend => ?_
      cases r <;> exact hend
  unfold reconcileChange
  split
  · rw [Pass.ensures_bind]
    exact keeps_thrives_recordFailure _ scene h
  · rw [Pass.ensures_bind]
    apply Pass.ensures_guardResource
    · exact fun _ => hconnected scene h
    · intro response state hconduct
      have hafter := (preserves_thrives conduct).after scene
        (.addFinalizer cluster.inNamespace cluster.name) response false state
        (fun hwrites => hwrites) hconduct h
      cases hreply : (response.reply : Except Fault Unit) with
      | error fault => exact hafter
      | ok _ => exact hconnected _ hafter

/-- The statuses of a pass over a resource that is to go follow on the one on record. -/
structure Fade (entry : ClusterStatus) (statuses : List ClusterStatus) : Prop where
  coherent : ∀ status ∈ statuses, status.IsCoherent
  ordered : (entry :: statuses).Pairwise ClusterStatus.Precedes

/-- The status in memory is replaced by one that may follow, and that is written. -/
theorem Fade.write {entry status next : ClusterStatus} {before : List ClusterStatus}
    (h : Fade entry (before ++ [status])) (hcoherent : next.IsCoherent)
    (hnext : status.Precedes next) : Fade entry (before ++ [next, next]) := by
  obtain ⟨hall, hordered⟩ := h
  rw [← List.cons_append, List.pairwise_append] at hordered
  obtain ⟨hbefore, _, hlast⟩ := hordered
  constructor
  · intro other hother
    rcases List.mem_append.mp hother with hother | hother
    · exact hall other (List.mem_append_left _ hother)
    · rw [show other = next by simpa using hother]
      exact hcoherent
  · rw [← List.cons_append, List.pairwise_append]
    refine ⟨hbefore, by simp [ClusterStatus.Precedes.refl], ?_⟩
    intro a ha b hb
    rw [show b = next by simpa using hb]
    exact (hlast a ha status List.mem_cons_self).trans hnext

theorem keeps_fade_tearDown (entry : ClusterStatus) :
    Attempt.Keeps conduct (fun scene => Fade entry scene.statuses) (Attempt.tearDown cluster) := by
  intro scene hscene
  rw [Attempt.tearDown_eq, Attempt.ensures_bind, Attempt.ensures_status, Dialogue.orFault_ok]
  cases hid : scene.memory.clusterId with
  | none => exact hscene
  | some id =>
      have hcalls : conduct.Preserves Call.Dismantles fun scene =>
          Fade entry scene.statuses ∧ scene.memory.clusterId = some id :=
        ((conduct.preserves_statuses (Fade entry)).mono
          fun _ hkind => hkind.isRoutine.not_writesStatus).and
          (Conduct.Preserves.memory conduct _ fun status => status.clusterId = some id)
      have hamend : Attempt.Keeps conduct
          (fun scene => Fade entry scene.statuses ∧ scene.memory.clusterId = some id)
          (Attempt.amend cluster (.enter .deleting)) := by
        rintro scene ⟨hscene, hid⟩
        rw [Attempt.ensures_amend]
        intro response state _
        refine ⟨?_, hid⟩
        rw [statuses_written]
        apply hscene.write
        · have hwritten :
              ((StatusChange.enter .deleting).written scene.memory).clusterId = some id := hid
          apply ClusterStatus.isCoherent_of_some hwritten
          simp [StatusChange.written, StatusChange.apply]
        · exact fun _ => ⟨rfl, rfl⟩
      have hkeeps := (Attempt.erases_tearDownFrom (some id)).keeps hcalls fun change hchange =>
        hchange ▸ hamend
      exact (hkeeps scene ⟨hscene, hid⟩).mono fun _ _ hend => hend.1

theorem keeps_fade_recordFailure (entry : ClusterStatus) (fault : Fault) (scene : Scene σ)
    (h : Fade entry scene.statuses) :
    Pass.Ensures conduct (recordFailure cluster fault)
      (fun _ scene' => Fade entry scene'.statuses) scene := by
  refine keeps_recordFailure_statuses (Fade entry) ?_ fault scene h
  intro before status fault hbefore
  have hcoherent := hbefore.coherent status (by simp)
  exact hbefore.write (hcoherent.withFailure fault) fun hdeleting => ⟨hdeleting, rfl⟩

theorem ensures_releaseResource_fade (entry : ClusterStatus) (ending : PassEnd)
    (h : Fade entry scene.statuses) :
    Pass.Ensures conduct (releaseResource cluster ending)
      (fun _ scene' => Fade entry scene'.statuses) scene := by
  refine (Pass.ensures_bind _ _ _).mpr ?_
  intro response state hconduct
  have hafter := (conduct.preserves_statuses (Fade entry)).after scene
    (.removeFinalizer cluster.inNamespace cluster.name) response false state
    (fun hwrites => hwrites) hconduct h
  cases hreply : (response.reply : Except Fault Unit) <;> exact hafter

theorem ensures_reconcileDeletion_fade (settings : Settings) (entry : ClusterStatus)
    (h : Fade entry scene.statuses) :
    Pass.Ensures conduct (reconcileDeletion settings cluster)
      (fun _ scene' => Fade entry scene'.statuses) scene := by
  unfold reconcileDeletion
  split
  · exact h
  · split
    · exact ensures_releaseResource_fade entry _ h
    · refine Pass.ensures_connected_of_kept ((conduct.preserves_statuses (Fade entry)).mono ?_)
        (keeps_fade_recordFailure entry) (fun _ _ h => h) ?_ h
      · rintro _ rfl
        exact fun hwrites => hwrites
      · intro scene hscene
        refine (keeps_fade_tearDown entry scene hscene).mono fun r scene' hend => ?_
        rcases r with fault | progress
        · exact hend
        · cases progress with
          | settled => exact ensures_releaseResource_fade entry _ hend
          | inFlight => exact hend

/-- What a pass does with a coherent status: what it writes is coherent, and follows on it. -/
structure Continues (entry : ClusterStatus) (doomed : Bool) (exchanges : List Exchange) : Prop where
  coherent : ∀ status ∈ offers exchanges, status.IsCoherent
  ordered : (entry :: offers exchanges).Pairwise ClusterStatus.Precedes
  spared : doomed = false → ∀ status ∈ offers exchanges, status.phase ≠ .deleting

theorem Thrives.continues (h : Thrives scene) {entry : ClusterStatus}
    (hentry : entry.phase ≠ .deleting) (doomed : Bool) :
    Continues entry doomed scene.exchanges := by
  have hoffers : ∀ status ∈ offers scene.exchanges, status.IsThriving :=
    fun status hstatus => h status (List.mem_append_left _ hstatus)
  refine ⟨fun status hstatus => (hoffers status hstatus).toIsCoherent, ?_,
    fun _ status hstatus => (hoffers status hstatus).kept⟩
  rw [List.pairwise_cons]
  constructor
  · exact fun _ _ hdeleting => absurd hdeleting hentry
  · exact List.pairwise_of_forall_mem_list fun status hstatus _ _ hdeleting =>
      absurd hdeleting (hoffers status hstatus).kept

theorem Fade.continues {entry : ClusterStatus} (h : Fade entry scene.statuses) :
    Continues entry true scene.exchanges where
  coherent := fun status hstatus => h.coherent status (List.mem_append_left _ hstatus)
  ordered := h.ordered.sublist ((List.sublist_append_left _ _).cons_cons entry)
  spared := fun hfalse => absurd hfalse (by simp)

theorem continues_of_pass (world : World σ) (settings : Settings) (cluster : ClusterDeclaration)
    (cancelled : Bool) (memory : ClusterStatus) (state : σ)
    (hentry : cluster.currentStatus.IsCoherent)
    (hdoomed : cluster.currentStatus.phase = .deleting → cluster.isBeingDeleted = true) :
    Continues cluster.currentStatus cluster.isBeingDeleted
      (world.run (reconcile settings cluster) (.start cancelled memory state)).2.exchanges := by
  have hensures : Pass.Ensures Conduct.any (reconcile settings cluster)
      (fun _ scene => Continues cluster.currentStatus cluster.isBeingDeleted scene.exchanges)
      ((Scene.start cancelled memory state).through id) := by
    rw [reconcile, Pass.ensures_bind, Pass.ensures_record]
    split
    · next hdeleted =>
        have hfade : Fade cluster.currentStatus [cluster.currentStatus] := by
          refine ⟨by simpa using hentry, ?_⟩
          simp [ClusterStatus.Precedes.refl]
        rw [hdeleted]
        exact (ensures_reconcileDeletion_fade settings _ hfade).mono fun _ _ hend => hend.continues
    · next hkept =>
        have hspared : cluster.currentStatus.phase ≠ .deleting := fun h => hkept (hdoomed h)
        have hthrives : Thrives (((Scene.start cancelled memory state).through id).recording
            cluster.currentStatus) := by
          intro status hstatus
          rw [show status = cluster.currentStatus from List.mem_singleton.mp hstatus]
          exact ⟨hentry, hspared⟩
        exact (ensures_reconcileChange_thrives settings hthrives).mono
          fun _ _ hend => hend.continues hspared _
  exact World.run_of_ensures (world.keeps_any id) hensures

/-! ### Lifetimes -/

/-- What was exchanged over the lifetime of a resource so far, and whether it is to be deleted. It
begins without a status, and every pass reads the last status that was written. Between passes the
resource may be edited; once it is to be deleted, that cannot be undone. -/
inductive Lifetime : Bool → List Exchange → Prop where
  | start : Lifetime false []
  | pass {σ : Type} (world : World σ) (settings : Settings) (cluster : ClusterDeclaration)
      (cancelled : Bool) (memory : ClusterStatus) (state : σ) {doomed exchanges} :
      Lifetime doomed exchanges → cluster.status = (written exchanges).getLast? →
      (doomed = true → cluster.isBeingDeleted = true) →
      Lifetime cluster.isBeingDeleted (exchanges ++
        (world.run (reconcile settings cluster) (.start cancelled memory state)).2.exchanges)

/-- The status that the next pass begins with. -/
def recorded (exchanges : List Exchange) : ClusterStatus :=
  (written exchanges).getLast?.getD .blank

/-- The status on record was written, unless nothing was. -/
theorem recorded_of_offers {p : ClusterStatus → Prop} (hblank : p .blank)
    (hoffers : ∀ status ∈ offers exchanges, p status) : p (recorded exchanges) := by
  rw [recorded]
  cases hlast : (written exchanges).getLast? with
  | none => exact hblank
  | some last =>
      exact hoffers last ((written_sublist_offers exchanges).subset (List.mem_of_getLast? hlast))

/-- What is true of a lifetime so far. -/
structure Upstanding (doomed : Bool) (exchanges : List Exchange) : Prop where
  coherent : ∀ status ∈ offers exchanges, status.IsCoherent
  ordered : (written exchanges).Pairwise ClusterStatus.Precedes
  spared : doomed = false → ∀ status ∈ offers exchanges, status.phase ≠ .deleting

/-- The status on record comes after all that were written. -/
theorem Upstanding.precedes {doomed : Bool} (h : Upstanding doomed exchanges)
    {status : ClusterStatus} (hstatus : status ∈ written exchanges) :
    status.Precedes (recorded exchanges) := by
  have hordered := h.ordered
  rw [recorded]
  cases hlast : (written exchanges).getLast? with
  | none =>
      rw [List.getLast?_eq_none_iff.mp hlast] at hstatus
      cases hstatus
  | some last =>
      obtain ⟨before, hwritten⟩ := List.getLast?_eq_some_iff.mp hlast
      rw [hwritten] at hstatus hordered
      rcases List.mem_append.mp hstatus with hbefore | hlast
      · exact (List.pairwise_append.mp hordered).2.2 status hbefore last List.mem_cons_self
      · rw [List.mem_singleton.mp hlast]
        exact ClusterStatus.Precedes.refl last

theorem Upstanding.continue {doomed deleted : Bool} {more : List Exchange}
    (h : Upstanding doomed exchanges) (hdoomed : doomed = true → deleted = true)
    (hmore : Continues (recorded exchanges) deleted more) :
    Upstanding deleted (exchanges ++ more) where
  coherent := by
    rw [offers_append]
    exact List.forall_mem_append.mpr ⟨h.coherent, hmore.coherent⟩
  ordered := by
    obtain ⟨hfollows, hordered⟩ := List.pairwise_cons.mp hmore.ordered
    have hwritten := written_sublist_offers more
    rw [written, List.filterMap_append, List.pairwise_append]
    refine ⟨h.ordered, hordered.sublist hwritten, fun earlier hearlier later hlater => ?_⟩
    exact (h.precedes hearlier).trans (hfollows later (hwritten.subset hlater))
  spared := by
    intro hkept
    have hundoomed : doomed = false := by
      cases doomed with
      | false => rfl
      | true => exact absurd (hdoomed rfl) (by simp [hkept])
    rw [offers_append]
    exact List.forall_mem_append.mpr ⟨h.spared hundoomed, hmore.spared hkept⟩

theorem Lifetime.upstanding {doomed : Bool} (h : Lifetime doomed exchanges) :
    Upstanding doomed exchanges := by
  induction h with
  | start =>
      exact ⟨fun _ h => absurd h List.not_mem_nil, .nil, fun _ _ h => absurd h List.not_mem_nil⟩
  | @pass _ world settings cluster cancelled memory state doomed exchanges _ hstatus hdoomed ih =>
      have hcurrent : cluster.currentStatus = recorded exchanges := by
        rw [ClusterDeclaration.currentStatus, hstatus, recorded]
      apply ih.continue hdoomed
      rw [← hcurrent]
      apply continues_of_pass
      · rw [hcurrent]
        exact recorded_of_offers ClusterStatus.isCoherent_blank ih.coherent
      · intro hdeleting
        cases doomed with
        | true => exact hdoomed rfl
        | false =>
            rw [hcurrent] at hdeleting
            exact absurd hdeleting (recorded_of_offers (by decide) (ih.spared rfl))

/-- In every lifetime all statuses that are written are coherent, and a resource that is on record as
being deleted stays so, with the same cluster. -/
theorem lifetime_statuses {doomed : Bool} {exchanges : List Exchange}
    (h : Lifetime doomed exchanges) :
    (∀ status ∈ offers exchanges, status.IsCoherent) ∧
      (written exchanges).Pairwise ClusterStatus.Precedes :=
  ⟨h.upstanding.coherent, h.upstanding.ordered⟩

/-- The first pass over a new resource. -/
def workshopFounding : List Exchange :=
  (plainWorld.run (reconcile Settings.standard workshop)
    (.start false .blank ⟨workshop, [], []⟩)).2.exchanges

/-- The resource after that, when it is to be deleted. -/
def doomedWorkshop : ClusterDeclaration :=
  (workshop.withStatus (recorded workshopFounding)).marked

/-- The next pass, with a provider that does not answer. -/
def workshopDemise : List Exchange :=
  ((acceptingWorld false).run (reconcile Settings.standard doomedWorkshop)
    (.start false .blank ())).2.exchanges

/-- Two passes, each of which fails at last and writes that. -/
theorem workshop_lifetime :
    Lifetime true (workshopFounding ++ workshopDemise) ∧
      (written (workshopFounding ++ workshopDemise)).map (fun status => status.phase) =
        [.provisioning, .provisioning, .deleting, .deleting] ∧
      (∀ status ∈ offers (workshopFounding ++ workshopDemise), status.IsCoherent) ∧
      (written (workshopFounding ++ workshopDemise)).Pairwise ClusterStatus.Precedes := by
  have hfounding : Lifetime false workshopFounding :=
    Lifetime.pass plainWorld Settings.standard workshop false .blank ⟨workshop, [], []⟩ .start rfl
      (by simp)
  have hlifetime : Lifetime true (workshopFounding ++ workshopDemise) :=
    Lifetime.pass (acceptingWorld false) Settings.standard doomedWorkshop false .blank () hfounding
      rfl fun _ => rfl
  exact ⟨hlifetime, rfl, lifetime_statuses hlifetime⟩

end ClusterKeeper
