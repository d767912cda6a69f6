import Mathlib.Data.List.Induction
import ClusterKeeper.Proofs.Logic.Twin
import ClusterKeeper.Proofs.Pass.Announcement
import ClusterKeeper.Proofs.Pass.Report
/-!
What a pass still does after it was told to stop.

Calls on the provider and on the secrets are made in steps. Once a pass has been told to stop it
goes on with the step that is under way, up to a call that it has to wait for, and it writes the
status as it would have done; where another step were to begin it ends. So the pass does what the
one does that nobody stops, up to there. It reports no failure and counts none.
-/

namespace ClusterKeeper

variable {σ α : Type} {conduct : Conduct σ} {settings : Settings} {cluster : ClusterDeclaration}
  {scene : Scene σ} {start : Bool} {log : List Event} {ending : PassEnd}

/-- The pass is told to stop during the event. -/
def Event.cancels : Event → Bool
  | exchange e => e.response.cancels
  | checkpoint _ => false

/-- The pass has been told to stop, at the start or since. -/
def toldToStop (start : Bool) (log : List Event) : Bool := start || log.any Event.cancels

theorem toldToStop_snoc (event : Event) :
    toldToStop start (log ++ [event]) = (toldToStop start log || event.cancels) := by
  simp [toldToStop, Bool.or_assoc]

theorem toldToStop_append (h : toldToStop start log = true) (more : List Event) :
    toldToStop start (log ++ more) = true := by
  rw [toldToStop] at h ⊢
  rw [List.any_append, ← Bool.or_assoc, h, Bool.true_or]

/-- A step is under way. It began before the pass was told to stop, and no call of it had to wait
after that. -/
inductive Underway (start : Bool) : List Event → Prop where
  | begun {log : List Event} : toldToStop start log = false →
      Underway start (log ++ [.checkpoint false])
  | went {log : List Event} {e : Exchange} : Underway start log → e.call.IsRemote →
      (toldToStop start (log ++ [.exchange e]) = true → e.response.suspends = false) →
      Underway start (log ++ [.exchange e])

theorem Underway.of_snoc {event : Event} (h : Underway start (log ++ [event])) :
    toldToStop start log = false ∨ ∃ e, event = .exchange e ∧ Underway start log ∧
      e.call.IsRemote ∧
        (toldToStop start (log ++ [event]) = true → e.response.suspends = false) := by
  generalize hall : log ++ [event] = all at h
  cases h with
  | begun hnot => exact Or.inl (List.append_inj_left' hall rfl ▸ hnot)
  | went hunderway hremote hwait =>
      obtain ⟨rfl, hlast⟩ := List.append_inj' hall rfl
      cases hlast
      exact Or.inr ⟨_, rfl, hunderway, hremote, hwait⟩

/-- A step that is under way some time after the pass was told to stop was under way then, and since
then nothing was done but calls of it that came back at once. -/
theorem Underway.of_append {told mid : List Event} (h : Underway start (told ++ mid))
    (htold : toldToStop start told = true) :
    Underway start told ∧ ∀ event ∈ mid, ∃ e, event = .exchange e ∧ e.call.IsRemote ∧
      e.response.suspends = false := by
  induction mid using List.reverseRecOn with
  | nil => exact ⟨by rwa [List.append_nil] at h, fun _ hmem => absurd hmem List.not_mem_nil⟩
  | append_singleton mid event ih =>
      rw [← List.append_assoc] at h
      rcases h.of_snoc with hnot | ⟨e, rfl, hunderway, hremote, hwait⟩
      · rw [toldToStop_append htold mid] at hnot
        cases hnot
      · obtain ⟨hthen, hmid⟩ := ih hunderway
        refine ⟨hthen, List.forall_mem_append.mpr ⟨hmid, List.forall_mem_singleton.mpr ?_⟩⟩
        refine ⟨e, rfl, hremote, hwait ?_⟩
        rw [List.append_assoc]
        exact toldToStop_append htold _

/-- Calls on the provider and the secrets belong to steps, and the pass sees whether it has been
told to stop. -/
structure Orderly (start : Bool) (log : List Event) : Prop where
  within : EachCall (fun before e => e.call.IsRemote → Underway start before) log
  checked : ∀ before seen after, log = before ++ .checkpoint seen :: after →
    seen = toldToStop start before

theorem Orderly.call (h : Orderly start log) {e : Exchange}
    (he : e.call.IsRemote → Underway start log) : Orderly start (log ++ [.exchange e]) where
  within := h.within.snoc he
  checked := by
    intro before seen after hlog
    rcases snoc_eq_append_cons hlog with ⟨hlast, _⟩ | ⟨rest, hbefore, _⟩
    · cases hlast
    · exact h.checked before seen rest hbefore

theorem Orderly.checkpoint (h : Orderly start log) :
    Orderly start (log ++ [.checkpoint (toldToStop start log)]) where
  within := h.within.checkpoint _
  checked := by
    intro before seen after hlog
    rcases snoc_eq_append_cons hlog with ⟨hlast, rfl⟩ | ⟨rest, hbefore, _⟩
    · rw [← List.append_inj_left' hlog rfl]
      cases hlast
      rfl
    · exact h.checked before seen rest hbefore

/-- The pass ends at once where it halts, as one that was told to stop. -/
structure EndsOrderly (start : Bool) (ending : PassEnd) (log : List Event) : Prop
    extends Orderly start log where
  halts : ∀ before event after, log = before ++ event :: after → event.Halts →
    after = [] ∧ ending = .failed .cancelled

/-- The pass goes on: it has not halted. -/
structure Going (start : Bool) (scene : Scene σ) : Prop extends Orderly start scene.log where
  told : scene.cancelled = toldToStop start scene.log
  unhalted : ∀ event ∈ scene.log, ¬ event.Halts

/-- The pass halts. -/
structure Halted (start : Bool) (scene : Scene σ) : Prop extends Orderly start scene.log where
  last : ∃ before event, scene.log = before ++ [event] ∧ ∀ x ∈ before, ¬ x.Halts

theorem Going.endsOrderly (h : Going start scene) (ending : PassEnd) :
    EndsOrderly start ending scene.log where
  toOrderly := h.toOrderly
  halts := by
    intro before event after hlog hhalts
    exact absurd hhalts (h.unhalted event (by simp [hlog]))

theorem Halted.endsOrderly (h : Halted start scene) :
    EndsOrderly start (.failed .cancelled) scene.log where
  toOrderly := h.toOrderly
  halts := by
    obtain ⟨earlier, last, hlast, hunhalted⟩ := h.last
    intro before event after hlog hhalts
    rcases snoc_eq_append_cons (hlast.symm.trans hlog) with ⟨_, hnil⟩ | ⟨rest, hearlier, _⟩
    · exact ⟨hnil, rfl⟩
    · exact absurd hhalts (hunhalted event (by simp [hearlier]))

theorem Going.call (h : Going start scene) {c : Call}
    (hc : c.IsRemote → Underway start scene.log) (response : Response c.Reply) (state : σ) :
    Going start (World.after scene c response false state) where
  toOrderly := h.toOrderly.call hc
  told := by
    change (scene.cancelled || response.cancels) = toldToStop start (scene.log ++ [_])
    rw [toldToStop_snoc, h.told]
    rfl
  unhalted := by
    refine List.forall_mem_append.mpr ⟨h.unhalted, List.forall_mem_singleton.mpr ?_⟩
    exact Bool.false_ne_true

theorem Going.recording (h : Going start scene) (status : ClusterStatus) :
    Going start (scene.recording status) :=
  ⟨h.toOrderly, h.told, h.unhalted⟩

/-- What comes of calls that can be interrupted. -/
def goingUnlessGivenUp (start : Bool) : Option α → Scene σ → Prop
  | some _, scene => Going start scene
  | none, scene => Halted start scene

theorem Going.ensures_abandonable (h : Going start scene) (hunderway : Underway start scene.log)
    {calls : Calls α} (hcalls : calls.Only Call.IsRemote) :
    Pass.Ensures conduct (Pass.abandonable calls) (goingUnlessGivenUp start) scene := by
  induction calls generalizing scene with
  | done a => exact h
  | ask c next ih =>
      rw [Pass.ensures_abandonable_ask]
      intro response state _
      dsimp only
      cases hgiven : (scene.cancelled || response.cancels) && response.suspends with
      | true =>
          exact ⟨h.toOrderly.call fun _ => hunderway, scene.log, _, rfl, h.unhalted⟩
      | false =>
          refine ih _ (h.call (fun _ => hunderway) response state) ?_ (hcalls.2 _)
          refine hunderway.went hcalls.1 fun htold => ?_
          rw [toldToStop_snoc, ← h.told] at htold
          change (scene.cancelled || response.cancels) = true at htold
          rw [htold, Bool.true_and] at hgiven
          exact hgiven

/-- Where the pass has been told to stop, no step begins. -/
theorem Going.ensures_interruptible (h : Going start scene) {calls : Calls α}
    (hcalls : calls.Only Call.IsRemote) :
    Pass.Ensures conduct (Pass.interruptible calls) (goingUnlessGivenUp start) scene := by
  have hchecked : Orderly start scene.checked.log := by
    rw [Scene.checked, h.told]
    exact h.toOrderly.checkpoint
  rw [Pass.ensures_interruptible]
  cases hcancelled : scene.cancelled with
  | true => exact ⟨hchecked, scene.log, _, rfl, h.unhalted⟩
  | false =>
      have hnot : toldToStop start scene.log = false := h.told.symm.trans hcancelled
      have hlog : scene.checked.log = scene.log ++ [.checkpoint false] := by
        rw [Scene.checked, hcancelled]
      rw [if_neg Bool.false_ne_true]
      refine Going.ensures_abandonable ⟨hchecked, ?_, ?_⟩ ?_ hcalls
      · rw [hlog, toldToStop_snoc, hnot]
        exact hcancelled
      · rw [hlog]
        refine List.forall_mem_append.mpr ⟨h.unhalted, List.forall_mem_singleton.mpr ?_⟩
        exact Bool.false_ne_true
      · rw [hlog]
        exact .begun hnot

namespace Attempt

/-- What an attempt leaves that fails. -/
def goingOrHalted (start : Bool) (fault : Fault) (scene : Scene σ) : Prop :=
  Going start scene ∨ fault = .cancelled ∧ Halted start scene

theorem keepsUntil_going_main :
    KeepsUntil conduct (Going start) (goingOrHalted start) (main cluster) := by
  apply keepsUntil_main
  · intro α sequence hsequence scene h
    rw [ensures_calls]
    refine (h.ensures_interruptible hsequence).mono fun o scene' hscene => ?_
    cases o with
    | some a => exact hscene
    | none => exact Or.inr ⟨rfl, hscene⟩
  · intro change scene h
    rw [ensures_amend]
    intro response state _
    have hafter := (h.recording (change.written scene.memory)).call
      (c := .patchStatus cluster.inNamespace cluster.name _) False.elim response state
    cases (response.reply : Except Fault Unit) with
    | ok _ => exact hafter
    | error fault => exact Or.inl hafter
  · exact fun _ _ => Or.inl

theorem keepsUntil_going_engage :
    KeepsUntil conduct (Going start) (goingOrHalted start) (engage cluster) := by
  intro scene h
  have hafter := fun response state =>
    h.call (c := .connect cluster.spec.tokenSecretRef) False.elim response state
  apply ensures_engage
  · exact fun response state _ _ _ => Or.inl (hafter response state)
  · exact fun response state _ _ => keepsUntil_going_main _ (hafter response state)

end Attempt

theorem Going.ensures_recordFailure (h : Going start scene) (fault : Fault) (ending : PassEnd) :
    Pass.Ensures conduct (recordFailure cluster fault)
      (fun _ scene' => EndsOrderly start ending scene'.log) scene := by
  rw [Pass.ensures_recordFailure]
  split
  · exact h.endsOrderly ending
  · exact fun response state _ =>
      ((h.recording _).call False.elim response state).endsOrderly ending

theorem Going.ensures_releaseResource (h : Going start scene) (ending : PassEnd) :
    Pass.Ensures conduct (releaseResource cluster ending)
      (fun ending scene' => EndsOrderly start ending scene'.log) scene := by
  rw [Pass.ensures_releaseResource]
  exact fun response state _ => (h.call False.elim response state).endsOrderly _

theorem Going.ensures_prepare (h : Going start scene) :
    Pass.Ensures conduct (prepare cluster) (unlessEnded (Going start)
      fun ending scene' => EndsOrderly start ending scene'.log) scene := by
  apply Pass.ensures_prepare
  · exact fun _ _ => h.endsOrderly _
  · exact fun _ _ _ => h.ensures_releaseResource .idle
  · exact fun _ _ _ _ => h
  · exact fun _ fault _ => h.ensures_recordFailure fault .idle
  · exact fun _ _ => h
  · intro _ response state _
    have hafter := h.call (c := .addFinalizer cluster.inNamespace cluster.name) False.elim response
      state
    cases (response.reply : Except Fault Unit) with
    | error fault => exact hafter.endsOrderly _
    | ok _ => exact hafter

theorem ensures_wrapUp_orderly {r : Except Fault Progress}
    (h : Attempt.unlessFailed (fun _ => Going start) (Attempt.goingOrHalted start) r scene) :
    Pass.Ensures conduct (wrapUp settings cluster r)
      (fun ending scene' => EndsOrderly start ending scene'.log) scene := by
  apply Pass.ensures_wrapUp
  · rintro fault rfl
    rcases h with hgoing | ⟨rfl, hhalted⟩
    · exact hgoing.ensures_recordFailure fault _
    · exact hhalted.endsOrderly
  · rintro _ rfl
    have hgoing : Going start scene := h
    exact hgoing.ensures_releaseResource _
  · rintro progress rfl _
    have hgoing : Going start scene := h
    exact hgoing.endsOrderly _

theorem ensures_reconcile_orderly (h : Going start scene) :
    Pass.Ensures conduct (reconcile settings cluster)
      (fun ending scene' => EndsOrderly start ending scene'.log) scene := by
  apply Pass.ensures_reconcile
  · exact (h.recording cluster.currentStatus).ensures_prepare
  · exact Attempt.keepsUntil_going_engage
  · exact fun _ _ => ensures_wrapUp_orderly

theorem Event.calmed_eq_checkpoint {event : Event} {seen : Bool}
    (h : event.calmed = .checkpoint seen) : ∃ found, event = .checkpoint found := by
  cases event with
  | exchange e => cases h
  | checkpoint found => exact ⟨found, rfl⟩

/-- A pass that was told to stop does not get past the next point where it looks. -/
theorem EndsOrderly.cut_at_checkpoint (h : EndsOrderly start ending log)
    {told later pre : List Event} {seen : Bool} (hlog : log = told ++ later)
    (htold : toldToStop start told = true)
    (hpre : pre ++ [.checkpoint seen] <+: later.map Event.calmed) :
    ending = .failed .cancelled ∧ later.map Event.calmed = pre ++ [.checkpoint seen] := by
  obtain ⟨rest, hrest⟩ := hpre
  rw [List.append_assoc] at hrest
  obtain ⟨before, others, rfl, hbefore, hothers⟩ := List.map_eq_append_iff.mp hrest.symm
  obtain ⟨event, after, rfl, hevent, hafter⟩ := List.map_eq_cons_iff.mp hothers
  obtain ⟨found, rfl⟩ := Event.calmed_eq_checkpoint hevent
  have hsplit : log = (told ++ before) ++ .checkpoint found :: after := by
    rw [hlog, List.append_assoc]
  have hfound : found = true :=
    (h.checked _ _ _ hsplit).trans (toldToStop_append htold before)
  obtain ⟨rfl, hending⟩ := h.halts _ _ _ hsplit hfound
  refine ⟨hending, ?_⟩
  rw [List.map_append, List.map_cons, hbefore, hevent]
  rfl

/-- How a pass that may be told to stop compares with the one that nobody stops. -/
structure IsCutShort (start : Bool) (ending twinEnding : PassEnd) (log twinLog : List Event) :
    Prop where
  /-- The pass does the same, or it fails as one that was told to stop and has done no more. -/
  agrees : ending = twinEnding ∧ log.map Event.calmed = twinLog ∨
    ending = .failed .cancelled ∧ log.map Event.calmed <+: twinLog
  /-- Wherever it was told to stop, it does not begin a step that the other begins after that. -/
  stops : ∀ told later pre seen rest, log = told ++ later → toldToStop start told = true →
    twinLog = told.map Event.calmed ++ (pre ++ .checkpoint seen :: rest) →
    ending = .failed .cancelled ∧ later.map Event.calmed <+: pre ++ [.checkpoint seen]

theorem EndsOrderly.isCutShort (h : EndsOrderly start ending log) {twinEnding : PassEnd}
    {twinLog : List Event}
    (htwin : (ending = twinEnding ∧ log.map Event.calmed = twinLog) ∨
      ∃ cut event rest, log = cut ++ event :: rest ∧ event.Halts ∧
        (cut ++ [event]).map Event.calmed <+: twinLog) :
    IsCutShort start ending twinEnding log twinLog := by
  have hagrees : ending = twinEnding ∧ log.map Event.calmed = twinLog ∨
      ending = .failed .cancelled ∧ log.map Event.calmed <+: twinLog := by
    refine htwin.imp_right ?_
    rintro ⟨cut, event, rest, hlog, hhalts, hprefix⟩
    obtain ⟨rfl, hending⟩ := h.halts cut event rest hlog hhalts
    exact ⟨hending, hlog ▸ hprefix⟩
  refine ⟨hagrees, ?_⟩
  rintro told later pre seen rest hlog htold rfl
  have hnext : pre ++ [.checkpoint seen] <+: pre ++ .checkpoint seen :: rest :=
    ⟨rest, by rw [List.append_assoc]; rfl⟩
  rcases hagrees with ⟨_, hsame⟩ | ⟨hending, hprefix⟩
  · rw [hlog, List.map_append] at hsame
    rw [← List.append_cancel_left hsame] at hnext
    obtain ⟨hending, hcut⟩ := h.cut_at_checkpoint hlog htold hnext
    exact ⟨hending, hcut ▸ List.prefix_rfl⟩
  · rw [hlog, List.map_append, List.prefix_append_right_inj] at hprefix
    rcases List.prefix_or_prefix_of_prefix hprefix hnext with hless | hmore
    · exact ⟨hending, hless⟩
    · exact ⟨hending, (h.cut_at_checkpoint hlog htold hmore).2 ▸ List.prefix_rfl⟩

/-- A pass that fails as one that was told to stop wrote no failure, and forgets none. -/
def EndsQuietly (ending : PassEnd) (exchanges : List Exchange) : Prop :=
  ending.result = .error .cancelled → Clean exchanges ∧ ending.forgetsFailures = false

theorem Clean.endsQuietly {exchanges : List Exchange} (h : Clean exchanges) (fault : Fault) :
    EndsQuietly (.failed fault) exchanges := fun _ => ⟨h, rfl⟩

theorem Clean.ensures_releaseResource (h : Clean scene.exchanges) {ending : PassEnd}
    {action : Action} (hending : ending.result = .ok action) :
    Pass.Ensures conduct (releaseResource cluster ending)
      (fun ending scene' => EndsQuietly ending scene'.exchanges) scene := by
  rw [Pass.ensures_releaseResource]
  intro response state hconduct
  have hafter := (preserves_clean conduct).after scene _ response false state id hconduct h
  cases (response.reply : Except Fault Unit) with
  | ok _ =>
      intro hcancelled
      rw [hending] at hcancelled
      cases hcancelled
  | error fault => exact hafter.endsQuietly fault

/-- Of a failed pass, only one that was not told to stop writes the failure. -/
theorem Clean.ensures_recordFailure (h : Clean scene.exchanges) (fault : Fault) :
    Pass.Ensures conduct (recordFailure cluster fault)
      (fun _ scene' => EndsQuietly (.failed fault) scene'.exchanges) scene := by
  rw [Pass.ensures_recordFailure]
  split
  · exact h.endsQuietly fault
  · next hfault =>
      intro response state _ hcancelled
      cases hcancelled
      exact absurd rfl hfault

theorem Clean.ensures_prepare (h : Clean scene.exchanges) :
    Pass.Ensures conduct (prepare cluster) (unlessEnded (fun scene' => Clean scene'.exchanges)
      fun ending scene' => EndsQuietly ending scene'.exchanges) scene := by
  apply Pass.ensures_prepare
  · exact fun _ _ hcancelled => nomatch hcancelled
  · exact fun _ _ _ => h.ensures_releaseResource rfl
  · exact fun _ _ _ _ => h
  · exact fun _ _ _ => .of_forall fun _ _ hcancelled => nomatch hcancelled
  · exact fun _ _ => h
  · intro _ response state hconduct
    have hafter := (preserves_clean conduct).after _ _ response false state id hconduct h
    cases (response.reply : Except Fault Unit) with
    | error fault => exact hafter.endsQuietly fault
    | ok _ => exact hafter

theorem Clean.ensures_wrapUp (h : Clean scene.exchanges) (r : Except Fault Progress) :
    Pass.Ensures conduct (wrapUp settings cluster r)
      (fun ending scene' => EndsQuietly ending scene'.exchanges) scene := by
  apply Pass.ensures_wrapUp
  · exact fun fault _ => h.ensures_recordFailure fault
  · exact fun _ _ => h.ensures_releaseResource rfl
  · exact fun _ _ _ hcancelled => nomatch hcancelled

theorem ensures_reconcile_quiet (h : Clean scene.exchanges) :
    Pass.Ensures conduct (reconcile settings cluster)
      (fun ending scene' => EndsQuietly ending scene'.exchanges) scene := by
  have hentered : Clean (scene.recording cluster.currentStatus).exchanges := h
  apply Pass.ensures_reconcile
  · exact hentered.ensures_prepare
  · exact keeps_clean_engage
  · exact fun r _ hclean => hclean.ensures_wrapUp r

/-- How a pass keeps to having been told to stop. -/
structure IsContained (start : Bool) (ending : PassEnd) (log : List Event) : Prop
    extends EndsOrderly start ending log where
  /-- What is asked of the provider or the secrets after the pass was told to stop belongs to the
  step that was under way then, and no call of that had to wait since. -/
  sameStep : ∀ told mid e after, log = told ++ mid ++ .exchange e :: after → e.call.IsRemote →
    toldToStop start told = true → Underway start told ∧
      ∀ event ∈ mid, ∃ x, event = .exchange x ∧ x.call.IsRemote ∧ x.response.suspends = false
  /-- A pass that was told to stop before it asked the provider or the secrets for anything does not
  do so at all. -/
  unbegun : ∀ told later, log = told ++ later → toldToStop start told = true →
    (∀ e, .exchange e ∈ told → ¬ e.call.IsRemote) → ∀ e, .exchange e ∈ log → ¬ e.call.IsRemote

theorem EndsOrderly.isContained (h : EndsOrderly start ending log) :
    IsContained start ending log where
  toEndsOrderly := h
  sameStep := fun told mid e after hlog hremote htold =>
    (h.within (told ++ mid) e after hlog hremote).of_append htold
  unbegun := by
    rintro told later rfl htold hnone e he hremote
    rcases List.mem_append.mp he with he | he
    · exact hnone e he hremote
    · obtain ⟨mid, after, rfl⟩ := List.append_of_mem he
      have hunderway := (h.within (told ++ mid) e after (List.append_assoc _ _ _).symm
        hremote).of_append htold
      -- The step began before the pass was told to stop, so that was during a call of it.
      cases hunderway.1 with
      | begun hnot =>
          rw [toldToStop_snoc, hnot] at htold
          cases htold
      | went _ hearlier _ => exact hnone _ (List.mem_append_right _ List.mem_cons_self) hearlier

theorem going_start (start : Bool) (memory : ClusterStatus) (state : σ) :
    Going start (.start start memory state) where
  within := .nil
  checked := by simp [Scene.start]
  told := (Bool.or_false start).symm
  unhalted := fun _ hmem => absurd hmem List.not_mem_nil

/-- Being told to stop is contained to the step that is under way.

Whenever a pass is told to stop, it asks the provider and the secrets only for what that step still
asks, up to a call that it has to wait for. It does what the pass does that nobody stops, and ends
as one that was told to stop where that one begins another step. Ending so it writes no failure, no
failure count changes, and the resource is looked at again when it changes. -/
theorem cancellation_is_contained (world : World σ) (settings : Settings)
    (cluster : ClusterDeclaration) (cancelled : Bool) (memory : ClusterStatus) (state : σ) :
    let pass := world.run (reconcile settings cluster) (.start cancelled memory state)
    let twin := world.calmed.run (reconcile settings cluster) (.start false memory state)
    IsContained cancelled pass.1 pass.2.log ∧
      IsCutShort cancelled pass.1 twin.1 pass.2.log twin.2.log ∧
      (pass.1.result = .error .cancelled → Clean pass.2.exchanges ∧
        ∀ key counts, pass.1.account key counts = counts ∧
          respondToFailure counts key .cancelled = (.awaitChange, counts)) := by
  intro pass twin
  have horderly : EndsOrderly cancelled pass.1 pass.2.log :=
    World.run_of_ensures (world.keeps_any id)
      (ensures_reconcile_orderly (going_start cancelled memory state))
  have hclean : Clean ((Scene.start cancelled memory state).through id).exchanges := clean_nil
  have hquiet : EndsQuietly pass.1 pass.2.exchanges :=
    World.run_of_ensures (world.keeps_any id) (ensures_reconcile_quiet hclean)
  have htwins : (Scene.start cancelled memory state).Twins (.start false memory state) :=
    ⟨rfl, rfl, rfl, rfl⟩
  refine ⟨horderly.isContained, ?_, fun hcancelled => ?_⟩
  · apply horderly.isCutShort
    refine (World.run_twin htwins (reconcile settings cluster)).imp_left ?_
    exact fun hsame => ⟨hsame.1, hsame.2.log.symm⟩
  · obtain ⟨hclean, hforgets⟩ := hquiet hcancelled
    refine ⟨hclean, fun key counts => ⟨?_, rfl⟩⟩
    rw [PassEnd.account, hforgets, if_neg Bool.false_ne_true]

/-- The log of a pass up to the call that creates a cluster, during which it is told to stop. -/
def logUpToCreation : List Event :=
  logBeforeCreation ++ [.creation (creationRequest workshop "1.30")
    ⟨.ok remoteWorkshop, true, false⟩ false .blank]

/-- The write of the identifier after it. -/
def creationWritten : Event :=
  .exchange (.writing workshop (ClusterStatus.blank.withCreated 42) (promptly (.ok ())))

/-- That pass writes the identifier and ends. It does not list the pools of the cluster, which it
would do if nobody had told it to stop. -/
theorem created_workshop_not_listed :
    logOfWorkshop false = logUpToCreation ++ [creationWritten, .checkpoint true] ∧
      (∃ listing rest, listing.call = .listPools 42 ∧
        ((acceptingWorld false).calmed.run (reconcile Settings.standard workshop)
          (.start false .blank ())).2.log = logUpToCreation.map Event.calmed ++
            ([creationWritten] ++ .checkpoint false :: .exchange listing :: rest)) ∧
      ((acceptingWorld false).run (reconcile Settings.standard workshop)
        (.start false .blank ())).1 = .failed .cancelled := by
  have hlog : logOfWorkshop false = logUpToCreation ++ [creationWritten, .checkpoint true] := rfl
  obtain ⟨listing, rest, hlisting, htwin⟩ : ∃ listing rest, listing.call = .listPools 42 ∧
      ((acceptingWorld false).calmed.run (reconcile Settings.standard workshop)
        (.start false .blank ())).2.log = logUpToCreation.map Event.calmed ++
          ([creationWritten] ++ .checkpoint false :: .exchange listing :: rest) :=
    ⟨⟨.listPools 42, promptly (Call.listPools 42).unreached, false, _⟩, _, rfl, rfl⟩
  have hcut := (cancellation_is_contained (acceptingWorld false) Settings.standard workshop false
    .blank ()).2.1
  have hstops := hcut.stops logUpToCreation _ [creationWritten] false _ hlog rfl htwin
  exact ⟨hlog, ⟨listing, rest, hlisting, htwin⟩, hstops.1⟩

end ClusterKeeper
