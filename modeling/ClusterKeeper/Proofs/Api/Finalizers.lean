import ClusterKeeper.Proofs.Api.Requests
/-!
Finalizers that two clients edit.

Another client adds and removes finalizers of its own while the operator changes its one. The
operator reads the list, changes it and writes all of it back. The write carries no version, so the
server takes it whatever was edited since the reading: of the other client's edits, those before the
reading and those after the writing stand, and those in between are undone.
-/

namespace ClusterKeeper.Api

open Dialogue

/-- A change of a list of finalizers. -/
inductive Edit where
  | add (finalizer : String)
  | remove (finalizer : String)
  deriving Repr, DecidableEq

namespace Edit

/-- The finalizer that is added or removed. -/
def finalizer : Edit → String
  | add finalizer => finalizer
  | remove finalizer => finalizer

/-- The list after the change; a new finalizer goes behind the others. -/
def apply : Edit → List String → List String
  | add finalizer, finalizers =>
      if finalizers.contains finalizer then finalizers else finalizers ++ [finalizer]
  | remove finalizer, finalizers => finalizers.filter (· != finalizer)

variable {edit : Edit} {other : String} {finalizers : List String}

theorem mem_apply_of_ne (h : edit.finalizer ≠ other) :
    other ∈ edit.apply finalizers ↔ other ∈ finalizers := by
  cases edit with
  | add own =>
      by_cases hown : own ∈ finalizers
      · simp [apply, hown]
      · have hne : other ≠ own := Ne.symm h
        simp [apply, hown, hne]
  | remove own =>
      have hne : other ≠ own := Ne.symm h
      simp [apply, hne]

theorem filter_apply_of_ne (h : edit.finalizer ≠ other) :
    (edit.apply finalizers).filter (· != other) =
      edit.apply (finalizers.filter (· != other)) := by
  cases edit with
  | add own =>
      have hne : own ≠ other := h
      by_cases hown : own ∈ finalizers <;> simp [apply, hown, hne]
  | remove own => simp [apply, List.filter_filter, Bool.and_comm]

theorem filter_apply_self :
    (edit.apply finalizers).filter (· != edit.finalizer) =
      finalizers.filter (· != edit.finalizer) := by
  cases edit with
  | add own => by_cases hown : own ∈ finalizers <;> simp [apply, finalizer, hown]
  | remove own => simp [apply, finalizer, List.filter_filter]

end Edit

/-- The list after some changes, one by one. -/
def replay (edits : List Edit) (finalizers : List String) : List String :=
  edits.foldl (fun finalizers edit => edit.apply finalizers) finalizers

theorem replay_append (first second : List Edit) (finalizers : List String) :
    replay (first ++ second) finalizers = replay second (replay first finalizers) :=
  List.foldl_append

section Replay

variable {edits : List Edit} {other : String} {finalizers : List String}

theorem mem_replay_of_ne (h : ∀ edit ∈ edits, edit.finalizer ≠ other) :
    other ∈ replay edits finalizers ↔ other ∈ finalizers := by
  induction edits generalizing finalizers with
  | nil => rfl
  | cons edit rest ih =>
      rw [List.forall_mem_cons] at h
      exact (ih h.2).trans (Edit.mem_apply_of_ne h.1)

theorem filter_replay_of_ne (h : ∀ edit ∈ edits, edit.finalizer ≠ other) :
    (replay edits finalizers).filter (· != other) =
      replay edits (finalizers.filter (· != other)) := by
  induction edits generalizing finalizers with
  | nil => rfl
  | cons edit rest ih =>
      rw [List.forall_mem_cons] at h
      refine (ih h.2).trans ?_
      rw [Edit.filter_apply_of_ne h.1]
      rfl

end Replay

/-- The finalizers that are not the operator's. -/
def foreign (finalizers : List String) : List String := finalizers.filter (· != clusterFinalizer)

/-- A change of the operator's own finalizer. -/
inductive FinalizerChange where
  | add
  | remove
  deriving Repr, DecidableEq

namespace FinalizerChange

def edit : FinalizerChange → Edit
  | add => .add clusterFinalizer
  | remove => .remove clusterFinalizer

/-- The operation that makes the change. -/
def client (inNamespace name : String) : FinalizerChange → Client Unit
  | add => addFinalizer inNamespace name
  | remove => removeFinalizer inNamespace name

-- Irreducible, or else a statement about a given history is elaborated by running the operation.
/-- With those requests and responses the operation ends well. -/
@[irreducible]
def Succeeds (inNamespace name : String) (change : FinalizerChange)
    (transcript : List (Turn Request fun _ => Delivery)) : Prop :=
  (change.client inNamespace name).run.Plays transcript (.ok ())

variable {change : FinalizerChange} {finalizers : List String}

theorem finalizer_edit : change.edit.finalizer = clusterFinalizer := by
  cases change <;> rfl

theorem foreign_apply : foreign (change.edit.apply finalizers) = foreign finalizers := by
  have h : (change.edit.apply finalizers).filter (· != change.edit.finalizer) = _ :=
    Edit.filter_apply_self
  rwa [finalizer_edit] at h

theorem mem_apply : clusterFinalizer ∈ change.edit.apply finalizers ↔ change = .add := by
  cases change with
  | add => by_cases h : clusterFinalizer ∈ finalizers <;> simp [edit, Edit.apply, h]
  | remove => simp [edit, Edit.apply]

end FinalizerChange

/-- The version of a stored object, or the one that a patch is for. -/
def versionOf (object : Value) : Option String := metadataMember? "resourceVersion" object

/-- A patch that names a version is for that version only. -/
def Permits (object patch : Value) : Prop :=
  ∀ version, versionOf patch = some version → versionOf object = some version

section Written

variable {object : Value} {finalizers : List String}

theorem decode_texts (texts : List String) : decode (encode texts) = .ok texts := by
  change (texts.map encode).mapM (decode : Value → Except Mismatch String) = .ok texts
  rw [List.mapM_map]
  induction texts with
  | nil => rfl
  | cons text rest ih =>
      rw [List.mapM_cons, ih]
      rfl

theorem metadata_apply_finalizersPatch :
    (MergePatch.apply object (finalizersPatch finalizers)).memberOrNull "metadata" =
      MergePatch.apply (object.memberOrNull "metadata")
        (.object [("finalizers", encode finalizers)]) :=
  MergePatch.memberOrNull_apply_self (by simp)

/-- The list that is written takes the place of the one that is there. -/
theorem finalizersOf_apply_finalizersPatch :
    finalizersOf (MergePatch.apply object (finalizersPatch finalizers)) = finalizers := by
  have hlist : encode finalizers = .list (finalizers.map encode) := rfl
  have hwhole (target : Value) :
      MergePatch.apply target (encode finalizers) = encode finalizers := by
    simp [hlist, MergePatch.apply]
  have hread : (decode (encode finalizers) : Except Mismatch (Option (List String))) =
      .ok (some finalizers) := congrArg (Except.map some) (decode_texts finalizers)
  rw [finalizersOf, metadataMember?, metadata_apply_finalizersPatch,
    MergePatch.memberOrNull_apply_self (by simp [hlist]), hwhole, hread, Option.getD_some]

/-- No edit of another client makes the server turn a list of finalizers down. -/
theorem permits_finalizersPatch : Permits object (finalizersPatch finalizers) := by
  intro version h
  cases h

end Written

/-! ### Histories -/

/-- What can happen to a declaration while the operator changes its finalizers. -/
inductive Event where
  /-- The other client edits the list. -/
  | edit (edit : Edit)
  /-- The declaration goes. -/
  | collected
  /-- The server answers a request of the operator. -/
  | exchange (request : Request) (delivery : Delivery)

namespace Event

def edit? : Event → Option Edit
  | edit change => some change
  | _ => none

def turn? : Event → Option (Turn Request fun _ => Delivery)
  | exchange request delivery => some ⟨request, delivery⟩
  | _ => none

theorem turn?_eq_some_iff {event : Event} {turn : Turn Request fun _ => Delivery} :
    event.turn? = some turn ↔ event = exchange turn.1 turn.2 := by
  cases event with
  | exchange request delivery =>
      constructor
      · rintro ⟨⟩
        rfl
      · rintro ⟨⟩
        rfl
  | _ => simp [turn?]

end Event

/-- The edits of the other client, in order. -/
def edits (history : List Event) : List Edit := history.filterMap Event.edit?

/-- The requests of the operator with their responses, in order. -/
def turns (history : List Event) : List (Turn Request fun _ => Delivery) :=
  history.filterMap Event.turn?

/-- The events before the first request. -/
def earlier (history : List Event) : List Event := history.takeWhile (·.turn?.isNone)

/-- The events after the last response. -/
def later (history : List Event) : List Event := (earlier history.reverse).reverse

/-- What can happen to the declaration of that name, of which the server has an object or none. A
patch that the server does not turn down is carried out, also where no response comes back. -/
inductive Happens (inNamespace name : String) : Option Value → Event → Option Value → Prop
  | edited {before after : Value} {edit : Edit}
      (hfinalizers : finalizersOf after = edit.apply (finalizersOf before)) :
      Happens inNamespace name (some before) (.edit edit) (some after)
  /-- An object with finalizers stays. -/
  | collected {object : Value} (hfinalizers : finalizersOf object = []) :
      Happens inNamespace name (some object) .collected none
  | shown {members : List (String × Value)} {request : Request} {delivery : Delivery}
      (hrequest : (clusterRead inNamespace name).sent? = some request)
      (hvalue : delivery.value? = some (.object members)) :
      Happens inNamespace name (some (.object members)) (.exchange request delivery)
        (some (.object members))
  | patched {before after patch : Value} {request : Request} {delivery : Delivery}
      (hrequest : (clusterChange inNamespace name patch).sent? = some request)
      (hpermits : Permits before patch) (hcarried : delivery.refusal? = none)
      (hfinalizers : finalizersOf after = finalizersOf (MergePatch.apply before patch)) :
      Happens inNamespace name (some before) (.exchange request delivery) (some after)
  | refused {object : Value} {request : Request} {delivery : Delivery} {refusal : Refusal}
      (hrefusal : delivery.refusal? = some refusal) (hfound : refusal.isNotFound = false) :
      Happens inNamespace name (some object) (.exchange request delivery) (some object)
  | missing {request : Request} {delivery : Delivery} {refusal : Refusal}
      (hrefusal : delivery.refusal? = some refusal) :
      Happens inNamespace name none (.exchange request delivery) none
  /-- The request does not come through. -/
  | lost {stored : Option Value} {request : Request} {reason : String} :
      Happens inNamespace name stored (.exchange request (.lost reason)) stored

/-- What can happen in a row. -/
def Runs (inNamespace name : String) : Option Value → List Event → Option Value → Prop
  | before, [], after => before = after
  | before, event :: rest, after =>
      ∃ between, Happens inNamespace name before event between ∧
        Runs inNamespace name between rest after

/-- The finalizers that are there, none where there is no object. -/
def held : Option Value → List String
  | some object => finalizersOf object
  | none => []

section Histories

variable {inNamespace name : String} {before after : Option Value} {history quiet rest : List Event}
  {event : Event} {turn : Turn Request fun _ => Delivery}

theorem runs_append {first second : List Event} :
    Runs inNamespace name before (first ++ second) after ↔
      ∃ between, Runs inNamespace name before first between ∧
        Runs inNamespace name between second after := by
  induction first generalizing before with
  | nil => simp [Runs]
  | cons event rest ih =>
      simp only [List.cons_append, Runs, ih]
      constructor
      · rintro ⟨next, hevent, between, hfirst, hsecond⟩
        exact ⟨between, ⟨next, hevent, hfirst⟩, hsecond⟩
      · rintro ⟨between, ⟨next, hevent, hfirst⟩, hsecond⟩
        exact ⟨next, hevent, between, hfirst, hsecond⟩

/-- While the operator asks for nothing, the list is changed by the other client's edits alone. -/
theorem held_of_quiet (hquiet : ∀ event ∈ history, event.turn? = none)
    (hruns : Runs inNamespace name before history after) :
    held after = replay (edits history) (held before) := by
  induction history generalizing before with
  | nil => exact congrArg held hruns.symm
  | cons event rest ih =>
      obtain ⟨between, hevent, hrest⟩ := hruns
      rw [List.forall_mem_cons] at hquiet
      rw [ih hquiet.2 hrest]
      cases hevent with
      | edited hfinalizers =>
          rw [held, hfinalizers]
          rfl
      | collected hfinalizers =>
          rw [held, held, hfinalizers]
          rfl
      | shown | patched | refused | missing | lost => cases hquiet.1

theorem earlier_append (hquiet : ∀ event ∈ quiet, event.turn? = none)
    (hevent : event.turn? = some turn) : earlier (quiet ++ event :: rest) = quiet := by
  have hpos : ∀ event ∈ quiet, event.turn?.isNone = true := by simpa using hquiet
  rw [earlier, List.takeWhile_append_of_pos hpos, List.takeWhile_cons_of_neg (by simp [hevent]),
    List.append_nil]

theorem later_append (hquiet : ∀ event ∈ quiet, event.turn? = none)
    (hevent : event.turn? = some turn) : later (rest ++ event :: quiet) = quiet := by
  have hreverse : (rest ++ event :: quiet).reverse = quiet.reverse ++ event :: rest.reverse := by
    simp
  rw [later, hreverse, earlier_append (by simpa using hquiet) hevent, List.reverse_reverse]

theorem exists_of_turns_eq_cons {turns' : List (Turn Request fun _ => Delivery)}
    (h : turns history = turn :: turns') :
    ∃ quiet rest, history = quiet ++ .exchange turn.1 turn.2 :: rest ∧
      (∀ event ∈ quiet, event.turn? = none) ∧ turns rest = turns' := by
  obtain ⟨quiet, event, rest, rfl, hquiet, hevent, hrest⟩ := List.filterMap_eq_cons_iff.mp h
  rw [Event.turn?_eq_some_iff.mp hevent]
  exact ⟨quiet, rest, rfl, hquiet, hrest⟩

theorem quiet_of_turns_eq_nil (h : turns history = []) : ∀ event ∈ history, event.turn? = none :=
  List.filterMap_eq_nil_iff.mp h

variable {request : Request} {delivery : Delivery}

/-- A declaration that is read is there as it was read. -/
theorem held_of_read {cluster : ClusterDeclaration}
    (hrequest : (clusterRead inNamespace name).sent? = some request)
    (hanswer : delivery.answer = .ok cluster)
    (h : Happens inNamespace name before (.exchange request delivery) after) :
    held before = cluster.metadata.finalizerList ∧ held after = cluster.metadata.finalizerList := by
  obtain ⟨value, hread, hcluster⟩ := Delivery.answer_eq_ok_iff.mp hanswer
  have hcarried := Delivery.refusal?_of_value? hread
  cases h with
  | shown _ hvalue =>
      cases hvalue.symm.trans hread
      exact ⟨(finalizerList_of_decode hcluster).symm, (finalizerList_of_decode hcluster).symm⟩
  | patched hchange => exact (clusterRead_ne_clusterChange hrequest hchange).elim
  | refused hrefusal => cases hrefusal.symm.trans hcarried
  | missing hrefusal => cases hrefusal.symm.trans hcarried
  | lost => cases hread

/-- Where the server says that there is nothing, nothing is held. -/
theorem held_of_absent {refusal : Refusal} (hrefusal : delivery.refusal? = some refusal)
    (hmissing : refusal.isNotFound = true)
    (h : Happens inNamespace name before (.exchange request delivery) after) :
    held before = [] ∧ held after = [] := by
  cases h with
  | shown _ hvalue => cases hrefusal.symm.trans (Delivery.refusal?_of_value? hvalue)
  | patched _ _ hcarried => cases hrefusal.symm.trans hcarried
  | refused hsaid hfound =>
      cases hsaid.symm.trans hrefusal
      simp [hmissing] at hfound
  | missing => exact ⟨rfl, rfl⟩
  | lost => cases hrefusal

/-- A list that is written is what is there then. -/
theorem held_of_write {finalizers : List String} {value : Value}
    (hrequest : (clusterChange inNamespace name (finalizersPatch finalizers)).sent? = some request)
    (hvalue : delivery.value? = some value)
    (h : Happens inNamespace name before (.exchange request delivery) after) :
    held after = finalizers := by
  have hcarried := Delivery.refusal?_of_value? hvalue
  cases h with
  | shown hread => exact (clusterRead_ne_clusterChange hread hrequest).elim
  | patched hchange _ _ hfinalizers =>
      rw [held, hfinalizers, clusterChange_inj hchange hrequest,
        finalizersOf_apply_finalizersPatch]
  | refused hrefusal => cases hrefusal.symm.trans hcarried
  | missing hrefusal => cases hrefusal.symm.trans hcarried
  | lost => cases hvalue

end Histories

/-- How a change of the operator's finalizer ends well. -/
inductive FinalizerChange.Performed (inNamespace name : String) (change : FinalizerChange) :
    List (Turn Request fun _ => Delivery) → Prop
  /-- The list is read, and there is nothing to change. -/
  | needless {request : Request} {delivery : Delivery} {cluster : ClusterDeclaration}
      (hrequest : (clusterRead inNamespace name).sent? = some request)
      (hanswer : delivery.answer = .ok cluster)
      (hsame : change.edit.apply cluster.metadata.finalizerList = cluster.metadata.finalizerList) :
      Performed inNamespace name change [⟨request, delivery⟩]
  /-- There is no declaration to take the finalizer off. -/
  | absent {request : Request} {delivery : Delivery} {refusal : Refusal}
      (hchange : change = .remove) (hrefusal : delivery.refusal? = some refusal)
      (hmissing : refusal.isNotFound = true) :
      Performed inNamespace name change [⟨request, delivery⟩]
  /-- The list is read, and what becomes of it is written. -/
  | written {read write : Request} {shown written : Delivery} {cluster : ClusterDeclaration}
      {value : Value} (hread : (clusterRead inNamespace name).sent? = some read)
      (hanswer : shown.answer = .ok cluster)
      (hwrite : (clusterChange inNamespace name
        (finalizersPatch (change.edit.apply cluster.metadata.finalizerList))).sent? = some write)
      (hvalue : written.value? = some value) :
      Performed inNamespace name change [⟨read, shown⟩, ⟨write, written⟩]

section Whole

variable {inNamespace name : String} {change : FinalizerChange}
  {transcript : List (Turn Request fun _ => Delivery)}

theorem performed_of_set {read : Request} {shown : Delivery} {cluster : ClusterDeclaration}
    (hread : (clusterRead inNamespace name).sent? = some read)
    (hanswer : shown.answer = .ok cluster)
    (hplays : (setFinalizers inNamespace name
      (change.edit.apply cluster.metadata.finalizerList)).run.Plays transcript (.ok ())) :
    change.Performed inNamespace name (⟨read, shown⟩ :: transcript) := by
  obtain ⟨_, _, write, written, hwrite, rfl, hwritten⟩ := plays_setFinalizers.mp hplays
  obtain ⟨value, hvalue, _⟩ := Delivery.answer_eq_ok_iff.mp hwritten
  exact .written hread hanswer hwrite hvalue

theorem performed_of_succeeds (h : change.Succeeds inNamespace name transcript) :
    change.Performed inNamespace name transcript := by
  unfold FinalizerChange.Succeeds at h
  cases change with
  | add =>
      obtain ⟨_, second, cluster, rfl, hget, hset⟩ := plays_run_bind_ok.mp h
      obtain ⟨_, read, shown, hread, rfl, hanswer⟩ := plays_getCluster.mp hget
      by_cases hmem : clusterFinalizer ∈ cluster.metadata.finalizerList
      · simp only [List.contains_iff_mem, hmem, if_true] at hset
        obtain ⟨rfl, -⟩ := plays_pure.mp hset
        exact .needless hread hanswer (by simp [FinalizerChange.edit, Edit.apply, hmem])
      · simp only [List.contains_iff_mem, hmem, if_false] at hset
        apply performed_of_set hread hanswer
        simpa [FinalizerChange.edit, Edit.apply, hmem] using hset
  | remove =>
      obtain ⟨_, second, found, rfl, hget, hset⟩ := plays_run_bind_ok.mp h
      obtain ⟨cluster, rfl, hcluster⟩ | ⟨rfl, refusal, hmissing, hrefused⟩ := plays_orAbsent.mp hget
      · obtain ⟨_, read, shown, hread, rfl, hanswer⟩ := plays_getCluster.mp hcluster
        exact performed_of_set hread hanswer hset
      · obtain ⟨rfl, -⟩ := plays_pure.mp hset
        obtain ⟨_, read, shown, _, rfl, hanswer⟩ := plays_getCluster_refused.mp hrefused
        exact .absent rfl (Delivery.answer_eq_refused_iff.mp hanswer) hmissing

variable {history : List Event} {before after : Option Value}

/-- A single exchange that makes the change, between edits of the other client. -/
theorem held_of_one_turn {turn : Turn Request fun _ => Delivery} (hturns : turns history = [turn])
    (hstep : ∀ first second, Happens inNamespace name first (.exchange turn.1 turn.2) second →
      held second = change.edit.apply (held first))
    (hruns : Runs inNamespace name before history after) :
    held after = replay (edits (later history))
      (change.edit.apply (replay (edits (earlier history)) (held before))) := by
  obtain ⟨quiet, rest, rfl, hquiet, hrest⟩ := exists_of_turns_eq_cons hturns
  have hrest_quiet := quiet_of_turns_eq_nil hrest
  obtain ⟨first, hfirst, second, hevent, hsecond⟩ := runs_append.mp hruns
  rw [earlier_append hquiet rfl, later_append hrest_quiet rfl, held_of_quiet hrest_quiet hsecond,
    hstep first second hevent, held_of_quiet hquiet hfirst]

/-- The operator's change is made to the list that it read, and edits count only where they came
before that or after the writing. -/
theorem held_of_performed (hdone : change.Performed inNamespace name (turns history))
    (hruns : Runs inNamespace name before history after) :
    held after = replay (edits (later history))
      (change.edit.apply (replay (edits (earlier history)) (held before))) := by
  generalize hturns : turns history = transcript at hdone
  cases hdone with
  | needless hrequest hanswer hsame =>
      apply held_of_one_turn hturns _ hruns
      intro first second hevent
      obtain ⟨hfirst, hsecond⟩ := held_of_read hrequest hanswer hevent
      rw [hfirst, hsecond, hsame]
  | absent hchange hrefusal hmissing =>
      apply held_of_one_turn hturns _ hruns
      intro first second hevent
      obtain ⟨hfirst, hsecond⟩ := held_of_absent hrefusal hmissing hevent
      rw [hfirst, hsecond, hchange]
      rfl
  | @written read write shown written cluster _ hread hanswer hwrite hvalue =>
      obtain ⟨quiet, rest, rfl, hquiet, hrest⟩ := exists_of_turns_eq_cons hturns
      obtain ⟨middle, last, rfl, -, hlast⟩ := exists_of_turns_eq_cons hrest
      have hlast_quiet := quiet_of_turns_eq_nil hlast
      obtain ⟨first, hfirst, second, hshown, hmiddle⟩ := runs_append.mp hruns
      obtain ⟨third, -, fourth, hpatched, hend⟩ := runs_append.mp hmiddle
      have hlater : later (quiet ++ .exchange read shown ::
          (middle ++ .exchange write written :: last)) = last := by
        rw [← List.cons_append, ← List.append_assoc]
        exact later_append hlast_quiet rfl
      rw [earlier_append hquiet rfl, hlater, held_of_quiet hlast_quiet hend,
        held_of_write hwrite hvalue hpatched, ← (held_of_read hread hanswer hshown).1,
        held_of_quiet hquiet hfirst]

/-- The edits of the other client that count: all but those between the first request and the last
response. -/
def heeded (history : List Event) : List Edit := edits (earlier history) ++ edits (later history)

theorem heeded_subset : heeded history ⊆ edits history := by
  have hearlier : earlier history ⊆ history := (List.takeWhile_prefix _).subset
  have hlater : later history ⊆ history := by
    intro event hevent
    have hreverse := (List.takeWhile_prefix _).subset (List.mem_reverse.mp hevent)
    exact List.mem_reverse.mp hreverse
  exact List.append_subset.mpr
    ⟨List.filterMap_subset Event.edit? hearlier, List.filterMap_subset Event.edit? hlater⟩

/-- After a change that ends well the operator's finalizer is there or not, as was wanted. The
others are those that the other client left, but for its edits between the first request and the
last response: those are lost. -/
theorem finalizers_of_change
    (hforeign : ∀ edit ∈ edits history, edit.finalizer ≠ clusterFinalizer)
    (hsucceeds : change.Succeeds inNamespace name (turns history))
    (hruns : Runs inNamespace name before history after) :
    (clusterFinalizer ∈ held after ↔ change = .add) ∧
      foreign (held after) = replay (heeded history) (foreign (held before)) := by
  have hheld := held_of_performed (performed_of_succeeds hsucceeds) hruns
  have hheeded : ∀ edit ∈ heeded history, edit.finalizer ≠ clusterFinalizer :=
    fun edit hedit => hforeign edit (heeded_subset hedit)
  obtain ⟨hearlier, hlater⟩ := List.forall_mem_append.mp hheeded
  constructor
  · rw [hheld, mem_replay_of_ne hlater, FinalizerChange.mem_apply]
  · have hread : foreign (replay (edits (earlier history)) (held before)) =
        replay (edits (earlier history)) (foreign (held before)) := filter_replay_of_ne hearlier
    calc foreign (held after)
        = replay (edits (later history))
            (foreign (change.edit.apply (replay (edits (earlier history)) (held before)))) := by
          rw [hheld]
          exact filter_replay_of_ne hlater
      _ = replay (edits (later history))
            (replay (edits (earlier history)) (foreign (held before))) := by
          rw [FinalizerChange.foreign_apply, hread]
      _ = replay (heeded history) (foreign (held before)) := (replay_append _ _ _).symm

end Whole

/-- A declaration as the server writes it. -/
def declarationText (finalizers version : String) : String :=
  "\x7b\"apiVersion\":\"lke.anza-labs.dev/v1alpha1\",\"kind\":\"LKEClusterConfig\"," ++
  "\"metadata\":\x7b\"name\":\"prod\",\"finalizers\":[" ++ finalizers ++ "]," ++
  "\"resourceVersion\":\"" ++ version ++ "\"\x7d," ++
  "\"spec\":\x7b\"region\":\"us-east\",\"kubernetesVersion\":\"1.30\",\"nodePools\":\x7b\x7d," ++
  "\"tokenSecretRef\":\x7b\"name\":\"token\",\"namespace\":\"team-a\"\x7d\x7d\x7d"

/-- Whether a value is a declaration with those finalizers. -/
def isDeclared (finalizers : List String) : Value → Bool
  | .object members =>
      (decode (.object members) : Except Mismatch ClusterDeclaration).isOk &&
        finalizersOf (.object members) == finalizers
  | _ => false

/-- The text is that of a declaration with those finalizers. -/
def Declares (text : String) (finalizers : List String) : Prop :=
  ∃ (members : List (String × Value)) (cluster : ClusterDeclaration),
    Json.read text = .ok (.object members) ∧ decode (.object members) = .ok cluster ∧
      finalizersOf (.object members) = finalizers

theorem declares_of_any {text : String} {finalizers : List String}
    (h : (Json.readChars? text.toList).any (isDeclared finalizers) = true) :
    Declares text finalizers := by
  cases hread : Json.readChars? text.toList with
  | none => simp [hread] at h
  | some value =>
      cases value with
      | object members =>
          cases hcluster : (decode (.object members) : Except Mismatch ClusterDeclaration) with
          | error mismatch => simp [hread, isDeclared, hcluster, Except.isOk, Except.toBool] at h
          | ok cluster =>
              have hfinalizers : finalizersOf (.object members) = finalizers := by
                simpa [hread, isDeclared, hcluster, Except.isOk, Except.toBool] using h
              exact ⟨members, cluster, by simp [Json.read, hread], hcluster, hfinalizers⟩
      | _ => simp [hread, isDeclared] at h

/-- The server answers with that text. -/
def carried (text : String) : Delivery := .answered ⟨200, text⟩

theorem value?_carried {text : String} {value : Value} (h : Json.read text = .ok value) :
    (carried text).value? = some value := by
  have hcarried : (⟨200, text⟩ : Response).isRefusal = false := rfl
  simp [carried, Delivery.value?, hcarried, h, Except.toOption]

theorem Declares.answer {text : String} {finalizers : List String} (h : Declares text finalizers) :
    ∃ cluster : ClusterDeclaration, (carried text).answer = .ok cluster ∧
      cluster.metadata.finalizerList = finalizers := by
  obtain ⟨members, cluster, hread, hdecode, hfinalizers⟩ := h
  exact ⟨cluster, Delivery.answer_eq_ok_iff.mpr ⟨_, value?_carried hread, hdecode⟩,
    (finalizerList_of_decode hdecode).trans hfinalizers⟩

/-- The finalizer is added to a declaration that does not have it. -/
theorem succeeds_add {inNamespace name shown written : String} {finalizers finalizers' : List String}
    {read write : Request} (hname : name.isEmpty = false)
    (hread : (clusterRead inNamespace name).sent? = some read)
    (hshown : Declares shown finalizers) (hnew : clusterFinalizer ∉ finalizers)
    (hwrite : (clusterChange inNamespace name
      (finalizersPatch (finalizers ++ [clusterFinalizer]))).sent? = some write)
    (hwritten : Declares written finalizers') :
    FinalizerChange.add.Succeeds inNamespace name
      [⟨read, carried shown⟩, ⟨write, carried written⟩] := by
  unfold FinalizerChange.Succeeds
  obtain ⟨cluster, hanswer, hlist⟩ := hshown.answer
  obtain ⟨changed, hchanged, _⟩ := hwritten.answer
  have hget := plays_getCluster.mpr ⟨hname, read, _, hread, rfl, hanswer⟩
  have hset := plays_setFinalizers.mpr ⟨hname, changed, write, _, hwrite, rfl, hchanged⟩
  refine plays_run_bind_ok.mpr ⟨_, _, cluster, rfl, hget, ?_⟩
  simpa [hlist, hnew] using hset

theorem declares_guard :
    Declares (declarationText "\"example.com/guard\"" "7") ["example.com/guard"] := by
  apply declares_of_any
  -- The characters of each piece are written out before anything is computed.
  delta declarationText
  simp only [String.toList_append, -String.reduceAppend]
  repeat rewrite [String.toList_ofList]
  decide +kernel

theorem declares_nothing : Declares (declarationText "" "8") [] := by
  apply declares_of_any
  delta declarationText
  simp only [String.toList_append, -String.reduceAppend]
  repeat rewrite [String.toList_ofList]
  decide +kernel

theorem declares_both :
    Declares (declarationText "\"example.com/guard\",\"lke.anza-labs.dev/finalizer\"" "9")
      ["example.com/guard", clusterFinalizer] := by
  apply declares_of_any
  delta declarationText
  simp only [String.toList_append, -String.reduceAppend]
  repeat rewrite [String.toList_ofList]
  decide +kernel

/-- The other client takes its guard off between the reading and the writing. -/
def contested : List Event :=
  [.exchange (clusterRead "team-a" "prod")
    (carried (declarationText "\"example.com/guard\"" "7")),
   .edit (.remove "example.com/guard"),
   .exchange
    (clusterChange "team-a" "prod" (finalizersPatch ["example.com/guard", clusterFinalizer]))
    (carried (declarationText "\"example.com/guard\",\"lke.anza-labs.dev/finalizer\"" "9"))]

theorem contested_path :
    ∀ c ∈ (clustersPath "team-a" ++ "/" ++ "prod").toList, isPathChar c = true := by
  rw [← List.all_eq_true]
  delta clustersPath ClusterDeclaration.apiVersion ClusterDeclaration.plural
    ClusterDeclaration.group ClusterDeclaration.version
  simp only [String.toList_append, -String.reduceAppend]
  repeat rewrite [String.toList_ofList]
  decide +kernel

theorem contested_read : (clusterRead "team-a" "prod").sent? = some (clusterRead "team-a" "prod") :=
  Request.sent?_of_path (List.append_nil _).symm contested_path rfl (by decide +kernel)

theorem contested_write (patch : Value) :
    (clusterChange "team-a" "prod" patch).sent? = some (clusterChange "team-a" "prod" patch) := by
  have htarget : (clustersPath "team-a" ++ "/" ++ "prod" ++ "?").toList =
      (clustersPath "team-a" ++ "/" ++ "prod").toList ++ ['?'] := String.toList_append
  have hlength : (clustersPath "team-a" ++ "/" ++ "prod" ++ "?").utf8ByteSize ≤ longestTarget := by
    decide +kernel
  exact Request.sent?_of_path htarget contested_path rfl hlength

theorem contested_succeeds : FinalizerChange.add.Succeeds "team-a" "prod" (turns contested) :=
  succeeds_add (by decide +kernel) contested_read declares_guard (by decide)
    (contested_write _) declares_both

theorem contested_runs : ∃ before after, held before = ["example.com/guard"] ∧
    held after = ["example.com/guard", clusterFinalizer] ∧
      Runs "team-a" "prod" before contested after := by
  obtain ⟨first, _, hread, _, hfirst⟩ := declares_guard
  obtain ⟨second, _, _, _, hsecond⟩ := declares_nothing
  obtain ⟨third, _, hwritten, _, hthird⟩ := declares_both
  refine ⟨some (.object first), some (.object third), hfirst, hthird, some (.object first), ?_,
    some (.object second), ?_, some (.object third), ?_, rfl⟩
  · exact .shown contested_read (value?_carried hread)
  · apply Happens.edited
    rw [hfirst, hsecond]
    decide
  · apply Happens.patched (contested_write _) permits_finalizersPatch
      (Delivery.refusal?_of_value? (value?_carried hwritten))
    rw [hthird, finalizersOf_apply_finalizersPatch]

theorem contested_edits : ∀ edit ∈ edits contested, edit.finalizer ≠ clusterFinalizer := by
  have hedits : edits contested = [.remove "example.com/guard"] := rfl
  rw [hedits]
  decide

theorem contested_finalizers : ∃ before after,
    (∀ edit ∈ edits contested, edit.finalizer ≠ clusterFinalizer) ∧
      FinalizerChange.add.Succeeds "team-a" "prod" (turns contested) ∧
      Runs "team-a" "prod" before contested after ∧
      (clusterFinalizer ∈ held after ↔ FinalizerChange.add = .add) ∧
      foreign (held after) = replay (heeded contested) (foreign (held before)) := by
  obtain ⟨before, after, _, _, hruns⟩ := contested_runs
  exact ⟨before, after, contested_edits, contested_succeeds, hruns,
    finalizers_of_change contested_edits contested_succeeds hruns⟩

/-- The other client left no guard, and there is one. -/
theorem guard_returns :
    ¬ ∀ (change : FinalizerChange) (inNamespace name : String) (history : List Event)
        (before after : Option Value),
      (∀ edit ∈ edits history, edit.finalizer ≠ clusterFinalizer) →
      change.Succeeds inNamespace name (turns history) →
      Runs inNamespace name before history after →
      ∀ finalizer, finalizer ∈ foreign (held after) ↔
        finalizer ∈ replay (edits history) (foreign (held before)) := by
  intro h
  obtain ⟨before, after, hbefore, hafter, hruns⟩ := contested_runs
  have hguard := h .add "team-a" "prod" contested before after contested_edits contested_succeeds
    hruns "example.com/guard"
  rw [hbefore, hafter] at hguard
  revert hguard
  decide +kernel

end ClusterKeeper.Api
