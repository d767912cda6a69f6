import ClusterKeeper.Proofs.Api.Finalizers
import ClusterKeeper.Proofs.Data.Records
/-!
The operator's finalizer where nobody else writes.

A server with a state answers the operator's operations, and the operator is the only one that
writes. The server may refuse any request, but then nothing changes; what it carries out it carries
out as a merge patch is meant. A request or its response may also be lost, and a response may be
illegible: then a write may have been carried out or not.
-/

namespace ClusterKeeper.Api

open Dialogue

/-- Nothing came back of a request about a declaration, or nothing that can be read as one. -/
def Delivery.IsUnheard (delivery : Delivery) : Prop :=
  delivery.refusal? = none ∧ ∀ cluster : ClusterDeclaration, delivery.answer ≠ .ok cluster

/-- A server with a place for a declaration. -/
structure Server (σ : Type) where
  respond : Request → σ → Delivery × σ
  inNamespace : String
  name : String
  /-- The declaration of that name, if there is one. -/
  stored : σ → Option Value

/-- What comes of an operation. -/
structure Outcome (σ α : Type) where
  result : Except Fault α
  after : σ
  exchanges : List (Turn Request fun _ => Delivery)

namespace Outcome

variable {σ α : Type}

def map {β : Type} (f : α → β) (outcome : Outcome σ α) : Outcome σ β :=
  { outcome with result := outcome.result.map f }

/-- A patch was among the requests. -/
def Patches (outcome : Outcome σ α) : Prop := ∃ turn ∈ outcome.exchanges, turn.1.method = .patch

/-- A request was refused. -/
def Refused (outcome : Outcome σ α) : Prop :=
  ∃ turn ∈ outcome.exchanges, ∃ refusal, turn.2.refusal? = some refusal

/-- Of a request it is not known what became of it. -/
def Unheard (outcome : Outcome σ α) : Prop := ∃ turn ∈ outcome.exchanges, turn.2.IsUnheard

/-- The outcome of an operation as the rest of one that had other exchanges before. -/
def behind (exchanges : List (Turn Request fun _ => Delivery)) (outcome : Outcome σ α) :
    Outcome σ α := { outcome with exchanges := exchanges ++ outcome.exchanges }

end Outcome

/-- Whether a request failed because there is no such thing. -/
def saysAbsent : Fault → Bool
  | .api (.refused refusal) => refusal.isNotFound
  | _ => false

namespace Server

variable {σ α β : Type} (server : Server σ)

/-- Lets the server answer an operation. -/
def perform (client : Client α) (s : σ) : Outcome σ α where
  result := (client.run.run server.respond s).1
  after := (client.run.run server.respond s).2
  exchanges := client.run.asked server.respond s

/-- What comes of a single request. -/
def exchange [Wire α] (request : Request) (s : σ) : Outcome σ α where
  result := (server.respond request s).1.answer.mapError Fault.api
  after := (server.respond request s).2
  exchanges := [⟨request, (server.respond request s).1⟩]

/-- Reads the declaration. -/
def read (s : σ) : Outcome σ ClusterDeclaration :=
  server.perform (getCluster server.inNamespace server.name) s

/-- Writes its finalizers. -/
def write (finalizers : List String) (s : σ) : Outcome σ Unit :=
  server.perform (setFinalizers server.inNamespace server.name finalizers) s

/-- Adds the operator's finalizer or removes it. -/
def make (change : FinalizerChange) (s : σ) : Outcome σ Unit :=
  server.perform (change.client server.inNamespace server.name) s

/-- The finalizers of the declaration, none where there is no declaration. -/
def finalizers (s : σ) : List String := held (server.stored s)

variable {server} {client : Client α} {next : α → Client β} {s : σ} {fault : Fault}

theorem perform_pure (a : α) : server.perform (pure a : Client α) s = ⟨.ok a, s, []⟩ := rfl

theorem perform_bind_ok {a : α} (h : (server.perform client s).result = .ok a) :
    server.perform (client >>= next) s =
      (server.perform (next a) (server.perform client s).after).behind
        (server.perform client s).exchanges := by
  have hrun : (client.run.run server.respond s).1 = .ok a := h
  simp only [perform, Outcome.behind, ExceptT.run_bind, run_bind, asked_bind, hrun]

theorem perform_bind_error (h : (server.perform client s).result = .error fault) :
    server.perform (client >>= next) s =
      { server.perform client s with result := .error fault } := by
  have hrun : (client.run.run server.respond s).1 = .error fault := h
  simp [perform, ExceptT.run_bind, run_bind, asked_bind, hrun, asked]

theorem perform_discard : server.perform (do let _ ← client; return ()) s =
    (server.perform client s).map fun _ => () := by
  cases hresult : (server.perform client s).result with
  | ok a =>
      refine (perform_bind_ok hresult).trans ?_
      simp [perform_pure, Outcome.behind, Outcome.map, hresult, Except.map]
  | error fault =>
      refine (perform_bind_error hresult).trans ?_
      simp [Outcome.map, hresult, Except.map]

theorem perform_orAbsent_ok {a : α} (h : (server.perform client s).result = .ok a) :
    server.perform (orAbsent client) s =
      { server.perform client s with result := .ok (some a) } := by
  have hrun : (client.run.run server.respond s).1 = .ok a := h
  simp [perform, orAbsent, run_bind, asked_bind, hrun, asked]

theorem perform_orAbsent_error (h : (server.perform client s).result = .error fault) :
    server.perform (orAbsent client) s =
      { server.perform client s with
        result := if saysAbsent fault then .ok none else .error fault } := by
  have hrun : (client.run.run server.respond s).1 = .error fault := h
  cases fault with
  | api cause =>
      cases cause with
      | refused refusal =>
          by_cases habsent : refusal.isNotFound = true <;>
            simp [perform, orAbsent, run_bind, asked_bind, hrun, asked, saysAbsent, habsent]
      | _ => simp [perform, orAbsent, run_bind, asked_bind, hrun, asked, saysAbsent]
  | _ => simp [perform, orAbsent, run_bind, asked_bind, hrun, asked, saysAbsent]

theorem perform_named_send [Wire α] {name : String} {request sent : Request}
    (hname : name.isEmpty = false) (hsent : request.sent? = some sent) :
    server.perform (named name (send request : Client α)) s = server.exchange sent s := by
  obtain ⟨target, htarget, hrequest⟩ := Option.map_eq_some_iff.mp hsent
  have hrun : (named name (send request : Client α)).run =
      .ask sent fun delivery =>
        (liftExcept ((delivery.answer : Except ApiFault α).mapError Fault.api) : Client α).run := by
    simp only [named, hname, send, htarget]
    rw [← hrequest]
    rfl
  have hend (r : Except Fault α) : (liftExcept r : Client α).run = .done r := by
    cases r <;> rfl
  simp only [perform, hrun, hend]
  rfl

/-- A request that cannot be built is not sent. -/
theorem exchanges_of_unsent [Wire α] {name : String} {request : Request}
    (h : name.isEmpty = true ∨ request.sent? = none) :
    (server.perform (named name (send request : Client α)) s).exchanges = [] := by
  by_cases hname : name.isEmpty = true
  · simp only [perform, named, if_pos hname]
    rfl
  · have htarget : target? request.target = none := Option.map_eq_none_iff.mp (h.resolve_left hname)
    simp only [perform, named, if_neg hname, send, htarget]
    rfl

/-- To read a declaration nothing is written. -/
theorem not_patches_read : ¬ (server.read s).Patches := by
  rintro ⟨turn, hturn, hpatch⟩
  have hread : server.read s = server.perform
    (named server.name (send (clusterRead server.inNamespace server.name))) s := rfl
  cases hsent : (clusterRead server.inNamespace server.name).sent? with
  | none =>
      rw [hread, exchanges_of_unsent (.inr hsent)] at hturn
      cases hturn
  | some sent =>
      by_cases hname : server.name.isEmpty = true
      · rw [hread, exchanges_of_unsent (.inl hname)] at hturn
        cases hturn
      · rw [hread, perform_named_send (Bool.eq_false_iff.mpr hname) hsent] at hturn
        cases List.mem_singleton.mp hturn
        rw [Request.method_of_sent? hsent] at hpatch
        cases hpatch

end Server

namespace FinalizerChange

variable {change : FinalizerChange} {finalizers : List String}

theorem apply_apply :
    change.edit.apply (change.edit.apply finalizers) = change.edit.apply finalizers := by
  cases change with
  | add =>
      have hmem : clusterFinalizer ∈ add.edit.apply finalizers := mem_apply.mpr rfl
      exact if_pos (List.contains_iff_mem.mpr hmem)
  | remove => simp [edit, Edit.apply, List.filter_filter]

theorem remove_apply_add_apply (h : clusterFinalizer ∉ finalizers) :
    remove.edit.apply (add.edit.apply finalizers) = finalizers := by
  have hne : ∀ finalizer ∈ finalizers, finalizer ≠ clusterFinalizer := by
    rintro _ hmem rfl
    exact h hmem
  simpa [edit, Edit.apply, h, List.filter_eq_self] using hne

end FinalizerChange

section Changes

variable {σ : Type} {server : Server σ} {change : FinalizerChange} {s : σ} {fault : Fault}
  {cluster : ClusterDeclaration}

/-- A read that fails is all that there is. -/
theorem make_of_unread (h : (server.read s).result = .error fault)
    (hfault : change = .add ∨ saysAbsent fault = false) :
    server.make change s = { server.read s with result := .error fault } := by
  cases change with
  | add => exact Server.perform_bind_error h
  | remove =>
      have hpresent : saysAbsent fault = false := hfault.resolve_left nofun
      have hread := Server.perform_orAbsent_error h
      rw [hpresent, if_neg nofun] at hread
      refine (Server.perform_bind_error (congrArg Outcome.result hread)).trans ?_
      rw [hread]
      rfl

theorem make_of_absent (h : (server.read s).result = .error fault)
    (habsent : saysAbsent fault = true) :
    server.make .remove s = { server.read s with result := .ok () } := by
  have hread := Server.perform_orAbsent_error h
  rw [if_pos habsent] at hread
  refine (Server.perform_bind_ok (congrArg Outcome.result hread)).trans ?_
  rw [hread]
  simp [Outcome.behind, Server.perform_pure, Server.read]

theorem make_of_needless (h : (server.read s).result = .ok cluster)
    (hmem : clusterFinalizer ∈ cluster.metadata.finalizerList) :
    server.make .add s = { server.read s with result := .ok () } := by
  refine (Server.perform_bind_ok h).trans ?_
  simp [Outcome.behind, Server.perform_pure, Server.read, hmem]

/-- What becomes of the list is written. -/
theorem make_of_read (h : (server.read s).result = .ok cluster)
    (hnew : change = .add → clusterFinalizer ∉ cluster.metadata.finalizerList) :
    server.make change s =
      (server.write (change.edit.apply cluster.metadata.finalizerList)
        (server.read s).after).behind (server.read s).exchanges := by
  cases change with
  | add =>
      have hnew := hnew rfl
      refine (Server.perform_bind_ok h).trans ?_
      simp [hnew, FinalizerChange.edit, Edit.apply, Server.read, Server.write]
  | remove =>
      have hread := Server.perform_orAbsent_ok h
      refine (Server.perform_bind_ok (congrArg Outcome.result hread)).trans ?_
      rw [hread]
      rfl

end Changes

/-- Where the declaration cannot be read, nothing else is asked for. Taking the finalizer off ends
well all the same if the server says that there is no declaration. -/
def Server.StopsUnread {σ : Type} (server : Server σ) : Prop :=
  ∀ change s fault, (server.read s).result = .error fault →
    ¬ (server.make change s).Patches ∧
      (server.make change s).after = (server.read s).after ∧
      (server.make change s).result =
        if change = .remove ∧ saysAbsent fault = true then .ok () else .error fault

theorem stopsUnread {σ : Type} (server : Server σ) : server.StopsUnread := by
  intro change s fault h
  by_cases habsent : change = .remove ∧ saysAbsent fault = true
  · obtain ⟨rfl, hsaid⟩ := habsent
    rw [make_of_absent h hsaid]
    exact ⟨Server.not_patches_read, rfl, by simp [hsaid]⟩
  · have hfault : change = .add ∨ saysAbsent fault = false := by
      cases change <;> simp_all
    rw [make_of_unread h hfault]
    exact ⟨Server.not_patches_read, rfl, by rw [if_neg habsent]⟩

/-! ### A server that nobody else writes to -/

/-- How a read is answered. -/
inductive Shown : Option Value → Delivery → Prop
  | found {members : List (String × Value)} {delivery : Delivery}
      (hvalue : delivery.value? = some (.object members)) :
      Shown (some (.object members)) delivery
  | missing {delivery : Delivery} {refusal : Refusal} (hrefusal : delivery.refusal? = some refusal)
      (hmissing : refusal.isNotFound = true) : Shown none delivery
  | refused {stored : Option Value} {delivery : Delivery} {refusal : Refusal}
      (hrefusal : delivery.refusal? = some refusal) (hfound : refusal.isNotFound = false) :
      Shown stored delivery
  | unheard {stored : Option Value} {delivery : Delivery} (hunheard : delivery.IsUnheard) :
      Shown stored delivery

/-- How a merge patch is answered, and what is stored then. Without finalizers a declaration that is
to be deleted is gone. -/
inductive Patched (patch : Value) : Option Value → Delivery → Option Value → Prop
  | carried {object : Value} {delivery : Delivery} {after : Option Value}
      (hcarried : delivery.refusal? = none)
      (hfinalizers : held after = finalizersOf (MergePatch.apply object patch)) :
      Patched patch (some object) delivery after
  | refused {stored : Option Value} {delivery : Delivery} {refusal : Refusal}
      (hrefusal : delivery.refusal? = some refusal) : Patched patch stored delivery stored
  | unheard {stored : Option Value} {delivery : Delivery} (hunheard : delivery.IsUnheard) :
      Patched patch stored delivery stored

namespace Server

variable {σ : Type}

/-- Requests about the declaration can be built. -/
structure IsAddressed (server : Server σ) : Prop where
  isEmpty_name : server.name.isEmpty = false
  isPathChar : ∀ c ∈ (clustersPath server.inNamespace ++ "/" ++ server.name).toList,
    isPathChar c = true
  length_le : (clustersPath server.inNamespace ++ "/" ++ server.name ++ "?").utf8ByteSize ≤
    longestTarget

/-- The server shows what it stores and changes it as it is told, or else it is not heard. -/
structure IsUndisturbed (server : Server σ) : Prop where
  read : ∀ s, Shown (server.stored s)
      (server.respond (clusterRead server.inNamespace server.name) s).1 ∧
    server.stored (server.respond (clusterRead server.inNamespace server.name) s).2 =
      server.stored s
  write : ∀ s finalizers,
    Patched (finalizersPatch finalizers) (server.stored s)
      (server.respond
        (clusterChange server.inNamespace server.name (finalizersPatch finalizers)) s).1
      (server.stored (server.respond
        (clusterChange server.inNamespace server.name (finalizersPatch finalizers)) s).2)

/-- The operator's operations change the operator's finalizer and nothing else. -/
structure ChangesOwnOnly (server : Server σ) : Prop where
  /-- An operation ends well, unless a request is refused; then the list stays as it was. Where it
  is not known what became of a request, the change is made or the list stays as it was. -/
  ends : ∀ change s, (server.make change s).result = .ok () ∨
    (server.make change s).Refused ∧
      server.finalizers (server.make change s).after = server.finalizers s ∨
    (server.make change s).Unheard ∧
      (server.finalizers (server.make change s).after = server.finalizers s ∨
        server.finalizers (server.make change s).after =
          change.edit.apply (server.finalizers s))
  added : ∀ s, (server.make .add s).result = .ok () →
    foreign (server.finalizers (server.make .add s).after) = foreign (server.finalizers s) ∧
      clusterFinalizer ∈ server.finalizers (server.make .add s).after
  needless : ∀ s, clusterFinalizer ∈ server.finalizers s → ¬ (server.make .add s).Patches ∧
    server.finalizers (server.make .add s).after = server.finalizers s
  removed : ∀ s, (server.make .remove s).result = .ok () →
    server.finalizers (server.make .remove s).after = foreign (server.finalizers s)
  restored : ∀ s, clusterFinalizer ∉ server.finalizers s →
    (server.make .add s).result = .ok () →
    (server.make .remove (server.make .add s).after).result = .ok () →
    server.finalizers (server.make .remove (server.make .add s).after).after =
      server.finalizers s
  idempotent : ∀ change s, (server.make change s).result = .ok () →
    server.finalizers (server.make change (server.make change s).after).after =
      server.finalizers (server.make change s).after
  /-- There is no declaration to take the finalizer off, and reading it fails for no other
  reason. -/
  absent : ∀ s, server.stored s = none →
    (∀ fault, (server.read s).result = .error fault → saysAbsent fault = true) →
    (server.make .remove s).result = .ok () ∧ ¬ (server.make .remove s).Patches ∧
      server.stored (server.make .remove s).after = none
  unread : ∀ change s fault, (server.read s).result = .error fault →
    change = .add ∨ saysAbsent fault = false →
    (server.make change s).result = .error fault ∧ ¬ (server.make change s).Patches ∧
      server.stored (server.make change s).after = server.stored s

variable {server : Server σ} {change : FinalizerChange} {s : σ} {fault : Fault}
  {cluster : ClusterDeclaration}

namespace IsAddressed

variable (haddressed : server.IsAddressed)
include haddressed

theorem sent?_read : (clusterRead server.inNamespace server.name).sent? =
    some (clusterRead server.inNamespace server.name) := by
  refine Request.sent?_of_path (List.append_nil _).symm haddressed.isPathChar rfl ?_
  have hlength := haddressed.length_le
  rw [String.utf8ByteSize_append] at hlength
  exact Nat.le_trans (Nat.le_add_right _ _) hlength

theorem sent?_change (patch : Value) : (clusterChange server.inNamespace server.name patch).sent? =
    some (clusterChange server.inNamespace server.name patch) := by
  have htarget : (clusterChange server.inNamespace server.name patch).target.toList =
      (clustersPath server.inNamespace ++ "/" ++ server.name).toList ++ ['?'] :=
    String.toList_append
  exact Request.sent?_of_path htarget haddressed.isPathChar rfl haddressed.length_le

theorem read_eq :
    server.read s = server.exchange (clusterRead server.inNamespace server.name) s :=
  perform_named_send haddressed.isEmpty_name haddressed.sent?_read

theorem write_eq (finalizers : List String) : server.write finalizers s =
    (server.exchange (α := ClusterDeclaration)
      (clusterChange server.inNamespace server.name (finalizersPatch finalizers)) s).map
        fun _ => () :=
  perform_discard.trans <| congrArg (Outcome.map fun _ => ())
    (perform_named_send haddressed.isEmpty_name (haddressed.sent?_change _))

end IsAddressed

section Undisturbed

variable (haddressed : server.IsAddressed) (hundisturbed : server.IsUndisturbed)
include haddressed hundisturbed

theorem stored_read : server.stored (server.read s).after = server.stored s := by
  rw [haddressed.read_eq]
  exact (hundisturbed.read s).2

theorem finalizers_read : server.finalizers (server.read s).after = server.finalizers s :=
  congrArg held (stored_read haddressed hundisturbed)

/-- What is read is there. -/
theorem stored_of_read (h : (server.read s).result = .ok cluster) :
    ∃ object, server.stored s = some object ∧
      finalizersOf object = cluster.metadata.finalizerList := by
  rw [haddressed.read_eq] at h
  have hanswer : (_ : Except ApiFault ClusterDeclaration) = .ok cluster := mapError_eq_ok_iff.mp h
  obtain ⟨value, hread, hcluster⟩ := Delivery.answer_eq_ok_iff.mp hanswer
  have hcarried := Delivery.refusal?_of_value? hread
  have hshown := (hundisturbed.read s).1
  generalize server.stored s = stored at hshown ⊢
  cases hshown with
  | found hvalue =>
      cases hvalue.symm.trans hread
      exact ⟨_, rfl, (finalizerList_of_decode hcluster).symm⟩
  | missing hrefusal => cases hrefusal.symm.trans hcarried
  | refused hrefusal => cases hrefusal.symm.trans hcarried
  | unheard hunheard => exact (hunheard.2 cluster hanswer).elim

theorem finalizers_of_read (h : (server.read s).result = .ok cluster) :
    server.finalizers s = cluster.metadata.finalizerList := by
  obtain ⟨object, hstored, hlist⟩ := stored_of_read haddressed hundisturbed h
  rw [finalizers, hstored, held, hlist]

/-- A read fails only where it is refused or not heard, and for there being nothing only where there
is nothing. -/
theorem refused_or_unheard_of_unread (h : (server.read s).result = .error fault) :
    ((server.read s).Refused ∨ (server.read s).Unheard) ∧
      (saysAbsent fault = true → server.stored s = none) := by
  rw [haddressed.read_eq] at h ⊢
  have hanswered : (_ : Except ApiFault ClusterDeclaration).mapError Fault.api = .error fault := h
  have hfailed : ∀ cluster : ClusterDeclaration,
      (server.respond (clusterRead server.inNamespace server.name) s).1.answer ≠ .ok cluster := by
    intro cluster hanswer
    rw [hanswer] at hanswered
    cases hanswered
  have hsaid : saysAbsent fault = true → ∃ refusal : Refusal, refusal.isNotFound = true ∧
      (server.respond (clusterRead server.inNamespace server.name) s).1.refusal? =
        some refusal := by
    intro habsent
    cases hanswer : ((server.respond (clusterRead server.inNamespace server.name) s).1.answer :
      Except ApiFault ClusterDeclaration) with
    | ok cluster => exact (hfailed cluster hanswer).elim
    | error cause =>
        rw [hanswer] at hanswered
        cases hanswered
        cases cause with
        | refused refusal => exact ⟨refusal, habsent, Delivery.answer_eq_refused_iff.mp hanswer⟩
        | _ => cases habsent
  have hshown := (hundisturbed.read s).1
  generalize server.stored s = stored at hshown
  cases hshown with
  | found hvalue =>
      have hcarried := Delivery.refusal?_of_value? hvalue
      refine ⟨.inr ⟨_, List.mem_singleton_self _, hcarried, hfailed⟩, fun habsent => ?_⟩
      obtain ⟨refusal, -, hrefusal⟩ := hsaid habsent
      cases hrefusal.symm.trans hcarried
  | missing hrefusal => exact ⟨.inl ⟨_, List.mem_singleton_self _, _, hrefusal⟩, fun _ => rfl⟩
  | refused hrefusal hfound =>
      refine ⟨.inl ⟨_, List.mem_singleton_self _, _, hrefusal⟩, fun habsent => ?_⟩
      obtain ⟨refusal, hmissing, hsame⟩ := hsaid habsent
      cases hsame.symm.trans hrefusal
      rw [hfound] at hmissing
      cases hmissing
  | unheard hunheard =>
      refine ⟨.inr ⟨_, List.mem_singleton_self _, hunheard⟩, fun habsent => ?_⟩
      obtain ⟨refusal, -, hrefusal⟩ := hsaid habsent
      cases hrefusal.symm.trans hunheard.1

/-- A list is written, or the request is refused and the list is as it was, or it is not known what
became of the request. -/
theorem write_ends (finalizers : List String) :
    (server.write finalizers s).result = .ok () ∧
        server.finalizers (server.write finalizers s).after = finalizers ∨
      (server.write finalizers s).result ≠ .ok () ∧
        ((server.write finalizers s).Refused ∧
            server.finalizers (server.write finalizers s).after = server.finalizers s ∨
          (server.write finalizers s).Unheard ∧
            (server.finalizers (server.write finalizers s).after = server.finalizers s ∨
              server.finalizers (server.write finalizers s).after = finalizers)) := by
  rw [haddressed.write_eq]
  have hpatched := hundisturbed.write s finalizers
  simp only [Server.finalizers, Outcome.map, exchange]
  generalize server.stored (server.respond _ s).2 = after at hpatched ⊢
  generalize server.stored s = before at hpatched ⊢
  cases hanswer : ((server.respond (clusterChange server.inNamespace server.name
    (finalizersPatch finalizers)) s).1.answer : Except ApiFault ClusterDeclaration) with
  | ok cluster =>
      obtain ⟨value, hvalue, -⟩ := Delivery.answer_eq_ok_iff.mp hanswer
      refine .inl ⟨rfl, ?_⟩
      cases hpatched with
      | carried _ hfinalizers => exact hfinalizers.trans finalizersOf_apply_finalizersPatch
      | refused hrefusal => cases hrefusal.symm.trans (Delivery.refusal?_of_value? hvalue)
      | unheard hunheard => exact (hunheard.2 cluster hanswer).elim
  | error cause =>
      refine .inr ⟨nofun, ?_⟩
      cases hpatched with
      | carried hcarried hfinalizers =>
          have hunheard : Delivery.IsUnheard _ := ⟨hcarried, by simp [hanswer]⟩
          exact .inr ⟨⟨_, List.mem_singleton_self _, hunheard⟩,
            .inr (hfinalizers.trans finalizersOf_apply_finalizersPatch)⟩
      | refused hrefusal => exact .inl ⟨⟨_, List.mem_singleton_self _, _, hrefusal⟩, rfl⟩
      | unheard hunheard => exact .inr ⟨⟨_, List.mem_singleton_self _, hunheard⟩, .inl rfl⟩

/-- A change is made, or a request is refused and the list is as it was, or it is not known what
became of a request. -/
theorem make_ends (change : FinalizerChange) (s : σ) :
    (server.make change s).result = .ok () ∧
        server.finalizers (server.make change s).after =
          change.edit.apply (server.finalizers s) ∨
      (server.make change s).result ≠ .ok () ∧
        ((server.make change s).Refused ∧
            server.finalizers (server.make change s).after = server.finalizers s ∨
          (server.make change s).Unheard ∧
            (server.finalizers (server.make change s).after = server.finalizers s ∨
              server.finalizers (server.make change s).after =
                change.edit.apply (server.finalizers s))) := by
  have hsame : server.finalizers (server.read s).after = _ :=
    finalizers_read haddressed hundisturbed
  cases hread : (server.read s).result with
  | error fault =>
      obtain ⟨hfailed, hnone⟩ := refused_or_unheard_of_unread haddressed hundisturbed hread
      by_cases hfault : change = .add ∨ saysAbsent fault = false
      · rw [make_of_unread hread hfault]
        refine .inr ⟨nofun, ?_⟩
        rcases hfailed with hrefused | hunheard
        · exact .inl ⟨hrefused, hsame⟩
        · exact .inr ⟨hunheard, .inl hsame⟩
      · rw [not_or, Bool.not_eq_false] at hfault
        obtain rfl : change = .remove := by
          cases change with
          | add => exact (hfault.1 rfl).elim
          | remove => rfl
        have hempty : server.finalizers s = [] := congrArg held (hnone hfault.2)
        rw [make_of_absent hread hfault.2]
        refine .inl ⟨rfl, hsame.trans ?_⟩
        rw [hempty]
        rfl
  | ok cluster =>
      have hlist := finalizers_of_read haddressed hundisturbed hread
      by_cases hnew : change = .add → clusterFinalizer ∉ cluster.metadata.finalizerList
      · rw [make_of_read hread hnew, ← hlist]
        rcases write_ends haddressed hundisturbed _ with ⟨hok, hwritten⟩ | ⟨hresult, hfailed⟩
        · exact .inl ⟨hok, hwritten⟩
        · refine .inr ⟨hresult, ?_⟩
          rw [hsame] at hfailed
          rcases hfailed with ⟨⟨turn, hturn, hrefused⟩, hkept⟩ | ⟨⟨turn, hturn, hunheard⟩, hkept⟩
          · exact .inl ⟨⟨turn, List.mem_append_right _ hturn, hrefused⟩, hkept⟩
          · exact .inr ⟨⟨turn, List.mem_append_right _ hturn, hunheard⟩, hkept⟩
      · obtain ⟨rfl, hmem⟩ := Classical.not_imp.mp hnew
        rw [not_not] at hmem
        rw [make_of_needless hread hmem]
        refine .inl ⟨rfl, hsame.trans ?_⟩
        rw [hlist]
        exact (if_pos (List.contains_iff_mem.mpr hmem)).symm

theorem finalizers_of_made (h : (server.make change s).result = .ok ()) :
    server.finalizers (server.make change s).after = change.edit.apply (server.finalizers s) := by
  rcases make_ends haddressed hundisturbed change s with ⟨-, hmade⟩ | ⟨hne, -⟩
  · exact hmade
  · exact (hne h).elim

end Undisturbed

/-- A declaration that cannot be read is left alone. Undisturbed, the operator's operations change
the operator's finalizer and nothing else. -/
theorem changesOwnOnly_of_undisturbed (server : Server σ) :
    server.StopsUnread ∧
      (server.IsAddressed → server.IsUndisturbed → server.ChangesOwnOnly) := by
  refine ⟨stopsUnread server, fun haddressed hundisturbed => ?_⟩
  exact {
    ends := fun change s => by
      rcases make_ends haddressed hundisturbed change s with ⟨hok, -⟩ | ⟨-, hfailed⟩
      · exact .inl hok
      · exact .inr hfailed
    added := fun s h => by
      rw [finalizers_of_made haddressed hundisturbed h]
      exact ⟨FinalizerChange.foreign_apply, FinalizerChange.mem_apply.mpr rfl⟩
    needless := fun s hmem => by
      have hsame := finalizers_read haddressed hundisturbed (s := s)
      cases hread : (server.read s).result with
      | error fault =>
          rw [make_of_unread hread (.inl rfl)]
          exact ⟨not_patches_read, hsame⟩
      | ok cluster =>
          rw [finalizers_of_read haddressed hundisturbed hread] at hmem
          rw [make_of_needless hread hmem]
          exact ⟨not_patches_read, hsame⟩
    removed := fun s h => finalizers_of_made haddressed hundisturbed h
    restored := fun s hnew hadded hremoved => by
      rw [finalizers_of_made haddressed hundisturbed hremoved,
        finalizers_of_made haddressed hundisturbed hadded]
      exact FinalizerChange.remove_apply_add_apply hnew
    idempotent := fun change s h => by
      have hmade := finalizers_of_made haddressed hundisturbed h
      have hagain : change.edit.apply (server.finalizers (server.make change s).after) =
          server.finalizers (server.make change s).after := by
        rw [hmade, FinalizerChange.apply_apply]
      obtain ⟨-, hlist⟩ | ⟨-, ⟨-, hlist⟩ | ⟨-, hlist | hlist⟩⟩ :=
        make_ends haddressed hundisturbed change (server.make change s).after
      · exact hlist.trans hagain
      · exact hlist
      · exact hlist
      · exact hlist.trans hagain
    absent := fun s hnone hfault => by
      cases hread : (server.read s).result with
      | error fault =>
          rw [make_of_absent hread (hfault fault hread)]
          exact ⟨rfl, not_patches_read, (stored_read haddressed hundisturbed).trans hnone⟩
      | ok cluster =>
          obtain ⟨object, hstored, -⟩ := stored_of_read haddressed hundisturbed hread
          rw [hnone] at hstored
          cases hstored
    unread := fun change s fault hread hfault => by
      rw [make_of_unread hread hfault]
      exact ⟨rfl, not_patches_read, stored_read haddressed hundisturbed⟩ }

end Server

def keptSpec : ClusterSpec :=
  ⟨"us-east", ⟨"team-a", "token"⟩, none, KeyMap.empty, none, none⟩

def keptMetadata (finalizers : List String) : Value :=
  .object [("name", .text "prod"), ("finalizers", encode finalizers)]

/-- A declaration as an object. -/
def keptObject (finalizers : List String) : Value :=
  .object [("metadata", keptMetadata finalizers), ("spec", encode keptSpec)]

/-- The answer where there is no declaration. -/
def keptNothing : Delivery :=
  .answered ⟨404, "\x7b\"status\":\"Failure\",\"reason\":\"NotFound\",\"code\":404\x7d"⟩

/-- A server that keeps the finalizers of one declaration, if it is there. -/
def keeper : Server (Option (List String)) where
  respond request
    | none => (keptNothing, none)
    | some finalizers =>
        match request.content with
        | none => (carried (Json.write (keptObject finalizers)), some finalizers)
        | some (_, patch) =>
            let changed := finalizersOf (MergePatch.apply (keptObject finalizers) patch)
            (carried (Json.write (keptObject changed)), some changed)
  inNamespace := "team-a"
  name := "prod"
  stored s := s.map keptObject

theorem refusal?_keptNothing : ∃ refusal : Refusal,
    keptNothing.refusal? = some refusal ∧ refusal.isNotFound = true := by
  exact ⟨_, rfl, by decide +kernel⟩

theorem isPlain_keptObject (finalizers : List String) : (keptObject finalizers).IsPlain := by
  refine .object (List.forall_mem_cons.mpr ⟨?metadata, List.forall_mem_singleton.mpr ?spec⟩)
  case metadata =>
    refine .object (List.forall_mem_cons.mpr ⟨.text "prod", List.forall_mem_singleton.mpr ?_⟩)
    exact LawfulWire.isPlain_encode finalizers
  case spec => exact LawfulWire.isPlain_encode keptSpec

theorem decode_encode_texts (texts : List String) :
    (decode (encode texts) : Except Mismatch (Option (List String))) = .ok (some texts) :=
  LawfulWire.decode_encode (some texts)

theorem decode_keptMetadata (finalizers : List String) :
    ∃ metadata : Metadata, decode (keptMetadata finalizers) = .ok metadata := by
  have hlist := decode_encode_texts finalizers
  refine ⟨{ Metadata.blank with name := some "prod", finalizers := some finalizers },
    decode_metadata_eq_ok_iff.mpr ⟨_, rfl, ?_⟩⟩
  generalize encode finalizers = list at hlist ⊢
  have hread : storedMember [("name", .text "prod"), ("finalizers", list)] "finalizers" =
      .ok (some finalizers) := by
    simp [storedMember, hlist]
  constructor
  case finalizers => exact hread
  all_goals rfl

theorem decode_keptObject (finalizers : List String) :
    ∃ cluster : ClusterDeclaration, decode (keptObject finalizers) = .ok cluster := by
  obtain ⟨metadata, hmetadata⟩ := decode_keptMetadata finalizers
  rw [keptObject]
  generalize keptMetadata finalizers = given at hmetadata ⊢
  refine ⟨⟨metadata, keptSpec, none⟩, bind_eq_ok_iff.mpr ⟨_, rfl, ?_⟩⟩
  exact bind_eq_ok_iff.mpr ⟨metadata, hmetadata,
    bind_eq_ok_iff.mpr ⟨keptSpec, LawfulWire.decode_encode keptSpec, rfl⟩⟩

theorem finalizersOf_keptObject (finalizers : List String) :
    finalizersOf (keptObject finalizers) = finalizers := by
  have hmember : ((keptObject finalizers).memberOrNull "metadata").memberOrNull "finalizers" =
      encode finalizers := rfl
  rw [finalizersOf, metadataMember?, hmember, decode_encode_texts, Option.getD_some]

theorem keeper_isAddressed : keeper.IsAddressed where
  isEmpty_name := by decide +kernel
  isPathChar := contested_path
  length_le := by decide +kernel

theorem value?_kept (finalizers : List String) :
    (carried (Json.write (keptObject finalizers))).value? = some (keptObject finalizers) :=
  value?_carried (Json.read_write (isPlain_keptObject finalizers))

theorem answer_kept (finalizers : List String) : ∃ cluster : ClusterDeclaration,
    (carried (Json.write (keptObject finalizers))).answer = .ok cluster := by
  obtain ⟨cluster, hcluster⟩ := decode_keptObject finalizers
  exact ⟨cluster, Delivery.answer_eq_ok_iff.mpr ⟨_, value?_kept finalizers, hcluster⟩⟩

theorem keeper_isUndisturbed : keeper.IsUndisturbed where
  read s := by
    obtain ⟨refusal, hrefusal, hmissing⟩ := refusal?_keptNothing
    cases s with
    | none => exact ⟨.missing hrefusal hmissing, rfl⟩
    | some finalizers => exact ⟨.found (value?_kept finalizers), rfl⟩
  write s finalizers := by
    obtain ⟨refusal, hrefusal, _⟩ := refusal?_keptNothing
    cases s with
    | none => exact .refused hrefusal
    | some present =>
        exact .carried (Delivery.refusal?_of_value? (value?_kept _)) (finalizersOf_keptObject _)

/-- A declaration that is there stays there, and no change of it fails. -/
theorem keeper_made (change : FinalizerChange) (finalizers : List String) :
    (keeper.make change (some finalizers)).result = .ok () ∧
      ∃ changed, (keeper.make change (some finalizers)).after = some changed := by
  have hstep : ∀ request s, s.isSome = true →
      (∃ cluster : ClusterDeclaration, (keeper.respond request s).1.answer = .ok cluster) ∧
        (keeper.respond request s).2.isSome = true := by
    rintro request (_ | present) hpresent
    · cases hpresent
    · cases hcontent : request.content <;> simp only [keeper, hcontent] <;>
        exact ⟨answer_kept _, rfl⟩
  obtain ⟨hanswered, hpresent⟩ := forall_asked keeper.respond (·.isSome = true)
    (fun turn => ∃ cluster : ClusterDeclaration, turn.2.answer = .ok cluster) hstep
    (change.client keeper.inNamespace keeper.name).run
    (show (some finalizers).isSome = true from rfl)
  refine ⟨?_, Option.isSome_iff_exists.mp hpresent⟩
  rcases Server.make_ends keeper_isAddressed keeper_isUndisturbed change (some finalizers) with
    ⟨hok, -⟩ | ⟨-, ⟨⟨turn, hturn, refusal, hrefused⟩, -⟩ | ⟨⟨turn, hturn, hunheard⟩, -⟩⟩
  · exact hok
  · obtain ⟨cluster, hanswer⟩ := hanswered turn hturn
    obtain ⟨value, hvalue, -⟩ := Delivery.answer_eq_ok_iff.mp hanswer
    cases hrefused.symm.trans (Delivery.refusal?_of_value? hvalue)
  · obtain ⟨cluster, hanswer⟩ := hanswered turn hturn
    exact (hunheard.2 cluster hanswer).elim

theorem keeper_changesOwnOnly :
    keeper.StopsUnread ∧ keeper.IsAddressed ∧ keeper.IsUndisturbed ∧ keeper.ChangesOwnOnly ∧
      let added := keeper.make .add (some ["example.com/guard"])
      let removed := keeper.make .remove added.after
      added.result = .ok () ∧ removed.result = .ok () ∧
        foreign (keeper.finalizers added.after) = ["example.com/guard"] ∧
        keeper.finalizers removed.after = ["example.com/guard"] := by
  obtain ⟨hunread, hchanges⟩ := Server.changesOwnOnly_of_undisturbed keeper
  have hlaws := hchanges keeper_isAddressed keeper_isUndisturbed
  have hfinalizers : keeper.finalizers (some ["example.com/guard"]) = ["example.com/guard"] :=
    finalizersOf_keptObject ["example.com/guard"]
  have hnew : clusterFinalizer ∉ keeper.finalizers (some ["example.com/guard"]) := by
    rw [hfinalizers]
    decide
  obtain ⟨hadded, changed, hafter⟩ := keeper_made .add ["example.com/guard"]
  obtain ⟨hremoved, -⟩ := keeper_made .remove changed
  rw [← hafter] at hremoved
  refine ⟨hunread, keeper_isAddressed, keeper_isUndisturbed, hlaws, hadded, hremoved, ?_, ?_⟩
  · refine (hlaws.added _ hadded).1.trans ?_
    rw [hfinalizers]
    decide
  · exact (hlaws.restored _ hnew hadded hremoved).trans hfinalizers

end ClusterKeeper.Api
