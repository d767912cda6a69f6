import ClusterKeeper.Api.Resources
import ClusterKeeper.Proofs.Api.Members
import ClusterKeeper.Proofs.Logic.Transcript
/-!
What requests leave in a transcript.

A request that can be built is sent once, and its end is what is read off the response. The requests
about a declaration are those that read it and those that change it.
-/

namespace ClusterKeeper

open Dialogue

variable {ε φ α : Type}

theorem mapError_inj {f : ε → φ} (hf : Function.Injective f) {r s : Except ε α} :
    r.mapError f = s.mapError f ↔ r = s := by
  cases r <;> cases s <;> simp [Except.mapError, hf.eq_iff]

theorem mapError_eq_ok_iff {f : ε → φ} {r : Except ε α} {a : α} :
    r.mapError f = .ok a ↔ r = .ok a := by
  cases r <;> simp [Except.mapError]

namespace Api

variable [Wire α] {name inNamespace : String} {request sent : Request} {delivery : Delivery}
  {transcript : List (Turn Request fun _ => Delivery)}

namespace Delivery

/-- The refusal, if the server answered with one. -/
def refusal? : Delivery → Option Refusal
  | .answered response => if response.isRefusal then some response.refusal else none
  | .lost _ => none

/-- The value that the server answered with when it carried the request out. -/
def value? : Delivery → Option Value
  | .answered response => if response.isRefusal then none else (Json.read response.body).toOption
  | .lost _ => none

theorem refusal?_of_value? {value : Value} (h : delivery.value? = some value) :
    delivery.refusal? = none := by
  cases delivery with
  | answered response =>
      by_cases hrefusal : response.isRefusal = true
      · simp [value?, hrefusal] at h
      · simp [refusal?, hrefusal]
  | lost => rfl

theorem answer_eq_ok_iff {a : α} :
    delivery.answer = .ok a ↔ ∃ value, delivery.value? = some value ∧ decode value = .ok a := by
  cases delivery with
  | answered response =>
      by_cases h : response.isRefusal = true
      · simp [answer, Response.answer, value?, h]
      · cases hread : Json.read response.body with
        | error mismatch =>
            simp [answer, Response.answer, value?, h, hread, Except.bind, Except.mapError,
              Except.toOption]
        | ok value =>
            simp [answer, Response.answer, value?, h, hread, Except.bind, Except.toOption,
              mapError_eq_ok_iff]
  | lost => simp [answer, value?]

theorem answer_eq_refused_iff {refusal : Refusal} :
    (delivery.answer : Except ApiFault α) = .error (.refused refusal) ↔
      delivery.refusal? = some refusal := by
  cases delivery with
  | answered response =>
      by_cases h : response.isRefusal = true
      · simp [answer, Response.answer, refusal?, h]
      · cases hread : (Json.read response.body).bind (decode : Value → Except Mismatch α) <;>
          simp [answer, Response.answer, refusal?, h, hread, Except.mapError]
  | lost => simp [answer, refusal?]

end Delivery

/-- The request as it is sent, if it can be built. -/
def Request.sent? (request : Request) : Option Request :=
  (target? request.target).map fun target => { request with target }

theorem Request.method_of_sent? (h : request.sent? = some sent) : sent.method = request.method := by
  obtain ⟨target, _, rfl⟩ := Option.map_eq_some_iff.mp h
  rfl

theorem Request.content_of_sent? (h : request.sent? = some sent) :
    sent.content = request.content := by
  obtain ⟨target, _, rfl⟩ := Option.map_eq_some_iff.mp h
  rfl

theorem targetChars?_append {path rest : List Char} (h : ∀ c ∈ path, isPathChar c = true) :
    targetChars? (path ++ rest) = (targetChars? rest).map (path ++ ·) := by
  induction path with
  | nil => simp
  | cons c path ih =>
      rw [List.forall_mem_cons] at h
      have hhash : c ≠ '#' := by
        rintro rfl
        cases h.1
      have hquestion : c ≠ '?' := by
        rintro rfl
        cases h.1
      simp [targetChars?, hhash, hquestion, h.1, ih h.2, Function.comp_def]

/-- A path is sent as it is, and so is what can follow it. -/
theorem Request.sent?_of_path {path rest : List Char}
    (htarget : request.target.toList = path ++ rest) (hpath : ∀ c ∈ path, isPathChar c = true)
    (hrest : targetChars? rest = some rest)
    (hlength : request.target.utf8ByteSize ≤ longestTarget) : request.sent? = some request := by
  have hchars : targetChars? request.target.toList = some request.target.toList := by
    rw [htarget, targetChars?_append hpath, hrest, Option.map_some]
  simp [sent?, target?, Nat.not_lt.mpr hlength, hchars]

/-- The request was sent and ended so. -/
def Answered (request : Request) (transcript : List (Turn Request fun _ => Delivery))
    (r : Except ApiFault α) : Prop :=
  ∃ sent delivery, request.sent? = some sent ∧ transcript = [⟨sent, delivery⟩] ∧ delivery.answer = r

/-- A request for a named thing ends as it was answered, unless it cannot be built. -/
theorem plays_named_send {r : Except ApiFault α} (hr : ∀ reason, r ≠ .error (.unbuildable reason)) :
    (named name (send request : Client α)).run.Plays transcript (r.mapError Fault.api) ↔
      name.isEmpty = false ∧ Answered request transcript r := by
  have hunbuildable (reason : String) :
      Except.error (Fault.api (.unbuildable reason)) ≠ r.mapError Fault.api := by
    intro heq
    exact hr reason ((mapError_inj fun _ _ h => Fault.api.inj h).mp heq.symm)
  by_cases hname : name.isEmpty = true
  · simp [named, hname, hunbuildable]
  · cases htarget : target? request.target with
    | none => simp [named, hname, send, htarget, hunbuildable, Answered, Request.sent?]
    | some target =>
        have hrun : (named name (send request : Client α)).run =
            .ask { request with target } fun delivery =>
              (liftExcept ((delivery.answer : Except ApiFault α).mapError Fault.api) :
                Client α).run := by
          simp only [named, hname, send, htarget]
          rfl
        have hend (delivery : Delivery) :
            (delivery.answer : Except ApiFault α).mapError Fault.api = r.mapError Fault.api ↔
              delivery.answer = r := mapError_inj fun _ _ h => Fault.api.inj h
        rw [hrun, plays_ask]
        simp [plays_liftExcept, hend, Answered, Request.sent?, htarget, hname]

omit [Wire α] in
/-- A thing that is asked for is there, or the server says that there is no such thing. -/
theorem plays_orAbsent {client : Client α} {found : Option α} :
    (orAbsent client).run.Plays transcript (.ok found) ↔
      (∃ a, found = some a ∧ client.run.Plays transcript (.ok a)) ∨
      (found = none ∧ ∃ refusal : Refusal, refusal.isNotFound = true ∧
        client.run.Plays transcript (.error (.api (.refused refusal)))) := by
  refine plays_bind.trans ?_
  constructor
  · rintro ⟨first, second, r, rfl, hplays, hend⟩
    cases r with
    | ok a =>
        obtain ⟨rfl, heq⟩ := hend
        cases heq
        exact .inl ⟨a, rfl, by rwa [List.append_nil]⟩
    | error fault =>
        cases fault with
        | api cause =>
            cases cause with
            | refused refusal =>
                by_cases hfound : refusal.isNotFound = true
                · simp only [hfound, if_true] at hend
                  obtain ⟨rfl, heq⟩ := hend
                  cases heq
                  exact .inr ⟨rfl, refusal, hfound, by rwa [List.append_nil]⟩
                · simp [hfound] at hend
            | unbuildable => cases hend.2
            | unreadable => cases hend.2
            | transport => cases hend.2
        | _ => cases hend.2
  · rintro (⟨a, rfl, hplays⟩ | ⟨rfl, refusal, hfound, hplays⟩)
    · exact ⟨transcript, [], .ok a, (List.append_nil _).symm, hplays, rfl, rfl⟩
    · refine ⟨transcript, [], _, (List.append_nil _).symm, hplays, ?_⟩
      simp [hfound]

/-- The request for a declaration. -/
def clusterRead (inNamespace name : String) : Request :=
  ⟨.get, clustersPath inNamespace ++ "/" ++ name, none⟩

/-- The request for a change of a declaration. -/
def clusterChange (inNamespace name : String) (patch : Value) : Request :=
  ⟨.patch, clustersPath inNamespace ++ "/" ++ name ++ "?", some (.mergePatch, patch)⟩

theorem clusterRead_ne_clusterChange {patch : Value}
    (hread : (clusterRead inNamespace name).sent? = some sent)
    (hchange : (clusterChange inNamespace name patch).sent? = some sent) : False := by
  have hmethod := (Request.method_of_sent? hread).symm.trans (Request.method_of_sent? hchange)
  cases hmethod

theorem clusterChange_inj {patch patch' : Value}
    (h : (clusterChange inNamespace name patch).sent? = some sent)
    (h' : (clusterChange inNamespace name patch').sent? = some sent) : patch = patch' := by
  have hcontent := (Request.content_of_sent? h).symm.trans (Request.content_of_sent? h')
  cases hcontent
  rfl

theorem plays_getCluster {cluster : ClusterDeclaration} :
    (getCluster inNamespace name).run.Plays transcript (.ok cluster) ↔
      name.isEmpty = false ∧ Answered (clusterRead inNamespace name) transcript (.ok cluster) :=
  plays_named_send (r := .ok cluster) (by simp)

theorem plays_getCluster_refused {refusal : Refusal} :
    (getCluster inNamespace name).run.Plays transcript (.error (.api (.refused refusal))) ↔
      name.isEmpty = false ∧ Answered (α := ClusterDeclaration) (clusterRead inNamespace name)
        transcript (.error (.refused refusal)) :=
  plays_named_send (r := .error (.refused refusal)) (by simp)

theorem plays_setFinalizers {finalizers : List String} :
    (setFinalizers inNamespace name finalizers).run.Plays transcript (.ok ()) ↔
      name.isEmpty = false ∧ ∃ cluster : ClusterDeclaration,
        Answered (clusterChange inNamespace name (finalizersPatch finalizers)) transcript
          (.ok cluster) := by
  refine plays_run_bind_ok.trans ?_
  constructor
  · rintro ⟨first, second, cluster, rfl, hplays, hend⟩
    obtain ⟨rfl, -⟩ := plays_pure.mp hend
    rw [List.append_nil]
    obtain ⟨hname, hanswered⟩ := (plays_named_send (r := .ok cluster) (by simp)).mp hplays
    exact ⟨hname, cluster, hanswered⟩
  · rintro ⟨hname, cluster, hanswered⟩
    have hplays := (plays_named_send (r := .ok cluster) (by simp)).mpr ⟨hname, hanswered⟩
    exact ⟨transcript, [], cluster, (List.append_nil _).symm, hplays, plays_pure.mpr ⟨rfl, rfl⟩⟩

end Api

end ClusterKeeper
